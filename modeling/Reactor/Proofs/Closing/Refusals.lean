import Reactor.Proofs.Closing.Aging

/-!
# What a closed handle refuses

From the moment a handle is marked no operation puts it to use any more, and once it was
reclaimed every operation on it fails for want of the handle. Both depend on the loop alone,
not on how it came about.
-/

namespace Reactor

variable {H : Host} {T : Transport H.Net H.Script}

/-- The operations that put a handle to use: all but those that watch it, stop its
reading, or fill its buffer. -/
def Operation.Uses {κ : Type} : Operation κ → HandleId → Prop
  | .accept server client, h => server = h ∨ client = h
  | .adopt k, h | .bind k _, h | .readStart k, h | .write k _ _, h | .shutdown k _, h
    | .connect k _, h | .close k _, h => k = h
  | _, _ => False

/-- A close that succeeded has put its handle to use. -/
theorem Operation.uses_of_closed? {κ : Type} {o : Operation κ} {a : o.Answer} {h : HandleId} {c : κ}
    (closed : o.closed? a = some (h, c)) : o.Uses h := by
  cases o <;> try cases closed
  case close k c' => cases a <;> cases closed; rfl

/-- The handle that an operation looks up first, if it is about one. -/
def Operation.target? {κ : Type} : Operation κ → Option HandleId
  | .newHandle _ | .keptWrite .. | .stop | .forgetWake => none
  | .on h _ _ | .accept h _ | .adopt h | .bind h _ | .readStart h | .readStop h | .bufferWrite h _ _
    | .write h _ _ | .shutdown h _ | .connect h _ | .close h _ => some h

namespace Loop

variable {l l' : Loop H} {h : HandleId} {held due : List HandleId}

/-- A handle that was created is closing or gone in a loop exactly if it is in each
loop that agrees with it. -/
theorem Retired.agrees (retired : l.Retired h) (same : l'.Agrees l) : l'.Retired h :=
  ⟨by rw [same.next]; exact retired.1, fun x hx => retired.2 x (by rwa [← same.handles])⟩

/-- A handle that can be used is not the one that is closing or gone. -/
theorem Retired.ne (retired : l.Retired h) {k : HandleId} {x : Handle H.Closure}
    (found : l.handles.get? k = some x) (unmarked : x.closing = false) : k ≠ h := by
  rintro rfl
  have marked := retired.2 x found
  rw [unmarked] at marked
  cases marked

/-- No operation puts a handle to use that is closing or gone. -/
theorem Retired.refuses (retired : l.Retired h) (b : l.Balanced held due) {o : Operation H.Closure}
    (uses : o.Uses h) : ∃ e, o.failure? (l.issue T o).1 = some e := by
  obtain ⟨l₀, l₁, same, effect, -⟩ := issues_issue T l o
  have retired := retired.agrees same
  have b := b.agrees same
  generalize (l.issue T o).1 = a at effect
  cases effect with
  | refused failed => exact ⟨_, failed⟩
  | refuseAccept | refuseAdopt | refuseBind | markedReadStart | refuseReadStart | refuseConnect =>
    exact ⟨_, rfl⟩
  | newHandle | on | readStop | noBuffer | bufferWrite | noKept | keptWrite | stop | forgetWake =>
    exact uses.elim
  | accept server_found listening client_found idle =>
    obtain rfl | rfl := uses
    · exact (retired.ne server_found (b.unmarked server_found (by simp [listening])) rfl).elim
    · exact (retired.ne client_found (b.unmarked client_found (by simp [idle])) rfl).elim
  | adopt found idle | bind found idle =>
    exact (retired.ne found (b.unmarked found (by simp [idle])) uses).elim
  | readStart found _ _ unmarked | write found _ unmarked | shutdown found _ unmarked
    | connect found _ unmarked | close found unmarked => exact (retired.ne found unmarked uses).elim

/-- A handle that is closing or gone cannot be made to listen. -/
theorem Retired.refuses_listen (retired : l.Retired h) (backlog : Option Nat) (c : H.Closure) :
    ∃ e, (l.beginListen T h backlog c).1 = .error e := by
  rcases begun : l.beginListen T h backlog c with ⟨_ | ⟨⟩, l'⟩
  case error e => exact ⟨e, rfl⟩
  case ok =>
    obtain ⟨x, found, -, unmarked, -⟩ := effect_of_beginListen begun
    exact (retired.ne found unmarked rfl).elim

/-! ## A handle that is gone -/

/-- An operation on a handle that is gone finds no handle. -/
theorem handle?_of_gone (gone : l.handles.get? h = none) : l.handle? h = .error (.badHandle h) := by
  rw [handle?, gone]

/-- Every operation that looks up a handle that is gone fails for want of it. -/
theorem badHandle_issue (gone : l.handles.get? h = none) {o : Operation H.Closure}
    (target : o.target? = some h) :
    o.failure? (l.issue T o).1 = some (.badHandle h) := by
  have missing := handle?_of_gone gone
  have metered (op : StreamOp) : (l.meter h op .dispatched).handle? h = .error (.badHandle h) :=
    missing
  cases o <;> cases target
  case on => simp [issue, on, missing, Operation.failure?, errorOf]
  case accept =>
    simp [issue, accept, tracked_fst, acceptUntracked, metered, Operation.failure?, errorOf]
  case adopt => simp [issue, adopt, missing, Operation.failure?, errorOf]
  case bind => simp [issue, bind, missing, Operation.failure?, errorOf]
  case readStart =>
    simp [issue, readStart, tracked_fst, readStartUntracked, metered, Operation.failure?, errorOf]
  case readStop =>
    simp [issue, readStop, tracked_fst, readStopUntracked, metered, Operation.failure?, errorOf]
  case bufferWrite => simp [issue, bufferWrite, missing, Operation.failure?, errorOf]
  case write =>
    simp [issue, write, tracked_fst, writeUntracked, metered, Operation.failure?, errorOf]
  case shutdown =>
    simp [issue, shutdown, tracked_fst, shutdownUntracked, metered, Operation.failure?, errorOf]
  case connect =>
    simp [issue, connect, tracked_fst, connectUntracked, metered, Operation.failure?, errorOf]
  case close =>
    simp [issue, close, tracked_fst, closeUntracked, metered, Operation.failure?, errorOf]

/-- A server that listens cannot accept into a handle that is gone. -/
theorem badHandle_accept (gone : l.handles.get? h = none) {server : HandleId} {s : Handle H.Closure}
    (found : l.handles.get? server = some s) (listening : s.state = .listening) :
    (l.accept T server h).1 = .error (.badHandle h) := by
  have there : (l.meter server .accept .dispatched).handle? server = .ok s := by
    rw [handle?]
    simp [found]
  have missing : (l.meter server .accept .dispatched).handle? h = .error (.badHandle h) :=
    handle?_of_gone gone
  simp [accept, tracked_fst, acceptUntracked, there, listening, missing]

/-- Listening on a handle that is gone fails for want of the handle. -/
theorem badHandle_beginListen (gone : l.handles.get? h = none) (backlog : Option Nat)
    (c : H.Closure) :
    (l.beginListen T h backlog c).1 = .error (.badHandle h) := by
  simp [beginListen, handle?_of_gone gone]

/-- Every question about a handle that is gone finds nothing. -/
theorem answer_of_gone (gone : l.handles.get? h = none) :
    l.answer T (.state h) = .error (.badHandle h) ∧ l.answer T (.kind h) = .error (.badHandle h) ∧
      l.answer T (.readBuffer h) = .error (.badHandle h) ∧
      l.answer T (.localAddress h) = .error (.badHandle h) ∧
      l.answer T (.writeQueueSize h) = .error (.badHandle h) ∧ l.answer T (.isReading h) = false ∧
      l.answer T (.refCount h) = none := by
  simp only [answer, handle?_of_gone gone, gone]
  exact ⟨rfl, rfl, rfl, rfl, rfl, rfl, rfl⟩

end Loop

end Reactor
