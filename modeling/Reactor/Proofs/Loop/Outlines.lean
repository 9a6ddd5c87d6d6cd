import Reactor.Proofs.Stream.Moves

/-!
# Outlines of loops

The outline of a loop leaves out how handles count their references, what is in their buffers, and
all that drivers keep for themselves. What is left is where each stream is in its life, who listens,
which requests are pending, which results are due, and the transport. Most small changes of a loop
do not show in its outline, and each operation that succeeds changes it in one way.
-/

namespace Reactor

variable {H : Host} {T : Transport H.Net H.Script}

/-- The stance of a stream that was closed. -/
def Stance.close (s : Stance) : Stance :=
  { s with state := .closing, reading := false, listening := false, marked := true }

/-- What matters of a loop to those who use it. -/
@[ext]
structure Outline (H : Host) where
  life : HandleId → Life
  listeners : List (Listener H.Closure)
  requests : Registry (Request H.Closure)
  deferred : List Completion
  net : H.Net

namespace Outline

/-- The closures registered for an event of a handle, in order. -/
def listenersOf (o : Outline H) (h : HandleId) (event : EventName) : List H.Closure :=
  o.listeners.filterMap fun x => if x.handle = h ∧ x.event = event then some x.closure else none

/-- One stream goes on in its life. -/
def turn (o : Outline H) (h : HandleId) (p : Life) : Outline H :=
  { o with life := fun k => if h = k then p else o.life k }

/-- The transport is asked. -/
def ask {α : Type} (o : Outline H) (primitive : H.Net → Reply H.Net α) : Outline H :=
  { o with net := (primitive o.net).net }

/-- A listener is registered. -/
def listen (o : Outline H) (h : HandleId) (event : EventName) (c : H.Closure) : Outline H :=
  { o with listeners := o.listeners ++ [⟨h, event, c⟩] }

/-- A request is entered on a stream in this stance, with the result that is due
already if it was refused. -/
def enlist (o : Outline H) (s : Stance) (r : Request H.Closure) (refusal : Option Completion) :
    Outline H :=
  { o.turn r.handle (.alive (s.pend r.kind)) with
    requests := o.requests.add r
    deferred := o.deferred ++ refusal.toList }

/-- A request on a stream in this stance is answered. -/
def settle (o : Outline H) (s : Stance) (req : RequestId) (r : Request H.Closure) : Outline H :=
  { o.turn r.handle (.alive (s.settle r.kind)) with requests := o.requests.remove req }

/-- The read session of a stream in this stance ends, if there is one. -/
def endReading (T : Transport H.Net H.Script) (o : Outline H) (h : HandleId) (s : Stance) :
    Outline H :=
  { o.turn h (.alive { s with reading := false }) with
    net := if s.reading then (T.readStop h o.net).net else o.net }

/-- A stream in this stance is closed, unless it was closed before. -/
def close (T : Transport H.Net H.Script) (o : Outline H) (h : HandleId) (s : Stance) : Outline H :=
  if s.marked then o
  else { o.turn h (.alive s.close) with net := (T.close h (o.endReading T h s).net).net }

/-- Of two turns of a stream the second shows. -/
theorem life_turn {o o' : Outline H} {h : HandleId} {p : Life} (life : o'.life = (o.turn h p).life)
    (q : Life) :
    (o'.turn h q).life = (o.turn h q).life := by
  funext k
  simp only [turn, life]
  split <;> rfl

/-- A request that is entered shows where its stream is now. -/
theorem enlist_turn {α : Type} (o : Outline H) (p : Life) (primitive : H.Net → Reply H.Net α)
    (s : Stance) (r : Request H.Closure) (refusal : Option Completion) :
    ((o.turn r.handle p).ask primitive).enlist s r refusal =
      (o.ask primitive).enlist s r refusal := by
  simp only [enlist, ask, turn, Outline.mk.injEq, and_true]
  funext k
  split <;> rfl

end Outline

namespace Loop

/-- The outline of a loop. -/
def outline (l : Loop H) : Outline H := ⟨l.life, l.listeners, l.requests, l.deferred, l.net⟩

variable {l l' : Loop H} {h : HandleId} {s : Stance}

/-! ## Small changes -/

/-- An outline is the same if each of its parts is. -/
theorem outline_eq (life : l'.life = l.life) (listeners : l'.listeners = l.listeners)
    (requests : l'.requests = l.requests) (deferred : l'.deferred = l.deferred)
    (net : l'.net = l.net) : l'.outline = l.outline := by
  rw [outline, life, listeners, requests, deferred, net, outline]

/-- Loops that agree have the same outline. -/
theorem outline_agrees (same : l'.Agrees l) : l'.outline = l.outline :=
  outline_eq (funext (life_agrees same)) same.listeners same.requests same.deferred same.net

/-- The sample of an outcome does not show in the outline. -/
@[simp] theorem outline_meterAsync (l : Loop H) (h : HandleId) (op : StreamOp) (ok : Bool) :
    (l.meterAsync h op ok).outline = l.outline := rfl

/-- Giving a reference back does not show in the outline. -/
@[simp] theorem outline_release (l : Loop H) (h : HandleId) : (l.release h).outline = l.outline :=
  outline_eq (life_release l h) (release_frame l h).2.2.2.1 (release_frame l h).2.2.1
    (release_frame l h).2.2.2.2.2.1 (release_frame l h).2.2.2.2.1

/-- Taking a reference does not show in the outline. -/
@[simp] theorem outline_retain (l : Loop H) (h : HandleId) :
    (l.modifyHandle h .retain).outline = l.outline :=
  outline_eq (life_retain l h) rfl rfl rfl rfl

/-- A buffer made on demand does not show in the outline. -/
@[simp] theorem outline_ensureBuffer (l : Loop H) (h : HandleId) :
    (l.ensureBuffer h).outline = l.outline :=
  outline_eq (life_ensureBuffer l h) rfl rfl rfl rfl

/-- Filling a buffer does not show in the outline. -/
@[simp] theorem outline_fillBuffer (l : Loop H) (h : HandleId) (b : ReadBuffer)
    (bytes : List UInt8) :
    (Machine.fillBuffer l h b bytes).outline = l.outline :=
  outline_eq (life_fillBuffer l h b bytes) rfl rfl rfl rfl

/-- Exposing a buffer does not show in the outline. -/
@[simp] theorem outline_expose (l : Loop H) (h : HandleId) (exposed : Bool) :
    (Machine.expose l h exposed).outline = l.outline :=
  outline_eq (life_expose l h exposed) rfl rfl rfl rfl

/-- A question to the transport shows as such. -/
@[simp] theorem outline_ask {α : Type} (l : Loop H) (primitive : H.Net → Reply H.Net α) :
    (l.ask primitive).2.outline = l.outline.ask primitive := rfl

/-- When one stream turns to another stance and the transport goes on, this is all
that the outline shows. -/
theorem Shows.outline (shows : l.Shows h s l') (listeners : l'.listeners = l.listeners)
    (requests : l'.requests = l.requests) (deferred : l'.deferred = l.deferred) :
    l'.outline = { l.outline.turn h (.alive s) with net := l'.net } := by
  rw [Loop.outline, funext shows, listeners, requests, deferred]
  rfl

/-- When one stream turns to another stance, this is all that the outline shows. -/
theorem Shows.outline_turn (shows : l.Shows h s l') (listeners : l'.listeners = l.listeners)
    (requests : l'.requests = l.requests) (deferred : l'.deferred = l.deferred)
    (net : l'.net = l.net) :
    l'.outline = l.outline.turn h (.alive s) := by
  rw [shows.outline listeners requests deferred, net]
  rfl

/-- Setting the state of a stream turns it to the stance with that state. -/
theorem outline_setState (alive : l.life h = .alive s) (state : StreamState) :
    (l.setState h state).outline = l.outline.turn h (.alive { s with state }) :=
  (shows_setState alive state).outline_turn rfl rfl rfl rfl

/-- A new request shows as such. -/
theorem outline_enlist {r : Request H.Closure} (alive : l.life r.handle = .alive s)
    (refusal : Option Completion) :
    (l.enlist r refusal).outline = l.outline.enlist s r refusal := by
  rw [outline, funext (shows_enlist alive refusal)]
  rfl

/-- A request that leaves the table shows as settled. -/
theorem outline_remove {req : RequestId} {r : Request H.Closure}
    (pending : l.requests.get? req = some r) (alive : l.life r.handle = .alive s) :
    ({ l with requests := l.requests.remove req } : Loop H).outline = l.outline.settle s req r := by
  rw [outline, funext (shows_remove pending alive)]
  rfl

/-- The end of a read session asks the transport to stop if the session was open. -/
theorem net_endReading {x : Handle H.Closure} (T : Transport H.Net H.Script)
    (found : l.handles.get? h = some x) (next : ReadState) :
    (l.endReading T h next).net = if x.isReading then (T.readStop h l.net).net else l.net := by
  unfold endReading
  simp only [found]
  split
  case isTrue => exact (release_frame _ _).2.2.2.2.1
  case isFalse => rfl

/-- The end of a read session shows as such. -/
theorem outline_endReading (T : Transport H.Net H.Script) {o : Outline H} (shows : l.outline = o)
    (alive : o.life h = .alive s) (next : ReadState) (stops : next ≠ .reading) :
    (l.endReading T h next).outline = o.endReading T h s := by
  subst shows
  obtain ⟨-, -, requests, listeners, deferred, -⟩ := endReading_frame T l h next
  rw [(shows_endReading T alive next stops).outline listeners requests deferred]
  obtain ⟨x, found, rfl⟩ := exists_of_life alive
  rw [net_endReading T found]
  rfl

/-- Closing a handle shows as such. -/
theorem outline_retire {held due : List HandleId} (T : Transport H.Net H.Script)
    (b : l.Balanced held due) (alive : l.life h = .alive s) (unmarked : s.marked = false)
    (onClose : H.Closure) :
    (l.retire T h onClose).outline = l.outline.close T h s := by
  obtain ⟨x, found, rfl⟩ := exists_of_life alive
  obtain ⟨-, -, requests, listeners, deferred, -⟩ := retire_frame T l h onClose
  rw [(shows_retire T b found onClose).outline listeners requests deferred]
  have net : (l.retire T h onClose).net = (T.close h (l.endReading T h .stopped).net).net := by
    simp [retire]
  rw [net, net_endReading T found, Outline.close, unmarked, if_neg Bool.false_ne_true]
  rfl

/-- Settling a shutdown changes at most the state of the stream, and this only if the
stream was shutting down. -/
theorem outline_settleShutdown (alive : l.life h = .alive s) (ok : Bool) :
    ∃ state, (Machine.settleShutdown l h ok).outline = l.outline.turn h (.alive { s with state }) ∧
      (s.state ≠ .shuttingDown → state = s.state) := by
  obtain ⟨state, cases, shows⟩ := moves_settleShutdown alive ok
  obtain ⟨-, -, requests, listeners, net, deferred, -⟩ := Machine.settleShutdown_frame l h ok
  exact ⟨state, shows.outline_turn listeners requests deferred net, fun other =>
    (cases.resolve_left fun shutting => other shutting.1).2⟩

/-- When a handle is taken out its stream is gone. -/
theorem outline_takeHandle {x : Handle H.Closure} (found : l.handles.get? h = some x) :
    (Machine.takeHandle l h x).outline = l.outline.turn h .gone := by
  rw [outline, funext (life_reclaim found)]
  rfl

/-! ## Operations

Each is issued on a stream in a stance in which it succeeds. -/

/-- An operation with this answer has one of the effects that have this answer. -/
theorem issues_of_fst {o : Operation H.Closure} {a : o.Answer} (answered : (l.issue T o).1 = a) :
    ∃ l', l.issue T o = (a, l') ∧ Issues T l o a l' :=
  ⟨_, Prod.ext answered rfl, answered ▸ issues_issue T l o⟩

/-- A handle is created. -/
theorem issue_newHandle {held due : List HandleId} (T : Transport H.Net H.Script)
    (b : l.Balanced held due) (kind : HandleKind) :
    ∃ l', l.issue T (.newHandle kind) = (l.handles.next, l') ∧ l.life l.handles.next = .unborn ∧
      l'.outline = (l.outline.turn l.handles.next (.alive {})).ask
        (T.init l.handles.next kind) := by
  refine ⟨_, rfl, l.life_next, ?_⟩
  have added := (shows_newHandle b kind).outline_turn rfl rfl rfl rfl
  exact congrArg (Outline.ask · (T.init l.handles.next kind)) added

/-- A listener is registered for a handle that is there. -/
theorem issue_on (alive : l.life h = .alive s) (event : EventName) (c : H.Closure) :
    ∃ l', l.issue T (.on h event c) = (.ok (), l') ∧ l'.outline = l.outline.listen h event c := by
  obtain ⟨x, found, rfl⟩ := exists_of_life alive
  refine ⟨l.addListener h event c, ?_, rfl⟩
  simp [issue, on, handle?, found]
  rfl

/-- A connection that waits on a server is moved to an idle stream. -/
theorem issue_accept {server client : HandleId} {s c : Stance}
    (server_alive : l.life server = .alive s) (listening : s.state = .listening)
    (client_alive : l.life client = .alive c) (idle : c.state = .idle)
    (asked : (T.accept server client l.net).answer = .ok ()) :
    ∃ l', l.issue T (.accept server client) = (.ok (), l') ∧
      l'.outline = (l.outline.ask (T.accept server client)).turn client
        (.alive { c with state := .connected }) := by
  obtain ⟨x, server_found, rfl⟩ := exists_of_life server_alive
  obtain ⟨y, client_found, rfl⟩ := exists_of_life client_alive
  have answered : (l.accept T server client).1 = .ok () := by
    have listening : x.state = .listening := listening
    have idle : y.state = .idle := idle
    simp [accept, tracked_fst, acceptUntracked, handle?, ask, server_found, client_found, listening,
      idle, asked]
  obtain ⟨l', issued, l₀, l₁, before, effect, after⟩ :=
    issues_of_fst (o := .accept server client) answered
  refine ⟨l', issued, ?_⟩
  cases effect with
  | refused failed => cases failed
  | accept =>
    have alive : (l₀.ask (T.accept server client)).2.life client = .alive (l.stance client y) := by
      rw [life_ask, life_agrees before]
      exact client_alive
    rw [outline_agrees after, outline_setState alive, outline_ask, outline_agrees before]

/-- A read session is opened on a stream that can be read and does not read. -/
theorem issue_readStart (alive : l.life h = .alive s) (readable : s.state.canRead = true)
    (idle : s.reading = false) (unmarked : s.marked = false)
    (asked : (T.readStart h l.net).answer = .ok ()) :
    ∃ l', l.issue T (.readStart h) = (.ok (), l') ∧
      l'.outline = (l.outline.ask (T.readStart h)).turn h (.alive { s with reading := true }) := by
  obtain ⟨x, found, rfl⟩ := exists_of_life alive
  have answered : (l.readStart T h).1 = .ok () := by
    have readable : x.state.canRead = true := readable
    have idle : x.isReading = false := idle
    have unmarked : x.closing = false := unmarked
    simp [readStart, tracked_fst, readStartUntracked, handle?, ensureBuffer, get?_modifyHandle,
      acquire, ask, found, readable, idle, unmarked, asked]
  obtain ⟨l', issued, l₀, l₁, before, effect, after⟩ := issues_of_fst (o := .readStart h) answered
  refine ⟨l', issued, ?_⟩
  cases effect with
  | refused failed => cases failed
  | readStart there =>
    have alive : (((l₀.ensureBuffer h).modifyHandle h .retain).ask (T.readStart h)).2.life h =
        .alive (l.stance h x) := by
      rw [life_ask, life_retain, life_ensureBuffer, life_agrees before]
      exact alive
    have reads :=
      (shows_modifyHandle (f := ({ · with read := .reading })) ({ · with reading := true })
        (fun _ => rfl) alive).outline_turn rfl rfl rfl rfl
    rw [outline_agrees after, reads, outline_ask, outline_retain, outline_ensureBuffer,
      outline_agrees before]

/-- Bytes are written to a stream that is connected. -/
theorem issue_write (alive : l.life h = .alive s) (connected : s.state = .connected)
    (unmarked : s.marked = false) (data : List UInt8) (callback : Callback H.Closure) :
    ∃ l', l.issue T (.write h data callback) = (.ok l.requests.next, l') ∧
      l'.outline = (l.outline.ask (T.write l.requests.next h data)).enlist s
        (.write h data callback)
        (refusalOf (.write l.requests.next) (T.write l.requests.next h data l.net).answer) := by
  obtain ⟨x, found, rfl⟩ := exists_of_life alive
  have answered : (l.write T h data callback).1 = .ok l.requests.next := by
    have connected : x.state = .connected := connected
    have unmarked : x.closing = false := unmarked
    simp [write, tracked_fst, writeUntracked, handle?, acquire, found, connected, unmarked]
  obtain ⟨l', issued, l₀, l₁, before, effect, after⟩ :=
    issues_of_fst (o := .write h data callback) answered
  refine ⟨l', issued, ?_⟩
  generalize number : l.requests.next = req at effect
  cases effect with
  | refused failed => cases failed
  | write there =>
    obtain rfl := Option.some.inj (found.symm.trans ((before.handles h).symm.trans there))
    have alive : ((l₀.modifyHandle h .retain).ask (T.write l₀.requests.next h data)).2.life h =
        .alive (l.stance h x) := by
      rw [life_ask, life_retain, life_agrees before]
      exact alive
    rw [outline_agrees after, outline_enlist (r := .write h data callback) alive, outline_ask,
      outline_retain, outline_agrees before, before.net]

/-- The writable side of a stream that is connected is closed. -/
theorem issue_shutdown (alive : l.life h = .alive s) (connected : s.state = .connected)
    (unmarked : s.marked = false) (callback : Callback H.Closure) :
    ∃ l', l.issue T (.shutdown h callback) = (.ok l.requests.next, l') ∧
      l'.outline = (l.outline.ask (T.shutdown l.requests.next h)).enlist
        { s with state := .shuttingDown }
        (.shutdown h callback)
        (refusalOf (.shutdown l.requests.next) (T.shutdown l.requests.next h l.net).answer) := by
  obtain ⟨x, found, rfl⟩ := exists_of_life alive
  have answered : (l.shutdown T h callback).1 = .ok l.requests.next := by
    have connected : x.state = .connected := connected
    have unmarked : x.closing = false := unmarked
    simp [shutdown, tracked_fst, shutdownUntracked, handle?, acquire, found, connected, unmarked]
  obtain ⟨l', issued, l₀, l₁, before, effect, after⟩ :=
    issues_of_fst (o := .shutdown h callback) answered
  refine ⟨l', issued, ?_⟩
  generalize number : l.requests.next = req at effect
  cases effect with
  | refused failed => cases failed
  | shutdown there =>
    have alive : (l₀.modifyHandle h .retain).life h = .alive (l.stance h x) := by
      rw [life_retain, life_agrees before]
      exact alive
    have shutting :
        (((l₀.modifyHandle h .retain).setState h .shuttingDown).ask
          (T.shutdown l₀.requests.next h)).2.life h =
        .alive { l.stance h x with state := .shuttingDown } :=
          (shows_setState alive .shuttingDown).here
    rw [outline_agrees after, outline_enlist (r := .shutdown h callback) shutting, outline_ask,
      outline_setState alive, outline_retain, outline_agrees before, before.net]
    exact Outline.enlist_turn l.outline _ _ _ _ _

/-- A stream that was not closed before is closed. -/
theorem issue_close {held due : List HandleId} (b : l.Balanced held due)
    (alive : l.life h = .alive s) (unmarked : s.marked = false) (onClose : H.Closure) :
    ∃ l', l.issue T (.close h onClose) = (.ok (), l') ∧ l'.outline = l.outline.close T h s := by
  obtain ⟨x, found, rfl⟩ := exists_of_life alive
  have answered : (l.close T h onClose).1 = .ok () := by
    have unmarked : x.closing = false := unmarked
    simp [close, tracked_fst, closeUntracked, handle?, found, unmarked]
  obtain ⟨l', issued, l₀, l₁, before, effect, after⟩ :=
    issues_of_fst (o := .close h onClose) answered
  refine ⟨l', issued, ?_⟩
  cases effect with
  | refused failed => cases failed
  | close there =>
    have alive : l₀.life h = .alive (l.stance h x) := (life_agrees before h).trans alive
    rw [outline_agrees after, outline_retire T (b.agrees before) alive unmarked,
      outline_agrees before]

/-- An attempt to close a stream closes it, if it was not closed before. -/
theorem issue_closeAnyway {held due : List HandleId} (b : l.Balanced held due)
    (alive : l.life h = .alive s) (onClose : H.Closure) :
    ∃ a l', l.issue T (.close h onClose) = (a, l') ∧ l'.outline = l.outline.close T h s := by
  cases marked : s.marked with
  | false =>
    obtain ⟨l', issued, outline⟩ := issue_close (T := T) b alive marked onClose
    exact ⟨_, l', issued, outline⟩
  | true =>
    obtain ⟨l₀, l₁, before, effect, after⟩ := issues_issue T l (.close h onClose)
    refine ⟨(l.issue T (.close h onClose)).1, (l.issue T (.close h onClose)).2, rfl, ?_⟩
    rw [outline_agrees after, Outline.close, if_pos marked]
    generalize (l.issue T (.close h onClose)).1 = a at effect
    cases effect with
    | refused => exact outline_agrees before
    | close found unmarked =>
      obtain ⟨x, there, rfl⟩ := exists_of_life alive
      obtain rfl := Option.some.inj (there.symm.trans ((before.handles h).symm.trans found))
      cases unmarked.symm.trans marked

end Loop

end Reactor
