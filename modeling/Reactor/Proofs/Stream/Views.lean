import Reactor.Proofs.Closing.Aging
import Reactor.Proofs.Stream.Life

/-!
# The streams of a loop

A loop shows where each of its streams is in its life: the table of handles says who is there, the
handle what its state is, and the table of requests what is pending on it. For each small change of
a loop one lemma says what it does to the lives.
-/

namespace Reactor

/-- The kinds of requests. -/
inductive RequestKind where
  | write
  | shutdown
  | connect
  deriving DecidableEq, Repr

/-- The kind of a request. -/
def Request.kind {κ : Type} : Request κ → RequestKind
  | .write .. => .write
  | .shutdown .. => .shutdown
  | .connect _ => .connect

/-- What a handle alone shows of its stream. -/
def Handle.stance {κ : Type} (x : Handle κ) : Stance where
  state := x.state
  reading := x.isReading
  listening := x.listenRef
  marked := x.closing

namespace Stance

/-- One more request of a kind is pending. -/
def pend (s : Stance) : RequestKind → Stance
  | .write => { s with writes := s.writes + 1 }
  | .shutdown => { s with shutdowns := s.shutdowns + 1 }
  | .connect => { s with connects := s.connects + 1 }

/-- One request of a kind is pending no more. -/
def settle (s : Stance) : RequestKind → Stance
  | .write => { s with writes := s.writes - 1 }
  | .shutdown => { s with shutdowns := s.shutdowns - 1 }
  | .connect => { s with connects := s.connects - 1 }

end Stance

namespace Loop

variable {H : Host} {T : Transport H.Net H.Script} {l l' l'' : Loop H} {h : HandleId}
  {x : Handle H.Closure}

/-- The number of requests of a kind that are pending on a handle. -/
def pendingOf (l : Loop H) (kind : RequestKind) (h : HandleId) : Nat :=
  l.requests.values.countP fun r => r.handle = h && r.kind = kind

/-- What a loop shows of the stream of a handle that is there. -/
def stance (l : Loop H) (h : HandleId) (x : Handle H.Closure) : Stance :=
  { x.stance with
    writes := l.pendingOf .write h
    shutdowns := l.pendingOf .shutdown h
    connects := l.pendingOf .connect h }

/-- Where the stream of a handle is in its life. -/
def life (l : Loop H) (h : HandleId) : Life :=
  match l.handles.get? h with
  | some x => .alive (l.stance h x)
  | none => if h < l.handles.next then .gone else .unborn

/-- The stream of a handle that is there is alive in the stance that the loop shows. -/
theorem life_of_some (found : l.handles.get? h = some x) : l.life h = .alive (l.stance h x) := by
  rw [life, found]

/-- A stream that is alive has its handle in the table. -/
theorem exists_of_life {s : Stance} (alive : l.life h = .alive s) :
    ∃ x, l.handles.get? h = some x ∧ s = l.stance h x := by
  unfold life at alive
  split at alive
  case h_1 x found => exact ⟨x, found, (Life.alive.inj alive).symm⟩
  case h_2 => split at alive <;> cases alive

/-- A stream that is still to be created is not there yet. -/
theorem life_next (l : Loop H) : l.life l.handles.next = .unborn := by
  rw [life, Registry.get?_next, if_neg (Nat.lt_irrefl _)]

/-! ## Requests -/

/-- The pending requests of a kind depend on the table of requests alone. -/
theorem pendingOf_congr (requests : l'.requests = l.requests) (kind : RequestKind) (h : HandleId) :
    l'.pendingOf kind h = l.pendingOf kind h := by
  rw [pendingOf, requests, pendingOf]

/-- A new request is one more of its kind for its handle. -/
theorem pendingOf_add {r : Request H.Closure} (requests : l'.requests = l.requests.add r)
    (kind : RequestKind) (h : HandleId) :
    l'.pendingOf kind h = l.pendingOf kind h + if r.handle = h ∧ r.kind = kind then 1 else 0 := by
  rw [pendingOf, requests, Registry.countP_values_add, pendingOf]
  simp

/-- A request that leaves the table is one less of its kind for its handle. -/
theorem pendingOf_remove {req : RequestId} {r : Request H.Closure}
    (pending : l.requests.get? req = some r) (requests : l'.requests = l.requests.remove req)
    (kind : RequestKind) (h : HandleId) :
    l.pendingOf kind h = l'.pendingOf kind h + if r.handle = h ∧ r.kind = kind then 1 else 0 := by
  rw [pendingOf, Registry.countP_values_remove pending, ← requests, pendingOf]
  simp

/-- Requests of a kind are pending when one is in the table. -/
theorem pendingOf_pos_iff (l : Loop H) (kind : RequestKind) (h : HandleId) :
    0 < l.pendingOf kind h ↔
      ∃ req r, l.requests.get? req = some r ∧ r.handle = h ∧ r.kind = kind := by
  rw [pendingOf, List.countP_pos_iff]
  constructor
  · rintro ⟨r, hr, same⟩
    obtain ⟨req, pending⟩ := (l.requests.mem_values_iff r).1 hr
    exact ⟨req, r, pending, by simpa using same⟩
  · rintro ⟨req, r, pending, same⟩
    exact ⟨r, (l.requests.mem_values_iff r).2 ⟨req, pending⟩, by simpa using same⟩

/-- The stance of a stream depends on its handle and on the table of requests. -/
theorem stance_congr (requests : l'.requests = l.requests) (h : HandleId) (x : Handle H.Closure) :
    l'.stance h x = l.stance h x := by
  simp only [stance, pendingOf_congr requests]

/-- A request that is entered is pending on its handle. -/
theorem stance_add {r : Request H.Closure} (requests : l'.requests = l.requests.add r)
    (h : HandleId) (x : Handle H.Closure) :
    l'.stance h x = if r.handle = h then (l.stance h x).pend r.kind else l.stance h x := by
  simp only [stance, pendingOf_add requests]
  by_cases same : r.handle = h
  · cases r <;> simp [same, Request.kind, Stance.pend]
  · simp [same]

/-- A request that leaves is pending no more. -/
theorem stance_remove {req : RequestId} {r : Request H.Closure}
    (pending : l.requests.get? req = some r) (requests : l'.requests = l.requests.remove req)
    (h : HandleId) (x : Handle H.Closure) :
    l'.stance h x = if r.handle = h then (l.stance h x).settle r.kind else l.stance h x := by
  simp only [stance, pendingOf_remove pending requests]
  by_cases same : r.handle = h
  · cases r <;> simp [same, Request.kind, Stance.settle]
  · simp [same]

/-! ## Handles -/

/-- The life of a stream depends on no more than what its handle shows, on the requests, and on the
numbers given out. -/
theorem life_congr (next : l'.handles.next = l.handles.next)
    (handle : (l'.handles.get? h).map Handle.stance = (l.handles.get? h).map Handle.stance)
    (requests : l'.requests = l.requests) : l'.life h = l.life h := by
  unfold life
  cases found : l.handles.get? h with
  | none =>
    rw [found, Option.map_none, Option.map_eq_none_iff] at handle
    rw [handle, next]
  | some x =>
    rw [found, Option.map_some, Option.map_eq_some_iff] at handle
    obtain ⟨y, there, same⟩ := handle
    rw [there]
    simp only [stance, same, pendingOf_congr requests]

/-- Loops that agree show each stream alike. -/
theorem life_agrees (same : l'.Agrees l) (h : HandleId) : l'.life h = l.life h :=
  life_congr same.next (by rw [same.handles]) same.requests

/-- A question to the transport moves no stream. -/
@[simp] theorem life_ask {α : Type} (l : Loop H) (primitive : H.Net → Reply H.Net α) :
    (l.ask primitive).2.life = l.life := rfl

/-- A sample moves no stream. -/
@[simp] theorem life_meter (l : Loop H) (h : HandleId) (op : StreamOp) (p : Progress) :
    (l.meter h op p).life = l.life := rfl

/-- The sample of an outcome moves no stream. -/
@[simp] theorem life_meterAsync (l : Loop H) (h : HandleId) (op : StreamOp) (ok : Bool) :
    (l.meterAsync h op ok).life = l.life := rfl

/-- A new listener moves no stream. -/
@[simp] theorem life_addListener (l : Loop H) (h : HandleId) (event : EventName) (c : H.Closure) :
    (l.addListener h event c).life = l.life := rfl

/-- A change that the handle does not show. -/
theorem life_modifyHandle_of_stance {f : Handle H.Closure → Handle H.Closure}
    (same : ∀ x, (f x).stance = x.stance) (l : Loop H) (h : HandleId) :
    (l.modifyHandle h f).life = l.life := by
  funext k
  refine life_congr rfl ?_ rfl
  rw [get?_modifyHandle]
  split
  case isTrue => rw [Option.map_map]; exact congrArg (Option.map · _) (funext same)
  case isFalse => rfl

/-- Taking a reference moves no stream. -/
@[simp] theorem life_retain (l : Loop H) (h : HandleId) :
    (l.modifyHandle h .retain).life = l.life :=
  life_modifyHandle_of_stance (f := .retain) (fun _ => rfl) l h

/-- A buffer made on demand moves no stream. -/
@[simp] theorem life_ensureBuffer (l : Loop H) (h : HandleId) : (l.ensureBuffer h).life = l.life :=
  life_modifyHandle_of_stance
    (f := fun x => { x with buffer := some (x.buffer.getD (.ofSize l.options.readBufferSize)) })
    (fun _ => rfl) l h

/-- Filling a buffer moves no stream. -/
@[simp] theorem life_fillBuffer (l : Loop H) (h : HandleId) (b : ReadBuffer) (bytes : List UInt8) :
    (Machine.fillBuffer l h b bytes).life = l.life :=
  life_modifyHandle_of_stance (f := ({ · with buffer := some (b.overwrite 0 bytes) }))
    (fun _ => rfl) l h

/-- Changing a buffer moves no stream. -/
@[simp] theorem life_modifyBuffer (l : Loop H) (h : HandleId) (f : ReadBuffer → ReadBuffer) :
    (l.modifyBuffer h f).life = l.life :=
  life_modifyHandle_of_stance (f := fun x => { x with buffer := x.buffer.map f }) (fun _ => rfl) l h

/-- Exposing a buffer moves no stream. -/
@[simp] theorem life_expose (l : Loop H) (h : HandleId) (exposed : Bool) :
    (Machine.expose l h exposed).life = l.life :=
  life_modifyBuffer l h _

/-- Giving a reference back moves no stream. -/
@[simp] theorem life_release (l : Loop H) (h : HandleId) : (l.release h).life = l.life := by
  have fewer :=
    life_modifyHandle_of_stance (f := fun x => { x with refs := x.refs - 1 }) (fun _ => rfl) l h
  unfold release
  split
  case h_1 => rfl
  case h_2 =>
    split
    case isTrue => rfl
    case isFalse =>
      simp only
      split
      case isTrue => exact fewer
      case isFalse => exact fewer

/-! ## One stream in another stance -/

/-- The second loop shows the stream of a handle in a stance, and every other
stream as the first does. -/
def Shows (l : Loop H) (h : HandleId) (s : Stance) (l' : Loop H) : Prop :=
  ∀ k, l'.life k = if h = k then .alive s else l.life k

namespace Shows

variable {s s' : Stance}

/-- The stream that is shown in a stance is in it. -/
theorem here (shows : l.Shows h s l') : l'.life h = .alive s := (shows h).trans (if_pos rfl)

/-- The other streams are where they were. -/
theorem elsewhere (shows : l.Shows h s l') {k : HandleId} (other : h ≠ k) : l'.life k = l.life k :=
  (shows k).trans (if_neg other)

/-- Of two changes of a stream the second shows. -/
theorem trans (first : l.Shows h s l') (second : l'.Shows h s' l'') : l.Shows h s' l'' := by
  intro k
  rw [second, first]
  split <;> rfl

/-- What changes no life does not matter before. -/
theorem after (shows : l'.Shows h s l'') (same : l'.life = l.life) : l.Shows h s l'' := by
  intro k
  rw [shows, same]

/-- What changes no life does not matter afterwards. -/
theorem before (shows : l.Shows h s l') (same : l''.life = l'.life) : l.Shows h s l'' := by
  intro k
  rw [same, shows]

end Shows

/-- A change of a handle shows as a change of the stance. -/
theorem shows_modifyHandle {s : Stance} {f : Handle H.Closure → Handle H.Closure}
    (g : Stance → Stance) (changes : ∀ x, l.stance h (f x) = g (l.stance h x))
    (before : l.life h = .alive s) :
    l.Shows h (g s) (l.modifyHandle h f) := by
  obtain ⟨x, found, rfl⟩ := exists_of_life before
  have modified := get?_modifyHandle_of_some found f
  intro k
  split
  case isTrue same =>
    subst same
    rw [← changes]
    exact life_of_some ((modified h).trans (if_pos rfl))
  case isFalse other => exact life_congr rfl (by rw [modified, if_neg other]) rfl

/-- Setting the state of a stream shows it in the stance with that state. -/
theorem shows_setState {s : Stance} (before : l.life h = .alive s) (state : StreamState) :
    l.Shows h { s with state } (l.setState h state) :=
  shows_modifyHandle ({ · with state }) (fun _ => rfl) before

/-- The read session of a handle is over, if there was one. -/
theorem shows_endReading {s : Stance} (T : Transport H.Net H.Script) (before : l.life h = .alive s)
    (next : ReadState) (stops : next ≠ .reading) :
    l.Shows h { s with reading := false } (l.endReading T h next) := by
  have stopped (x : Handle H.Closure) :
      ({ x with read := next } : Handle H.Closure).isReading = false := by
    simpa [Handle.isReading] using stops
  have modified : l.Shows h { s with reading := false }
      (l.modifyHandle h ({ · with read := next })) :=
    shows_modifyHandle ({ · with reading := false })
      (fun x => by simp only [stance, Handle.stance, stopped]) before
  obtain ⟨x, found, rfl⟩ := exists_of_life before
  unfold endReading
  simp only [found]
  split
  case isTrue => exact modified.before (life_release _ _)
  case isFalse => exact modified

/-- A handle that was closed shows it. -/
theorem shows_retire {held due : List HandleId} (T : Transport H.Net H.Script)
    (b : l.Balanced held due) (found : l.handles.get? h = some x) (onClose : H.Closure) :
    l.Shows h
      { l.stance h x with
        state := .closing, reading := false, listening := false, marked := true }
      (l.retire T h onClose) := by
  have handles := b.get?_retire T onClose found
  obtain ⟨-, next, requests, -⟩ := retire_frame T l h onClose
  intro k
  split
  case isTrue same =>
    subst same
    rw [life_of_some ((handles h).trans (if_pos rfl)), stance_congr requests]
    rfl
  case isFalse other => exact life_congr next (by rw [handles, if_neg other]) requests

/-- A request is entered, and is pending on its stream. -/
theorem shows_enlist {s : Stance} {r : Request H.Closure} (before : l.life r.handle = .alive s)
    (refusal : Option Completion) : l.Shows r.handle (s.pend r.kind) (l.enlist r refusal) := by
  have pends (h : HandleId) (x : Handle H.Closure) : (l.enlist r refusal).stance h x = _ :=
    stance_add rfl h x
  intro k
  split
  case isTrue same =>
    subst same
    obtain ⟨x, found, rfl⟩ := exists_of_life before
    rw [life_of_some (l := l.enlist r refusal) found, pends, if_pos rfl]
  case isFalse other =>
    unfold life
    simp only [pends, if_neg other]
    rfl

/-- A request leaves the table, and is pending no more. -/
theorem shows_remove {s : Stance} {req : RequestId} {r : Request H.Closure}
    (pending : l.requests.get? req = some r) (before : l.life r.handle = .alive s) :
    l.Shows r.handle (s.settle r.kind) { l with requests := l.requests.remove req } := by
  have settles (h : HandleId) (x : Handle H.Closure) :
      ({ l with requests := l.requests.remove req } : Loop H).stance h x = _ :=
        stance_remove pending rfl h x
  intro k
  split
  case isTrue same =>
    subst same
    obtain ⟨x, found, rfl⟩ := exists_of_life before
    rw [life_of_some (l := { l with requests := l.requests.remove req }) found, settles, if_pos rfl]
  case isFalse other =>
    unfold life
    simp only [settles, if_neg other]

/-! ## Streams that come and go -/

/-- A new handle is alive, and no other life changes. -/
theorem shows_newHandle {held due : List HandleId} (b : l.Balanced held due) (kind : HandleKind) :
    l.Shows l.handles.next {} { l with handles := l.handles.add { kind } } := by
  intro k
  unfold life
  simp only [Registry.get?_add, Registry.next_add]
  by_cases new : l.handles.next = k
  · subst new
    have none (of : RequestKind) :
        ({ l with handles := l.handles.add { kind } } : Loop H).pendingOf of l.handles.next =
          0 := by
      refine (pendingOf_congr rfl of _).trans (Nat.eq_zero_of_not_pos fun pos => ?_)
      obtain ⟨req, r, pending, same, -⟩ := (l.pendingOf_pos_iff of _).1 pos
      have there := b.requested pending
      rw [same, Registry.get?_next] at there
      cases there
    simp only [if_pos, stance, none]
    rfl
  · have known : k < l.handles.next + 1 ↔ k < l.handles.next :=
      ⟨fun less => Nat.lt_of_le_of_ne (Nat.le_of_lt_succ less) (Ne.symm new), Nat.lt_succ_of_lt⟩
    simp only [if_neg new, if_neg (Ne.symm new), known]
    rfl

/-- A handle that leaves the table is gone, and no other life changes. -/
theorem life_reclaim (found : l.handles.get? h = some x) (k : HandleId) :
    (Machine.takeHandle l h x).life k = if h = k then .gone else l.life k := by
  have known := Registry.lt_next_of_get? found
  unfold life
  simp only [Machine.takeHandle_frame, Registry.get?_remove, Registry.next_remove]
  by_cases same : h = k
  · subst same
    simp only [if_pos, known]
  · simp only [if_neg same]
    rfl

end Loop

end Reactor
