import Reactor.Proofs.Loop.Effects
import Reactor.Proofs.References

/-!
# How handles age

A handle is marked once, by the call that closes it, and leaves the table once, when it is
reclaimed. Whatever else happens to a loop, every handle stays there, keeps its last callback, and
once it is marked stays marked and gains neither a reference nor a request.
-/

namespace Reactor

variable {H : Host} {T : Transport H.Net H.Script}

/-- What a close that succeeded was given: the handle and its last callback. -/
def Operation.closed? {κ : Type} : (o : Operation κ) → o.Answer → Option (HandleId × κ)
  | .close h c, a => (Except.toOption a).map fun _ => (h, c)
  | _, _ => none

/-- An operation that was refused has closed nothing. -/
theorem Operation.closed?_of_failure? {κ : Type} {o : Operation κ} {a : o.Answer} {e : LoopError}
    (failed : o.failure? a = some e) : o.closed? a = none := by
  cases o <;> cases a <;> first | rfl | cases failed

namespace Loop

/-- A handle that was created and is closing or gone. -/
def Retired (l : Loop H) (h : HandleId) : Prop :=
  h < l.handles.next ∧ ∀ x, l.handles.get? h = some x → x.closing = true

/-- A loop that was there before another, with nothing closed and nothing reclaimed in between. -/
structure Ages (l l' : Loop H) : Prop where
  next_le : l.handles.next ≤ l'.handles.next
  handles : ∀ h y, l'.handles.get? h = some y →
    l.handles.next ≤ h ∧ y.onClose = none ∨
      ∃ x, l.handles.get? h = some x ∧ y.onClose = x.onClose ∧
        (x.closing = true → y.closing = true ∧ y.refs ≤ x.refs)
  stays : ∀ h, (l.handles.get? h).isSome → (l'.handles.get? h).isSome
  requests : ∀ h, l.Retired h → l'.pendingRequests h ≤ l.pendingRequests h
  listeners : ∀ z ∈ l'.listeners, z ∈ l.listeners ∨ (l'.handles.get? z.handle).isSome

namespace Ages

variable {l l' l'' : Loop H} {h : HandleId}

/-- A loop is there before itself. -/
theorem refl (l : Loop H) : l.Ages l :=
  ⟨Nat.le_refl _, fun _ y found => .inr ⟨y, found, rfl, fun marked => ⟨marked, Nat.le_refl _⟩⟩,
    fun _ there => there, fun _ _ => Nat.le_refl _, fun _ hz => .inl hz⟩

/-- A change that leaves the handles, the requests and the listeners alone. -/
theorem congr (a : l.Ages l') (next : l''.handles.next = l'.handles.next)
    (handles : ∀ k, l''.handles.get? k = l'.handles.get? k) (requests : l''.requests = l'.requests)
    (listeners : l''.listeners = l'.listeners) : l.Ages l'' where
  next_le := by rw [next]; exact a.next_le
  handles k y found := a.handles k y (by rwa [← handles])
  stays k there := by rw [handles]; exact a.stays k there
  requests k retired := by rw [pendingRequests_congr requests]; exact a.requests k retired
  listeners z hz := by rw [handles]; exact a.listeners z (by rwa [← listeners])

/-- A change that shows on none of them. -/
theorem unseen (a : l.Ages l') (handles : l''.handles = l'.handles)
    (requests : l''.requests = l'.requests) (listeners : l''.listeners = l'.listeners) :
    l.Ages l'' :=
  a.congr (by rw [handles]) (fun _ => by rw [handles]) requests listeners

/-- Asking the transport closes nothing and reclaims nothing. -/
theorem ask {α : Type} (a : l.Ages l') (primitive : H.Net → Reply H.Net α) :
    l.Ages (l'.ask primitive).2 :=
  a.unseen rfl rfl rfl

/-- Sending samples closes nothing and reclaims nothing. -/
theorem meter (a : l.Ages l') (h : HandleId) (op : StreamOp) (p : Progress) :
    l.Ages (l'.meter h op p) :=
  a.unseen rfl rfl rfl

/-- Sending the sample of a result closes nothing and reclaims nothing. -/
theorem meterAsync (a : l.Ages l') (h : HandleId) (op : StreamOp) (ok : Bool) :
    l.Ages (l'.meterAsync h op ok) :=
  a.unseen rfl rfl rfl

/-- A change of one handle that keeps its last callback, and its mark with
the count of references. -/
theorem change (a : l.Ages l') {x y : Handle H.Closure} (found : l'.handles.get? h = some x)
    (next : l''.handles.next = l'.handles.next)
    (handles : ∀ k, l''.handles.get? k = if h = k then some y else l'.handles.get? k)
    (onClose : y.onClose = x.onClose)
    (marked : x.closing = true → y.closing = true ∧ y.refs ≤ x.refs)
    (requests : l''.requests = l'.requests) (listeners : l''.listeners = l'.listeners) :
    l.Ages l'' where
  next_le := by rw [next]; exact a.next_le
  handles k z hz := by
    rw [handles] at hz
    split at hz
    case isTrue hk =>
      cases hz
      subst hk
      obtain ⟨new, none⟩ | ⟨w, there, same, marks⟩ := a.handles h x found
      · exact .inl ⟨new, onClose.trans none⟩
      · refine .inr ⟨w, there, onClose.trans same, fun closing => ?_⟩
        obtain ⟨closing, less⟩ := marks closing
        exact ⟨(marked closing).1, Nat.le_trans (marked closing).2 less⟩
    case isFalse => exact a.handles k z hz
  stays k there := by
    rw [handles]
    split
    case isTrue => rfl
    case isFalse => exact a.stays k there
  requests k retired := by rw [pendingRequests_congr requests]; exact a.requests k retired
  listeners z hz := by
    rw [handles]
    split
    case isTrue => exact .inr rfl
    case isFalse => exact a.listeners z (by rwa [← listeners])

/-- A change of a handle that keeps its last callback, and adds nothing to a marked
one, is part of ageing. -/
theorem modifyHandle (a : l.Ages l') {f : Handle H.Closure → Handle H.Closure}
    (kept : ∀ x, l'.handles.get? h = some x →
      (f x).onClose = x.onClose ∧ (x.closing = true → (f x).closing = true ∧ (f x).refs ≤ x.refs)) :
    l.Ages (l'.modifyHandle h f) := by
  cases found : l'.handles.get? h with
  | none =>
    refine a.congr rfl (fun k => ?_) rfl rfl
    rw [get?_modifyHandle]
    split
    case isTrue hk => rw [← hk, found]; rfl
    case isFalse => rfl
  | some x =>
    exact a.change found rfl (get?_modifyHandle_of_some found f)
      (kept x found).1 (kept x found).2 rfl rfl

/-- A new state closes nothing and reclaims nothing. -/
theorem setState (a : l.Ages l') (state : StreamState) : l.Ages (l'.setState h state) :=
  a.modifyHandle fun _ _ => ⟨rfl, fun marked => ⟨marked, Nat.le_refl _⟩⟩

/-- A first buffer closes nothing and reclaims nothing. -/
theorem ensureBuffer (a : l.Ages l') : l.Ages (l'.ensureBuffer h) :=
  a.modifyHandle fun _ _ => ⟨rfl, fun marked => ⟨marked, Nat.le_refl _⟩⟩

/-- Bytes that are read close nothing and reclaim nothing. -/
theorem fillBuffer (a : l.Ages l') (buffer : ReadBuffer) (bytes : List UInt8) :
    l.Ages (Machine.fillBuffer l' h buffer bytes) :=
  a.modifyHandle fun _ _ => ⟨rfl, fun marked => ⟨marked, Nat.le_refl _⟩⟩

/-- A change of a buffer closes nothing and reclaims nothing. -/
theorem modifyBuffer (a : l.Ages l') (f : ReadBuffer → ReadBuffer) :
    l.Ages (l'.modifyBuffer h f) := by
  have changed : l.Ages (l'.modifyHandle h fun x => { x with buffer := x.buffer.map f }) :=
    a.modifyHandle fun _ _ => ⟨rfl, fun marked => ⟨marked, Nat.le_refl _⟩⟩
  exact changed.unseen rfl rfl rfl

/-- Lending a buffer closes nothing and reclaims nothing. -/
theorem expose (a : l.Ages l') (exposed : Bool) : l.Ages (Machine.expose l' h exposed) :=
  a.modifyBuffer _

/-- The end of a shutdown closes nothing and reclaims nothing. -/
theorem settleShutdown (a : l.Ages l') (ok : Bool) : l.Ages (Machine.settleShutdown l' h ok) := by
  unfold Machine.settleShutdown
  split
  case h_1 =>
    split
    case isTrue => exact a.setState _
    case isFalse => exact a
  case h_2 => exact a

/-- A reference that is given back closes nothing and reclaims nothing. -/
theorem release (a : l.Ages l') : l.Ages (l'.release h) := by
  unfold Loop.release
  split
  case h_1 => exact a.unseen rfl rfl rfl
  case h_2 x found =>
    have fewer : l.Ages (l'.modifyHandle h fun x => { x with refs := x.refs - 1 }) :=
      a.modifyHandle fun _ _ => ⟨rfl, fun marked => ⟨marked, Nat.sub_le _ _⟩⟩
    split
    case isTrue => exact a.unseen rfl rfl rfl
    case isFalse =>
      simp only
      split
      case isTrue => exact fewer.unseen rfl rfl rfl
      case isFalse => exact fewer

/-- The end of a read session closes nothing and reclaims nothing. -/
theorem endReading (a : l.Ages l') (T : Transport H.Net H.Script) (next : ReadState) :
    l.Ages (l'.endReading T h next) := by
  unfold Loop.endReading
  split
  case h_1 => exact a
  case h_2 x found =>
    have stopped : l.Ages (l'.modifyHandle h ({ · with read := next })) :=
      a.modifyHandle fun _ _ => ⟨rfl, fun marked => ⟨marked, Nat.le_refl _⟩⟩
    simp only
    split
    case isTrue => exact release (stopped.unseen rfl rfl rfl)
    case isFalse => exact stopped

/-- A reference may be taken of a handle that is not marked. -/
theorem retain (a : l.Ages l') {x : Handle H.Closure} (found : l'.handles.get? h = some x)
    (unmarked : x.closing = false) : l.Ages (l'.modifyHandle h .retain) := by
  refine a.modifyHandle fun y hy => ⟨rfl, fun marked => ?_⟩
  obtain rfl := Option.some.inj (found.symm.trans hy)
  rw [unmarked] at marked
  cases marked

/-- A request may be entered for a handle that was not marked. -/
theorem enter (a : l.Ages l') {r : Request H.Closure} {x : Handle H.Closure}
    (found : l.handles.get? r.handle = some x) (unmarked : x.closing = false)
    (next : l''.handles.next = l'.handles.next)
    (handles : ∀ k, l''.handles.get? k = l'.handles.get? k)
    (requests : l''.requests = l'.requests.add r) (listeners : l''.listeners = l'.listeners) :
    l.Ages l'' where
  next_le := by rw [next]; exact a.next_le
  handles k y found := a.handles k y (by rwa [← handles])
  stays k there := by rw [handles]; exact a.stays k there
  requests k retired := by
    have other : r.handle ≠ k := fun hk => by
      have marked := retired.2 x (by rw [← hk]; exact found)
      rw [unmarked] at marked
      cases marked
    rw [pendingRequests_add requests, if_neg other]
    exact a.requests k retired
  listeners z hz := by rw [handles]; exact a.listeners z (by rwa [← listeners])

/-- A request leaves the table. -/
theorem leave (a : l.Ages l') {req : RequestId} {r : Request H.Closure}
    (pending : l'.requests.get? req = some r) :
    l.Ages { l' with requests := l'.requests.remove req } where
  next_le := a.next_le
  handles := a.handles
  stays := a.stays
  requests k retired := by
    have fewer : l'.pendingRequests k =
        ({ l' with requests := l'.requests.remove req } : Loop H).pendingRequests k +
          if r.handle = k then 1 else 0 :=
      pendingRequests_remove pending rfl k
    have := a.requests k retired
    omega
  listeners := a.listeners

/-- A new handle closes nothing and reclaims nothing. -/
theorem newHandle (a : l.Ages l') (kind : HandleKind) :
    l.Ages { l' with handles := l'.handles.add { kind } } where
  next_le := Nat.le_succ_of_le a.next_le
  handles k y hy := by
    rw [Registry.get?_add] at hy
    split at hy
    case isTrue hk =>
      cases hy
      exact .inl ⟨by rw [hk]; exact a.next_le, rfl⟩
    case isFalse => exact a.handles k y hy
  stays k there := by
    rw [Registry.get?_add]
    split
    case isTrue => rfl
    case isFalse => exact a.stays k there
  requests := a.requests
  listeners z hz := by
    rw [Registry.get?_add]
    split
    case isTrue => exact .inr rfl
    case isFalse => exact a.listeners z hz

/-- A new listener of a handle that is there closes nothing and reclaims nothing. -/
theorem addListener (a : l.Ages l') (there : (l'.handles.get? h).isSome) (event : EventName)
    (c : H.Closure) :
    l.Ages (l'.addListener h event c) where
  next_le := a.next_le
  handles := a.handles
  stays := a.stays
  requests := a.requests
  listeners z hz := by
    rcases List.mem_append.1 hz with hz | hz
    · exact a.listeners z hz
    · rw [List.mem_singleton.1 hz]
      exact .inr there

/-- Loops that agree up to metrics and wakers are as old as each other. -/
theorem agrees (a : l.Ages l') (same : l''.Agrees l') : l.Ages l'' :=
  a.congr same.next same.handles same.requests same.listeners

/-- A handle that is closing or gone stays so. -/
theorem retired (a : l.Ages l') (retired : l.Retired h) : l'.Retired h := by
  refine ⟨Nat.lt_of_lt_of_le retired.1 a.next_le, fun y hy => ?_⟩
  obtain ⟨new, -⟩ | ⟨x, hx, -, marks⟩ := a.handles h y hy
  · exact absurd retired.1 (Nat.not_lt_of_le new)
  · exact (marks (retired.2 x hx)).1

/-- What closes nothing and reclaims nothing does neither when done in turn. -/
theorem trans (first : l.Ages l') (second : l'.Ages l'') : l.Ages l'' where
  next_le := Nat.le_trans first.next_le second.next_le
  handles h z hz := by
    obtain ⟨new, none⟩ | ⟨y, hy, same, marks⟩ := second.handles h z hz
    · exact .inl ⟨Nat.le_trans first.next_le new, none⟩
    · obtain ⟨new, none⟩ | ⟨x, hx, same', marks'⟩ := first.handles h y hy
      · exact .inl ⟨new, same.trans none⟩
      · refine .inr ⟨x, hx, same.trans same', fun marked => ?_⟩
        obtain ⟨marked, less⟩ := marks' marked
        exact ⟨(marks marked).1, Nat.le_trans (marks marked).2 less⟩
  stays h there := second.stays h (first.stays h there)
  requests h retired :=
    Nat.le_trans (second.requests h (first.retired retired)) (first.requests h retired)
  listeners z hz := by
    obtain hz | there := second.listeners z hz
    · obtain hz | there := first.listeners z hz
      · exact .inl hz
      · exact .inr (second.stays _ there)
    · exact .inr there

end Ages

/-- A loop after a handle that was not marked was closed with its last callback. -/
structure Closes (l : Loop H) (h : HandleId) (c : H.Closure) (l' : Loop H) : Prop where
  unmarked : ∃ x, l.handles.get? h = some x ∧ x.closing = false ∧
    ∀ k, l'.handles.get? k = if h = k then some (x.close c) else l.handles.get? k
  next : l'.handles.next = l.handles.next
  requests : l'.requests = l.requests
  listeners : l'.listeners = l.listeners

/-- The balance of a loop is that of each loop that agrees with it. -/
theorem Balanced.agrees {l l' : Loop H} {held due : List HandleId} (b : l.Balanced held due)
    (same : l'.Agrees l) :
    l'.Balanced held due where
  sound := same.breach.trans b.sound
  refs hx := by
    rw [pendingRequests_congr same.requests]
    exact b.refs (by rwa [← same.handles])
  requested hr := by rw [same.handles]; exact b.requested (by rwa [← same.requests])
  present hh := by rw [same.handles]; exact b.present hh
  dueOnce k := by rw [same.handles, same.closing]; exact b.dueOnce k
  coherent hx := b.coherent (by rwa [← same.handles])

/-- A handle of a balanced loop is closed, and no other handle changes. -/
theorem Balanced.get?_retire {l : Loop H} {held due : List HandleId} {h : HandleId}
    {x : Handle H.Closure} (b : l.Balanced held due) (T : Transport H.Net H.Script)
    (onClose : H.Closure) (found : l.handles.get? h = some x) (k : HandleId) :
    (l.retire T h onClose).handles.get? k =
      if h = k then some (x.close onClose) else l.handles.get? k := by
  have counted := b.refs found
  rw [Handle.ownRefs] at counted
  refine Loop.get?_retire T onClose found (fun reading => ?_) (fun listening => ?_) k
  · rw [if_pos reading] at counted
    omega
  · rw [if_pos listening] at counted
    omega

/-- An operation closes one handle, or its loop has merely aged. -/
theorem Effect.ages {l l' : Loop H} {o : Operation H.Closure} {a : o.Answer}
    {held due : List HandleId} (effect : Effect T l o a l') (b : l.Balanced held due) :
    o.closed? a = none ∧ l.Ages l' ∨ ∃ h c, o.closed? a = some (h, c) ∧ l.Closes h c l' := by
  cases effect with
  | refused failed => exact .inl ⟨Operation.closed?_of_failure? failed, .refl l⟩
  | newHandle => exact .inl ⟨rfl, ((Ages.refl l).newHandle _).ask _⟩
  | on found => exact .inl ⟨rfl, (Ages.refl l).addListener (by rw [found]; rfl) _ _⟩
  | refuseAccept | refuseAdopt | refuseBind | bind | refuseConnect =>
    exact .inl ⟨rfl, (Ages.refl l).ask _⟩
  | accept | adopt => exact .inl ⟨rfl, ((Ages.refl l).ask _).setState _⟩
  | markedReadStart => exact .inl ⟨rfl, (Ages.refl l).ensureBuffer⟩
  | refuseReadStart => exact .inl ⟨rfl, (Ages.refl l).ensureBuffer.ask _⟩
  | @readStart h x found _ _ unmarked =>
    have buffered : (l.ensureBuffer h).handles.get? h = some _ :=
      (get?_modifyHandle_of_some found _ h).trans (if_pos rfl)
    have taken := ((Ages.refl l).ensureBuffer.retain buffered unmarked).ask (T.readStart h)
    exact .inl ⟨rfl, taken.modifyHandle fun _ _ => ⟨rfl, fun marked => ⟨marked, Nat.le_refl _⟩⟩⟩
  | readStop => exact .inl ⟨rfl, (Ages.refl l).endReading T _⟩
  | noBuffer | noKept => exact .inl ⟨rfl, .refl l⟩
  | keptWrite => exact .inl ⟨rfl, (Ages.refl l).modifyBuffer _⟩
  | bufferWrite =>
    exact .inl ⟨rfl, (Ages.refl l).modifyHandle fun _ _ =>
      ⟨rfl, fun marked => ⟨marked, Nat.le_refl _⟩⟩⟩
  | @write h x data callback found _ unmarked =>
    exact .inl ⟨rfl,
      ((Ages.refl l).retain found unmarked).enter (r := .write h data callback) found unmarked rfl
      (fun _ => rfl) rfl rfl⟩
  | @shutdown h x callback found _ unmarked =>
    exact .inl ⟨rfl,
      (((Ages.refl l).retain found unmarked).setState .shuttingDown).enter
      (r := .shutdown h callback) found unmarked rfl (fun _ => rfl) rfl rfl⟩
  | @connect h x address found _ unmarked =>
    have entered : l.Ages
        (((l.modifyHandle h .retain).ask (T.connect l.requests.next h address)).2.enlist
          (.connect h) none) :=
      ((Ages.refl l).retain found unmarked).enter (r := .connect h) found unmarked rfl
        (fun _ => rfl) rfl rfl
    exact .inl ⟨rfl, entered.setState _⟩
  | @close h x c found unmarked =>
    exact .inr ⟨h, c, rfl, ⟨x, found, unmarked, b.get?_retire T c found⟩, by simp, by simp, by simp⟩
  | stop same | forgetWake same => exact .inl ⟨rfl, (Ages.refl l).agrees same⟩

/-- An operation closes no handle, and then nothing is closed or reclaimed, or it closes just the
one it was asked to. -/
theorem ages_issue {l : Loop H} {held due : List HandleId} (T : Transport H.Net H.Script)
    (b : l.Balanced held due) (o : Operation H.Closure) :
    o.closed? (l.issue T o).1 = none ∧ l.Ages (l.issue T o).2 ∨
      ∃ h c, o.closed? (l.issue T o).1 = some (h, c) ∧ l.Closes h c (l.issue T o).2 := by
  obtain ⟨l₀, l₁, before, effect, after⟩ := issues_issue T l o
  obtain ⟨none, ages⟩ | ⟨h, c, some, ⟨x, found, unmarked, handles⟩, next, requests, listeners⟩ :=
    effect.ages (b.agrees before)
  · exact .inl ⟨none, (((Ages.refl l).agrees before).trans ages).agrees after⟩
  · refine .inr
      ⟨h, c, some, ⟨x, by rw [← before.handles]; exact found, unmarked, fun k => ?_⟩, ?_, ?_, ?_⟩
    · rw [after.handles, handles, before.handles]
    · rw [after.next, next, before.next]
    · rw [after.requests, requests, before.requests]
    · rw [after.listeners, listeners, before.listeners]

end Loop

end Reactor
