import Reactor.Proofs.Loop.Frames
import Reactor.Proofs.Registry

/-!
# The balance of references

A reference is owned by a read session, by a server that listens, by a request that is pending, or
by work in progress. A loop is balanced, with some references held by work in progress and some
handles due in batches of reclaims, when every handle counts exactly its references and every
closing handle without one is due exactly once. Each small change of a loop moves references between
owners and keeps the balance.
-/

namespace Reactor

variable {H : Host}

namespace Handle

variable {κ : Type}

/-- The number of references that a handle owns itself: those of its read session
and of its listening. -/
def ownRefs (x : Handle κ) : Nat := (if x.isReading then 1 else 0) + (if x.listenRef then 1 else 0)

/-- Whether nothing keeps a closing handle any more. -/
def reclaimable (x : Handle κ) : Bool := x.closing && x.refs = 0

/-- The mark and the state agree on whether a handle closes, a closing handle does not read, and no
handle but one that listens owns the reference of a server. -/
def Coherent (x : Handle κ) : Prop :=
  (x.state = .closing ↔ x.closing = true) ∧ (x.closing = true → x.isReading = false) ∧
    (x.listenRef = true → x.state = .listening)

/-- A closing handle owns no reference. -/
theorem Coherent.ownRefs_eq_zero {x : Handle κ} (coherent : x.Coherent)
    (marked : x.closing = true) : x.ownRefs = 0 := by
  obtain ⟨state, reading, listening⟩ := coherent
  have silent : x.listenRef = false := Bool.eq_false_iff.2 fun listens => by
    cases (state.2 marked).symm.trans (listening listens)
  simp [ownRefs, reading marked, silent]

end Handle

namespace Loop

/-- Every handle counts its references, where `held` are those of work in progress; every handle
that can be reclaimed is due exactly once, where `due` are those in batches of reclaims. -/
structure Balanced (l : Loop H) (held due : List HandleId) : Prop where
  sound : l.breach = none
  refs : ∀ {h x}, l.handles.get? h = some x →
    x.refs = x.ownRefs + l.pendingRequests h + held.count h
  requested : ∀ {req r}, l.requests.get? req = some r → (l.handles.get? r.handle).isSome
  present : ∀ {h}, h ∈ held → (l.handles.get? h).isSome
  dueOnce : ∀ h, (l.closing ++ due).count h =
    if (l.handles.get? h).any Handle.reclaimable then 1 else 0
  coherent : ∀ {h x}, l.handles.get? h = some x → x.Coherent

/-! ## Pending requests -/

/-- The pending requests of a handle are those in the table that name it. -/
theorem pendingRequests_eq_countP (l : Loop H) (h : HandleId) :
    l.pendingRequests h = l.requests.values.countP (·.handle = h) := by
  rw [pendingRequests, List.countP_eq_length_filter]

/-- The pending requests depend on the table of requests alone. -/
theorem pendingRequests_congr {l l' : Loop H} (heq : l'.requests = l.requests) (h : HandleId) :
    l'.pendingRequests h = l.pendingRequests h := by
  rw [pendingRequests, heq, pendingRequests]

/-- A new request is one more for its handle. -/
theorem pendingRequests_add {l l' : Loop H} {r : Request H.Closure}
    (heq : l'.requests = l.requests.add r) (h : HandleId) :
    l'.pendingRequests h = l.pendingRequests h + if r.handle = h then 1 else 0 := by
  rw [pendingRequests_eq_countP, heq, Registry.countP_values_add, ← pendingRequests_eq_countP]
  simp

/-- A request that leaves the table is one less for its handle. -/
theorem pendingRequests_remove {l l' : Loop H} {req : RequestId} {r : Request H.Closure}
    (hr : l.requests.get? req = some r) (heq : l'.requests = l.requests.remove req) (h : HandleId) :
    l.pendingRequests h = l'.pendingRequests h + if r.handle = h then 1 else 0 := by
  rw [pendingRequests_eq_countP, Registry.countP_values_remove hr, ← heq,
    ← pendingRequests_eq_countP]
  simp

/-- A handle has pending requests exactly when one of the requests names it. -/
theorem pendingRequests_pos_iff (l : Loop H) (h : HandleId) :
    0 < l.pendingRequests h ↔ ∃ req r, l.requests.get? req = some r ∧ r.handle = h := by
  rw [pendingRequests_eq_countP, List.countP_pos_iff]
  constructor
  · rintro ⟨r, hr, hh⟩
    obtain ⟨req, hreq⟩ := (l.requests.mem_values_iff r).1 hr
    exact ⟨req, r, hreq, by simpa using hh⟩
  · rintro ⟨req, r, hreq, hh⟩
    exact ⟨r, (l.requests.mem_values_iff r).2 ⟨req, hreq⟩, by simpa using hh⟩

namespace Balanced

variable {l l' : Loop H} {h : HandleId} {x : Handle H.Closure} {held due : List HandleId}

/-- The balance depends on no more than the handles, the requests, the reclaims that are due and the
record of a breach. -/
theorem congr (b : l.Balanced held due) (handles : l'.handles = l.handles)
    (requests : l'.requests = l.requests) (closing : l'.closing = l.closing)
    (breach : l'.breach = l.breach) : l'.Balanced held due where
  sound := by rw [breach, b.sound]
  refs hx := by rw [pendingRequests_congr requests]; exact b.refs (by rwa [← handles])
  requested hr := by rw [handles]; exact b.requested (by rwa [← requests])
  present hh := by rw [handles]; exact b.present hh
  dueOnce k := by rw [handles, closing]; exact b.dueOnce k
  coherent hx := b.coherent (by rwa [← handles])

/-- A change of one handle keeps the balance when the handle counts its references after it as
before, and is due exactly if it can be reclaimed. -/
theorem change {y : Handle H.Closure} {held' : List HandleId} (b : l.Balanced held due)
    (found : l.handles.get? h = some x)
    (handles : ∀ k, l'.handles.get? k = if h = k then some y else l.handles.get? k)
    (requests : l'.requests = l.requests) (sound : l'.breach = none)
    (elsewhere : ∀ k ≠ h, held'.count k = held.count k ∧ l'.closing.count k = l.closing.count k)
    (refs : y.refs + x.ownRefs + held.count h = x.refs + y.ownRefs + held'.count h)
    (dueHere : l'.closing.count h + (if x.reclaimable then 1 else 0) =
      l.closing.count h + if y.reclaimable then 1 else 0)
    (coherent : y.Coherent) : l'.Balanced held' due where
  sound := sound
  refs {k z} hz := by
    rw [handles] at hz
    rw [pendingRequests_congr requests]
    split at hz
    case isTrue hk =>
      cases hz
      subst hk
      have := b.refs found
      omega
    case isFalse hk =>
      rw [(elsewhere k (Ne.symm hk)).1]
      exact b.refs hz
  requested {req r} hr := by
    rw [handles]
    split
    case isTrue => rfl
    case isFalse => exact b.requested (by rwa [← requests])
  present {k} hk := by
    rw [handles]
    split
    case isTrue => rfl
    case isFalse hne =>
      refine b.present (List.count_pos_iff.1 ?_)
      rw [← (elsewhere k (Ne.symm hne)).1]
      exact List.count_pos_iff.2 hk
  dueOnce k := by
    have hdue := b.dueOnce k
    rw [handles]
    rw [List.count_append] at hdue ⊢
    split
    case isTrue hk =>
      subst hk
      rw [found] at hdue
      simp only [Option.any_some] at hdue ⊢
      omega
    case isFalse hk => rw [(elsewhere k (Ne.symm hk)).2, hdue]
  coherent {k z} hz := by
    rw [handles] at hz
    split at hz
    case isTrue => cases hz; exact coherent
    case isFalse => exact b.coherent hz

/-- A change of a handle that leaves alone what it owns, its count and its mark. -/
theorem modifyHandle (b : l.Balanced held due) {f : Handle H.Closure → Handle H.Closure}
    (kept : ∀ x, l.handles.get? h = some x →
      (f x).refs = x.refs ∧ (f x).ownRefs = x.ownRefs ∧ (f x).closing = x.closing ∧
        (f x).Coherent) :
    (l.modifyHandle h f).Balanced held due := by
  cases found : l.handles.get? h with
  | none =>
    have same (k : HandleId) : (l.modifyHandle h f).handles.get? k = l.handles.get? k := by
      rw [get?_modifyHandle]
      split
      case isTrue hk => rw [← hk, found]; rfl
      case isFalse => rfl
    exact ⟨b.sound, fun hx => b.refs (by rwa [same] at hx),
      fun hr => by rw [same]; exact b.requested hr, fun hh => by rw [same]; exact b.present hh,
      fun k => by rw [same]; exact b.dueOnce k, fun hx => b.coherent (by rwa [same] at hx)⟩
  | some x =>
    obtain ⟨hrefs, hown, hclosing, hcoherent⟩ := kept x found
    refine b.change found (get?_modifyHandle_of_some found f) rfl b.sound (fun _ _ => ⟨rfl, rfl⟩) ?_
      ?_ hcoherent
    · rw [hrefs, hown]
    · rw [Handle.reclaimable, Handle.reclaimable, hclosing, hrefs]
      rfl

/-- A reference that was taken is held. -/
theorem acquire (b : l.Balanced held due) (hl : l.acquire h = .ok l') :
    l'.Balanced (h :: held) due := by
  obtain ⟨x, found, unmarked, rfl⟩ := acquire_eq_ok hl
  have own : ({ x with refs := x.refs + 1 } : Handle H.Closure).ownRefs = x.ownRefs := rfl
  refine b.change found (get?_modifyHandle_of_some found _) rfl b.sound
    (fun k hk => ⟨?_, rfl⟩) ?_ ?_ (b.coherent found :)
  · rw [List.count_cons_of_ne (Ne.symm hk)]
  · rw [own, List.count_cons_self]
    simp only
    omega
  · simp [Handle.reclaimable, unmarked]

/-- A reference that is held can be given back; the last one of a closing handle makes it due. -/
theorem release (b : l.Balanced (h :: held) due) : (l.release h).Balanced held due := by
  obtain ⟨x, found⟩ := Option.isSome_iff_exists.1 (b.present List.mem_cons_self)
  have counted := b.refs found
  rw [List.count_cons_self] at counted
  have handles := get?_modifyHandle_of_some found fun x => { x with refs := x.refs - 1 }
  have elsewhere : ∀ k ≠ h, held.count k = (h :: held).count k := fun k hk => by
    rw [List.count_cons_of_ne (Ne.symm hk)]
  have own : ({ x with refs := x.refs - 1 } : Handle H.Closure).ownRefs = x.ownRefs := rfl
  have coherent : ({ x with refs := x.refs - 1 } : Handle H.Closure).Coherent :=
    (b.coherent found :)
  unfold Loop.release
  simp only [found]
  rw [if_neg (by omega)]
  split
  case isTrue last =>
    obtain ⟨hone, hclosing⟩ := last
    refine b.change found handles rfl b.sound (fun k hk => ⟨elsewhere k hk, ?_⟩) ?_ ?_ coherent
    · simp [List.count_append, Ne.symm hk]
    · rw [own, List.count_cons_self]
      simp only
      omega
    · simp [Handle.reclaimable, hone, hclosing]
  case isFalse kept =>
    refine b.change found handles rfl b.sound (fun k hk => ⟨elsewhere k hk, rfl⟩) ?_ ?_ coherent
    · rw [own, List.count_cons_self]
      simp only
      omega
    · have same : ({ x with refs := x.refs - 1 } : Handle H.Closure).reclaimable =
          x.reclaimable := by
        rcases Bool.eq_false_or_eq_true x.closing with marked | unmarked
        · have hzero : ¬x.refs = 0 := by omega
          have hpred : ¬x.refs - 1 = 0 := fun hpred => kept ⟨by omega, marked⟩
          simp [Handle.reclaimable, hzero, hpred]
        · simp [Handle.reclaimable, unmarked]
      rw [same]
      rfl

/-- A reference that is held becomes the one of a read session. -/
theorem startReading (b : l.Balanced (h :: held) due) (found : l.handles.get? h = some x)
    (idle : x.isReading = false) (unmarked : x.closing = false) :
    (l.modifyHandle h ({ · with read := .reading })).Balanced held due := by
  have stopped : x.read ≠ .reading := by simpa [Handle.isReading] using idle
  have own : ({ x with read := .reading } : Handle H.Closure).ownRefs = x.ownRefs + 1 := by
    simp [Handle.ownRefs, Handle.isReading, stopped]
    omega
  have coherent := b.coherent found
  refine b.change found (get?_modifyHandle_of_some found _) rfl b.sound
    (fun k hk => ⟨?_, rfl⟩) ?_ rfl ?_
  · rw [List.count_cons_of_ne (Ne.symm hk)]
  · rw [own, List.count_cons_self]
    simp only
    omega
  · exact ⟨coherent.1, fun marked => by simp [unmarked] at marked, coherent.2.2⟩

/-- A reference that is held becomes the one of a server that listens. -/
theorem startListening (b : l.Balanced (h :: held) due) (found : l.handles.get? h = some x)
    (idle : x.listenRef = false) (unmarked : x.closing = false) :
    (l.modifyHandle h ({ · with listenRef := true, state := .listening })).Balanced held due := by
  have own : ({ x with listenRef := true, state := .listening } : Handle H.Closure).ownRefs =
      x.ownRefs + 1 := by
    simp only [Handle.ownRefs, idle, Handle.isReading]
    simp
  refine b.change found (get?_modifyHandle_of_some found _) rfl b.sound
    (fun k hk => ⟨?_, rfl⟩) ?_ rfl ?_
  · rw [List.count_cons_of_ne (Ne.symm hk)]
  · rw [own, List.count_cons_self]
    simp only
    omega
  · simp [Handle.Coherent, unmarked]

/-- A reference that is held becomes the one of a request that is entered. -/
theorem enter {r : Request H.Closure} (b : l.Balanced (r.handle :: held) due)
    (handles : l'.handles = l.handles) (requests : l'.requests = l.requests.add r)
    (closing : l'.closing = l.closing) (breach : l'.breach = l.breach) :
    l'.Balanced held due where
  sound := by rw [breach, b.sound]
  refs {k x} hx := by
    rw [handles] at hx
    have counted := b.refs hx
    rw [List.count_cons] at counted
    rw [pendingRequests_add requests]
    simp only [beq_iff_eq] at counted
    omega
  requested {req r'} hr := by
    rw [requests, Registry.get?_add] at hr
    rw [handles]
    split at hr
    case isTrue => cases hr; exact b.present List.mem_cons_self
    case isFalse => exact b.requested hr
  present hk := by rw [handles]; exact b.present (List.mem_cons_of_mem _ hk)
  dueOnce k := by rw [handles, closing]; exact b.dueOnce k
  coherent hx := b.coherent (by rwa [← handles])

/-- The reference of a request that leaves the table is held. -/
theorem leave {req : RequestId} {r : Request H.Closure} (b : l.Balanced held due)
    (hr : l.requests.get? req = some r) :
    ({ l with requests := l.requests.remove req } : Loop H).Balanced (r.handle :: held) due where
  sound := b.sound
  refs {k x} hx := by
    have counted := b.refs hx
    have moved : l.pendingRequests k =
        ({ l with requests := l.requests.remove req } : Loop H).pendingRequests k +
          if r.handle = k then 1 else 0 :=
      pendingRequests_remove hr rfl k
    rw [List.count_cons]
    simp only [beq_iff_eq]
    omega
  requested {req' r'} hr' := by
    rw [Registry.get?_remove] at hr'
    split at hr'
    case isTrue => cases hr'
    case isFalse => exact b.requested hr'
  present {k} hk := by
    rcases List.mem_cons.1 hk with rfl | hk
    · exact b.requested hr
    · exact b.present hk
  dueOnce := b.dueOnce
  coherent := b.coherent

/-- The end of a read session gives its reference back. -/
theorem endReading (b : l.Balanced held due) (T : Transport H.Net H.Script) {next : ReadState}
    (stops : next ≠ .reading) : (l.endReading T h next).Balanced held due := by
  unfold Loop.endReading
  split
  case h_1 => exact b
  case h_2 x found =>
    have stopped : ({ x with read := next } : Handle H.Closure).isReading = false := by
      simpa [Handle.isReading] using stops
    have coherent := b.coherent found
    have handles := get?_modifyHandle_of_some found ({ · with read := next })
    simp only
    split
    case isTrue reading =>
      have own : x.ownRefs = ({ x with read := next } : Handle H.Closure).ownRefs + 1 := by
        simp only [Handle.ownRefs, reading, stopped]
        simp only [if_true, Bool.false_eq_true, if_false]
        omega
      have held' : (l.modifyHandle h ({ · with read := next })).Balanced (h :: held) due := by
        refine b.change found handles rfl b.sound (fun k hk => ⟨?_, rfl⟩) ?_ rfl ?_
        · rw [List.count_cons_of_ne (Ne.symm hk)]
        · rw [own, List.count_cons_self]
          simp only
          omega
        · exact ⟨coherent.1, fun _ => stopped, coherent.2.2⟩
      refine release ?_
      exact held'.congr rfl rfl rfl rfl
    case isFalse idle =>
      refine b.change found handles rfl b.sound (fun k hk => ⟨rfl, rfl⟩) ?_ rfl ?_
      · simp [Handle.ownRefs, idle, stopped]
      · exact ⟨coherent.1, fun _ => stopped, coherent.2.2⟩

/-- The end of listening gives its reference back. -/
theorem endListening (b : l.Balanced held due) : (l.endListening h).Balanced held due := by
  unfold Loop.endListening
  split
  case h_1 => exact b
  case h_2 x found =>
    split
    case isTrue listening =>
      have coherent := b.coherent found
      have own : x.ownRefs = ({ x with listenRef := false } : Handle H.Closure).ownRefs + 1 := by
        simp [Handle.ownRefs, listening, Handle.isReading]
      refine release (b.change found (get?_modifyHandle_of_some found _) rfl b.sound
        (fun k hk => ⟨?_, rfl⟩) ?_ rfl ?_)
      · rw [List.count_cons_of_ne (Ne.symm hk)]
      · rw [own, List.count_cons_self]
        simp only
        omega
      · exact ⟨coherent.1, coherent.2.1, fun listens => by simp at listens⟩
    case isFalse => exact b

/-- A new handle has no reference. -/
theorem newHandle (b : l.Balanced held due) (kind : HandleKind) :
    ({ l with handles := l.handles.add { kind } } : Loop H).Balanced held due := by
  have unused : l.handles.get? l.handles.next = none := l.handles.get?_next
  have apart : ∀ {k}, (l.handles.get? k).isSome → k ≠ l.handles.next := fun {k} hk heq => by
    rw [heq, unused] at hk
    cases hk
  have same : ∀ {k}, k ≠ l.handles.next → (l.handles.add { kind }).get? k = l.handles.get? k :=
      fun {k} hk => by
    rw [Registry.get?_add, if_neg hk]
  refine ⟨b.sound, fun {k x} hx => ?_, fun hr => ?_, fun hk => ?_, fun k => ?_, fun {k x} hx => ?_⟩
  · rw [Registry.get?_add] at hx
    split at hx
    case isTrue hk =>
      cases hx
      have none_pending : ¬0 < l.pendingRequests k := fun hpos => by
        obtain ⟨req, r, hr, hh⟩ := (l.pendingRequests_pos_iff k).1 hpos
        exact apart (b.requested hr) (hh.trans hk)
      have none_held : List.count k held = 0 :=
        List.count_eq_zero.2 fun hmem => apart (b.present hmem) hk
      have untouched : ({ l with handles := l.handles.add { kind } } : Loop H).pendingRequests k =
        l.pendingRequests k := rfl
      rw [none_held, untouched]
      simp [Handle.ownRefs, Handle.isReading]
      omega
    case isFalse hk => exact b.refs hx
  · rw [same (apart (b.requested hr))]
    exact b.requested hr
  · rw [same (apart (b.present hk))]
    exact b.present hk
  · have hdue := b.dueOnce k
    rw [Registry.get?_add]
    split
    case isTrue hk => simpa [hk, unused, Handle.reclaimable] using hdue
    case isFalse hk => exact hdue
  · rw [Registry.get?_add] at hx
    split at hx
    case isTrue hk =>
      cases hx
      simp [Handle.Coherent]
    case isFalse hk => exact b.coherent hx

/-- The handles that are due move to the batch of a tick. -/
theorem beginReclaims (b : l.Balanced held due) :
    ({ l with closing := [] } : Loop H).Balanced held (l.closing ++ due) :=
  ⟨b.sound, b.refs, b.requested, b.present, b.dueOnce, b.coherent⟩

/-- A handle in a batch can be reclaimed. -/
theorem reclaimable_of_due (b : l.Balanced held (h :: due)) :
    ∃ x, l.handles.get? h = some x ∧ x.closing = true ∧ x.refs = 0 := by
  have once := b.dueOnce h
  rw [List.count_append, List.count_cons_self] at once
  split at once
  case isTrue free =>
    obtain ⟨x, found, free⟩ := Option.any_eq_true _ _ |>.1 free
    exact ⟨x, found, by simpa [Handle.reclaimable] using free⟩
  case isFalse => omega

/-- No work holds a reference of a handle that can be reclaimed, and no request names it. -/
theorem unreferenced (b : l.Balanced held due) (found : l.handles.get? h = some x)
    (free : x.refs = 0) :
    l.pendingRequests h = 0 ∧ h ∉ held := by
  have counted := b.refs found
  exact ⟨by omega, List.count_eq_zero.1 (by omega)⟩

/-- No request is one of a handle that is not there. -/
theorem handle_ne (b : l.Balanced held due) (gone : l.handles.get? h = none) {req : RequestId}
    {r : Request H.Closure} (pending : l.requests.get? req = some r) : r.handle ≠ h := by
  rintro rfl
  have there := b.requested pending
  rw [gone] at there
  cases there

/-- A handle that was due leaves the table. -/
theorem reclaim (b : l.Balanced held (h :: due)) (z : Handle H.Closure) :
    (Machine.takeHandle l h z).Balanced held due := by
  suffices gone : ({ l with handles := l.handles.remove h } : Loop H).Balanced held due
      from gone.congr rfl rfl rfl rfl
  obtain ⟨x, found, marked, free⟩ := b.reclaimable_of_due
  obtain ⟨none_pending, none_held⟩ := b.unreferenced found free
  have same : ∀ {k}, k ≠ h → (l.handles.remove h).get? k = l.handles.get? k := fun {k} hk => by
    rw [Registry.get?_remove, if_neg (Ne.symm hk)]
  refine ⟨b.sound, fun {k y} hy => ?_, fun {req r} hr => ?_, fun {k} hk => ?_, fun k => ?_,
    fun {k y} hy => ?_⟩
  · rw [Registry.get?_remove] at hy
    split at hy
    case isTrue => cases hy
    case isFalse => exact b.refs hy
  · rw [same fun heq => ?_]
    · exact b.requested hr
    · have := (l.pendingRequests_pos_iff h).2 ⟨req, r, hr, heq⟩
      omega
  · rw [same fun heq => none_held (heq ▸ hk)]
    exact b.present hk
  · have once := b.dueOnce k
    rw [List.count_append, List.count_cons] at once
    rw [List.count_append, Registry.get?_remove]
    split
    case isTrue hk =>
      subst hk
      rw [found] at once
      simp only [beq_self_eq_true, if_true, Option.any_some, Handle.reclaimable, marked,
        free] at once
      simp only [Option.any_none, Bool.false_eq_true, if_false]
      simp at once
      omega
    case isFalse hk =>
      rw [← once]
      simp [hk]
  · rw [Registry.get?_remove] at hy
    split at hy
    case isTrue => cases hy
    case isFalse => exact b.coherent hy

/-- A handle that neither reads nor listens is marked; without a reference it is due at once. -/
theorem retire (b : l.Balanced held due) (found : l.handles.get? h = some x)
    (unmarked : x.closing = false) (idle : x.ownRefs = 0) (onClose : H.Closure) :
    ((l.modifyHandle h ({ · with onClose := some onClose, state := .closing })).markClosing
      h).Balanced held due := by
  have resting : x.isReading = false ∧ x.listenRef = false := by
    simp only [Handle.ownRefs] at idle
    constructor
    · cases hread : x.isReading with
      | false => rfl
      | true => simp [hread] at idle
    · cases hlisten : x.listenRef with
      | false => rfl
      | true => simp [hlisten] at idle
  have closed :
      (l.modifyHandle h ({ · with onClose := some onClose, state := .closing })).handles.get? h =
      some { x with onClose := some onClose, state := .closing } := by
    rw [get?_modifyHandle_of_some found, if_pos rfl]
  have coherent : ({ x with onClose := some onClose, state := .closing, closing := true } :
      Handle H.Closure).Coherent := ⟨by
        simp, fun _ => resting.1, fun listens => by simp [resting.2] at listens⟩
  have handles (k : HandleId) :
      ((l.modifyHandle h ({ · with onClose := some onClose, state := .closing })).modifyHandle h
        ({ · with closing := true })).handles.get? k =
      if h = k then some { x with onClose := some onClose, state := .closing, closing := true }
      else l.handles.get? k := by
    rw [get?_modifyHandle_of_some closed, get?_modifyHandle_of_some found]
    split <;> rfl
  unfold markClosing
  simp only [closed]
  split
  case isTrue free =>
    refine b.change found handles rfl b.sound (fun k hk => ⟨rfl, ?_⟩) rfl ?_ coherent
    · simp [List.count_append, Ne.symm hk]
    · simp [Handle.reclaimable, unmarked, free]
  case isFalse used =>
    refine b.change found handles rfl b.sound (fun k hk => ⟨rfl, rfl⟩) rfl ?_ coherent
    simp [Handle.reclaimable, unmarked, used]

end Balanced

end Loop

end Reactor
