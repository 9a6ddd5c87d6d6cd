import Reactor.Proofs.Closing.Aging
import Reactor.Proofs.Stream.Buffers

/-!
# What operations do to read buffers

A read buffer outlives its handle, so whoever holds it finds in it what is found through the loop.
No operation changes more than one buffer, and none a buffer that is exposed.
-/

namespace Reactor

namespace ReadBuffer

/-- A view is as long as was asked for, or as the buffer. -/
theorem length_view (b : ReadBuffer) (n : Nat) : (b.view n).length = min n b.size := by
  simp only [view, List.length_append, List.length_take, List.length_replicate]
  omega

/-- What is seen at the start of a buffer is seen by its own length. -/
theorem view_length_view (b : ReadBuffer) (n : Nat) : b.view (b.view n).length = b.view n := by
  rw [length_view]
  unfold view
  simp only [Nat.min_assoc, Nat.min_self]

/-- A byte that was never written is zero. -/
theorem getElem?_view (b : ReadBuffer) (n i : Nat) :
    (b.view n)[i]? = if i < min n b.size then some (b.front.getD i 0) else none := by
  simp only [view, List.getElem?_append, List.length_take, List.getElem?_take,
    List.getElem?_replicate, List.getD_eq_getElem?_getD]
  grind

/-- As many bytes as fit are replaced from the offset on, and no others. -/
theorem bytes_overwrite (b : ReadBuffer) (offset : Nat) (data : List UInt8) :
    (b.overwrite offset data).bytes =
      b.bytes.take offset ++ data.take (b.room offset data) ++
        b.bytes.drop (offset + b.room offset data) := by
  have room : b.room offset data = min data.length (b.size - offset) := rfl
  apply List.ext_getElem?
  intro i
  unfold overwrite
  simp only
  split
  case isTrue none =>
    rw [none]
    simp
  case isFalse some =>
    simp only [bytes, List.getElem?_append, List.getElem?_take, List.getElem?_drop, getElem?_view,
      List.length_append, List.length_take, length_view, List.getD_eq_getElem?_getD]
    grind

/-- A write goes through only where nothing is lent out. -/
theorem free_of_write? {b b' : ReadBuffer} {offset n : Nat} {data : List UInt8}
    (written : b.write? offset data = some (n, b')) : b.exposed = false ∧ b'.exposed = false := by
  unfold write? at written
  split at written
  case isTrue => cases written
  case isFalse free =>
    cases written
    rw [exposed_overwrite]
    exact ⟨Bool.eq_false_iff.2 free, Bool.eq_false_iff.2 free⟩

end ReadBuffer

variable {H : Host} {T : Transport H.Net H.Script}

namespace Loop

variable {l l' l'' : Loop H} {h : HandleId} {x : Handle H.Closure}

/-- Only of handles that are gone are buffers kept apart. -/
def KeepsApart (l : Loop H) : Prop :=
  ∀ h b, l.kept.get? h = some b → h < l.handles.next ∧ l.handles.get? h = none

/-- A handle that is there has no buffer apart from its own. -/
theorem KeepsApart.kept_of_found (apart : l.KeepsApart) (found : l.handles.get? h = some x) :
    l.kept.get? h = none :=
  Option.eq_none_iff_forall_not_mem.2 fun b kept => by
    rw [(apart h b kept).2] at found
    cases found

/-! ## The buffers after each small change -/

/-- The buffer of a handle that is there is the handle's own. -/
theorem buffer?_of_found (found : l.handles.get? h = some x) : l.buffer? h = x.buffer := by
  rw [buffer?, found]

/-- Where handles have the same buffers and those that are gone left the same ones, buffers
agree. -/
theorem buffer?_congr (handles : ∀ k,
    (l'.handles.get? k).map (·.buffer) = (l.handles.get? k).map (·.buffer))
    (kept : l'.kept = l.kept) : l'.buffer? = l.buffer? := by
  funext k
  have same := handles k
  rw [buffer?, buffer?, kept]
  cases here : l.handles.get? k with
  | none =>
    rw [here, Option.map_none, Option.map_eq_none_iff] at same
    simp only [same]
  | some x =>
    rw [here, Option.map_some, Option.map_eq_some_iff] at same
    obtain ⟨y, found, same⟩ := same
    simp only [found, same]

/-- A change of a handle that leaves its buffer as it is. -/
theorem buffer?_modifyHandle {f : Handle H.Closure → Handle H.Closure}
    (same : ∀ x, (f x).buffer = x.buffer) (l : Loop H) (h : HandleId) :
    (l.modifyHandle h f).buffer? = l.buffer? := by
  refine buffer?_congr (fun k => ?_) rfl
  rw [get?_modifyHandle]
  split
  case isTrue =>
    rw [Option.map_map]
    exact congrArg (Option.map · _) (funext same)
  case isFalse => rfl

/-- A handle that is there gets another buffer. -/
theorem buffer?_setBuffer {f : Handle H.Closure → Handle H.Closure}
    (found : l.handles.get? h = some x) {b : ReadBuffer} (buffer : (f x).buffer = some b)
    (k : HandleId) :
    (l.modifyHandle h f).buffer? k = if h = k then some b else l.buffer? k := by
  rw [buffer?, get?_modifyHandle_of_some found]
  by_cases same : h = k
  · simp only [if_pos same, buffer]
  · simp only [if_neg same]
    rfl

/-- The buffer of one handle is changed, and that of no other. -/
theorem buffer?_modifyBuffer (l : Loop H) (h : HandleId) (f : ReadBuffer → ReadBuffer)
    (k : HandleId) :
    (l.modifyBuffer h f).buffer? k = if h = k then (l.buffer? k).map f else l.buffer? k := by
  rw [buffer?, get?_modifyBuffer, buffer?,
    show (l.modifyBuffer h f).kept = l.kept.modify h f from rfl, SortedMap.get?_modify]
  by_cases same : h = k
  · simp only [if_pos same, if_pos same.symm]
    cases l.handles.get? k <;> rfl
  · simp only [if_neg same, if_neg (Ne.symm same)]

/-- No buffer is kept apart because another was changed. -/
theorem isSome_kept_modifyBuffer (l : Loop H) (h : HandleId) (f : ReadBuffer → ReadBuffer)
    (k : HandleId) :
    ((l.modifyBuffer h f).kept.get? k).isSome = (l.kept.get? k).isSome := by
  rw [show (l.modifyBuffer h f).kept = l.kept.modify h f from rfl, SortedMap.get?_modify]
  split
  case isTrue => exact Option.isSome_map
  case isFalse => rfl

/-- Asking the transport leaves every buffer as it was. -/
@[simp] theorem buffer?_ask {α : Type} (l : Loop H) (primitive : H.Net → Reply H.Net α) :
    (l.ask primitive).2.buffer? = l.buffer? := rfl

/-- Sending samples leaves every buffer as it was. -/
@[simp] theorem buffer?_meter (l : Loop H) (h : HandleId) (op : StreamOp) (p : Progress) :
    (l.meter h op p).buffer? = l.buffer? := rfl

/-- Sending the sample of a result leaves every buffer as it was. -/
@[simp] theorem buffer?_meterAsync (l : Loop H) (h : HandleId) (op : StreamOp) (ok : Bool) :
    (l.meterAsync h op ok).buffer? = l.buffer? := rfl

/-- A new listener leaves every buffer as it was. -/
@[simp] theorem buffer?_addListener (l : Loop H) (h : HandleId) (event : EventName)
    (c : H.Closure) :
    (l.addListener h event c).buffer? = l.buffer? := rfl

/-- A new request leaves every buffer as it was. -/
@[simp] theorem buffer?_enlist (l : Loop H) (r : Request H.Closure) (refusal : Option Completion) :
    (l.enlist r refusal).buffer? = l.buffer? := rfl

/-- Taking a reference leaves every buffer as it was. -/
@[simp] theorem buffer?_retain (l : Loop H) (h : HandleId) :
    (l.modifyHandle h .retain).buffer? = l.buffer? :=
  buffer?_modifyHandle (f := .retain) (fun _ => rfl) l h

/-- A new state leaves every buffer as it was. -/
@[simp] theorem buffer?_setState (l : Loop H) (h : HandleId) (state : StreamState) :
    (l.setState h state).buffer? = l.buffer? :=
  buffer?_modifyHandle (f := ({ · with state })) (fun _ => rfl) l h

/-- Giving a reference back leaves every buffer as it was. -/
@[simp] theorem buffer?_release (l : Loop H) (h : HandleId) :
    (l.release h).buffer? = l.buffer? := by
  have fewer :=
    buffer?_modifyHandle (f := fun x => { x with refs := x.refs - 1 }) (fun _ => rfl) l h
  unfold release
  split
  case h_1 => rfl
  case h_2 =>
    split
    case isTrue => rfl
    case isFalse =>
      simp only
      split
      case isTrue => exact fewer
      case isFalse => exact fewer

/-- Marking a handle leaves every buffer as it was. -/
@[simp] theorem buffer?_markClosing (l : Loop H) (h : HandleId) :
    (l.markClosing h).buffer? = l.buffer? := by
  have marked := buffer?_modifyHandle (f := ({ · with closing := true })) (fun _ => rfl) l h
  unfold markClosing
  split
  case h_1 => rfl
  case h_2 =>
    simp only
    split
    case isTrue => exact marked
    case isFalse => exact marked

/-- The end of a read session leaves every buffer as it was. -/
@[simp] theorem buffer?_endReading (T : Transport H.Net H.Script) (l : Loop H) (h : HandleId)
    (next : ReadState) :
    (l.endReading T h next).buffer? = l.buffer? := by
  have stopped := buffer?_modifyHandle (f := ({ · with read := next })) (fun _ => rfl) l h
  unfold endReading
  split
  case h_1 => rfl
  case h_2 =>
    simp only
    split
    case isTrue => exact (buffer?_release _ _).trans stopped
    case isFalse => exact stopped

/-- The end of listening leaves every buffer as it was. -/
@[simp] theorem buffer?_endListening (l : Loop H) (h : HandleId) :
    (l.endListening h).buffer? = l.buffer? := by
  have silent := buffer?_modifyHandle (f := ({ · with listenRef := false })) (fun _ => rfl) l h
  unfold endListening
  split
  case h_1 => rfl
  case h_2 =>
    split
    case isTrue => exact (buffer?_release _ _).trans silent
    case isFalse => rfl

/-- Closing a handle leaves every buffer as it was. -/
@[simp] theorem buffer?_retire (T : Transport H.Net H.Script) (l : Loop H) (h : HandleId)
    (onClose : H.Closure) :
    (l.retire T h onClose).buffer? = l.buffer? := by
  have closed :=
    buffer?_modifyHandle (f := ({ · with onClose := some onClose, state := .closing }))
    (fun _ => rfl) (((l.endReading T h .stopped).endListening h).ask (T.close h)).2 h
  exact (buffer?_markClosing _ _).trans
    (closed.trans ((buffer?_endListening _ _).trans (buffer?_endReading _ _ _ _)))

/-- The end of a shutdown leaves every buffer as it was. -/
@[simp] theorem buffer?_settleShutdown (l : Loop H) (h : HandleId) (ok : Bool) :
    (Machine.settleShutdown l h ok).buffer? = l.buffer? := by
  unfold Machine.settleShutdown
  split
  case h_1 =>
    split
    case isTrue => exact buffer?_setState _ _ _
    case isFalse => rfl
  case h_2 => rfl

/-- A new handle has no buffer. -/
theorem buffer?_newHandle (apart : l.KeepsApart) (kind : HandleKind) :
    ({ l with handles := l.handles.add { kind } } : Loop H).buffer? = l.buffer? := by
  funext k
  rw [buffer?, Registry.get?_add, buffer?]
  by_cases new : k = l.handles.next
  · have none_kept : l.kept.get? k = none := Option.eq_none_iff_forall_not_mem.2 fun b kept => by
      exact absurd (apart k b kept).1 (Nat.not_lt_of_le (Nat.le_of_eq new.symm))
    simp only [if_pos new, l.handles.get?_eq_none_of_next_le (Nat.le_of_eq new.symm), none_kept]
  · simp only [if_neg new]

/-- The buffer of a handle that leaves the table stays. -/
theorem buffer?_takeHandle (apart : l.KeepsApart) (found : l.handles.get? h = some x) :
    (Machine.takeHandle l h x).buffer? = l.buffer? := by
  funext k
  have none_kept := apart.kept_of_found found
  rw [buffer?, (Machine.takeHandle_frame l h x).2.1, Registry.get?_remove,
    show (Machine.takeHandle l h x).kept = x.buffer.elim l.kept (l.kept.insert h) from rfl]
  by_cases same : h = k
  · subst same
    rw [if_pos rfl, buffer?_of_found found]
    cases buffer : x.buffer with
    | none => exact none_kept
    | some b => exact (SortedMap.get?_insert _ _ _ _).trans (if_pos rfl)
  · rw [if_neg same, buffer?]
    cases buffer : x.buffer with
    | none => rfl
    | some b => rw [Option.elim_some, SortedMap.get?_insert, if_neg (Ne.symm same)]

/-! ## What an operation may do -/

/-- All buffers are as they were, or one of them has other bytes, and is exposed
neither before nor after. -/
inductive Rewrites (l l' : Loop H) : Prop where
  | still (same : l'.buffer? = l.buffer?)
  | put {h b} (free : ∀ a, l.buffer? h = some a → a.exposed = false) (hidden : b.exposed = false)
    (buffers : ∀ k, l'.buffer? k = if h = k then some b else l.buffer? k)

/-- Nothing more is done where the buffers are the same. -/
theorem Rewrites.trans_eq (rewrites : l.Rewrites l') (after : l''.buffer? = l'.buffer?) :
    l.Rewrites l'' := by
  cases rewrites with
  | still same => exact .still (after.trans same)
  | put free hidden buffers => exact .put free hidden fun k => (congrFun after k).trans (buffers k)

/-- What goes on before a rewriting without touching the buffers does not matter. -/
theorem Rewrites.eq_trans (before : l'.buffer? = l.buffer?) (rewrites : l'.Rewrites l'') :
    l.Rewrites l'' := by
  cases rewrites with
  | still same => exact .still (same.trans before)
  | put free hidden buffers =>
    exact .put (fun a there => free a ((congrFun before _).trans there)) hidden fun k => by
      rw [buffers, before]

/-- A handle that is to read has a buffer from then on. -/
theorem rewrites_ensureBuffer (found : l.handles.get? h = some x) :
    l.Rewrites (l.ensureBuffer h) := by
  have buffers := buffer?_setBuffer (b := x.buffer.getD (.ofSize l.options.readBufferSize))
    (f := fun x => { x with buffer := some (x.buffer.getD (.ofSize l.options.readBufferSize)) })
    found rfl
  cases buffer : x.buffer with
  | none =>
    rw [buffer] at buffers
    exact .put (fun a there => by rw [buffer?_of_found found, buffer] at there; cases there) rfl
      buffers
  | some b =>
    refine .still (funext fun k => (buffers k).trans ?_)
    split
    case isTrue same => rw [← same, buffer?_of_found found, buffer]; rfl
    case isFalse => rfl

/-- An operation rewrites the buffers by what it was given, or leaves them alone. -/
theorem Effect.rewrites {o : Operation H.Closure} {a : o.Answer} (effect : Effect T l o a l')
    (apart : l.KeepsApart) :
    l.Rewrites l' := by
  cases effect with
  | refused | on | refuseAccept | refuseAdopt | refuseBind | bind | noBuffer | noKept
    | refuseConnect => exact .still rfl
  | newHandle => exact .still ((buffer?_ask _ _).trans (buffer?_newHandle apart _))
  | accept | adopt => exact .still (buffer?_setState _ _ _)
  | markedReadStart found => exact rewrites_ensureBuffer found
  | refuseReadStart found => exact (rewrites_ensureBuffer found).trans_eq (buffer?_ask _ _)
  | @readStart h x found =>
    have opened := buffer?_modifyHandle (f := ({ · with read := .reading })) (fun _ => rfl)
      (((l.ensureBuffer h).modifyHandle h .retain).ask (T.readStart h)).2 h
    exact (rewrites_ensureBuffer found).trans_eq
      (opened.trans ((buffer?_ask _ _).trans (buffer?_retain (l.ensureBuffer h) h)))
  | readStop => exact .still (buffer?_endReading _ _ _ _)
  | bufferWrite found there written =>
    obtain ⟨free, hidden⟩ := ReadBuffer.free_of_write? written
    refine .put (fun a here => ?_) hidden (buffer?_setBuffer found rfl)
    rw [buffer?_of_found found, there] at here
    exact Option.some.inj here ▸ free
  | @keptWrite h _ _ _ _ buffer' there written =>
    obtain ⟨free, hidden⟩ := ReadBuffer.free_of_write? written
    refine .put (h := h) (fun a here => ?_) hidden fun k => (buffer?_modifyBuffer l h _ k).trans ?_
    · rw [there] at here
      exact Option.some.inj here ▸ free
    · split
      case isTrue same => rw [← same, there]; rfl
      case isFalse => rfl
  | write => exact .still ((buffer?_enlist _ _ _).trans (buffer?_retain l _))
  | shutdown => exact .still (by simp)
  | connect => exact .still (by simp)
  | close => exact .still (buffer?_retire _ _ _ _)
  | stop same | forgetWake same => exact .still (funext same.buffer?)

/-- An operation puts bytes into one buffer at most, and into none that is exposed. -/
theorem rewrites_issue (T : Transport H.Net H.Script) (apart : l.KeepsApart)
    (o : Operation H.Closure) :
    l.Rewrites (l.issue T o).2 := by
  obtain ⟨l₀, l₁, before, effect, after⟩ := issues_issue T l o
  have apart : l₀.KeepsApart := fun h b kept => by
    rw [before.next, before.handles]
    exact apart h b (before.kept ▸ kept)
  exact ((effect.rewrites apart).trans_eq (funext after.buffer?)).eq_trans (funext before.buffer?)

/-- An operation keeps apart no buffer that was not. -/
theorem kept_issue (T : Transport H.Net H.Script) (l : Loop H) (o : Operation H.Closure)
    (h : HandleId) :
    ((l.issue T o).2.kept.get? h).isSome = (l.kept.get? h).isSome := by
  obtain ⟨l₀, l₁, before, effect, after⟩ := issues_issue T l o
  rw [after.kept, ← before.kept]
  generalize (l.issue T o).1 = a at effect
  cases effect with
  | keptWrite => exact isSome_kept_modifyBuffer _ _ _ _
  | close => simp [retire]
  | readStop => rw [kept_endReading]
  | stop same | forgetWake same => rw [same.kept]
  | _ => rfl

end Loop

end Reactor
