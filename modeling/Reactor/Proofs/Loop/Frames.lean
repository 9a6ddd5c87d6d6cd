import Reactor.Machine.Dispatch
import Reactor.Loop.Operations
import Reactor.Proofs.Registry

/-!
# What the parts of an operation leave alone

The operations of a loop are put together from a few small changes. For each of them one
statement lists the fields of the loop that it does not touch; what it does to the
handles is said through `get?`.
-/

namespace Reactor.Loop

variable {H : Host}

/-- Waking a task leaves the tables, the queues and the transport alone. -/
@[simp] theorem wakeBy_frame (l : Loop H) (w : Waker) :
    (l.wakeBy w).options = l.options ∧ (l.wakeBy w).handles = l.handles ∧
      (l.wakeBy w).requests = l.requests ∧ (l.wakeBy w).listeners = l.listeners ∧
      (l.wakeBy w).net = l.net ∧ (l.wakeBy w).deferred = l.deferred ∧
      (l.wakeBy w).closing = l.closing ∧ (l.wakeBy w).settled = l.settled ∧
      (l.wakeBy w).breach = l.breach :=
  ⟨rfl, rfl, rfl, rfl, rfl, rfl, rfl, rfl, rfl⟩

/-- Waking the task of a loop leaves the tables, the queues and the transport alone. -/
@[simp] theorem wake_frame (l : Loop H) :
    l.wake.options = l.options ∧ l.wake.handles = l.handles ∧ l.wake.requests = l.requests ∧
      l.wake.listeners = l.listeners ∧ l.wake.net = l.net ∧ l.wake.deferred = l.deferred ∧
      l.wake.closing = l.closing ∧ l.wake.settled = l.settled ∧ l.wake.breach = l.breach :=
  ⟨rfl, rfl, rfl, rfl, rfl, rfl, rfl, rfl, rfl⟩

/-- A sample leaves the tables, the queues and the transport alone. -/
@[simp] theorem meter_frame (l : Loop H) (h : HandleId) (op : StreamOp) (p : Progress) :
    (l.meter h op p).options = l.options ∧ (l.meter h op p).handles = l.handles ∧
      (l.meter h op p).requests = l.requests ∧ (l.meter h op p).listeners = l.listeners ∧
      (l.meter h op p).net = l.net ∧ (l.meter h op p).deferred = l.deferred ∧
      (l.meter h op p).closing = l.closing ∧ (l.meter h op p).settled = l.settled ∧
      (l.meter h op p).breach = l.breach :=
  ⟨rfl, rfl, rfl, rfl, rfl, rfl, rfl, rfl, rfl⟩

/-- The sample of an outcome leaves the tables, the queues and the transport alone. -/
@[simp] theorem meterAsync_frame (l : Loop H) (h : HandleId) (op : StreamOp) (ok : Bool) :
    (l.meterAsync h op ok).options = l.options ∧ (l.meterAsync h op ok).handles = l.handles ∧
      (l.meterAsync h op ok).requests = l.requests ∧
      (l.meterAsync h op ok).listeners = l.listeners ∧ (l.meterAsync h op ok).net = l.net ∧
      (l.meterAsync h op ok).deferred = l.deferred ∧ (l.meterAsync h op ok).closing = l.closing ∧
      (l.meterAsync h op ok).settled = l.settled ∧ (l.meterAsync h op ok).breach = l.breach :=
  ⟨rfl, rfl, rfl, rfl, rfl, rfl, rfl, rfl, rfl⟩

/-- A question to the transport may change the transport, and leaves the tables
and the queues alone. -/
@[simp] theorem ask_frame {α : Type} (l : Loop H) (primitive : H.Net → Reply H.Net α) :
    (l.ask primitive).2.options = l.options ∧ (l.ask primitive).2.handles = l.handles ∧
      (l.ask primitive).2.requests = l.requests ∧ (l.ask primitive).2.listeners = l.listeners ∧
      (l.ask primitive).2.net = (primitive l.net).net ∧ (l.ask primitive).2.deferred = l.deferred ∧
      (l.ask primitive).2.closing = l.closing ∧ (l.ask primitive).2.settled = l.settled ∧
      (l.ask primitive).2.breach = l.breach :=
  ⟨rfl, rfl, rfl, rfl, rfl, rfl, rfl, rfl, rfl⟩

/-- Changing a handle leaves the other tables, the queues and the transport alone. -/
@[simp] theorem modifyHandle_frame (l : Loop H) (h : HandleId)
    (f : Handle H.Closure → Handle H.Closure) :
    (l.modifyHandle h f).options = l.options ∧ (l.modifyHandle h f).handles.next = l.handles.next ∧
      (l.modifyHandle h f).requests = l.requests ∧ (l.modifyHandle h f).listeners = l.listeners ∧
      (l.modifyHandle h f).net = l.net ∧ (l.modifyHandle h f).deferred = l.deferred ∧
      (l.modifyHandle h f).closing = l.closing ∧ (l.modifyHandle h f).settled = l.settled ∧
      (l.modifyHandle h f).breach = l.breach :=
  ⟨rfl, rfl, rfl, rfl, rfl, rfl, rfl, rfl, rfl⟩

/-- Setting the state of a stream leaves the other tables, the queues and the transport alone. -/
@[simp] theorem setState_frame (l : Loop H) (h : HandleId) (state : StreamState) :
    (l.setState h state).options = l.options ∧ (l.setState h state).handles.next = l.handles.next ∧
      (l.setState h state).requests = l.requests ∧ (l.setState h state).listeners = l.listeners ∧
      (l.setState h state).net = l.net ∧ (l.setState h state).deferred = l.deferred ∧
      (l.setState h state).closing = l.closing ∧ (l.setState h state).settled = l.settled ∧
      (l.setState h state).breach = l.breach :=
  ⟨rfl, rfl, rfl, rfl, rfl, rfl, rfl, rfl, rfl⟩

/-- A new listener leaves the other tables, the queues and the transport alone. -/
@[simp] theorem addListener_frame (l : Loop H) (h : HandleId) (event : EventName) (c : H.Closure) :
    (l.addListener h event c).options = l.options ∧ (l.addListener h event c).handles = l.handles ∧
      (l.addListener h event c).requests = l.requests ∧ (l.addListener h event c).net = l.net ∧
      (l.addListener h event c).deferred = l.deferred ∧
      (l.addListener h event c).closing = l.closing ∧
      (l.addListener h event c).settled = l.settled ∧ (l.addListener h event c).breach = l.breach :=
  ⟨rfl, rfl, rfl, rfl, rfl, rfl, rfl, rfl⟩

/-- Removing the listeners of a handle leaves the other tables, the queues
and the transport alone. -/
@[simp] theorem removeListeners_frame (l : Loop H) (h : HandleId) :
    (l.removeListeners h).options = l.options ∧ (l.removeListeners h).handles = l.handles ∧
      (l.removeListeners h).requests = l.requests ∧ (l.removeListeners h).net = l.net ∧
      (l.removeListeners h).deferred = l.deferred ∧ (l.removeListeners h).closing = l.closing ∧
      (l.removeListeners h).settled = l.settled ∧ (l.removeListeners h).breach = l.breach :=
  ⟨rfl, rfl, rfl, rfl, rfl, rfl, rfl, rfl⟩

/-- A new request comes into its table, and its refusal is due; the other tables and the transport
are left alone. -/
@[simp] theorem enlist_frame (l : Loop H) (r : Request H.Closure) (refusal : Option Completion) :
    (l.enlist r refusal).options = l.options ∧ (l.enlist r refusal).handles = l.handles ∧
      (l.enlist r refusal).requests = l.requests.add r ∧
      (l.enlist r refusal).listeners = l.listeners ∧ (l.enlist r refusal).net = l.net ∧
      (l.enlist r refusal).deferred = l.deferred ++ refusal.toList ∧
      (l.enlist r refusal).closing = l.closing ∧ (l.enlist r refusal).settled = l.settled ∧
      (l.enlist r refusal).breach = l.breach :=
  ⟨rfl, rfl, rfl, rfl, rfl, rfl, rfl, rfl, rfl⟩

/-- A buffer made on demand leaves the other tables, the queues and the transport alone. -/
@[simp] theorem ensureBuffer_frame (l : Loop H) (h : HandleId) :
    (l.ensureBuffer h).options = l.options ∧ (l.ensureBuffer h).handles.next = l.handles.next ∧
      (l.ensureBuffer h).requests = l.requests ∧ (l.ensureBuffer h).listeners = l.listeners ∧
      (l.ensureBuffer h).net = l.net ∧ (l.ensureBuffer h).deferred = l.deferred ∧
      (l.ensureBuffer h).closing = l.closing ∧ (l.ensureBuffer h).settled = l.settled ∧
      (l.ensureBuffer h).breach = l.breach :=
  ⟨rfl, rfl, rfl, rfl, rfl, rfl, rfl, rfl, rfl⟩

/-- Giving a reference back touches no more than the handle, the queue of reclaims and
the record of a breach. -/
@[simp] theorem release_frame (l : Loop H) (h : HandleId) :
    (l.release h).options = l.options ∧ (l.release h).handles.next = l.handles.next ∧
      (l.release h).requests = l.requests ∧ (l.release h).listeners = l.listeners ∧
      (l.release h).net = l.net ∧ (l.release h).deferred = l.deferred ∧
      (l.release h).settled = l.settled := by
  unfold release
  split
  case h_1 => simp
  case h_2 x _ =>
    split
    case isTrue => simp
    case isFalse =>
      simp only
      split <;> simp

/-- Marking a handle as closing leaves the other tables, the results that are due
and the transport alone. -/
@[simp] theorem markClosing_frame (l : Loop H) (h : HandleId) :
    (l.markClosing h).options = l.options ∧ (l.markClosing h).handles.next = l.handles.next ∧
      (l.markClosing h).requests = l.requests ∧ (l.markClosing h).listeners = l.listeners ∧
      (l.markClosing h).net = l.net ∧ (l.markClosing h).deferred = l.deferred ∧
      (l.markClosing h).settled = l.settled ∧ (l.markClosing h).breach = l.breach := by
  unfold markClosing
  split
  case h_1 => simp
  case h_2 x _ =>
    simp only
    split <;> simp

/-- The end of a read session leaves the other tables and the results that are due alone. -/
@[simp] theorem endReading_frame (T : Transport H.Net H.Script) (l : Loop H) (h : HandleId)
    (next : ReadState) :
    (l.endReading T h next).options = l.options ∧
      (l.endReading T h next).handles.next = l.handles.next ∧
      (l.endReading T h next).requests = l.requests ∧
      (l.endReading T h next).listeners = l.listeners ∧
      (l.endReading T h next).deferred = l.deferred ∧
      (l.endReading T h next).settled = l.settled := by
  unfold endReading
  split
  case h_1 => simp
  case h_2 x _ =>
    simp only
    split <;> simp

/-- The end of listening leaves the other tables, the results that are due
and the transport alone. -/
@[simp] theorem endListening_frame (l : Loop H) (h : HandleId) :
    (l.endListening h).options = l.options ∧ (l.endListening h).handles.next = l.handles.next ∧
      (l.endListening h).requests = l.requests ∧ (l.endListening h).listeners = l.listeners ∧
      (l.endListening h).net = l.net ∧ (l.endListening h).deferred = l.deferred ∧
      (l.endListening h).settled = l.settled := by
  unfold endListening
  split
  case h_1 => simp
  case h_2 x _ => split <;> simp

/-! ## The buffers that are kept -/

/-- A question to the transport touches no buffer of a handle that is gone. -/
@[simp] theorem kept_ask {α : Type} (l : Loop H) (primitive : H.Net → Reply H.Net α) :
    (l.ask primitive).2.kept = l.kept := rfl

/-- Changing a handle touches no buffer of a handle that is gone. -/
@[simp] theorem kept_modifyHandle (l : Loop H) (h : HandleId)
    (f : Handle H.Closure → Handle H.Closure) :
    (l.modifyHandle h f).kept = l.kept := rfl

/-- Giving a reference back touches no buffer of a handle that is gone. -/
@[simp] theorem kept_release (l : Loop H) (h : HandleId) : (l.release h).kept = l.kept := by
  unfold release
  split
  case h_1 => rfl
  case h_2 =>
    split
    case isTrue => rfl
    case isFalse =>
      simp only
      split <;> rfl

/-- Marking a handle as closing touches no buffer of a handle that is gone. -/
@[simp] theorem kept_markClosing (l : Loop H) (h : HandleId) : (l.markClosing h).kept = l.kept := by
  unfold markClosing
  split
  case h_1 => rfl
  case h_2 =>
    simp only
    split <;> rfl

/-- The end of a read session touches no buffer of a handle that is gone. -/
@[simp] theorem kept_endReading (T : Transport H.Net H.Script) (l : Loop H) (h : HandleId)
    (next : ReadState) :
    (l.endReading T h next).kept = l.kept := by
  unfold endReading
  split
  case h_1 => rfl
  case h_2 =>
    simp only
    split <;> simp

/-- The end of listening touches no buffer of a handle that is gone. -/
@[simp] theorem kept_endListening (l : Loop H) (h : HandleId) :
    (l.endListening h).kept = l.kept := by
  unfold endListening
  split
  case h_1 => rfl
  case h_2 => split <;> simp

/-! ## The handles -/

/-- Changing a handle changes its entry and no other. -/
theorem get?_modifyHandle (l : Loop H) (h : HandleId) (f : Handle H.Closure → Handle H.Closure)
    (k : HandleId) :
    (l.modifyHandle h f).handles.get? k =
      if h = k then (l.handles.get? k).map f else l.handles.get? k :=
  l.handles.get?_modify h f k

/-- A handle that is there gets another value, and no other handle changes. -/
theorem get?_modifyHandle_of_some {l : Loop H} {h : HandleId} {x : Handle H.Closure}
    (hx : l.handles.get? h = some x) (f : Handle H.Closure → Handle H.Closure) (k : HandleId) :
    (l.modifyHandle h f).handles.get? k = if h = k then some (f x) else l.handles.get? k := by
  rw [get?_modifyHandle]
  split
  case isTrue hk => rw [← hk, hx]; rfl
  case isFalse => rfl

/-- A handle that is found has an entry. -/
theorem handle?_eq_ok {l : Loop H} {h : HandleId} {x : Handle H.Closure}
    (hx : l.handle? h = .ok x) :
    l.handles.get? h = some x := by
  unfold handle? at hx
  split at hx
  case h_1 y hy => rw [hy, Except.ok.inj hx]
  case h_2 => cases hx

/-- Changing a buffer changes the entry of its handle and no other. -/
theorem get?_modifyBuffer (l : Loop H) (h : HandleId) (f : ReadBuffer → ReadBuffer) (k : HandleId) :
    (l.modifyBuffer h f).handles.get? k =
      if h = k then
        (l.handles.get? k).map (fun x => { x with buffer := x.buffer.map f })
      else l.handles.get? k :=
  get?_modifyHandle _ _ _ _

/-- A reference can be had of a handle that is there and not closing. -/
theorem acquire_eq_ok {l l' : Loop H} {h : HandleId} (hl : l.acquire h = .ok l') :
    ∃ x, l.handles.get? h = some x ∧ x.closing = false ∧
      l' = l.modifyHandle h fun x => { x with refs := x.refs + 1 } := by
  unfold acquire at hl
  split at hl
  case h_1 => cases hl
  case h_2 x hx =>
    split at hl
    case isTrue => cases hl
    case isFalse hc => exact ⟨x, hx, Bool.eq_false_iff.2 hc, (Except.ok.inj hl).symm⟩

/-- A reference to a handle that is there is refused only when the handle closes. -/
theorem acquire_eq_error {l : Loop H} {h : HandleId} {x : Handle H.Closure} {e : LoopError}
    (found : l.handles.get? h = some x) (refused : l.acquire h = .error e) :
    e = .closing h ∧ x.closing = true := by
  unfold acquire at refused
  simp only [found] at refused
  split at refused
  case isTrue marked => exact ⟨(Except.error.inj refused).symm, marked⟩
  case isFalse => cases refused

/-- Taking a reference counts it and changes nothing else. -/
theorem get?_acquire {l l' : Loop H} {h : HandleId} {x : Handle H.Closure}
    (found : l.handles.get? h = some x) (taken : l.acquire h = .ok l') (k : HandleId) :
    l'.handles.get? k = if h = k then some { x with refs := x.refs + 1 } else l.handles.get? k := by
  obtain ⟨y, hy, -, rfl⟩ := acquire_eq_ok taken
  obtain rfl : x = y := Option.some.inj (found.symm.trans hy)
  exact get?_modifyHandle_of_some found _ k

/-- Giving a reference back discounts it; the last one of a closing handle makes the handle due. -/
theorem release_of_found {l : Loop H} {h : HandleId} {x : Handle H.Closure}
    (found : l.handles.get? h = some x) (used : x.refs ≠ 0) :
    (l.release h).breach = l.breach ∧
      (l.release h).closing = l.closing ++ (if x.refs = 1 ∧ x.closing then [h] else []) ∧
      ∀ k, (l.release h).handles.get? k =
        if h = k then some { x with refs := x.refs - 1 } else l.handles.get? k := by
  unfold release
  simp only [found, if_neg used]
  split
  case isTrue => exact ⟨rfl, by simp, get?_modifyHandle_of_some found _⟩
  case isFalse => exact ⟨rfl, by simp, get?_modifyHandle_of_some found _⟩

/-- The end of a read session in the handle: its reference is gone. -/
theorem endReading_of_found {l : Loop H} {h : HandleId} {x : Handle H.Closure}
    (T : Transport H.Net H.Script) (next : ReadState) (found : l.handles.get? h = some x)
    (used : x.isReading → x.refs ≠ 0) :
    (l.endReading T h next).breach = l.breach ∧
      (l.endReading T h next).closing = l.closing ++
        (if x.isReading ∧ x.refs = 1 ∧ x.closing then [h] else []) ∧
      ∀ k, (l.endReading T h next).handles.get? k =
        if h = k then some { x with read := next, refs := x.refs - if x.isReading then 1 else 0 }
        else l.handles.get? k := by
  have modified := get?_modifyHandle_of_some found ({ · with read := next })
  unfold endReading
  simp only [found]
  split
  case isTrue reading =>
    have stopped :
        ((l.modifyHandle h ({ · with read := next })).ask (T.readStop h)).2.handles.get? h =
        some { x with read := next } := by
      simpa using modified h
    obtain ⟨breach, closing, handles⟩ := release_of_found stopped (used reading)
    refine ⟨breach, by simpa [reading] using closing, fun k => ?_⟩
    rw [handles]
    split
    case isTrue => rfl
    case isFalse hk => simpa [hk] using modified k
  case isFalse idle => exact ⟨rfl, by simp [idle], by simpa [idle] using modified⟩

/-- The end of listening in the handle: its reference is gone. -/
theorem endListening_of_found {l : Loop H} {h : HandleId} {x : Handle H.Closure}
    (found : l.handles.get? h = some x) (used : x.listenRef → x.refs ≠ 0) :
    (l.endListening h).breach = l.breach ∧
      (l.endListening h).closing = l.closing ++
        (if x.listenRef ∧ x.refs = 1 ∧ x.closing then [h] else []) ∧
      ∀ k, (l.endListening h).handles.get? k =
        if h = k then
          some { x with listenRef := false, refs := x.refs - if x.listenRef then 1 else 0 }
        else l.handles.get? k := by
  have modified := get?_modifyHandle_of_some found ({ · with listenRef := false })
  unfold endListening
  simp only [found]
  split
  case isTrue listening =>
    have silent : (l.modifyHandle h ({ · with listenRef := false })).handles.get? h =
        some { x with listenRef := false } := by
      simpa using modified h
    obtain ⟨breach, closing, handles⟩ := release_of_found silent (used listening)
    refine ⟨breach, by simpa [listening] using closing, fun k => ?_⟩
    rw [handles]
    split
    case isTrue => rfl
    case isFalse hk => simpa [hk] using modified k
  case isFalse idle =>
    refine ⟨rfl, by simp [idle], fun k => ?_⟩
    split
    case isTrue hk =>
      have same : x.listenRef = false := by simpa using idle
      rw [← hk, found]
      simp [← same]
    case isFalse => rfl

/-- A handle is marked; without a reference it is due at once. -/
theorem markClosing_of_found {l : Loop H} {h : HandleId} {x : Handle H.Closure}
    (found : l.handles.get? h = some x) :
    (l.markClosing h).closing = l.closing ++ (if x.refs = 0 then [h] else []) ∧
      ∀ k, (l.markClosing h).handles.get? k =
        if h = k then some { x with closing := true } else l.handles.get? k := by
  unfold markClosing
  simp only [found]
  split
  case isTrue => exact ⟨rfl, get?_modifyHandle_of_some found _⟩
  case isFalse => exact ⟨by simp, get?_modifyHandle_of_some found _⟩

/-! ## The numbers of the handles -/

/-- Changing a handle neither adds nor removes one. -/
@[simp] theorem ids_modifyHandle (l : Loop H) (h : HandleId)
    (f : Handle H.Closure → Handle H.Closure) :
    (l.modifyHandle h f).handles.ids = l.handles.ids := by
  refine Registry.ids_congr fun k => ?_
  rw [get?_modifyHandle]
  split <;> simp

/-- Changing a buffer neither adds nor removes a handle. -/
@[simp] theorem ids_modifyBuffer (l : Loop H) (h : HandleId) (f : ReadBuffer → ReadBuffer) :
    (l.modifyBuffer h f).handles.ids = l.handles.ids :=
  l.ids_modifyHandle h fun x => { x with buffer := x.buffer.map f }

/-- Giving a reference back neither adds nor removes a handle. -/
@[simp] theorem ids_release (l : Loop H) (h : HandleId) :
    (l.release h).handles.ids = l.handles.ids := by
  unfold release
  split
  case h_1 => rfl
  case h_2 =>
    split
    case isTrue => rfl
    case isFalse =>
      simp only
      split <;> exact ids_modifyHandle ..

/-- Marking a handle as closing neither adds nor removes one. -/
@[simp] theorem ids_markClosing (l : Loop H) (h : HandleId) :
    (l.markClosing h).handles.ids = l.handles.ids := by
  unfold markClosing
  split
  case h_1 => rfl
  case h_2 =>
    simp only
    split <;> exact ids_modifyHandle ..

/-- The end of a read session neither adds nor removes a handle. -/
@[simp] theorem ids_endReading (T : Transport H.Net H.Script) (l : Loop H) (h : HandleId)
    (next : ReadState) :
    (l.endReading T h next).handles.ids = l.handles.ids := by
  unfold endReading
  split
  case h_1 => rfl
  case h_2 =>
    simp only
    split
    case isTrue => exact (ids_release _ h).trans (ids_modifyHandle l h _)
    case isFalse => exact ids_modifyHandle ..

/-- The end of listening neither adds nor removes a handle. -/
@[simp] theorem ids_endListening (l : Loop H) (h : HandleId) :
    (l.endListening h).handles.ids = l.handles.ids := by
  unfold endListening
  split
  case h_1 => rfl
  case h_2 =>
    split
    case isTrue => exact (ids_release _ h).trans (ids_modifyHandle l h _)
    case isFalse => rfl

end Reactor.Loop

namespace Reactor.Machine

open Loop

variable {H : Host}

/-- Filling a buffer leaves the other tables, the queues and the transport alone. -/
@[simp] theorem fillBuffer_frame (l : Loop H) (h : HandleId) (b : ReadBuffer) (bytes : List UInt8) :
    (fillBuffer l h b bytes).options = l.options ∧
      (fillBuffer l h b bytes).handles.next = l.handles.next ∧
      (fillBuffer l h b bytes).requests = l.requests ∧
      (fillBuffer l h b bytes).listeners = l.listeners ∧ (fillBuffer l h b bytes).net = l.net ∧
      (fillBuffer l h b bytes).deferred = l.deferred ∧
      (fillBuffer l h b bytes).closing = l.closing ∧ (fillBuffer l h b bytes).settled = l.settled ∧
      (fillBuffer l h b bytes).breach = l.breach :=
  ⟨rfl, rfl, rfl, rfl, rfl, rfl, rfl, rfl, rfl⟩

/-- Exposing a buffer leaves the other tables, the queues and the transport alone. -/
@[simp] theorem expose_frame (l : Loop H) (h : HandleId) (exposed : Bool) :
    (expose l h exposed).options = l.options ∧ (expose l h exposed).handles.next = l.handles.next ∧
      (expose l h exposed).requests = l.requests ∧ (expose l h exposed).listeners = l.listeners ∧
      (expose l h exposed).net = l.net ∧ (expose l h exposed).deferred = l.deferred ∧
      (expose l h exposed).closing = l.closing ∧ (expose l h exposed).settled = l.settled ∧
      (expose l h exposed).breach = l.breach :=
  ⟨rfl, rfl, rfl, rfl, rfl, rfl, rfl, rfl, rfl⟩

/-- Taking a handle out of its table leaves the other tables, the queues and the transport alone. -/
@[simp] theorem takeHandle_frame (l : Loop H) (h : HandleId) (x : Handle H.Closure) :
    (takeHandle l h x).options = l.options ∧ (takeHandle l h x).handles = l.handles.remove h ∧
      (takeHandle l h x).requests = l.requests ∧ (takeHandle l h x).listeners = l.listeners ∧
      (takeHandle l h x).net = l.net ∧ (takeHandle l h x).deferred = l.deferred ∧
      (takeHandle l h x).closing = l.closing ∧ (takeHandle l h x).settled = l.settled ∧
      (takeHandle l h x).breach = l.breach :=
  ⟨rfl, rfl, rfl, rfl, rfl, rfl, rfl, rfl, rfl⟩

/-- Settling a shutdown leaves the other tables, the queues and the transport alone. -/
@[simp] theorem settleShutdown_frame (l : Loop H) (h : HandleId) (ok : Bool) :
    (settleShutdown l h ok).options = l.options ∧
      (settleShutdown l h ok).handles.next = l.handles.next ∧
      (settleShutdown l h ok).requests = l.requests ∧
      (settleShutdown l h ok).listeners = l.listeners ∧ (settleShutdown l h ok).net = l.net ∧
      (settleShutdown l h ok).deferred = l.deferred ∧ (settleShutdown l h ok).closing = l.closing ∧
      (settleShutdown l h ok).settled = l.settled ∧ (settleShutdown l h ok).breach = l.breach := by
  unfold settleShutdown
  split
  case h_1 x _ => split <;> simp
  case h_2 => simp

/-- Settling a shutdown neither adds nor removes a handle. -/
@[simp] theorem ids_settleShutdown (l : Loop H) (h : HandleId) (ok : Bool) :
    (settleShutdown l h ok).handles.ids = l.handles.ids := by
  unfold settleShutdown
  split
  case h_1 =>
    split
    case isTrue => exact ids_modifyHandle ..
    case isFalse => rfl
  case h_2 => rfl

/-- Settling a shutdown touches no buffer of a handle that is gone. -/
@[simp] theorem kept_settleShutdown (l : Loop H) (h : HandleId) (ok : Bool) :
    (settleShutdown l h ok).kept = l.kept := by
  unfold settleShutdown
  split
  case h_1 => split <;> rfl
  case h_2 => rfl

end Reactor.Machine
