import Reactor.Proofs.Memory.Drained

/-!
# The pieces in which a transport in memory is read

Read by read a chunk comes in pieces of the size of the buffer, the last one shorter; the end of
the stream and an error come whole. A read takes the first piece of what has arrived for its
handle and leaves the others. A session takes the pieces up to the first end of the stream or
error, with which it ends.
-/

namespace Reactor

/-- Bytes cut into pieces of a size, the last one shorter. -/
def cut (size : Nat) (bytes : List UInt8) : List (List UInt8) :=
  (List.range ((bytes.length + size - 1) / size)).map fun i => (bytes.drop (i * size)).take size

/-- Nothing is cut into no pieces. -/
theorem cut_nil {size : Nat} (room : 0 < size) : cut size [] = [] := by
  have none : (0 + size - 1) / size = 0 := Nat.div_eq_of_lt (by omega)
  rw [cut, List.length_nil, none]
  rfl

/-- The first piece is as large as it can be, and the rest is cut in the same way. -/
theorem cut_eq_cons {size : Nat} (room : 0 < size) {bytes : List UInt8} (some : bytes ≠ []) :
    cut size bytes = bytes.take size :: cut size (bytes.drop size) := by
  have long := List.length_pos_iff.2 some
  have one_more : (bytes.length + size - 1) / size =
      (bytes.length - size + size - 1) / size + 1 := by
    rcases Nat.le_total size bytes.length with le | ge
    · rw [← Nat.add_div_right _ room]
      congr 1
      omega
    · rw [Nat.sub_eq_zero_of_le ge, Nat.div_eq_of_lt (by omega : 0 + size - 1 < size)]
      exact Nat.div_eq_of_lt_le (by omega) (by omega)
  rw [cut, one_more, List.range_succ_eq_map, List.map_cons, List.map_map, cut, List.length_drop]
  simp [Function.comp_def, Nat.succ_mul, Nat.add_comm]

/-- A chunk of ten bytes is read through a buffer of four in three reads. -/
example : cut 4 [0, 1, 2, 3, 4, 5, 6, 7, 8, 9] = [[0, 1, 2, 3], [4, 5, 6, 7], [8, 9]] := by decide

/-- The events that reads of a size make of something that has arrived, one for each piece. -/
def Incoming.pieces (size : Nat) : Incoming → List Event
  | .data bytes => (cut size bytes).map .data
  | .eof => [.endOfStream]
  | .failed status => [.error ⟨status, "on_read"⟩]

/-- The event that a read makes of its answer, if it has found anything. -/
def ReadStatus.event? : ReadStatus → List UInt8 → Option Event
  | .pending, _ => none
  | .data _, bytes => some (.data bytes)
  | .eof, _ => some .endOfStream
  | .failed status, _ => some (.error ⟨status, "on_read"⟩)

/-- Whether a read can make an event. -/
def Event.isRead : Event → Bool
  | .data _ | .endOfStream | .error _ => true
  | _ => false

/-- Whether a read session ends with an event. -/
def Event.endsSession : Event → Bool
  | .endOfStream | .error _ => true
  | _ => false

/-- The events up to the first with which a read session ends, and that one. -/
def throughEnd : List Event → List Event
  | [] => []
  | e :: rest => e :: if e.endsSession then [] else throughEnd rest

/-- The events up to the end of a session come first. -/
theorem throughEnd_eq_take (events : List Event) :
    throughEnd events = events.take (throughEnd events).length := by
  induction events with
  | nil => rfl
  | cons e rest ih =>
    rw [throughEnd]
    split
    case isTrue => rfl
    case isFalse => rw [List.length_cons, List.take_succ_cons, ← ih]

namespace Memory

/-- What has arrived for a handle, in pieces of a size. -/
def pieces (size : Nat) (m : Memory) (h : HandleId) : List Event :=
  (m.endpoint h).incoming.flatMap (Incoming.pieces size)

variable {m m' : Memory} {h k : HandleId} {size : Nat} {w : Waker}

/-- The pieces depend on nothing but what has arrived. -/
theorem pieces_congr (same : (m'.endpoint k).incoming = (m.endpoint k).incoming) :
    m'.pieces size k = m.pieces size k := by
  rw [pieces, same, pieces]

/-- A read of a handle that reads takes the first piece, if there is one. -/
theorem pieces_read (solid : m.Solid) (room : 0 < size) (reading : (m.endpoint h).reading = true) :
    m.pieces size h = ((read w h size m).answer.1.event? (read w h size m).answer.2).toList ++
      (read w h size m).net.pieces size h := by
  have taken (rest : List Incoming) :
      (m.update h ({ · with incoming := rest })).pieces size h = rest.flatMap (·.pieces size) := by
    rw [pieces, endpoint_update, if_pos rfl]
  unfold read
  simp only [reading, Bool.not_true, Bool.false_eq_true, if_false]
  cases here : (m.endpoint h).incoming with
  | nil =>
    change m.pieces size h = [] ++ m.pieces size h
    rfl
  | cons i rest =>
    rw [pieces, here, List.flatMap_cons]
    cases i with
    | eof | failed =>
      change _ = _ ++ (m.update h _).pieces size h
      rw [taken]
      rfl
    | data bytes =>
      have some : bytes ≠ [] := fun none => solid h (by rw [here, none]; exact List.mem_cons_self)
      change _ = [Event.data (bytes.take size)] ++ (m.update h _).pieces size h
      rw [taken, Incoming.pieces, cut_eq_cons room some, List.map_cons, List.cons_append,
        List.singleton_append]
      split
      case isTrue none => rw [List.isEmpty_iff.1 none, cut_nil room]; rfl
      case isFalse => rfl

/-- A read takes nothing of other handles. -/
theorem incoming_read_other (other : k ≠ h) :
    ((read w h size m).net.endpoint k).incoming = (m.endpoint k).incoming := by
  have taken (rest : List Incoming) :
      ((m.update h ({ · with incoming := rest })).endpoint k).incoming =
        (m.endpoint k).incoming := by
    rw [endpoint_update, if_neg other]
  unfold read
  simp only
  split
  case isTrue => rfl
  case isFalse =>
    split
    case h_1 => rfl
    case h_2 | h_3 | h_4 => exact taken _

/-! ## Sessions -/

/-- What a handle's read session has ahead of it: the pieces up to its end, if it is open. -/
def ahead (size : Nat) (m : Memory) (h : HandleId) : List Event :=
  if (m.endpoint h).reading then throughEnd (m.pieces size h) else []

/-- Of each handle's session as many pieces were taken as are said, or all,
and the others are left. -/
structure Took (size : Nat) (m : Memory) (n : HandleId → Nat) (m' : Memory) : Prop where
  ahead : ∀ k, m'.ahead size k = (m.ahead size k).drop (n k)
  pieces : ∀ k, m'.pieces size k = (m.pieces size k).drop (min (n k) (m.ahead size k).length)
  solid : m'.Solid

namespace Took

variable {m'' : Memory} {n n' : HandleId → Nat}

/-- What was taken in two turns was taken together. -/
theorem trans (first : m.Took size n m') (second : m'.Took size n' m'') :
    m.Took size (fun k => n k + n' k) m'' where
  ahead k := by rw [second.ahead, first.ahead, List.drop_drop]
  pieces k := by
    rw [second.pieces, first.pieces, first.ahead, List.drop_drop, List.length_drop]
    congr 1
    omega
  solid := second.solid

/-- Where nothing is ahead it does not matter how much is taken. -/
theorem congr (took : m.Took size n m') (same : ∀ k, m.ahead size k ≠ [] → n' k = n k) :
    m.Took size n' m' where
  ahead k := by
    by_cases none : m.ahead size k = []
    · rw [took.ahead, none, List.drop_nil, List.drop_nil]
    · rw [took.ahead, same k none]
  pieces k := by
    by_cases none : m.ahead size k = []
    · rw [took.pieces, none, List.length_nil, Nat.min_zero, Nat.min_zero]
    · rw [took.pieces, same k none]
  solid := took.solid

/-- Nothing was taken where nothing happened. -/
theorem refl (solid : m.Solid) : m.Took size (fun _ => 0) m :=
  ⟨fun _ => rfl, fun k => by simp, solid⟩

/-- One handle is read from, and the others are left as they are. -/
theorem of_one (solid : m'.Solid)
    (elsewhere : ∀ k, k ≠ h → (m'.endpoint k).incoming = (m.endpoint k).incoming ∧
      (m'.endpoint k).reading = (m.endpoint k).reading)
    (ahead : m'.ahead size h = (m.ahead size h).drop 1)
    (pieces : m'.pieces size h = (m.pieces size h).drop (min 1 (m.ahead size h).length)) :
    m.Took size (fun k => if k = h then 1 else 0) m' where
  ahead k := by
    by_cases same : k = h
    · subst same
      simpa using ahead
    · rw [if_neg same, List.drop_zero, Memory.ahead, Memory.ahead, (elsewhere k same).2,
        pieces_congr (elsewhere k same).1]
  pieces k := by
    by_cases same : k = h
    · subst same
      simpa using pieces
    · rw [if_neg same, Nat.zero_min, List.drop_zero, pieces_congr (elsewhere k same).1]
  solid := solid

end Took

/-- What a read leaves once the end that it may have found has closed the session. -/
def afterRead (h : HandleId) (found : Option Event) (m : Memory) : Memory :=
  if found.any (·.endsSession) then (setReading false h m).net else m

/-- A read of a handle that reads takes the first piece of its session. -/
theorem took_read (solid : m.Solid) (room : 0 < size) (reading : (m.endpoint h).reading = true)
    {status : ReadStatus} {bytes : List UInt8} (read : (read w h size m).answer = (status, bytes)) :
    (m.ahead size h).head? = status.event? bytes ∧
      m.Took size (fun k => if k = h then 1 else 0)
        (afterRead h (status.event? bytes) (Memory.read w h size m).net) := by
  have split := pieces_read (w := w) solid room reading
  have left := solid.read w h size
  have others (k : HandleId) (other : k ≠ h) :
      ((Memory.read w h size m).net.endpoint k).incoming = (m.endpoint k).incoming :=
        incoming_read_other other
  have stays (k : HandleId) :
      ((Memory.read w h size m).net.endpoint k).reading = (m.endpoint k).reading :=
    ((read_like w h size m).2 k).reading
  rw [read] at split
  have opened : m.ahead size h = throughEnd (m.pieces size h) := if_pos reading
  cases found : status.event? bytes with
  | none =>
    have pending : status = .pending := by cases status <;> first | rfl | cases found
    obtain ⟨none, -⟩ := nothing_of_read solid room reading read (.inl pending)
    have nothing : m.pieces size h = [] := by rw [pieces, none]; rfl
    have ended : m.ahead size h = [] := by rw [opened, nothing]; rfl
    have rest : (Memory.read w h size m).net.pieces size h = [] := by
      rw [found] at split; exact split.symm.trans nothing
    refine ⟨by rw [ended]; rfl, .of_one left (fun k other => ⟨others k other, stays k⟩) ?_ ?_⟩
    · change Memory.ahead size (Memory.read w h size m).net h = _
      rw [ended, ahead, rest, throughEnd, ite_self, List.drop_nil]
    · exact rest.trans (by rw [nothing, List.drop_nil])
  | some e =>
    rw [found] at split
    have split : m.pieces size h = e :: (Memory.read w h size m).net.pieces size h := split
    have first : m.ahead size h = e :: if e.endsSession then []
        else throughEnd ((Memory.read w h size m).net.pieces size h) := by
      rw [opened, split, throughEnd]
    refine ⟨by rw [first]; rfl, ?_⟩
    have one : min 1 (m.ahead size h).length = 1 := by rw [first, List.length_cons]; omega
    rw [afterRead, Option.any_some]
    cases ends : e.endsSession with
    | false =>
      rw [ends] at first
      refine .of_one left (fun k other => ⟨others k other, stays k⟩) ?_ ?_
      · rw [first, ahead]
        simp [stays, reading]
      · rw [one, split]
        rfl
    | true =>
      rw [ends] at first
      have closes (k : HandleId) :
          ((setReading false h (Memory.read w h size m).net).net.endpoint k).incoming =
          ((Memory.read w h size m).net.endpoint k).incoming := incoming_setReading false
      rw [if_pos rfl]
      refine .of_one (left.keep fun k => .inl (closes k))
        (fun k other => ⟨(closes k).trans (others k other), ?_⟩) ?_ ?_
      · rw [← stays, setReading, quiet_net, endpoint_update, if_neg other]
      · rw [first, ahead, setReading, quiet_net, endpoint_update, if_pos rfl]
        rfl
      · rw [one, split]
        exact pieces_congr (closes h)

end Memory

end Reactor
