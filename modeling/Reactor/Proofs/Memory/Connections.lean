import Reactor.Proofs.Memory.Places

/-!
# Connections that wait on a transport in memory

What is done for a stream that is connected touches no connection: those that wait are still
waiting, and what finishes is a request.
-/

namespace Reactor.Memory

variable {m m' m'' : Memory} {h : HandleId}

/-- No connection comes or goes. -/
structure Secluded (m m' : Memory) : Prop where
  waiting : ∀ k, (m'.endpoint k).waiting = (m.endpoint k).waiting
  finished : ∃ done, m'.finished.toList = m.finished.toList ++ done ∧ ∀ d ∈ done, d.report?.isSome

namespace Secluded

/-- A change of neither endpoints nor what has finished. -/
theorem of_eq (endpoint : m'.endpoint = m.endpoint) (finished : m'.finished = m.finished) :
    m.Secluded m' :=
  ⟨fun k => by rw [endpoint], [], by simp [finished], by simp⟩

/-- Doing nothing brings no connection. -/
theorem refl (m : Memory) : m.Secluded m := of_eq rfl rfl

/-- Two moves that bring no connection bring none together. -/
theorem trans (first : m.Secluded m') (second : m'.Secluded m'') : m.Secluded m'' := by
  obtain ⟨done, finished, requests⟩ := first.finished
  obtain ⟨more, finished', requests'⟩ := second.finished
  refine ⟨fun k => (second.waiting k).trans (first.waiting k), done ++ more,
    by simp [finished, finished'], ?_⟩
  intro d hd
  exact (List.mem_append.1 hd).elim (requests d) (requests' d)

/-- Changing an endpoint brings no connection when as many wait there as before. -/
theorem update {f : Endpoint → Endpoint} (same : ∀ e, (f e).waiting = e.waiting) :
    m.Secluded (m.update h f) := by
  refine ⟨fun k => ?_, [], by simp, by simp⟩
  rw [endpoint_update]
  split
  case isTrue hk => rw [same, hk]
  case isFalse => rfl

/-- It does not matter what a reply answers. -/
theorem quiet {α : Type} (secluded : m.Secluded m') (answer : α) :
    m.Secluded (Memory.quiet answer m').net := secluded

/-- Requests finish. -/
theorem finish {α : Type} (secluded : m.Secluded m') (answer : α) {done : List Completion}
    (requests : ∀ d ∈ done, d.report?.isSome) : m.Secluded (Memory.finish answer done m').net := by
  refine secluded.trans ⟨fun k => by rw [endpoint_finish], done, finished_finish _ _ _, requests⟩

/-- Starting or stopping to read brings no connection. -/
theorem setReading (reading : Bool) : m.Secluded (Memory.setReading reading h m).net := by
  apply quiet
  apply update
  exact fun _ => rfl

/-- Reading brings no connection. -/
theorem read (w : Waker) (size : Nat) : m.Secluded (Memory.read w h size m).net := by
  unfold Memory.read
  simp only
  split
  case isTrue => exact .refl _
  case isFalse =>
    split
    case h_1 => exact of_eq rfl rfl
    case h_2 | h_3 | h_4 =>
      apply quiet
      apply update
      exact fun _ => rfl

/-- A write brings no connection. -/
theorem write (req : RequestId) (data : List UInt8) :
    m.Secluded (Memory.write req h data m).net := by
  have request (outcome : Outcome) : ∀ d ∈ [Completion.write req outcome], d.report?.isSome := by
    simp [Completion.report?]
  unfold Memory.write
  split
  case h_1 => exact of_eq rfl rfl
  case h_2 =>
    split
    case isTrue =>
      apply quiet
      apply update
      exact fun _ => rfl
    case isFalse =>
      split
      case h_1 =>
        refine finish ?_ _ (request _)
        exact of_eq rfl rfl
      case h_2 =>
        refine finish ?_ _ (request _)
        apply update
        exact fun _ => rfl

/-- A shutdown brings no connection. -/
theorem shutdown (req : RequestId) : m.Secluded (Memory.shutdown req h m).net := by
  have request (outcome : Outcome) : ∀ d ∈ [Completion.shutdown req outcome], d.report?.isSome := by
    simp [Completion.report?]
  unfold Memory.shutdown
  split
  case h_1 =>
    refine finish ?_ _ (request _)
    exact of_eq rfl rfl
  case h_2 =>
    split
    case isTrue =>
      refine finish ?_ _ (request _)
      apply update
      exact fun _ => rfl
    case isFalse =>
      apply quiet
      apply update
      exact fun _ => rfl

/-- A close brings no connection. -/
theorem close : m.Secluded (Memory.close h m).net := by
  have requests : ∀ d ∈ releaseHeld (m.endpoint h) (.error .ecanceled), d.report?.isSome :=
      fun d hd => by
    rcases mem_releaseHeld.1 hd with ⟨p, -, rfl⟩ | ⟨req, -, rfl⟩ <;> rfl
  refine finish ?_ _ requests
  apply update
  exact fun _ => rfl

end Secluded

/-- A connection that waits is taken. -/
theorem accept_answer (waits : (m.endpoint h).waiting ≠ 0) :
    (Memory.accept h m).answer = .ok () := by
  rw [Memory.accept, if_neg waits]
  rfl

/-- Accepting takes one of the connections that wait. -/
theorem waiting_accept (waits : (m.endpoint h).waiting ≠ 0) :
    ((Memory.accept h m).net.endpoint h).waiting + 1 = (m.endpoint h).waiting := by
  rw [Memory.accept, if_neg waits]
  change ((m.update h _).endpoint h).waiting + 1 = _
  rw [endpoint_update, if_pos rfl]
  exact Nat.succ_pred_eq_of_ne_zero waits

/-- Accepting finishes nothing. -/
theorem finished_accept : (Memory.accept h m).net.finished = m.finished := by
  unfold Memory.accept
  split <;> rfl

end Reactor.Memory
