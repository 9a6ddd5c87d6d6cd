import Reactor.Proofs.Memory.Ledger

/-!
# Bytes that a transport in memory has accepted

As long as no fault waits, the bytes of a write are accepted as soon as the write is issued: they
are written at once, or held back until a flush writes them behind all that was accepted before.
Nothing but a close takes any of them back.
-/

namespace Reactor

/-- The bytes of the writes that are held back. -/
def Endpoint.heldBytes (e : Endpoint) : List UInt8 := (e.held.toList.map (·.2)).flatten

/-- The bytes that were written, and those that will be. -/
def Endpoint.accepted (e : Endpoint) : List UInt8 := e.written ++ e.heldBytes

/-- Where nothing is written and the same is held back, the same is accepted. -/
theorem Endpoint.accepted_of_calm {e e' : Endpoint} (calm : e.Calm e') :
    e'.accepted = e.accepted := by
  rw [accepted, accepted, written, written, heldBytes, heldBytes, calm.sent, calm.held]

/-- Where nothing is held back, what is accepted has been written. -/
theorem Endpoint.accepted_of_empty {e : Endpoint} (none : e.held.toList = []) :
    e.accepted = e.written := by
  rw [accepted, heldBytes, none]
  exact List.append_nil _

namespace Memory

/-- The scripts by which nothing goes wrong. -/
def Script.benign : Script → Bool
  | .pushConnection _ | .pushData .. | .pushEof _ | .holdWrites | .flushWrites => true
  | _ => false

/-- No fault waits for a write or a shutdown. -/
structure Faultless (m : Memory) : Prop where
  writeRefusal : m.writeRefusal = none
  writeFault : m.writeFault = none
  shutdownFault : m.shutdownFault = none

/-- What was accepted still is, with more bytes on some handles, and some completions are new. -/
structure Accepts (m m' : Memory) (more : HandleId → List UInt8) (done : List Completion) :
    Prop where
  accepted : ∀ k, (m'.endpoint k).accepted = (m.endpoint k).accepted ++ more k
  shut : ∀ k, (m.endpoint k).shut = true → (m'.endpoint k).shut = true
  faultless : m'.Faultless
  finished : m'.finished.toList = m.finished.toList ++ done

/-- No bytes for any handle. -/
def nothing : HandleId → List UInt8 := fun _ => []

variable {m m' m'' : Memory} {h : HandleId} {more more' : HandleId → List UInt8}
  {done done' : List Completion}

namespace Faultless

/-- Changing an endpoint injects no fault. -/
theorem update (f : m.Faultless) (g : Endpoint → Endpoint) : (m.update h g).Faultless :=
  ⟨f.writeRefusal, f.writeFault, f.shutdownFault⟩

/-- Handing over completions injects no fault. -/
theorem finish {α : Type} (f : m.Faultless) (answer : α) (done : List Completion) :
    (Memory.finish answer done m).net.Faultless := by
  unfold Memory.finish
  split
  case isTrue => exact f
  case isFalse => exact ⟨f.writeRefusal, f.writeFault, f.shutdownFault⟩

end Faultless

namespace Accepts

/-- A calm move accepts nothing. -/
theorem of_calm (calm : m.Calm m') (faultless : m'.Faultless)
    (finished : m'.finished.toList = m.finished.toList ++ done) :
    m.Accepts m' nothing done where
  accepted k := by rw [Endpoint.accepted_of_calm (calm.endpoint k), nothing, List.append_nil]
  shut k := (calm.endpoint k).shut
  faultless := faultless
  finished := finished

/-- Doing nothing accepts nothing. -/
theorem refl (f : m.Faultless) : m.Accepts m nothing [] :=
  of_calm (.refl m) f (List.append_nil _).symm

/-- What two moves accept, one after the other, both accept together. -/
theorem trans (first : m.Accepts m' more done) (second : m'.Accepts m'' more' done') :
    m.Accepts m'' (fun k => more k ++ more' k) (done ++ done') where
  accepted k := by rw [second.accepted, first.accepted, List.append_assoc]
  shut k := second.shut k ∘ first.shut k
  faultless := second.faultless
  finished := by rw [second.finished, first.finished, List.append_assoc]

/-- Changing an endpoint calmly accepts nothing. -/
theorem update (f : m.Faultless) {g : Endpoint → Endpoint}
    (same : (m.endpoint h).Calm (g (m.endpoint h))) :
    m.Accepts (m.update h g) nothing [] :=
      of_calm (.update same) (f.update g) (List.append_nil _).symm

/-- It does not matter what a reply answers. -/
theorem quiet {α : Type} (accepts : m.Accepts m' more done) (answer : α) :
    m.Accepts (Memory.quiet answer m').net more done := accepts

/-- Some of what was asked for is done. -/
theorem finish {α : Type} (accepts : m.Accepts m' more []) (answer : α) (done : List Completion) :
    m.Accepts (Memory.finish answer done m').net more done where
  accepted k := by rw [endpoint_finish]; exact accepts.accepted k
  shut k := by rw [endpoint_finish]; exact accepts.shut k
  faultless := accepts.faultless.finish answer done
  finished := by rw [finished_finish, accepts.finished, List.append_nil]

/-- Starting or stopping to read accepts nothing. -/
theorem setReading (f : m.Faultless) (reading : Bool) :
    m.Accepts (Memory.setReading reading h m).net nothing [] := by
  refine quiet (update f ?_) _
  exact ⟨rfl, rfl, rfl, id, .inl⟩

/-- Taking a connection accepts nothing. -/
theorem accept (f : m.Faultless) : m.Accepts (Memory.accept h m).net nothing [] := by
  unfold Memory.accept
  split
  case isTrue => exact .refl f
  case isFalse =>
    refine quiet (update f ?_) _
    exact ⟨rfl, rfl, rfl, id, .inl⟩

/-- Reading accepts nothing. -/
theorem read (f : m.Faultless) (w : Waker) (size : Nat) :
    m.Accepts (Memory.read w h size m).net nothing [] := by
  unfold Memory.read
  simp only
  split
  case isTrue => exact .refl f
  case isFalse =>
    split
    case h_1 =>
      refine of_calm ⟨fun _ => .refl _, id⟩ ?_ (List.append_nil _).symm
      exact ⟨f.writeRefusal, f.writeFault, f.shutdownFault⟩
    case h_2 | h_3 | h_4 =>
      refine quiet (update f ?_) _
      exact ⟨rfl, rfl, rfl, id, .inl⟩

/-- A close takes nothing back when nothing is held back. -/
theorem close (f : m.Faultless) (none : (m.endpoint h).held.toList = [])
    (slot : (m.endpoint h).heldShutdown = Option.none) :
    m.Accepts (Memory.close h m).net nothing [] := by
  have released : releaseHeld (m.endpoint h) (.error .ecanceled) = [] := by
    simp [releaseHeld, none, slot]
  unfold Memory.close
  simp only [released]
  refine finish ?_ _ _
  refine ⟨fun k => ?_, fun k => ?_, f.update _, (List.append_nil _).symm⟩
  · rw [endpoint_update]
    split
    case isTrue same =>
      subst same
      simp [Endpoint.accepted, Endpoint.written, Endpoint.heldBytes, none, nothing]
    case isFalse => exact (List.append_nil _).symm
  · rw [endpoint_update]
    split
    case isTrue same => subst same; exact id
    case isFalse => exact id

end Accepts

/-- Without faults a write is taken; its bytes come after all that was accepted before, provided
that only a transport that holds writes back has some to write. -/
theorem accepts_write (f : m.Faultless) (req : RequestId) (data : List UInt8)
    (holds : (m.endpoint h).held.toList ≠ [] → m.holding = true) :
    (write req h data m).answer = .ok () ∧
      ∃ done, m.Accepts (write req h data m).net (fun k => if h = k then data else []) done ∧
        ∀ d ∈ done, d = .write req (.ok ()) := by
  have more {g : Endpoint → Endpoint}
      (accepted : (g (m.endpoint h)).accepted = (m.endpoint h).accepted ++ data)
      (shut : (g (m.endpoint h)).shut = (m.endpoint h).shut) :
      m.Accepts (m.update h g) (fun k => if h = k then data else []) [] := by
    refine ⟨fun k => ?_, fun k => ?_, f.update g, (List.append_nil _).symm⟩
    · rw [endpoint_update]
      by_cases same : h = k
      · subst same
        simpa using accepted
      · simp [same, Ne.symm same]
    · rw [endpoint_update]
      split
      case isTrue same => subst same; rw [shut]; exact id
      case isFalse => exact id
  unfold write
  simp only [f.writeRefusal, f.writeFault]
  split
  case isTrue =>
    refine ⟨rfl, [], .quiet (more ?_ ?_) _, by simp⟩
    all_goals simp [Endpoint.accepted, Endpoint.written, Endpoint.heldBytes]
  case isFalse loose =>
    have none : (m.endpoint h).held.toList = [] :=
      Decidable.byContradiction fun some => loose (holds some)
    refine ⟨finish_answer _ _ _, _, .finish (more ?_ ?_) _ _, fun d hd => List.mem_singleton.1 hd⟩
    all_goals simp [Endpoint.accepted, Endpoint.written, Endpoint.heldBytes, none]

/-- Without faults a shutdown is taken, and what it reports it has done. -/
theorem accepts_shutdown (f : m.Faultless) (req : RequestId) :
    (shutdown req h m).answer = .ok () ∧ ∃ done, m.Accepts (shutdown req h m).net nothing done ∧
      ∀ d ∈ done, d = .shutdown req (.ok ()) ∧ ((shutdown req h m).net.endpoint h).shut = true := by
  unfold shutdown
  simp only [f.shutdownFault]
  split
  case isTrue empty =>
    rw [Queue.isEmpty_eq, List.isEmpty_iff] at empty
    refine ⟨finish_answer _ _ _, [.shutdown req (.ok ())], .finish (.update f ?_) _ _,
      fun d hd => ⟨List.mem_singleton.1 hd, ?_⟩⟩
    · exact ⟨rfl, rfl, rfl, fun _ => rfl, fun _ => .inr empty⟩
    · rw [endpoint_finish, endpoint_update, if_pos rfl]
  case isFalse =>
    refine ⟨rfl, [], .quiet (.update f ?_) _, by simp⟩
    exact ⟨rfl, rfl, rfl, id, .inl⟩

/-- A benign script takes nothing back. What it reports has gone well; a shutdown that it reports
has waited, and is done. -/
theorem accepts_perform (f : m.Faultless) {s : Script} (benign : s.benign = true) :
    ∃ done, m.Accepts (perform s m).net nothing done ∧
      ∀ d ∈ done, ∀ req outcome, d.report? = some (req, outcome) →
      outcome = .ok () ∧ (d = .shutdown req outcome → ∃ h, (m.endpoint h).heldShutdown = some req ∧
        ((perform s m).net.endpoint h).shut = true) := by
  cases s with
  | pushConnection server =>
    refine ⟨[.connection server (.ok ())], .finish (.update f ⟨rfl, rfl, rfl, id, .inl⟩) _ _,
      fun d hd => ?_⟩
    rw [List.mem_singleton.1 hd]
    intro req outcome report
    cases report
  | pushData | pushEof =>
    refine ⟨[], .of_calm (.perform (by simp)) ?_ (List.append_nil _).symm, by simp⟩
    exact ⟨f.writeRefusal, f.writeFault, f.shutdownFault⟩
  | holdWrites =>
    refine ⟨[], .of_calm (.perform (by simp)) ?_ (List.append_nil _).symm, by simp⟩
    exact ⟨f.writeRefusal, f.writeFault, f.shutdownFault⟩
  | flushWrites =>
    refine ⟨m.flushed, ⟨fun k => ?_, fun k => ?_, ?_, finished_finish _ _ _⟩,
      fun d hd req outcome report => ?_⟩
    · have flushed : (flush (m.endpoint k)).heldBytes = [] := rfl
      rw [endpoint_perform_flushWrites, Endpoint.accepted, written_flush, flushed, List.append_nil,
        nothing, List.append_nil]
      rfl
    · rw [endpoint_perform_flushWrites]
      intro shut
      rw [flush, shut, Bool.true_or]
    · refine Faultless.finish ?_ _ _
      exact ⟨f.writeRefusal, f.writeFault, f.shutdownFault⟩
    · obtain ⟨h, hd⟩ := mem_flushed hd
      rcases mem_releaseHeld.1 hd with ⟨p, -, rfl⟩ | ⟨req', waits, rfl⟩
      · cases report
        exact ⟨rfl, fun is => by cases is⟩
      · cases report
        refine ⟨rfl, fun _ => ⟨h, waits, ?_⟩⟩
        rw [endpoint_perform_flushWrites, flush, waits]
        exact Bool.or_true _
  | _ => cases benign

end Memory

end Reactor
