import Reactor.Proofs.Forgiving.Counterparts
import Reactor.Proofs.Loop.Effects

/-!
# The result of a tick

A tick that no handler starts again records the errors that reach it, of which the first one stays.
So the error that it returns is the first one that came up, and it returns none if none came up.
-/

namespace Reactor

variable {H : Host} {T : Transport H.Net H.Script} {enter : Handlers H}

/-- Whether a tick has returned. -/
def Control.hasTicked : Control H → Bool
  | .ticked _ => true
  | _ => false

/-- The error in the result of a tick is the one that the tick has noted. -/
theorem Tick.errorOf_result (t : Tick) : errorOf t.result = t.error := by
  unfold Tick.result
  cases t.error <;> rfl

namespace Machine

variable {x y : Machine H} {l : Loop H} {stack : List (Frame H)} {t : Tick} {e : Option LoopError}

/-- The suspended work stands on one tick, which has recorded this error. -/
inductive Solo (e : Option LoopError) : List (Frame H) → Prop where
  | tick {u : Tick} (recorded : u.error = e) : Solo e [.tick u]
  | above {f : Frame H} {below : List (Frame H)} (other : f.tick? = none) (solo : Solo e below) :
      Solo e (f :: below)

/-- The machine is at work on one tick, which has recorded this error, or the
tick has returned it. -/
inductive Recording (e : Option LoopError) : Machine H → Prop where
  | inside {l : Loop H} {stack : List (Frame H)} {c : Control H} (solo : Solo e stack)
      (going : c.hasTicked = false) :
    Recording e ⟨l, stack, c⟩
  | ended {l : Loop H} {result : Except LoopError Bool} (returned : errorOf result = e) :
      Recording e ⟨l, [], .ticked result⟩

/-- Below a frame that is no tick the only tick is the same. -/
theorem Solo.rest {f : Frame H} (solo : Solo e (f :: stack)) (other : f.tick? = none) :
    Solo e stack := by
  cases solo with
  | tick => cases other
  | above _ below => exact below

/-- A tick on top of a stack with only one is the whole stack, with its error. -/
theorem Solo.error (solo : Solo e (.tick t :: stack)) : stack = [] ∧ t.error = e := by
  cases solo with
  | tick recorded => exact ⟨rfl, recorded⟩
  | above other => cases other

/-- Telling an outcome records no error, so that a stack with only one tick stays recording. -/
theorem recording_deliver {l : Loop H} {req : RequestId} {h : HandleId}
    {callback : Callback H.Closure} {outcome : RequestOutcome} (solo : Solo e stack) :
    Recording e (deliver l stack req h callback outcome) := by
  cases callback with
  | closure => exact .inside (.above rfl solo) rfl
  | promise => exact .inside solo rfl

/-- A step in which no error reaches the tick leaves it with what it has recorded. -/
theorem Rule.recording_of_faultless (rule : Rule T enter x y) (solo : Solo e x.stack)
    (going : x.control.hasTicked = false) (calm : x.reenters = false)
    (faultless : x.fault? = none) : y.Recording e := by
  cases rule with
  | finish | ask | issue | refuseListen | script | survey | note | recallShared | update | enter =>
    exact .inside solo rfl
  | beginListen | emit => exact .inside (.above rfl solo) rfl
  | tick | runLoop | poll => cases calm
  | nextListener | beginParting | skipParting => exact .inside (.above rfl (solo.rest rfl)) rfl
  | endEmission | endDelivery | endConnect | endLoan | endParting | endListen | failListen =>
    exact .inside (solo.rest rfl) rfl
  | @noteResult l stack t failure =>
    obtain ⟨rfl, rfl⟩ := solo.error
    cases failure with
    | none => exact .inside (.tick rfl) rfl
    | some => cases faultless
  | refuseRead here found reading exposed =>
    simp [fault?, here, blocked, found, reading, exposed] at faultless
  | @endTick l stack t here =>
    obtain ⟨rfl, rfl⟩ := solo.error
    exact .ended t.errorOf_result
  | completeWrite | completeShutdown =>
    obtain ⟨rfl, rfl⟩ := solo.error
    exact recording_deliver (.tick rfl)
  | completeConnect | failConnect | readData | reclaim =>
    obtain ⟨rfl, rfl⟩ := solo.error
    exact .inside (.above rfl (.tick rfl)) rfl
  | collect | firstPass | nextPass | beginReclaims | skipReport | dropConnect | connection
    | dropConnection | skipRead | readNothing | readEof | readFailed | skipReclaim | breach =>
    obtain ⟨rfl, rfl⟩ := solo.error
    exact .inside (.tick rfl) rfl
  | ticked | runFailed | endRun | runAgain | pollFailed | endPoll | pausePoll => cases going

/-- A step records the error that reaches the tick, if none was recorded before. -/
theorem recording_of_step? (taken : x.step? T enter = some y) (recording : x.Recording e)
    (calm : x.reenters = false) :
    y.Recording (e.or x.fault?) := by
  obtain ⟨sound, rule⟩ := rule_of_step? taken
  cases recording with
  | ended => cases rule
  | @inside l stack c solo going =>
    -- an error comes up in two ways only: a result reaches the tick, or a buffer that is to be read
    -- into is lent out
    cases fault : fault? ⟨l, stack, c⟩ with
    | none =>
      rw [Option.or_none]
      exact rule.recording_of_faultless solo going calm fault
    | some e' =>
      unfold fault? at fault
      split at fault
      case h_1 failure t rest control above =>
        obtain rfl : c = _ := control
        obtain rfl : stack = _ := above
        obtain ⟨rfl, rfl⟩ := solo.error
        cases rule
        exact .inside (.tick (by rw [t.error_note, fault])) rfl
      case h_2 t rest control above =>
        obtain rfl : c = _ := control
        obtain rfl : stack = _ := above
        obtain ⟨rfl, rfl⟩ := solo.error
        split at fault
        case h_1 passes h left productive here =>
          split at fault
          case isFalse => cases fault
          case isTrue stuck =>
            cases fault
            obtain ⟨z, found, exposed⟩ := (Option.any_eq_true _ _).1 stuck
            obtain ⟨reading, exposed⟩ := Bool.and_eq_true_iff.1 exposed
            have refused : Rule T enter ⟨l, [.tick t], .advance⟩ _ :=
              .refuseRead here found reading exposed
            obtain rfl := Option.some.inj (taken.symm.trans (refused.taken sound))
            exact .inside (.tick (t.error_record _)) rfl
        case h_2 => cases fault
      case h_3 => cases fault

/-- The error that a tick returns is the first one that came up in it. -/
theorem Steps.errorOf_result {l l' : Loop H} {w : Waker} {past : List (Machine H)}
    {result : Except LoopError Bool}
    (ticked : Steps T enter (beginTick [] l w) past ⟨l', [], .ticked result⟩)
    (calm : ∀ z ∈ past, z.reenters = false) :
    errorOf result = (past.filterMap fault?).head? := by
  have records {past : List (Machine H)} {m : Machine H}
      (steps : Steps T enter (beginTick [] l w) past m) (calm : ∀ z ∈ past, z.reenters = false) :
      m.Recording (past.filterMap fault?).head? := by
    induction steps with
    | refl => exact .inside (.tick rfl) rfl
    | @snoc past m₁ m₂ first taken ih =>
      have next :=
        recording_of_step? taken (ih fun z hz => calm z (List.mem_append_left _ hz))
          (calm m₁ (by simp))
      rw [List.filterMap_append, List.head?_append]
      cases fault : m₁.fault? <;> simpa [fault] using next
  cases records ticked calm with
  | inside _ going => cases going
  | ended returned => exact returned

end Machine

end Reactor
