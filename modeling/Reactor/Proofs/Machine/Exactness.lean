import Reactor.Proofs.Machine.Rules

/-!
# The rules are exact

Every step follows one of the rules, and where a rule applies, before a breach, the step is the one
that it says. So to know what a machine does next it is enough to find a rule for it.
-/

namespace Reactor.Machine

variable {H : Host} {T : Transport H.Net H.Script} {enter : Handlers H}
variable {l : Loop H} {stack : List (Frame H)} {t : Tick}

/-- A tick that has a completion to take dispatches it. -/
theorem advance_of_pop? {c : Completion} {stage : Stage} (here : t.stage.pop? = some (c, stage)) :
    advance T l stack t = dispatch l (.tick { t with stage } :: stack) c := by
  obtain ⟨batch, ⟨before, rfl⟩ | ⟨before, rfl⟩⟩ := Stage.eq_of_pop? here
  · simp only [advance, before]
  · simp only [advance, before]

/-- To dispatch a completion that names a request is to complete that request. -/
theorem dispatch_of_report? {c : Completion} {req : RequestId} {status : Outcome}
    (report : c.report? = some (req, status)) :
    dispatch l stack c = complete l stack req status := by
  cases c <;> cases report <;> rfl

/-- A completion of a request is taken from a tick. -/
theorem advance_of_report? {c : Completion} {stage : Stage} {req : RequestId} {status : Outcome}
    (here : t.stage.pop? = some (c, stage)) (report : c.report? = some (req, status)) :
    advance T l stack t = complete l (.tick { t with stage } :: stack) req status := by
  rw [advance_of_pop? here, dispatch_of_report? report]

/-- Before a breach a tick on top of the stack goes on. -/
theorem step?_advance (sound : l.breach = none) :
    step? T enter ⟨l, .tick t :: stack, .advance⟩ = some (advance T l stack t) := by
  simp [step?, sound]

/-- Where a rule applies, before a breach, the step is the one that the rule says. -/
theorem Rule.taken {x y : Machine H} (rule : Rule T enter x y) (sound : x.loop.breach = none) :
    x.step? T enter = some y := by
  have goes : ¬x.loop.breach.isSome = true := by simp [sound]
  cases rule with
  | finish | ask | issue | tick | runLoop | poll | script | survey | note | recallShared | update
    | enter | emit | nextListener | endDelivery | endConnect | endLoan | beginParting | skipParting
    | endParting | noteResult | endListen | failListen | ticked | runFailed | pollFailed =>
    exact if_neg goes
  | refuseListen begun | beginListen begun =>
    refine (if_neg goes).trans ?_
    simp only [perform, begun, ofProgram]
  | @endEmission l stack h e rest failure last =>
    refine (if_neg goes).trans ?_
    cases failure with
    | none =>
      obtain rfl := last rfl
      rfl
    | some => cases rest <;> rfl
  | collect here | firstPass here | endTick here =>
    rw [step?_advance sound]
    simp only [advance, here]
  | nextPass here left =>
    rw [step?_advance sound]
    simp [advance, here, left]
  | beginReclaims here stop =>
    rw [step?_advance sound]
    simp only [advance, here]
    rw [if_neg stop]
  | skipReport here report gone =>
    rw [step?_advance sound, advance_of_report? here report]
    simp only [complete, gone]
  | completeWrite here report pending | completeShutdown here report pending =>
    rw [step?_advance sound, advance_of_report? here report]
    simp only [complete, pending]
  | completeConnect here report pending state | failConnect here report pending state =>
    rw [step?_advance sound, advance_of_report? here report]
    simp only [complete, pending, outcomeAt]
    exact congrArg some (if_pos state)
  | dropConnect here report pending state =>
    rw [step?_advance sound, advance_of_report? here report]
    simp only [complete, pending]
    exact congrArg some (if_neg (Bool.eq_false_iff.1 state))
  | connection here state =>
    rw [step?_advance sound, advance_of_pop? here]
    refine congrArg some ((if_pos state).trans ?_)
    rename_i status
    cases status <;> rfl
  | dropConnection here state =>
    rw [step?_advance sound, advance_of_pop? here]
    exact congrArg some (if_neg (Bool.eq_false_iff.1 state))
  | @skipRead l stack t passes h rest productive here idle =>
    rw [step?_advance sound]
    simp only [advance, here, readOne]
    split
    case h_1 => rfl
    case h_2 x found => simp [idle x found]
  | refuseRead here found reading exposed =>
    rw [step?_advance sound]
    rw [readBuffer] at exposed
    simp [advance, here, readOne, found, reading, exposed]
  | readNothing here found reading free read nothing =>
    rw [step?_advance sound]
    rw [readBuffer] at free read
    obtain rfl | rfl := nothing
    · simp [advance, here, readOne, found, reading, free, read, readBuffer]
    · simp [advance, here, readOne, found, reading, free, read, readBuffer]
  | readData here found reading free read =>
    rw [step?_advance sound]
    rw [readBuffer] at free read
    simp [advance, here, readOne, found, reading, free, read, readBuffer]
  | readEof here found reading free read | readFailed here found reading free read =>
    rw [step?_advance sound]
    rw [readBuffer] at free read
    simp [advance, here, readOne, found, reading, free, read, readBuffer]
  | skipReclaim here gone =>
    rw [step?_advance sound]
    simp only [advance, here, reclaimOne, gone]
  | breach here found held =>
    rw [step?_advance sound]
    simp [advance, here, reclaimOne, found, held]
  | reclaim here found closing free =>
    rw [step?_advance sound]
    simp [advance, here, reclaimOne, found, closing, free]
  | endRun stop | endPoll stop =>
    refine (if_neg goes).trans ?_
    simp only [afterTick?]
    exact if_pos stop
  | runAgain on | pausePoll on =>
    refine (if_neg goes).trans ?_
    simp only [afterTick?]
    exact if_neg (Bool.eq_false_iff.1 on)

end Reactor.Machine
