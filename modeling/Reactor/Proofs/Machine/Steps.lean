import Reactor.Proofs.Machine.Progress

/-!
# Ways of a machine by steps alone

A way goes from step to step, and no embedder comes in between. What a machine does it also does on
top of more work: that work is not touched, until what is above it is done.
-/

namespace Reactor.Machine

variable {H : Host} (T : Transport H.Net H.Script) (enter : Handlers H)

/-- A way from one machine to another by steps alone, with the machines left
behind, oldest first. -/
inductive Steps (m : Machine H) : List (Machine H) → Machine H → Prop where
  | refl : Steps m [] m
  | snoc {past m₁ m₂} : Steps m past m₁ → m₁.step? T enter = some m₂ → Steps m (past ++ [m₁]) m₂

variable {T enter}

/-- One step is a way. -/
theorem Steps.single {x y : Machine H} (taken : x.step? T enter = some y) :
    Steps T enter x [x] y := by
  simpa using Steps.snoc .refl taken

/-- A way that goes on from the end of another continues it. -/
theorem Steps.trans {x y z : Machine H} {past later : List (Machine H)}
    (first : Steps T enter x past y) (second : Steps T enter y later z) :
    Steps T enter x (past ++ later) z := by
  induction second with
  | refl => simpa using first
  | snoc _ taken ih => simpa using ih.snoc taken

variable (T enter) in
/-- The executable machine goes such a way. -/
theorem exists_steps (m : Machine H) (fuel : Nat) :
    ∃ past, Steps T enter m past (m.run T enter fuel) := by
  induction fuel generalizing m with
  | zero => exact ⟨[], .refl⟩
  | succ fuel ih =>
    cases taken : m.step? T enter with
    | none => exact ⟨[], by simpa [run, taken] using Steps.refl⟩
    | some m₁ =>
      obtain ⟨past, steps⟩ := ih m₁
      rw [run_succ taken]
      exact ⟨m :: past, (Steps.single taken).trans steps⟩

variable (T enter) in
/-- As long as the executable machine takes steps it leaves behind what it comes
to, one after the other. -/
theorem Steps.of_run (m : Machine H) {fuel : Nat}
    (goes : (List.range fuel).all (fun k => ((m.run T enter k).step? T enter).isSome) = true) :
    Steps T enter m ((List.range fuel).map (m.run T enter)) (m.run T enter fuel) := by
  induction fuel with
  | zero => exact .refl
  | succ fuel ih =>
    rw [List.range_succ, List.all_append, Bool.and_eq_true] at goes
    obtain ⟨y, taken⟩ := Option.isSome_iff_exists.1 (by simpa using goes.2)
    rw [List.range_succ, List.map_append, List.map_singleton, Run.run_succ_of_step taken]
    exact (ih goes.1).snoc taken

/-- A way is a run in which no embedder comes in between. -/
theorem Steps.run {x y : Machine H} {past : List (Machine H)} (steps : Steps T enter x past y) :
    Run T enter x past y := by
  induction steps with
  | refl => exact .refl
  | snoc _ taken ih => exact ih.snoc (.step taken)

variable (T enter) in
/-- The run of the executable machine, as long as it takes steps. -/
theorem Run.of_steps (m : Machine H) {fuel : Nat}
    (goes : (List.range fuel).all (fun k => ((m.run T enter k).step? T enter).isSome) = true) :
    Run T enter m ((List.range fuel).map (m.run T enter)) (m.run T enter fuel) :=
  (Steps.of_run T enter m goes).run

/-- A way that goes anywhere starts before a breach. -/
theorem Steps.sound {x y : Machine H} {past : List (Machine H)} (steps : Steps T enter x past y)
    (moved : x ≠ y) :
    x.loop.breach = none := by
  induction steps with
  | refl => exact absurd rfl moved
  | @snoc past m₁ m₂ first taken ih =>
    by_cases here : x = m₁
    · subst here
      exact (rule_of_step? taken).1
    · exact ih here

/-- The machine on top of more work. -/
def on (base : List (Frame H)) (m : Machine H) : Machine H := { m with stack := m.stack ++ base }

/-- Telling an outcome does not depend on the work below. -/
theorem on_deliver (base : List (Frame H)) (l : Loop H) (stack : List (Frame H)) (req : RequestId)
    (h : HandleId) (callback : Callback H.Closure) (outcome : RequestOutcome) :
    deliver l (stack ++ base) req h callback outcome =
      (deliver l stack req h callback outcome).on base := by
  cases callback <;> rfl

/-- Completing a request does not depend on the work below. -/
theorem on_complete (base : List (Frame H)) (l : Loop H) (stack : List (Frame H)) (req : RequestId)
    (status : Outcome) :
    complete l (stack ++ base) req status = (complete l stack req status).on base := by
  unfold complete
  split
  case h_1 => rfl
  case h_2 request _ =>
    cases request with
    | write h data callback => exact on_deliver ..
    | shutdown h callback => exact on_deliver ..
    | connect h =>
      simp only
      split
      case isTrue => cases status <;> rfl
      case isFalse => rfl

/-- Dispatching a completion does not depend on the work below. -/
theorem on_dispatch (base : List (Frame H)) (l : Loop H) (stack : List (Frame H)) (c : Completion) :
    dispatch l (stack ++ base) c = (dispatch l stack c).on base := by
  cases c with
  | connection server status =>
    simp only [dispatch, connection]
    split <;> rfl
  | write req status | shutdown req status | connect req status => exact on_complete ..

/-- A read does not depend on the work below. -/
theorem on_readOne (base : List (Frame H)) (l : Loop H) (stack : List (Frame H)) (t : Tick)
    (passes : Nat) (rest : List HandleId) (productive : Bool) (h : HandleId) :
    readOne T l (stack ++ base) t passes rest productive h =
      (readOne T l stack t passes rest productive h).on base := by
  unfold readOne
  split
  case h_1 => rfl
  case h_2 =>
    simp only
    split
    case isTrue => rfl
    case isFalse =>
      split
      case isTrue => rfl
      case isFalse => split <;> rfl

/-- A tick goes on without regard to the work below. -/
theorem on_advance (base : List (Frame H)) (l : Loop H) (stack : List (Frame H)) (t : Tick) :
    advance T l (stack ++ base) t = (advance T l stack t).on base := by
  unfold advance
  split
  case h_1 => rfl
  case h_2 => exact on_dispatch base l (_ :: stack) _
  case h_3 => rfl
  case h_4 => exact on_dispatch base l (_ :: stack) _
  case h_5 =>
    simp only
    split <;> rfl
  case h_6 => exact on_readOne ..
  case h_7 => rfl
  case h_8 =>
    simp only [reclaimOne]
    split
    case h_1 => rfl
    case h_2 => split <;> rfl

/-- A result is handed over without regard to the work further below. -/
theorem on_return? (base : List (Frame H)) (l : Loop H) (failure : Option ListenerError)
    (stack : List (Frame H)) {m : Machine H} (returned : return? l failure stack = some m) :
    return? l failure (stack ++ base) = some (m.on base) := by
  cases stack with
  | nil => cases returned
  | cons f rest =>
    cases f with
    | emission h e closures =>
      cases failure <;> cases closures <;> cases returned <;> rfl
    | reclaiming h onClose => cases onClose <;> cases returned <;> rfl
    | listening h next => cases failure <;> cases returned <;> rfl
    | _ => cases returned <;> rfl

/-- The result of a tick is handed over without regard to the work further below. -/
theorem on_afterTick? (base : List (Frame H)) (l : Loop H) (result : Except LoopError Bool)
    (stack : List (Frame H)) {m : Machine H} (returned : afterTick? l result stack = some m) :
    afterTick? l result (stack ++ base) = some (m.on base) := by
  cases stack with
  | nil => cases returned
  | cons f rest =>
    cases f with
    | ticking next => cases returned; rfl
    | running mode next | polling w next =>
      cases result with
      | error e => cases returned; rfl
      | ok worked =>
        simp only [afterTick?, List.cons_append] at returned ⊢
        split at returned
        case isTrue stop =>
          rw [if_pos stop]
          cases returned
          rfl
        case isFalse going =>
          rw [if_neg going]
          cases returned
          rfl
    | _ => cases returned

/-- A call does not depend on the work below. -/
theorem on_perform (base : List (Frame H)) (l : Loop H) (stack : List (Frame H)) (c : Call H)
    (next : c.Answer → Program H) :
    perform T l (stack ++ base) c next = (perform T l stack c next).on base := by
  cases c with
  | listen h backlog onConnection =>
    simp only [perform]
    split <;> rfl
  | _ => rfl

/-- What a machine does it also does on top of more work. -/
theorem step?_on {x y : Machine H} (base : List (Frame H)) (taken : x.step? T enter = some y) :
    (x.on base).step? T enter = some (y.on base) := by
  obtain ⟨l, stack, control⟩ := x
  have sound : ¬l.breach.isSome = true := by
    intro unsound
    simp [step?, unsound] at taken
  simp only [step?, on, sound, Bool.false_eq_true, if_false] at taken ⊢
  cases control with
  | run p =>
    cases p with
    | done failure => cases taken; rfl
    | call c next => cases taken; exact congrArg some (on_perform base l stack c next)
  | enter c o => cases taken; rfl
  | emit h e => cases taken; rfl
  | returned failure => exact on_return? base l failure stack taken
  | advance =>
    cases stack with
    | nil => cases taken
    | cons f rest =>
      cases f with
      | tick t => cases taken; exact congrArg some (on_advance base l rest t)
      | _ => cases taken
  | ticked result => exact on_afterTick? base l result stack taken

/-- What a machine does in some steps it does on top of any work. -/
theorem Steps.on {x y : Machine H} {past : List (Machine H)} (steps : Steps T enter x past y)
    (base : List (Frame H)) :
    Steps T enter (x.on base) (past.map (Machine.on base)) (y.on base) := by
  induction steps with
  | refl => exact .refl
  | snoc _ taken ih => simpa using ih.snoc (step?_on base taken)

/-- Work that waits for a tick takes no other result. -/
theorem return?_of_awaits {l : Loop H} {failure : Option ListenerError} {f : Frame H}
    {rest : List (Frame H)} (waits : f.awaits = true) : return? l failure (f :: rest) = none := by
  cases f <;> first | rfl | cases waits

/-- Work that does not wait for a tick does not take its result. -/
theorem afterTick?_of_waits {l : Loop H} {result : Except LoopError Bool} {f : Frame H}
    {rest : List (Frame H)} (other : f.awaits = false) :
    afterTick? l result (f :: rest) = none := by
  cases f <;> first | rfl | cases other

/-- On top of work that waits for a tick a machine does nothing else, until a tick has returned. -/
theorem step?_of_on {x y : Machine H} {f : Frame H} {base : List (Frame H)}
    (waits : f.awaits = true) (taken : (x.on (f :: base)).step? T enter = some y) :
    (∃ y', x.step? T enter = some y' ∧ y = y'.on (f :: base)) ∨
      ∃ l result, x = ⟨l, [], .ticked result⟩ := by
  cases alone : x.step? T enter with
  | some y' => exact .inl ⟨y', rfl, Option.some.inj (taken.symm.trans (step?_on _ alone))⟩
  | none =>
    obtain ⟨l, stack, control⟩ := x
    have sound : ¬l.breach.isSome = true := by
      intro unsound
      simp [step?, Machine.on, unsound] at taken
    simp only [step?, Machine.on, sound, Bool.false_eq_true, if_false] at taken alone
    cases control with
    | run p => cases p <;> cases alone
    | enter | emit => cases alone
    | returned failure =>
      cases stack with
      | nil => exact absurd (taken.symm.trans (return?_of_awaits waits)) (by simp)
      | cons g rest =>
        cases awaits : g.awaits with
        | true => exact absurd (taken.symm.trans (return?_of_awaits awaits)) (by simp)
        | false =>
          obtain ⟨z, returned⟩ : ∃ z, return? l failure (g :: rest) = some z :=
              return?_of_waits awaits
          exact absurd (returned.symm.trans alone) (by simp)
    | advance =>
      cases stack with
      | nil =>
        cases f with
        | ticking | running | polling => cases taken
        | _ => cases waits
      | cons g rest =>
        cases g with
        | tick => cases alone
        | _ => cases taken
    | ticked result =>
      cases stack with
      | nil => exact .inr ⟨l, result, rfl⟩
      | cons g rest =>
        cases awaits : g.awaits with
        | true =>
          obtain ⟨z, returned⟩ : ∃ z, afterTick? l result (g :: rest) = some z :=
              afterTick?_of_awaits awaits
          exact absurd (returned.symm.trans alone) (by simp)
        | false => exact absurd (taken.symm.trans (afterTick?_of_waits awaits)) (by simp)

end Reactor.Machine
