import Reactor.Proofs.References

/-!
# A machine goes on until it rests

Suspended work fits together: right below a tick stands the work that waits for it, such work stands
nowhere else, and what is done next is what the top of the stack waits for. So a machine that a run
has come to either rests or takes a step.
-/

namespace Reactor

variable {H : Host} {T : Transport H.Net H.Script} {enter : Handlers H}

/-- Whether work waits for a tick. -/
def Frame.awaits : Frame H → Bool
  | .ticking _ | .running .. | .polling .. => true
  | _ => false

/-- Whether work is a tick. -/
def Frame.isTick : Frame H → Bool
  | .tick _ => true
  | _ => false

/-- Whether suspended work fits together below work that is a tick, or is none. -/
def Frame.fitted : (underTick : Bool) → List (Frame H) → Bool
  | underTick, [] => !underTick
  | underTick, f :: rest => f.awaits == underTick && fitted f.isTick rest

namespace Machine

variable {x y m : Machine H} {past : List (Machine H)}

/-- Whether the suspended work fits together and waits for what is done next. -/
def fitted (m : Machine H) : Bool :=
  match m.control with
  | .advance => m.stack.head?.any Frame.isTick && Frame.fitted false m.stack
  | .ticked _ => Frame.fitted true m.stack
  | _ => Frame.fitted false m.stack

/-- Telling an outcome on top of a tick leaves work that fits together. -/
theorem fitted_deliver {l : Loop H} {stack : List (Frame H)} {t : Tick} {req : RequestId}
    {h : HandleId} {callback : Callback H.Closure} {outcome : RequestOutcome}
    (fits : Frame.fitted true stack = true) :
    (deliver l (.tick t :: stack) req h callback outcome).fitted = true := by
  cases callback with
  | closure => exact fits
  | promise => exact fits

/-- Each rule leaves the suspended work fitted together. -/
theorem Rule.fitted (rule : Rule T enter x y) (fits : x.fitted = true) : y.fitted = true := by
  cases rule with
  | completeWrite | completeShutdown => exact fitted_deliver fits
  | _ => exact fits

/-- Along every run the suspended work fits together. -/
theorem Reached.fitted (reached : Reached T enter past m) : m.fitted = true :=
  reached.invariant (fun _ _ _ _ => rfl) (fun _ _ fits rule => rule.fitted fits) fun _ _ _ _ => rfl

/-- Work that waits for no tick takes the result of what is above it. -/
theorem return?_of_waits {l : Loop H} {failure : Option ListenerError} {f : Frame H}
    {rest : List (Frame H)} (other : f.awaits = false) :
    ∃ y, return? l failure (f :: rest) = some y := by
  cases f with
  | emission h e closures =>
    cases failure with
    | none => cases closures <;> exact ⟨_, rfl⟩
    | some cause => exact ⟨_, rfl⟩
  | reclaiming h onClose => cases onClose <;> exact ⟨_, rfl⟩
  | listening h next => cases failure <;> exact ⟨_, rfl⟩
  | delivering | connecting | lending | parting | tick => exact ⟨_, rfl⟩
  | ticking | running | polling => cases other

/-- Work that waits for a tick takes its result. -/
theorem afterTick?_of_awaits {l : Loop H} {result : Except LoopError Bool} {f : Frame H}
    {rest : List (Frame H)} (waits : f.awaits = true) :
    ∃ y, afterTick? l result (f :: rest) = some y := by
  cases f with
  | ticking next => exact ⟨_, rfl⟩
  | running mode next =>
    cases result with
    | error e => exact ⟨_, rfl⟩
    | ok worked =>
      simp only [afterTick?]
      split <;> exact ⟨_, rfl⟩
  | polling w next =>
    cases result with
    | error e => exact ⟨_, rfl⟩
    | ok worked =>
      simp only [afterTick?]
      split <;> exact ⟨_, rfl⟩
  | emission | delivering | connecting | lending | reclaiming | parting | tick | listening =>
    cases waits

/-- A machine that a run has come to rests or takes a step. -/
theorem Reached.proceeds (reached : Reached T enter past m) :
    m.atRest = true ∨ ∃ y, m.step? T enter = some y := by
  have fits := reached.fitted
  have sound : m.loop.breach.isSome = false := by rw [(Balanced.of_reached reached).sound]; rfl
  obtain ⟨l, stack, control⟩ := m
  simp only [step?, sound, Bool.false_eq_true, if_false]
  cases control with
  | run p => cases p <;> exact .inr ⟨_, rfl⟩
  | enter | emit => exact .inr ⟨_, rfl⟩
  | returned failure =>
    cases stack with
    | nil => exact .inl rfl
    | cons f rest => exact .inr (return?_of_waits (by simpa using (Bool.and_eq_true_iff.1 fits).1))
  | advance =>
    cases stack with
    | nil => cases fits
    | cons f rest =>
      cases f with
      | tick t => exact .inr ⟨_, rfl⟩
      | _ => cases fits
  | ticked result =>
    cases stack with
    | nil => cases fits
    | cons f rest =>
      exact .inr (afterTick?_of_awaits (by simpa using (Bool.and_eq_true_iff.1 fits).1))

end Machine

end Reactor
