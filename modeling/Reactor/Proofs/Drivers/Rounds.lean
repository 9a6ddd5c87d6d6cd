import Reactor.Proofs.Drivers.Lockstep
import Reactor.Proofs.Machine.Steps

/-!
# Tick after tick

Whoever drives a loop, a tick goes through the same machines and comes to the same result, but for
those to wake. So the ticks of a loop that follow one another, until one fails, leaves nothing
alive, is told to stop or finds nothing to do, do not depend on who drives it.
-/

namespace Reactor

variable {S N C : Type} {enter : Handlers (Memory.host S N C)}

/-- What the result of a tick means for whoever drives the loop. -/
inductive Verdict where
  /-- A listener or a read has failed. -/
  | failed (e : LoopError)
  /-- The loop was told to stop, or nothing is alive. -/
  | finished
  /-- Nothing was there to do. -/
  | idle

namespace Loop

variable {H : Host}

/-- What the result of a tick means, if it does not mean to go on. -/
def verdict? (l : Loop H) : Except LoopError Bool → Option Verdict
  | .error e => some (.failed e)
  | .ok worked =>
    if l.stopping || !l.alive then some .finished else if worked then none else some .idle

/-- The loop after a driver has heard of the result of a tick. -/
def settle (l : Loop H) : Except LoopError Bool → Loop H
  | .error _ => l
  | .ok _ => { l with stopping := false }

/-- The verdict on a tick does not depend on wakers. -/
theorem verdict?_of_hush {k k' : Loop (Memory.host S N C)} (same : k.hush = k'.hush)
    (result : Except LoopError Bool) :
    k.verdict? result = k'.verdict? result := by
  simp only [verdict?, stopping_of_hush same, alive_of_hush same]

/-- A driver that is not to go on although the loop is alive and was not told to stop has heard that
nothing was done. -/
theorem verdict?_eq_idle {l : Loop H} {result : Except LoopError Bool} :
    l.verdict? result = some .idle ↔ result = .ok false ∧ l.stopping = false ∧ l.alive = true := by
  cases result with
  | error => simp [verdict?]
  | ok worked => cases worked <;> simp [verdict?]

/-- A loop is done with when it was stopped or has nothing left alive. -/
theorem verdict?_eq_finished {l : Loop H} {result : Except LoopError Bool}
    (finished : l.verdict? result = some .finished) :
    l.stopping = true ∨ l.alive = false := by
  cases result with
  | error => cases finished
  | ok worked =>
    simp only [verdict?] at finished
    split at finished
    case isTrue done => simpa using done
    case isFalse => split at finished <;> cases finished

/-- Settling the flag to stop does not depend on wakers. -/
theorem settle_of_hush {k k' : Loop (Memory.host S N C)} (same : k.hush = k'.hush)
    (result : Except LoopError Bool) :
    (k.settle result).hush = (k'.settle result).hush := by
  cases result with
  | error => exact same
  | ok => exact congrArg (fun l => { l with stopping := false }) same

/-- Settling the flag to stop is no breach. -/
theorem breach_settle (l : Loop H) (result : Except LoopError Bool) :
    (l.settle result).breach = l.breach := by
  cases result <;> rfl

/-- Settling the flag to stop leaves what is alive as it was. -/
theorem alive_settle (l : Loop H) (result : Except LoopError Bool) :
    (l.settle result).alive = l.alive := by
  cases result <;> rfl

end Loop

namespace Machine

variable {x y m : Machine (Memory.host S N C)} {past : List (Machine (Memory.host S N C))}
variable {k k' l l₁ : Loop (Memory.host S N C)} {w : Waker} {result : Except LoopError Bool}
variable {trace : List (Machine (Memory.host S N C))} {n : Nat}

/-! ## One tick -/

/-- Machines in lockstep go the same way. -/
theorem Lockstep.steps {x' : Machine (Memory.host S N C)} (handlers : ∀ c o, (enter c o).Deaf false)
    (lockstep : Lockstep x y) (steps : Steps Memory.transport enter x past x') :
    ∃ past' y', Steps Memory.transport enter y past' y' ∧ past'.map hush = past.map hush ∧
      Lockstep x' y' := by
  induction steps with
  | refl => exact ⟨[], y, .refl, rfl, lockstep⟩
  | snoc _ taken ih =>
    obtain ⟨past', y', steps, same, lockstep⟩ := ih
    obtain ⟨y'', taken', lockstep'⟩ := lockstep.step handlers taken
    exact ⟨past' ++ [y'], y'', steps.snoc taken', by simp [same, lockstep.same], lockstep'⟩

/-- A tick goes the same way on loops that differ in whom they wake, whoever waits for it. -/
theorem steps_beginTick (handlers : ∀ c o, (enter c o).Deaf false) (same : k.hush = k'.hush)
    (w' : Waker) (steps : Steps Memory.transport enter (beginTick [] k w) past m) :
    ∃ past' m', Steps Memory.transport enter (beginTick [] k' w') past' m' ∧
      past'.map hush = past.map hush ∧ m.hush = m'.hush := by
  have lockstep : Lockstep (beginTick [] k w) (beginTick [] k' w') := by
    refine ⟨hush_beginTick same rfl w w',
      ⟨by simp [beginTick, ofTick, Frame.Deaf], by simp [beginTick, ofTick]⟩, ?_⟩
    exact agrees_beginTick k w (by simp [Eventful]) (by simp) fun agreed =>
      absurd agreed Bool.false_ne_true
  obtain ⟨past', m', steps', same', lockstep'⟩ := lockstep.steps handlers steps
  exact ⟨past', m', steps', same', lockstep'.same⟩

/-- A tick on its own runs through some machines, returns a result, and leaves a loop. -/
def Round (enter : Handlers (Memory.host S N C)) (k : Loop (Memory.host S N C)) (w : Waker)
    (trace : List (Machine (Memory.host S N C))) (result : Except LoopError Bool)
    (l : Loop (Memory.host S N C)) : Prop :=
  ∃ past, Steps Memory.transport enter (beginTick [] k w) past ⟨l, [], .ticked result⟩ ∧
    past.map hush ++ [hush ⟨l, [], .ticked result⟩] = trace

/-- A round of a loop is a round of every loop that is the same once hushed, with any waker. -/
theorem Round.congr (handlers : ∀ c o, (enter c o).Deaf false)
    (round : Round enter k w trace result l) (same : k.hush = k'.hush) (w' : Waker) :
    ∃ l', Round enter k' w' trace result l' ∧ l.hush = l'.hush := by
  obtain ⟨past, steps, rfl⟩ := round
  obtain ⟨past', ⟨l', stack, control⟩, steps', gone, here⟩ := steps_beginTick handlers same w' steps
  obtain ⟨loops, frames, rfl⟩ := hush_eq_iff.1 here
  obtain rfl := List.map_eq_nil_iff.1 frames.symm
  exact ⟨l', ⟨past', steps', by rw [gone, here]⟩, loops⟩

/-- As long as all ticks on top of others have come to something, one that has nothing below it and
comes to nothing wakes nobody. -/
inductive Still (woken : Bool) : Machine (Memory.host S N C) → Prop where
  | eventful {m : Machine (Memory.host S N C)} (eventful : Eventful m.stack)
      (worked : m.control ≠ .ticked (.ok false)) :
    Still woken m
  | vain {l t below} (eventful : Eventful below) (vain : t.Vain)
      (quiet : below = [] → l.woken = woken) :
    Still woken (ofTick below t l)
  | ended {l below} (eventful : Eventful below) (quiet : below = [] → l.woken = woken) :
    Still woken ⟨l, below, .ticked (.ok false)⟩

/-- A tick at its start has found nothing to do, and has woken nobody. -/
theorem still_beginTick {below : List (Frame (Memory.host S N C))} (eventful : Eventful below)
    (l : Loop (Memory.host S N C)) (w : Waker) {woken : Bool}
    (quiet : below = [] → l.woken = woken) : Still woken (beginTick below l w) := by
  obtain vain | worked := l.vain_beginTick w
  · exact .vain eventful vain quiet
  · exact .eventful (eventful_tick.2 ⟨worked, eventful⟩) (by simp [beginTick, ofTick])

/-- Above work that has found something to do a step may do anything. -/
theorem still_of_eventful {woken : Bool} (eventful : Eventful x.stack)
    (rule : Rule Memory.transport enter x y) :
    Still woken y := by
  obtain ⟨all, worked⟩ | ⟨⟨f, base, l, w, rfl, below⟩, -⟩ := rule.eventful eventful
  · exact .eventful all worked
  · exact still_beginTick below l w (by simp)

/-- A step that leaves a poll in vain so far has woken nobody. -/
theorem Still.rule {woken : Bool} (still : Still woken x) (rule : Rule Memory.transport enter x y) :
    Still woken y := by
  cases still with
  | eventful eventful => exact still_of_eventful eventful rule
  | vain eventful vain quiet =>
    cases rule.afterVain vain with
    | vain vain woken => exact .vain eventful vain fun none => woken.trans (quiet none)
    | ended => exact .ended eventful quiet
    | eventful worked => exact .eventful (eventful_tick.2 ⟨worked, eventful⟩) (by simp [ofTick])
    | told worked => exact .eventful (eventful_tick.2 ⟨worked, eventful⟩) (by simp)
    | lent worked =>
      exact .eventful (eventful_cons.2 ⟨by simp, eventful_tick.2 ⟨worked, eventful⟩⟩) (by simp)
  | ended eventful => exact still_of_eventful eventful rule

/-- A tick that returns that nothing was done has woken nobody. -/
theorem Round.quiet (round : Round enter k w trace (.ok false) l) : l.woken = k.woken := by
  obtain ⟨past, steps, -⟩ := round
  have still : Still k.woken (⟨l, [], .ticked (.ok false)⟩ : Machine (Memory.host S N C)) := by
    generalize (⟨l, [], .ticked (.ok false)⟩ : Machine (Memory.host S N C)) = m at steps
    induction steps with
    | refl => exact still_beginTick (by simp [Eventful]) k w fun _ => rfl
    | snoc _ taken ih => exact ih.rule (rule_of_step? taken).2
  cases still with
  | eventful _ worked => exact absurd rfl worked
  | ended _ quiet => exact quiet rfl

/-- A tick that returns has come to no breach. -/
theorem Rule.breach_of_ticked (rule : Rule Memory.transport enter x y)
    (returned : y.control = .ticked result) :
    y.loop.breach = x.loop.breach := by
  cases rule with
  | endTick => rfl
  | completeWrite | completeShutdown => exact absurd returned deliver_ne_ticked
  | _ => cases returned

/-- A tick that has returned has not come to a breach. -/
theorem Round.sound (round : Round enter k w trace result l) :
    k.breach = none ∧ l.breach = none := by
  obtain ⟨past, steps, -⟩ := round
  constructor
  · exact steps.sound (by simp [beginTick, ofTick])
  · cases steps with
    | snoc _ taken =>
      obtain ⟨sound, rule⟩ := rule_of_step? taken
      exact (rule.breach_of_ticked rfl).trans sound

/-- After a round the loop is sound. -/
theorem Round.sound_settle (round : Round enter k w trace result l) :
    (l.settle result).breach = none := by
  rw [Loop.breach_settle, round.sound.2]

/-! ## Ticks that follow one another -/

/-- A number of ticks each of which is followed by another, with the machines they went through and
what they left. -/
inductive Rounds (enter : Handlers (Memory.host S N C)) (l : Loop (Memory.host S N C)) :
    Nat → List (Machine (Memory.host S N C)) → Loop (Memory.host S N C) → Prop where
  | outset {k : Loop (Memory.host S N C)} (same : k.hush = l.hush) : Rounds enter l 0 [] k
  | more {n : Nat} {trace later : List (Machine (Memory.host S N C))}
    {k k' l₁ : Loop (Memory.host S N C)} {w : Waker} {result : Except LoopError Bool}
    (before : Rounds enter l n trace k) (round : Round enter k w later result l₁)
    (goes : l₁.verdict? result = none) (same : k'.hush = (l₁.settle result).hush) :
    Rounds enter l (n + 1) (trace ++ later) k'

/-- A number of ticks the last of which is followed by none, with the machines they went through,
what the last result means, and what they left. -/
inductive Ends (enter : Handlers (Memory.host S N C)) (l : Loop (Memory.host S N C)) :
    Nat → List (Machine (Memory.host S N C)) → Verdict → Loop (Memory.host S N C) → Prop where
  | last {n : Nat} {trace later : List (Machine (Memory.host S N C))}
    {k l₁ : Loop (Memory.host S N C)} {w : Waker} {result : Except LoopError Bool} {v : Verdict}
    (before : Rounds enter l n trace k) (round : Round enter k w later result l₁)
    (verdict : l₁.verdict? result = some v) :
    Ends enter l (n + 1) (trace ++ later) v (l₁.settle result)

/-- The machines that ticks which follow one another go through up to some point. -/
inductive Begun (enter : Handlers (Memory.host S N C)) (l : Loop (Memory.host S N C)) :
    List (Machine (Memory.host S N C)) → Prop where
  | outset : Begun enter l []
  | inside {n : Nat} {trace past : List (Machine (Memory.host S N C))}
    {k : Loop (Memory.host S N C)} {w : Waker} {m : Machine (Memory.host S N C)}
    (before : Rounds enter l n trace k) (sound : k.breach = none)
    (steps : Steps Memory.transport enter (beginTick [] k w) past m) :
    Begun enter l (trace ++ (past.map hush ++ [hush m]))

/-- Rounds end alike in loops that are the same once hushed. -/
theorem Rounds.congr (rounds : Rounds enter l n trace k) (same : k.hush = k'.hush) :
    Rounds enter l n trace k' := by
  cases rounds with
  | outset before => exact .outset (same.symm.trans before)
  | more before round goes left => exact .more before round goes (same.symm.trans left)

/-- Rounds that were gone through have begun. -/
theorem Rounds.begun (rounds : Rounds enter l n trace k) : Begun enter l trace := by
  cases rounds with
  | outset => exact .outset
  | more before round =>
    obtain ⟨past, steps, rfl⟩ := round
    exact .inside before (Round.sound ⟨past, steps, rfl⟩).1 steps

/-- Rounds that have ended have begun. -/
theorem Ends.begun {v : Verdict} (ends : Ends enter l n trace v l₁) : Begun enter l trace := by
  cases ends with
  | last before round =>
    obtain ⟨past, steps, rfl⟩ := round
    exact .inside before (Round.sound ⟨past, steps, rfl⟩).1 steps

/-- Ticks that follow one another start before a breach. -/
theorem Rounds.sound (rounds : Rounds enter l n trace k) (sound : k.breach = none) :
    l.breach = none := by
  induction rounds with
  | outset same => rwa [Loop.breach_of_hush same] at sound
  | more _ round _ _ ih => exact ih round.sound.1

/-! ## What is seen of ticks on top of other work -/

/-- What a machine has on top of the work that waits for a tick above some other work,
but for those to wake. -/
def above? (base : List (Frame (Memory.host S N C))) (m : Machine (Memory.host S N C)) :
    Option (Machine (Memory.host S N C)) :=
  if base.length < m.stack.length then
    some (hush { m with stack := m.stack.take (m.stack.length - base.length - 1) })
  else none

variable {f : Frame (Memory.host S N C)} {base : List (Frame (Memory.host S N C))}

/-- A machine on top of some work shows above that work. -/
theorem above?_on (f : Frame (Memory.host S N C)) (base : List (Frame (Memory.host S N C)))
    (m : Machine (Memory.host S N C)) :
    above? base (m.on (f :: base)) = some m.hush := by
  have above : m.stack.length + (base.length + 1) - base.length - 1 = m.stack.length := by omega
  have more : base.length < m.stack.length + (base.length + 1) := by omega
  simp [above?, on, above, more]

/-- A machine that has only the work below it shows nothing above that work. -/
theorem above?_base (base : List (Frame (Memory.host S N C))) (l : Loop (Memory.host S N C))
    (c : Control (Memory.host S N C)) :
    above? base ⟨l, base, c⟩ = none := by
  simp [above?]

/-- A program on the work below it shows nothing above that work. -/
theorem above?_ofProgram (base : List (Frame (Memory.host S N C))) (p : Program (Memory.host S N C))
    (l : Loop (Memory.host S N C)) : above? base (ofProgram base p l) = none := above?_base base l _

/-- Machines on top of some work all show above that work. -/
theorem filterMap_above?_on (f : Frame (Memory.host S N C))
    (base : List (Frame (Memory.host S N C))) (past : List (Machine (Memory.host S N C))) :
    (past.map (on (f :: base))).filterMap (above? base) = past.map hush := by
  induction past with
  | nil => rfl
  | cons m past ih => simp [above?_on, ih]

/-- What shows above some work grows at the end, as the run does. -/
theorem filterMap_above?_concat (base : List (Frame (Memory.host S N C)))
    (past : List (Machine (Memory.host S N C))) (m : Machine (Memory.host S N C)) :
    (past ++ [m]).filterMap (above? base) =
      past.filterMap (above? base) ++ (above? base m).toList := by
  rw [List.filterMap_append]
  cases seen : above? base m <;> simp [seen]

/-- A machine with one frame more than the work below it shows without its stack. -/
theorem above?_cons (f : Frame (Memory.host S N C)) (base : List (Frame (Memory.host S N C)))
    (l : Loop (Memory.host S N C)) (c : Control (Memory.host S N C)) :
    above? base ⟨l, f :: base, c⟩ = some (hush ⟨l, [], c⟩) := by
  simpa [on] using above?_on f base ⟨l, [], c⟩

/-- A tick on top of other work. -/
theorem Round.on (round : Round enter k w trace result l) (f : Frame (Memory.host S N C))
    (base : List (Frame (Memory.host S N C))) :
    ∃ past, Steps Memory.transport enter (beginTick (f :: base) k w) past ⟨l, f :: base,
      .ticked result⟩ ∧
      past.filterMap (above? base) ++ [hush ⟨l, [], .ticked result⟩] = trace := by
  obtain ⟨past, steps, rfl⟩ := round
  exact ⟨past.map (Machine.on (f :: base)), steps.on (f :: base), by rw [filterMap_above?_on]⟩

/-- What is called, whatever work is suspended below and whatever is done with the answer, goes
through some machines above that work, returns an answer, and leaves a loop. -/
def Returns {α : Type} (enter : Handlers (Memory.host S N C))
    (call : (α → Program (Memory.host S N C)) → Program (Memory.host S N C))
    (l : Loop (Memory.host S N C)) (trace : List (Machine (Memory.host S N C))) (answer : α)
    (l' : Loop (Memory.host S N C)) : Prop :=
  ∀ base next,
    ∃ past, Steps Memory.transport enter (ofProgram base (call next) l) past
        (ofProgram base (next answer) l') ∧
      past.filterMap (above? base) = trace

/-- What is called, whatever work is suspended below and whatever would be done with the answer,
goes through some machines above that work. -/
def Begins {α : Type} (enter : Handlers (Memory.host S N C))
    (call : (α → Program (Memory.host S N C)) → Program (Memory.host S N C))
    (l : Loop (Memory.host S N C)) (trace : List (Machine (Memory.host S N C))) : Prop :=
  ∀ base next, ∃ past m, Steps Memory.transport enter (ofProgram base (call next) l) past m ∧
    (past ++ [m]).filterMap (above? base) = trace

/-- What is done next can tell one answer from all others. -/
theorem exists_ending {α : Type} (a : α) : ∃ ending :
    α → Option ListenerError, ∀ b, ending b = none ↔ b = a := by
  classical
  exact ⟨fun b => if b = a then none else some (.operation .alreadyReading), fun b => by simp⟩

end Machine

end Reactor
