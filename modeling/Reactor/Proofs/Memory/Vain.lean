import Reactor.Proofs.Machine.Eventful
import Reactor.Proofs.Memory.Coupling

/-!
# Ticks in vain

A tick is in vain as long as nothing has come of it and nothing waits in its stage. It
enters no handler, so nobody is woken: a tick that returns that nothing was done leaves
the task asleep if it was.
-/

namespace Reactor

/-- Whether nothing waits in a stage to be told or to be reclaimed. -/
def Stage.vacant : Stage → Bool
  | .deferred batch | .completions batch => batch.isEmpty
  | .reads .. => true
  | .reclaims batch => batch.isEmpty

/-- A stage with a completion to take is not vacant. -/
theorem Stage.not_vacant_of_pop? {s s' : Stage} {c : Completion} (here : s.pop? = some (c, s')) :
    s.vacant = false := by
  obtain ⟨batch, ⟨rfl, -⟩ | ⟨rfl, -⟩⟩ := Stage.eq_of_pop? here
  · rfl
  · rfl

/-- Nothing has come of a tick so far, and nothing waits in its stage. -/
structure Tick.Vain (t : Tick) : Prop where
  uneventful : t.eventful = false
  vacant : t.stage.vacant = true

/-- A read wakes nobody. -/
theorem Memory.wakes_read (w : Waker) (h : HandleId) (size : Nat) (m : Memory) :
    (read w h size m).wakes = false := by
  unfold read
  dsimp only
  split
  case isTrue => rfl
  case isFalse => split <;> rfl

variable {S N C : Type} {enter : Handlers (Memory.host S N C)}

/-- A tick begins in vain, or with results that are due. -/
theorem Loop.vain_beginTick {H : Host} (l : Loop H) (w : Waker) :
    (l.beginTick w).1.Vain ∨ (l.beginTick w).1.eventful = true := by
  cases due : l.deferred with
  | nil =>
    exact .inl ⟨by simp [beginTick, due, Tick.eventful, Stage.productive],
      by simp [beginTick, due, Stage.vacant]⟩
  | cons c batch => exact .inr (by simp [beginTick, due, Tick.eventful])

namespace Machine

variable {l : Loop (Memory.host S N C)} {t : Tick} {below : List (Frame (Memory.host S N C))}
variable {y : Machine (Memory.host S N C)}

/-- What becomes of a tick in vain by one step: it stays so and wakes nobody, or returns that
nothing was done, or something comes of it. -/
inductive AfterVain (l : Loop (Memory.host S N C)) (below : List (Frame (Memory.host S N C))) :
    Machine (Memory.host S N C) → Prop where
  | vain {l' t} (vain : t.Vain) (quiet : l'.woken = l.woken) : AfterVain l below (ofTick below t l')
  | ended : AfterVain l below ⟨l, below, .ticked (.ok false)⟩
  | eventful {l' t} (eventful : t.eventful = true) : AfterVain l below (ofTick below t l')
  | told {l' t h e} (eventful : t.eventful = true) :
      AfterVain l below ⟨l', .tick t :: below, .emit h e⟩
  | lent {l' t h view e} (eventful : t.eventful = true) :
    AfterVain l below ⟨l', .lending h view :: .tick t :: below, .emit h e⟩

/-- A tick that stays uneventful in a stage where nothing waits stays in vain; in
another it is eventful. -/
theorem AfterVain.of_unfailed {l' : Loop (Memory.host S N C)} (unfailed : t.error = none)
    (unproductive : t.stage.productive = false) (vacant : t.worked = false → t.stage.vacant = true)
    (quiet : l'.woken = l.woken) : AfterVain l below (ofTick below t l') := by
  cases worked : t.worked with
  | true => exact .eventful (Tick.eventful_iff.2 (.inl worked))
  | false =>
    exact .vain ⟨Tick.eventful_eq_false_iff.2 ⟨worked, unfailed, unproductive⟩, vacant worked⟩ quiet

/-- What a tick in vain comes to by a step is what was said of it. -/
theorem Rule.afterVain (rule : Rule Memory.transport enter (ofTick below t l) y) (vain : t.Vain) :
    AfterVain l below y := by
  obtain ⟨uneventful, vacant⟩ := vain
  obtain ⟨unworked, unfailed, unproductive⟩ := Tick.eventful_eq_false_iff.1 uneventful
  cases rule with
  | collect here =>
    refine .of_unfailed unfailed rfl (fun unworked => ?_) ?_
    · simp only [Loop.beginCompletions, Bool.or_eq_false_iff, Bool.not_eq_false'] at unworked
      exact unworked.2
    · simp [Loop.beginCompletions, Loop.ask, Memory.transport, Memory.collect, Memory.quiet]
  | firstPass here => exact .of_unfailed unfailed rfl (fun _ => rfl) rfl
  | nextPass here =>
    rw [here] at unproductive
    cases unproductive
  | beginReclaims here =>
    refine .of_unfailed unfailed rfl (fun unworked => ?_) rfl
    simp only [Loop.beginReclaims, Bool.or_eq_false_iff, Bool.not_eq_false'] at unworked
    exact unworked.2
  | endTick here =>
    simp only [Tick.result, unfailed, unworked]
    exact .ended
  | skipReport here | completeWrite here | completeShutdown here | completeConnect here
    | failConnect here | dropConnect here | connection here | dropConnection here =>
    rw [Stage.not_vacant_of_pop? here] at vacant
    cases vacant
  | skipRead here =>
    rw [here] at unproductive
    exact .of_unfailed unfailed unproductive (fun _ => rfl) rfl
  | refuseRead => exact .eventful (Tick.eventful_of_failed rfl)
  | @readNothing _ _ _ passes h rest productive x status bytes l' here found reading free
      read nothing =>
    rw [here] at unproductive
    have quiet : l'.woken = l.woken := by
      obtain ⟨-, rfl⟩ := Prod.mk.inj read
      simp [Memory.transport, Memory.wakes_read]
    exact .of_unfailed unfailed unproductive (fun _ => rfl) quiet
  | readData => exact .lent (Tick.eventful_iff.2 (.inr (.inr rfl)))
  | readEof | readFailed => exact .told (Tick.eventful_iff.2 (.inr (.inr rfl)))
  | skipReclaim here | breach here | reclaim here =>
    rw [here] at vacant
    cases vacant

end Machine

end Reactor
