import Reactor.Proofs.Machine.Run

/-!
# Ticks in which something was done

A tick is eventful once it has done something, has failed, or has read something in the pass that it
is in. It stays so until it returns, and then it does not return that nothing was done. So a tick
that does return that was uneventful all the time.
-/

namespace Reactor

variable {H : Host} {T : Transport H.Net H.Script} {enter : Handlers H}

/-- Whether a read of the pass that a stage is in has found something. -/
def Stage.productive : Stage → Bool
  | .reads _ _ productive => productive
  | _ => false

/-- Whether something has come of a tick so far. -/
def Tick.eventful (t : Tick) : Bool := t.worked || t.error.isSome || t.stage.productive

namespace Tick

variable {t t' : Tick}

/-- A tick is eventful when it has worked or failed, or when its pass has found something. -/
theorem eventful_iff :
    t.eventful = true ↔ t.worked = true ∨ t.error.isSome = true ∨ t.stage.productive = true := by
  simp [eventful, or_assoc]

/-- A tick is uneventful when it has not worked, has not failed, and its pass has found nothing. -/
theorem eventful_eq_false_iff :
    t.eventful = false ↔ t.worked = false ∧ t.error = none ∧ t.stage.productive = false := by
  simp [eventful, and_assoc]

/-- An eventful tick stays so when it goes on. -/
theorem eventful_mono (eventful : t.eventful = true) (worked : t.worked = true → t'.worked = true)
    (error : t'.error = t.error) (read : t.stage.productive = true →
    t'.worked = true ∨ t'.stage.productive = true) :
    t'.eventful = true := by
  rw [eventful_iff] at eventful ⊢
  rw [error]
  obtain worked' | failed | productive := eventful
  · exact .inl (worked worked')
  · exact .inr (.inl failed)
  · exact (read productive).imp_right .inr

/-- An eventful tick that reads nothing stays so in a stage of the same kind. -/
theorem eventful_restage (eventful : t.eventful = true) (stage : Stage)
    (read : t.stage.productive = true → stage.productive = true) :
    ({ t with stage } : Tick).eventful = true :=
  eventful_mono eventful id rfl fun productive => .inr (read productive)

/-- A failure makes a tick eventful. -/
theorem eventful_of_failed (failed : t.error.isSome = true) : t.eventful = true :=
  eventful_iff.2 (.inr (.inl failed))

/-- Noting a failure leaves an eventful tick eventful. -/
theorem eventful_note (eventful : t.eventful = true) (failure : Option ListenerError) :
    (t.note failure).eventful = true := by
  cases failure with
  | none => exact eventful
  | some cause =>
    apply eventful_of_failed
    simp only [note]
    split <;> rfl

/-- An eventful tick that has come to its end does not return that nothing was done. -/
theorem result_of_eventful (eventful : t.eventful = true) (idle : t.stage.productive = false) :
    t.result ≠ .ok false := by
  rw [eventful_iff, idle] at eventful
  unfold result
  cases failed : t.error with
  | some e => simp
  | none =>
    rw [failed] at eventful
    simpa using eventful

end Tick

/-- While completions are to be taken no pass has found anything. -/
theorem Stage.productive_of_pop? {s s' : Stage} {c : Completion} (here : s.pop? = some (c, s')) :
    s.productive = false := by
  obtain ⟨batch, ⟨rfl, -⟩ | ⟨rfl, -⟩⟩ := Stage.eq_of_pop? here
  · rfl
  · rfl

/-- An eventful tick stays so when it takes a completion. -/
theorem Tick.eventful_pop? {t : Tick} {stage : Stage} {c : Completion}
    (eventful : t.eventful = true) (here : t.stage.pop? = some (c, stage)) :
    ({ t with stage } : Tick).eventful = true :=
  eventful_restage eventful stage (by simp [Stage.productive_of_pop? here])

/-- The tick in progress that a frame is, if it is one. -/
def Frame.tick? : Frame H → Option Tick
  | .tick t => some t
  | _ => none

namespace Machine

variable {x y : Machine H}

/-- Every tick among some work is eventful. -/
def Eventful (stack : List (Frame H)) : Prop := ∀ t ∈ stack.filterMap Frame.tick?, t.eventful = true

/-- All ticks are eventful when the one on top is, if it is one, and those below are. -/
theorem eventful_cons {f : Frame H} {stack : List (Frame H)} :
    Eventful (f :: stack) ↔ (∀ t, f = .tick t → t.eventful = true) ∧ Eventful stack := by
  cases f <;> simp [Eventful, Frame.tick?]

/-- With a tick on top, all ticks are eventful when it and those below are. -/
theorem eventful_tick {t : Tick} {stack : List (Frame H)} :
    Eventful (.tick t :: stack) ↔ t.eventful = true ∧ Eventful stack := by
  simp [eventful_cons]

/-- Telling an outcome begins no tick, so that all are eventful if they were. -/
theorem eventful_deliver {l : Loop H} {stack : List (Frame H)} {req : RequestId} {h : HandleId}
    {callback : Callback H.Closure} {outcome : RequestOutcome} (eventful : Eventful stack) :
    Eventful (deliver l stack req h callback outcome).stack := by
  cases callback with
  | closure => exact eventful
  | promise => exact eventful

/-- Eventful ticks stay eventful, and none of them returns that nothing was done; a program, or a
tick that has returned, may make a tick begin above them, for work that waits for it. -/
theorem Rule.eventful (rule : Rule T enter x y) (eventful : Eventful x.stack) :
    Eventful y.stack ∧ y.control ≠ .ticked (.ok false) ∨
      (∃ f base l w, y = beginTick (f :: base) l w ∧ Eventful (f :: base)) ∧
        ((∃ p, x.control = .run p) ∨ ∃ result, x.control = .ticked result) := by
  cases rule with
  | finish | ask | issue | refuseListen | script | survey | note | recallShared | update | enter =>
    exact .inl ⟨eventful, by simp⟩
  | beginListen | emit => exact .inl ⟨eventful_cons.2 ⟨by simp, eventful⟩, by simp⟩
  | tick | runLoop | poll =>
    exact .inr ⟨⟨_, _, _, _, rfl, eventful_cons.2 ⟨by simp, eventful⟩⟩, .inl ⟨_, rfl⟩⟩
  | runAgain => exact .inr ⟨⟨_, _, _, _, rfl, eventful⟩, .inr ⟨_, rfl⟩⟩
  | nextListener | beginParting | skipParting =>
    exact .inl ⟨eventful_cons.2 ⟨by simp, (eventful_cons.1 eventful).2⟩, by simp⟩
  | endEmission | endDelivery | endConnect | endLoan | endParting | endListen | failListen | ticked
    | runFailed | endRun | pollFailed | endPoll | pausePoll =>
    exact .inl ⟨(eventful_cons.1 eventful).2, by simp⟩
  | noteResult =>
    obtain ⟨top, below⟩ := eventful_tick.1 eventful
    exact .inl ⟨eventful_tick.2 ⟨Tick.eventful_note top _, below⟩, by simp [ofTick]⟩
  | collect here =>
    obtain ⟨top, below⟩ := eventful_tick.1 eventful
    refine .inl ⟨eventful_tick.2 ⟨Tick.eventful_mono top ?_ rfl ?_, below⟩, by simp [ofTick]⟩
    · intro worked
      simp [Loop.beginCompletions, worked]
    · simp [here, Stage.productive]
  | firstPass here =>
    obtain ⟨top, below⟩ := eventful_tick.1 eventful
    refine .inl ⟨eventful_tick.2 ⟨Tick.eventful_restage top _ ?_, below⟩, by simp [ofTick]⟩
    simp [here, Stage.productive]
  | nextPass here =>
    obtain ⟨-, below⟩ := eventful_tick.1 eventful
    exact .inl ⟨eventful_tick.2 ⟨Tick.eventful_iff.2 (.inl rfl), below⟩, by simp [ofTick]⟩
  | @beginReclaims l stack t passes productive here =>
    obtain ⟨top, below⟩ := eventful_tick.1 eventful
    refine .inl ⟨eventful_tick.2 ⟨Tick.eventful_mono top ?_ rfl ?_, below⟩, by simp [ofTick]⟩
    · intro worked
      simp [Loop.beginReclaims, worked]
    · rw [here]
      intro found
      have found : productive = true := found
      exact .inl (by simp [Loop.beginReclaims, found])
  | endTick here =>
    obtain ⟨top, below⟩ := eventful_tick.1 eventful
    refine .inl ⟨below, fun control => ?_⟩
    exact Tick.result_of_eventful top (by rw [here]; rfl) (Control.ticked.inj control)
  | skipReport here | dropConnect here | connection here | dropConnection here
      | completeConnect here | failConnect here =>
    obtain ⟨top, below⟩ := eventful_tick.1 eventful
    have top := Tick.eventful_pop? top here
    exact .inl ⟨by simp only [eventful_cons]; simpa using ⟨top, below⟩, by simp⟩
  | completeWrite here | completeShutdown here =>
    obtain ⟨top, below⟩ := eventful_tick.1 eventful
    have top := Tick.eventful_pop? top here
    exact .inl ⟨eventful_deliver (eventful_tick.2 ⟨top, below⟩), deliver_ne_ticked⟩
  | skipRead here | readNothing here =>
    obtain ⟨top, below⟩ := eventful_tick.1 eventful
    exact .inl ⟨eventful_tick.2 ⟨Tick.eventful_restage top _ (by rw [here]; exact id), below⟩,
      by simp [ofTick]⟩
  | refuseRead =>
    obtain ⟨-, below⟩ := eventful_tick.1 eventful
    exact .inl ⟨eventful_tick.2 ⟨Tick.eventful_of_failed rfl, below⟩, by simp [ofTick]⟩
  | readData | readEof | readFailed =>
    obtain ⟨-, below⟩ := eventful_tick.1 eventful
    exact .inl ⟨by simp [eventful_cons, below, Tick.eventful_iff, Stage.productive], by simp⟩
  | skipReclaim here | breach here | reclaim here =>
    obtain ⟨top, below⟩ := eventful_tick.1 eventful
    have top (batch : List HandleId) :=
      Tick.eventful_restage top (.reclaims batch) (by simp [here, Stage.productive])
    exact .inl ⟨by simp only [eventful_cons]; simpa using ⟨top _, below⟩, by simp⟩

end Machine

end Reactor
