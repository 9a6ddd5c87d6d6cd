import Reactor.Proofs.Drivers.Steps
import Reactor.Proofs.Memory.Vain

/-!
# Machines in lockstep

Two machines that hushing makes the same go on in lockstep as long as the programs in them are deaf.
They need not agree on whether the task was woken: they do after a program has made the task forget,
and still do after polls that were in vain or have woken the task.
-/

namespace Reactor

variable {S N C : Type} {enter : Handlers (Memory.host S N C)}

/-- Only the question whether the task was woken needs agreement. -/
theorem Call.Hides.of_ne {agreed : Bool} {c : Call (Memory.host S N C)}
    {next : c.Answer → Program (Memory.host S N C)} (hides : c.Hides agreed next)
    (other : c ≠ .ask .woken) : c.Hides false next := by
  cases c with
  | ask q =>
    cases q with
    | woken => exact absurd rfl other
    | _ => trivial
  | survey => exact hides
  | _ => trivial

/-- A poll leaves agreement only where it leaves the loop pending for the task. -/
theorem Call.agrees_poll {H : Host} {agreed : Bool} {w : Waker} {a : Except LoopError Bool}
    (agrees : Call.agrees (H := H) agreed (.poll w) a = true) :
    w = .task ∧ a = .ok false ∧ agreed = true := by
  match w, a with
  | .idle, _ | .task, .error _ | .task, .ok true => cases agrees
  | .task, .ok false => exact ⟨rfl, rfl, agrees⟩

/-- Work whose programs are deaf; a poll in progress that turns out to be in vain
leaves what is agreed on. -/
def Frame.Deaf (agreed : Bool) : Frame (Memory.host S N C) → Prop
  | .listening _ next => ∀ a, (next a).Deaf false
  | .ticking next | .running _ next => ∀ a, (next a).Deaf false
  | .polling w next => ∀ a, (next a).Deaf (Call.agrees (H := Memory.host S N C) agreed (.poll w) a)
  | _ => True

/-- Ticks that are the same once hushed have found the same amount to do. -/
theorem Tick.eventful_of_hush {t t' : Tick} (same : t.hush = t'.hush) : t.eventful = t'.eventful :=
  (congrArg Tick.eventful same :)

/-- A tick in vain is one in vain for every waker. -/
theorem Tick.Vain.congr {t t' : Tick} (vain : t.Vain) (same : t.hush = t'.hush) : t'.Vain where
  uneventful := by rw [← eventful_of_hush same, vain.uneventful]
  vacant := by
    have stage : t.stage = t'.stage := (congrArg Tick.stage same :)
    rw [← stage, vain.vacant]

namespace Machine

variable {x y x' y' : Machine (Memory.host S N C)}

/-- The programs that a machine goes on with, now or later, are deaf. -/
structure Deaf (m : Machine (Memory.host S N C)) : Prop where
  stack : ∀ f ∈ m.stack, f.Deaf true
  program : ∀ p, m.control = .run p → p.Deaf true

/-- A machine is deaf if the work that waits and the program that it runs are. -/
theorem Deaf.mk_program {l : Loop (Memory.host S N C)} {stack : List (Frame (Memory.host S N C))}
    {p : Program (Memory.host S N C)} (below : ∀ f ∈ stack, f.Deaf true) {agreed : Bool}
    (deaf : p.Deaf agreed) : (⟨l, stack, .run p⟩ : Machine _).Deaf :=
  ⟨below, fun _ same => Control.run.inj same ▸ deaf.mono fun _ => rfl⟩

/-- Entering a callback or settling a future leaves a machine deaf. -/
theorem deaf_deliver {l : Loop (Memory.host S N C)} {stack : List (Frame (Memory.host S N C))}
    {req : RequestId} {h : HandleId} {callback : Callback C} {outcome : RequestOutcome}
    (below : ∀ f ∈ stack, f.Deaf true) :
    (deliver l stack req h callback outcome).Deaf := by
  cases callback with
  | closure c => exact ⟨List.forall_mem_cons.2 ⟨trivial, below⟩, by simp [deliver]⟩
  | promise => exact ⟨below, by simp [deliver]⟩

/-- Deaf handlers keep a machine deaf. -/
theorem Rule.deaf (handlers : ∀ c o, (enter c o).Deaf false)
    (rule : Rule Memory.transport enter x y) (deaf : x.Deaf) :
    y.Deaf := by
  obtain ⟨stack, program⟩ := deaf
  cases rule with
  | finish => exact ⟨stack, by simp⟩
  | ask | issue | refuseListen | script | survey | note | recallShared | update =>
    exact .mk_program stack ((program _ rfl).2 _)
  | enter => exact .mk_program stack (handlers _ _)
  | beginListen => exact ⟨List.forall_mem_cons.2 ⟨fun a => (program _ rfl).2 a, stack⟩, by simp⟩
  | tick | runLoop | poll =>
    have deaf := (program _ rfl).2
    exact ⟨List.forall_mem_cons.2 ⟨trivial, List.forall_mem_cons.2 ⟨deaf, stack⟩⟩,
      by simp [beginTick, ofTick]⟩
  | emit => exact ⟨List.forall_mem_cons.2 ⟨trivial, stack⟩, by simp⟩
  | nextListener | beginParting | skipParting =>
    exact ⟨List.forall_mem_cons.2 ⟨trivial, (List.forall_mem_cons.1 stack).2⟩, by simp⟩
  | endEmission | endDelivery | endConnect | endLoan | endParting | endTick =>
    exact ⟨(List.forall_mem_cons.1 stack).2, by simp⟩
  | endListen | failListen | ticked | runFailed | endRun | pollFailed | endPoll | pausePoll =>
    obtain ⟨top, below⟩ := List.forall_mem_cons.1 stack
    exact .mk_program below (top _)
  | runAgain => exact ⟨List.forall_mem_cons.2 ⟨trivial, stack⟩, by simp [beginTick, ofTick]⟩
  | completeWrite | completeShutdown =>
    exact deaf_deliver (List.forall_mem_cons.2 ⟨trivial, (List.forall_mem_cons.1 stack).2⟩)
  | completeConnect | failConnect | readData | reclaim =>
    exact ⟨List.forall_mem_cons.2 ⟨trivial,
      List.forall_mem_cons.2 ⟨trivial, (List.forall_mem_cons.1 stack).2⟩⟩, by simp⟩
  | noteResult | collect | firstPass | nextPass | beginReclaims | skipReport | dropConnect
    | connection | dropConnection | skipRead | refuseRead | readNothing | readEof | readFailed
    | skipReclaim | breach =>
    exact ⟨List.forall_mem_cons.2 ⟨trivial, (List.forall_mem_cons.1 stack).2⟩, by simp [ofTick]⟩

/-- Where a machine and another that hushing makes the same agree on whether the task was woken,
given whether they agree on it now: a program listens for wake-ups only where they agree, and a tick
in vain leaves it to be so for the poll that waits for it. -/
inductive Agrees (agree : Prop) : Machine (Memory.host S N C) → Prop where
  | program {l stack p agreed} (eventful : Eventful stack) (deaf : p.Deaf agreed)
      (known : agreed = true → agree) :
    Agrees agree ⟨l, stack, .run p⟩
  | work {m : Machine (Memory.host S N C)} (eventful : Eventful m.stack)
    (other : ∀ p, m.control ≠ .run p) (worked : m.control ≠ .ticked (.ok false)) : Agrees agree m
  | vain {l t below agreed} (eventful : Eventful below) (vain : t.Vain)
    (top : ∀ f ∈ below.head?, f.Deaf agreed) (known : agreed = true → agree) :
    Agrees agree (ofTick below t l)
  | ended {l below agreed} (eventful : Eventful below) (top : ∀ f ∈ below.head?, f.Deaf agreed)
    (known : agreed = true → agree) : Agrees agree ⟨l, below, .ticked (.ok false)⟩

/-- Two machines in lockstep. -/
structure Lockstep (x y : Machine (Memory.host S N C)) : Prop where
  same : x.hush = y.hush
  deaf : x.Deaf
  agrees : x.Agrees (x.loop.woken = y.loop.woken)

/-- Where a tick begins, the one who waits for it still knows what was known before. -/
theorem agrees_beginTick {agree : Prop} {below : List (Frame (Memory.host S N C))}
    (l : Loop (Memory.host S N C)) (w : Waker) {agreed : Bool} (eventful : Eventful below)
    (top : ∀ f ∈ below.head?, f.Deaf agreed) (known : agreed = true → agree) :
    (beginTick below l w).Agrees agree := by
  obtain vain | worked := l.vain_beginTick w
  · exact .vain eventful vain top known
  · exact .work (eventful_tick.2 ⟨worked, eventful⟩) (by simp [beginTick, ofTick])
      (by simp [beginTick, ofTick])

/-- What two machines agree on after a call. -/
theorem agrees_perform {k k' : Loop (Memory.host S N C)} {s s' : List (Frame (Memory.host S N C))}
    {c : Call (Memory.host S N C)} {next : c.Answer → Program (Memory.host S N C)} {agreed : Bool}
    (eventful : Eventful s) (deaf : (Program.call c next).Deaf agreed)
    (known : agreed = true → k.woken = k'.woken) :
    (perform Memory.transport k s c next).Agrees
      ((perform Memory.transport k s c next).loop.woken =
        (perform Memory.transport k' s' c next).loop.woken) := by
  obtain ⟨-, rest⟩ := deaf
  have never {agree : Prop} : false = true → agree := fun h => absurd h Bool.false_ne_true
  cases c with
  | ask q => exact .program eventful (rest _) known
  | issue o =>
    cases o with
    | forgetWake => exact .program eventful (rest ()) fun _ => rfl
    | _ => exact .program eventful (rest _) never
  | listen h backlog onConnection =>
    generalize (perform Memory.transport k' s' (.listen h backlog onConnection) next).loop.woken =
      woken
    rcases begun : (k.meter h .listen .dispatched).beginListen Memory.transport h backlog
        onConnection with ⟨a, l⟩
    cases a with
    | error e =>
      simp only [perform, begun]
      exact .program eventful (rest (.error e)) never
    | ok =>
      simp only [perform, begun]
      exact .work (eventful_cons.2 ⟨by simp, eventful⟩) (by simp) (by simp)
  | tick w =>
    exact agrees_beginTick k w (eventful_cons.2 ⟨by simp, eventful⟩)
      (by rintro _ ⟨⟩; exact rest) never
  | run mode =>
    exact agrees_beginTick k .idle (eventful_cons.2 ⟨by simp, eventful⟩)
      (by rintro _ ⟨⟩; exact rest) never
  | poll w =>
    exact agrees_beginTick { k with waker := w } w (eventful_cons.2 ⟨by simp, eventful⟩)
      (by rintro _ ⟨⟩; exact rest) known
  | script script => exact .program eventful (rest ()) never
  | survey => exact .program eventful (rest k.net) known
  | note n => exact .program eventful (rest ()) known
  | «recall» => exact .program eventful (rest k.shared) known
  | update f => exact .program eventful (rest ()) known

/-- What two machines agree on after a tick: a poll that goes on pending has woken the task, or
leaves what is agreed on. -/
theorem agrees_afterTick? {k k' : Loop (Memory.host S N C)}
    {s s' : List (Frame (Memory.host S N C))} {result : Except LoopError Bool} {agreed : Bool}
    (same : k.hush = k'.hush) (frames : s.map Frame.hush = s'.map Frame.hush)
    (eventful : Eventful s) (top : ∀ f ∈ s.head?, f.Deaf agreed)
    (known : agreed = true → result ≠ .ok false ∨ k.woken = k'.woken)
    (first : afterTick? k result s = some x') (second : afterTick? k' result s' = some y') :
    x'.Agrees (x'.loop.woken = y'.loop.woken) := by
  have unstopped : ({ k with stopping := false } : Loop (Memory.host S N C)).hush =
      { k' with stopping := false }.hush :=
    congrArg (fun l => { l with stopping := false }) same
  have never {agree : Prop} : false = true → agree := fun h => absurd h Bool.false_ne_true
  obtain ⟨rfl, rfl⟩ | ⟨f, rest, rest', rfl, rfl, below⟩
      | ⟨t, t', rest, rest', rfl, rfl, ticks, below⟩ := cases_of_map_hush frames
  · cases first
  · have top := top f rfl
    have beneath := (eventful_cons.1 eventful).2
    cases f with
    | ticking next =>
      cases first
      exact .program beneath (top result) never
    | running mode next =>
      cases result with
      | error e =>
        cases first
        exact .program beneath (top (.error e)) never
      | ok worked =>
        simp only [afterTick?] at first
        split at first
        case isTrue =>
          cases first
          exact .program beneath (top _) never
        case isFalse =>
          cases first
          exact agrees_beginTick _ .idle eventful (by rintro _ ⟨⟩; exact top) never
    | polling w next =>
      cases result with
      | error e =>
        cases first
        exact .program beneath (top (.error e)) fun agrees => by cases (Call.agrees_poll agrees).2.1
      | ok worked =>
        simp only [afterTick?] at first second
        split at first
        case isTrue =>
          cases first
          exact .program beneath (top (.ok true)) fun agrees => by
            cases (Call.agrees_poll agrees).2.1
        case isFalse on =>
          rw [Loop.stopping_of_hush same, Loop.alive_of_hush unstopped] at on
          rw [if_neg on] at second
          cases first
          cases second
          refine .program beneath (top (.ok false)) fun agrees => ?_
          obtain ⟨rfl, -, agreed⟩ := Call.agrees_poll agrees
          cases worked with
          | true => simp [ofProgram, Loop.wakeBy]
          | false => exact (known agreed).resolve_left fun other => other rfl
    | _ => cases first
  · cases first

/-- Whether the innermost tick has come to nothing so far, or has returned that nothing was done. -/
def InVain (m : Machine (Memory.host S N C)) : Prop :=
  m.control = .ticked (.ok false) ∨
    ∃ t below, m.stack = .tick t :: below ∧ t.eventful = false ∧ m.control = .advance

/-- A tick on top, of two machines that hushing makes the same. -/
theorem tick_of_map_hush {t : Tick} {below s : List (Frame (Memory.host S N C))}
    (frames : (Frame.tick t :: below).map Frame.hush = s.map Frame.hush) :
    ∃ t' below', s = .tick t' :: below' ∧ t.hush = t'.hush ∧
      below.map Frame.hush = below'.map Frame.hush := by
  obtain ⟨⟨⟩, -⟩ | ⟨f, rest, rest', here, rfl, below⟩
      | ⟨t₁, t', rest, rest', here, rfl, ticks, below⟩ := cases_of_map_hush frames
  · obtain ⟨rfl, rfl⟩ := List.cons.inj here
    exact ⟨t, rest', rfl, rfl, below⟩
  · obtain ⟨⟨⟩, rfl⟩ := List.cons.inj here
    exact ⟨t', rest', rfl, ticks, below⟩

/-- A poll in vain is one in vain for every waker. -/
theorem InVain.congr (vain : x.InVain) (same : x.hush = y.hush) : y.InVain := by
  obtain ⟨k, s, c⟩ := x
  obtain ⟨k', s', c'⟩ := y
  obtain ⟨-, frames, rfl⟩ := hush_eq_iff.1 same
  obtain returned | ⟨t, below, rfl, uneventful, goes⟩ := vain
  · exact .inl returned
  · obtain ⟨t', below', rfl, ticks, -⟩ := tick_of_map_hush frames
    exact .inr ⟨t', below', rfl, Tick.eventful_of_hush ticks ▸ uneventful, goes⟩

/-- A poll in vain has left alone whether the task was woken. -/
theorem AfterVain.woken {l : Loop (Memory.host S N C)} {below : List (Frame (Memory.host S N C))}
    (after : AfterVain l below y) (vain : y.InVain) : y.loop.woken = l.woken := by
  cases after with
  | vain _ quiet => exact quiet
  | ended => rfl
  | eventful eventful =>
    obtain ⟨⟨⟩⟩ | ⟨t, below, here, uneventful, -⟩ := vain
    obtain ⟨here, -⟩ := List.cons.inj here
    rw [Frame.tick.inj here, uneventful] at eventful
    cases eventful
  | told => simp [InVain] at vain
  | lent => simp [InVain] at vain

variable (enter) in
/-- Where machines agree on what their programs listen for, both take a step or neither. -/
theorem Agrees.hush_step? {k k' : Loop (Memory.host S N C)}
    {s s' : List (Frame (Memory.host S N C))} {c : Control (Memory.host S N C)}
    (agrees : (⟨k, s, c⟩ : Machine (Memory.host S N C)).Agrees (k.woken = k'.woken))
    (same : k.hush = k'.hush) (frames : s.map Frame.hush = s'.map Frame.hush) :
    (step? Memory.transport enter ⟨k, s, c⟩).map hush =
      (step? Memory.transport enter ⟨k', s', c⟩).map hush := by
  by_cases listens : ∃ next, c = .run (.call (.ask .woken) next)
  · obtain ⟨next, rfl⟩ := listens
    cases agrees with
    | program _ deaf known =>
      simp only [step?, Loop.breach_of_hush same]
      split
      case isTrue => rfl
      case isFalse =>
        have heard : next k.woken = next k'.woken := by
          obtain agreed | either := deaf.1
          · rw [known agreed]
          · exact either _ _
        exact congrArg some
          ((congrArg (fun p => (ofProgram s p k).hush) heard).trans (hush_mk same frames _))
    | work _ other => exact absurd rfl (other _)
  · refine Machine.hush_step? same frames c fun call next here => ?_
    subst here
    cases agrees with
    | program _ deaf => exact deaf.1.of_ne fun asks => by subst asks; exact listens ⟨next, rfl⟩
    | work _ other => exact absurd rfl (other _)

/-- Work other than a program and the end of a tick enters a handler, goes on with one that waited,
or is at work still. -/
theorem agrees_work {agree : Prop} (handlers : ∀ c o, (enter c o).Deaf false)
    (rule : Rule Memory.transport enter x y) (deaf : x.Deaf) (eventful : Eventful x.stack)
    (other : ∀ p, x.control ≠ .run p) (tick : ∀ result, x.control ≠ .ticked result) :
    y.Agrees agree := by
  have never : false = true → agree := fun h => absurd h Bool.false_ne_true
  obtain ⟨all, unworked⟩ | ⟨-, ⟨p, here⟩ | ⟨result, here⟩⟩ := rule.eventful eventful
  · by_cases program : ∃ p, y.control = .run p
    · obtain ⟨p, here⟩ := program
      cases rule with
      | enter => exact .program eventful (handlers _ _) never
      | endListen | failListen => exact .program all (deaf.stack _ List.mem_cons_self _) never
      | completeWrite | completeShutdown => exact absurd here deliver_ne_run
      | finish | ask | issue | refuseListen | script | survey | note | recallShared | update =>
        exact absurd rfl (other _)
      | ticked | runFailed | endRun | pollFailed | endPoll | pausePoll => exact absurd rfl (tick _)
      | _ => cases here
    · exact .work all (fun p here => program ⟨p, here⟩) unworked
  · exact absurd here (other p)
  · exact absurd here (tick result)

/-- Two machines in lockstep stay so. -/
theorem Lockstep.step (handlers : ∀ c o, (enter c o).Deaf false) (lockstep : Lockstep x y)
    (taken : x.step? Memory.transport enter = some x') :
    ∃ y', y.step? Memory.transport enter = some y' ∧ Lockstep x' y' := by
  obtain ⟨same, deaf, agrees⟩ := lockstep
  obtain ⟨k, s, c⟩ := x
  obtain ⟨k', s', c'⟩ := y
  obtain ⟨loops, frames, rfl⟩ := hush_eq_iff.1 same
  have moves := Agrees.hush_step? enter agrees loops frames
  obtain ⟨sound, rule⟩ := rule_of_step? taken
  rw [taken] at moves
  obtain ⟨y', taken', same'⟩ := Option.map_eq_some_iff.1 moves.symm
  obtain ⟨-, rule'⟩ := rule_of_step? taken'
  refine ⟨y', taken', same'.symm, rule.deaf handlers deaf, ?_⟩
  cases agrees with
  | @program _ _ p agreed eventful goes known =>
    cases p with
    | done =>
      cases rule
      exact .work eventful (by simp) (by simp)
    | call c next =>
      obtain rfl := eq_perform_of_step? taken
      obtain rfl := eq_perform_of_step? taken'
      exact agrees_perform eventful goes known
  | work eventful other worked =>
    cases c with
    | ticked result =>
      have other : result ≠ .ok false := fun vain => worked (congrArg Control.ticked vain)
      exact agrees_afterTick? loops frames eventful
        (fun f there => deaf.stack f (List.mem_of_mem_head? there))
        (fun _ => .inl other) (afterTick?_of_step? taken) (afterTick?_of_step? taken')
    | run p => exact absurd rfl (other p)
    | _ => exact agrees_work handlers rule deaf eventful (by simp) (by simp)
  | @vain _ t below agreed eventful vain top known =>
    -- the other machine stands at a tick in vain too, and wakes as little
    have quiet (still : x'.InVain) : y'.loop.woken = k'.woken := by
      obtain ⟨t', below', rfl, ticks, -⟩ := tick_of_map_hush frames
      exact (rule'.afterVain (vain.congr ticks)).woken (still.congr same'.symm)
    cases rule.afterVain vain with
    | vain vain' woken =>
      exact .vain eventful vain' top fun agreed => by
        rw [quiet (.inr ⟨_, _, rfl, vain'.uneventful, rfl⟩)]
        exact woken.trans (known agreed)
    | ended =>
      exact .ended eventful top fun agreed => by
        rw [quiet (.inl rfl)]
        exact known agreed
    | eventful worked =>
      exact .work (eventful_tick.2 ⟨worked, eventful⟩) (by simp [ofTick]) (by simp [ofTick])
    | told worked => exact .work (eventful_tick.2 ⟨worked, eventful⟩) (by simp) (by simp)
    | lent worked =>
      exact .work (eventful_cons.2 ⟨by simp, eventful_tick.2 ⟨worked, eventful⟩⟩)
        (by simp) (by simp)
  | ended eventful top known =>
    exact agrees_afterTick? loops frames eventful top (fun agreed => .inr (known agreed))
      (afterTick?_of_step? taken) (afterTick?_of_step? taken')

end Machine

end Reactor
