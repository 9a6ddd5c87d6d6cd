import Reactor.Proofs.Machine.Eventful
import Reactor.Proofs.Machine.Exactness
import Reactor.Proofs.Machine.Steps

/-!
# Machines with handlers that are forgiven

A handler that fails can be forgiven: it does what it does and ends without an error. While one tick
goes on, machines whose handlers differ in this are counterparts: they have the same loop, the same
work is suspended in both, and what is done next is the same, up to errors that the second one
forgives. An error can be missing only where it is on its way to the tick, through work that does no
more with an error than hand it on.
-/

namespace Reactor

variable {H : Host} {T : Transport H.Net H.Script} {enter : Handlers H}

/-- The program that does the same and ends without an error. -/
def Program.forgive : Program H → Program H
  | .done _ => .done none
  | .call c next => .call c fun a => (next a).forgive

/-- Whether an event tells what came in, or what went wrong. -/
def Event.incoming : Event → Bool
  | .data _ | .endOfStream | .error _ => true
  | _ => false

/-- The handlers of which some are forgiven when they are told what came in. -/
def Handlers.sparing (enter : Handlers H) (spared : H.Closure → Bool) : Handlers H
  | c, .event h e =>
    if spared c && e.incoming then (enter c (.event h e)).forgive else enter c (.event h e)
  | c, o => enter c o

/-- The second program is the first, or, where this is allowed, the first forgiven. -/
def Program.Forgives (loose : Bool) (p p' : Program H) : Prop :=
  p' = p ∨ loose = true ∧ p' = p.forgive

/-- The second result is the first, or, where this is allowed, none. -/
def Pardons (loose : Bool) (failure failure' : Option ListenerError) : Prop :=
  failure' = failure ∨ loose = true ∧ failure' = none

/-- A program that forgives one that is about to call makes the same call and
forgives whatever comes next. -/
theorem Program.Forgives.call {loose : Bool} {c : Call H} {next : c.Answer → Program H}
    {p : Program H} (forgives : Program.Forgives loose (.call c next) p) :
    ∃ next', p = .call c next' ∧ ∀ a, Program.Forgives loose (next a) (next' a) := by
  obtain rfl | ⟨allowed, rfl⟩ := forgives
  · exact ⟨next, rfl, fun _ => .inl rfl⟩
  · exact ⟨_, rfl, fun _ => .inr ⟨allowed, rfl⟩⟩

/-- A program that forgives one that is done is done as well, and its result pardons the other. -/
theorem Program.Forgives.done {loose : Bool} {failure : Option ListenerError} {p : Program H}
    (forgives : Program.Forgives loose (.done failure) p) :
    ∃ failure', p = .done failure' ∧ Pardons loose failure failure' := by
  obtain rfl | ⟨allowed, rfl⟩ := forgives
  · exact ⟨failure, rfl, .inl rfl⟩
  · exact ⟨none, rfl, .inr ⟨allowed, rfl⟩⟩

/-- A result from which nothing is pardoned. -/
theorem Pardons.strict {failure failure' : Option ListenerError}
    (pardons : Pardons false failure failure') :
    failure' = failure := by
  simpa [Pardons] using pardons

/-- A tick has no more reads to do. -/
def Tick.ReadsOver (t : Tick) : Prop :=
  ∃ passes productive, t.stage = .reads passes [] productive ∧ ¬(productive = true ∧ 0 < passes)

/-- Two ticks go on alike. -/
structure Tick.Accords (t t' : Tick) : Prop where
  waker : t'.waker = t.waker
  stage : t'.stage = t.stage ∨ t.ReadsOver ∧ t'.ReadsOver

/-- Noting a failure keeps the waker of a tick. -/
@[simp] theorem Tick.waker_note (t : Tick) (failure : Option ListenerError) :
    (t.note failure).waker = t.waker := by
  unfold note
  cases failure with
  | none => rfl
  | some cause =>
    simp only
    split <;> rfl

/-- An error breaks off the reads of a tick that is at them. -/
theorem Tick.stage_note_of_reads {t : Tick} {passes : Nat} {rest : List HandleId}
    {productive : Bool} (here : t.stage = .reads passes rest productive) (cause : ListenerError) :
    (t.note (some cause)).stage = .reads 0 [] false := by
  unfold note
  simp only [record, here]
  rfl

/-- An error of anything else than a read leaves a tick where it is. -/
theorem Tick.stage_note_of_others {t : Tick}
    (other : ∀ passes rest productive, t.stage ≠ .reads passes rest productive)
    (failure : Option ListenerError) : (t.note failure).stage = t.stage := by
  obtain same | ⟨passes, rest, productive, here, -⟩ := t.stage_note failure
  · exact same
  · exact absurd here (other passes rest productive)

/-- A tick whose read passes were broken off has no reads left. -/
theorem Tick.readsOver_of_broken {t : Tick} (broken : t.stage = .reads 0 [] false) : t.ReadsOver :=
  ⟨0, false, broken, by simp⟩

namespace Tick.Accords

variable {t t' : Tick}

/-- Every tick accords with itself. -/
theorem refl (t : Tick) : t.Accords t := ⟨rfl, .inl rfl⟩

/-- An error that both ticks hear of, or none, leaves them at the same place. -/
theorem note (accords : t.Accords t') (failure : Option ListenerError) :
    (t.note failure).Accords (t'.note failure) where
  waker := by simpa using accords.waker
  stage := by
    cases failure with
    | none => exact accords.stage
    | some cause =>
      obtain same | ⟨⟨_, _, here, -⟩, _, _, here', -⟩ := accords.stage
      · refine .inl ?_
        cases stage : t.stage with
        | reads => rw [Tick.stage_note_of_reads stage, Tick.stage_note_of_reads (same.trans stage)]
        | _ =>
          have stage' := same.trans stage
          rw [Tick.stage_note_of_others (t := t) (by simp [stage]),
            Tick.stage_note_of_others (t := t') (by simp [stage']), same]
      · exact .inl (by rw [Tick.stage_note_of_reads here, Tick.stage_note_of_reads here'])

/-- Ticks that take the same item are at the same place. -/
theorem restage (accords : t.Accords t') (stage : Stage) :
    ({ t with stage } : Tick).Accords { t' with stage } :=
  ⟨accords.waker, .inl rfl⟩

/-- Ticks that go on to the same stage are at the same place. -/
theorem goOn (accords : t.Accords t') {u u' : Tick} (waker : u.waker = t.waker)
    (waker' : u'.waker = t'.waker) (stage : u'.stage = u.stage) : u.Accords u' :=
  ⟨waker'.trans (accords.waker.trans waker.symm), .inl stage⟩

end Tick.Accords

namespace Machine

variable {x y x' y' m m' : Machine H}

/-- A result that reaches this work is handed on to the tick below. -/
def grounded : List (Frame H) → Bool
  | [.tick _] => true
  | .connecting .. :: rest | .lending .. :: rest => grounded rest
  | _ => false

/-- Suspended work and its counterpart, down to the tick that both are at work on. Where it is
allowed, a result may reach the second without the error that it has for the first; and the tick,
only if the listener that it told last is `blamed`. -/
inductive Counterparts (blamed : Bool) :
    (loose : Bool) → List (Frame H) → List (Frame H) → Prop where
  | tick {loose t t'} (accords : t.Accords t') : Counterparts blamed loose [.tick t] [.tick t']
  /-- The last listener was told, so an error is handed on as it is. -/
  | lastListener {h e s s'} (below : Counterparts blamed true s s')
      (due : grounded s = true → blamed = true) :
    Counterparts blamed true (.emission h e [] :: s) (.emission h e [] :: s')
  | emission {h e rest s s'} (below : Counterparts blamed e.incoming s s') :
    Counterparts blamed false (.emission h e rest :: s) (.emission h e rest :: s')
  | connecting {loose req h s s'} (below : Counterparts blamed loose s s') :
    Counterparts blamed loose (.connecting req h :: s) (.connecting req h :: s')
  | lending {loose h view s s'} (below : Counterparts blamed loose s s') :
    Counterparts blamed loose (.lending h view :: s) (.lending h view :: s')
  | delivering {req h s s'} (below : Counterparts blamed false s s') :
    Counterparts blamed false (.delivering req h :: s) (.delivering req h :: s')
  | reclaiming {h onClose s s'} (below : Counterparts blamed false s s') :
    Counterparts blamed false (.reclaiming h onClose :: s) (.reclaiming h onClose :: s')
  | parting {h emitted s s'} (below : Counterparts blamed false s s') :
    Counterparts blamed false (.parting h emitted :: s) (.parting h emitted :: s')
  | listening {loose h next next' s s'} (goes : ∀ a, Program.Forgives loose (next a) (next' a))
    (below : Counterparts blamed loose s s')
    (due : loose = true → grounded s = true → blamed = true) :
    Counterparts blamed false (.listening h next :: s) (.listening h next' :: s')

/-- Where an error may be missing there may be none missing. -/
theorem Counterparts.strict {blamed loose : Bool} {s s' : List (Frame H)}
    (c : Counterparts blamed loose s s') :
    Counterparts blamed false s s' := by
  induction c with
  | tick accords => exact .tick accords
  | @lastListener h e s s' below _ ih =>
    cases incoming : e.incoming with
    | true => exact .emission (by rwa [incoming])
    | false => exact .emission (by rwa [incoming])
  | emission below => exact .emission below
  | connecting _ ih => exact .connecting ih
  | lending _ ih => exact .lending ih
  | delivering below => exact .delivering below
  | reclaiming below => exact .reclaiming below
  | parting below => exact .parting below
  | listening goes below due => exact .listening goes below due

/-- Right above a tick there is no listener to blame. -/
theorem Counterparts.blame {blamed loose : Bool} {s s' : List (Frame H)}
    (c : Counterparts blamed loose s s') (ground : grounded s = true) (blamed' : Bool) :
    Counterparts blamed' loose s s' := by
  induction c with
  | tick accords => exact .tick accords
  | connecting _ ih => exact .connecting (ih ground)
  | lending _ ih => exact .lending (ih ground)
  | _ => cases ground

/-- What is done next and its counterpart. -/
inductive Matches : (loose : Bool) → Control H → Control H → Prop where
  | run {loose p p'} (forgives : Program.Forgives loose p p') : Matches loose (.run p) (.run p')
  | enter {c o} : Matches false (.enter c o) (.enter c o)
  | returned {loose failure failure'} (pardons : Pardons loose failure failure') :
    Matches loose (.returned failure) (.returned failure')
  | advance : Matches false .advance .advance

/-- The second machine is at the same place of the same tick as the first, with errors forgiven. -/
inductive Counterpart (blamed : Bool) : Machine H → Machine H → Prop where
  | inside {loose l s s' c c'} (below : Counterparts blamed loose s s')
    (matched : Matches loose c c') (due : loose = true → grounded s = true → blamed = true) :
    Counterpart blamed ⟨l, s, c⟩ ⟨l, s', c'⟩
  | emitting {l s s' h e} (below : Counterparts blamed e.incoming s s') :
    Counterpart blamed ⟨l, s, .emit h e⟩ ⟨l, s', .emit h e⟩
  | ended {l result result'} : Counterpart blamed ⟨l, [], .ticked result⟩ ⟨l, [], .ticked result'⟩

/-! ## What is seen of a machine -/

/-- What is done to handlers: an event is told to the listeners that there are, or
a closure is entered. -/
inductive Act (κ : Type) where
  | tell (h : HandleId) (e : Event)
  | enter (c : κ) (o : Occasion)

/-- What a machine is about to do to handlers. -/
def act? (m : Machine H) : Option (Act H.Closure) :=
  match m.control with
  | .emit h e => some (.tell h e)
  | .enter c o => some (.enter c o)
  | _ => none

/-- Whether a handler is about to start a tick. -/
def reenters (m : Machine H) : Bool :=
  match m.control with
  | .run (.call (.tick _) _) | .run (.call (.run _) _) | .run (.call (.poll _) _) => true
  | _ => false

/-- Whether a handle reads, into a buffer that is lent out. -/
def blocked (l : Loop H) (h : HandleId) : Bool :=
  (l.handles.get? h).any fun x => x.isReading && (readBuffer l x).exposed

/-- The error that reaches the tick on top of the stack in the next step. -/
def fault? (m : Machine H) : Option LoopError :=
  match m.control, m.stack with
  | .returned failure, .tick _ :: _ => failure.map .listener
  | .advance, .tick t :: _ =>
    match t.stage with
    | .reads _ (h :: _) _ => if blocked m.loop h then some .bufferExposed else none
    | _ => none
  | _, _ => none

/-- The listener that a tick, and not a handler, is about to tell an event. -/
def addressee? (m : Machine H) : Option H.Closure :=
  match m.control, m.stack with
  | .enter c (.event ..), .emission .. :: below => if grounded below then some c else none
  | _, _ => none

/-- Whether the listener that the tick told last is spared. -/
def blames (spared : H.Closure → Bool) (past : List (Machine H)) : Bool :=
  (past.filterMap addressee?).getLast?.any spared

/-- The machine that comes last is the one whose addressee decides what is blamed. -/
theorem blames_concat (spared : H.Closure → Bool) (past : List (Machine H)) (x : Machine H) :
    blames spared (past ++ [x]) = x.addressee?.elim (blames spared past) spared := by
  unfold blames
  cases told : x.addressee? <;> simp [told]

namespace Counterpart

variable {blamed : Bool}

/-- A counterpart has the same loop. -/
theorem loop (c : x.Counterpart blamed x') : x'.loop = x.loop := by cases c <;> rfl

/-- To handlers the same is done by both. -/
theorem act (c : x.Counterpart blamed x') : x'.act? = x.act? := by
  cases c with
  | inside _ matched => cases matched <;> rfl
  | emitting | ended => rfl

/-- A counterpart reenters the loop exactly where the machine does. -/
theorem reenters (c : x.Counterpart blamed x') : x'.reenters = x.reenters := by
  cases c with
  | inside _ matched =>
    cases matched with
    | @run loose p p' forgives =>
      cases p with
      | done failure =>
        obtain ⟨_, rfl, -⟩ := forgives.done
        rfl
      | call c next =>
        obtain ⟨_, rfl, -⟩ := forgives.call
        cases c <;> rfl
    | _ => rfl
  | emitting | ended => rfl

/-- No error reaches the second tick but the one that reaches the first. -/
theorem fault (c : x.Counterpart blamed x') : x'.fault? = x.fault? ∨ x'.fault? = none := by
  cases c with
  | inside below matched =>
    cases matched with
    | returned pardons =>
      cases below with
      | tick =>
        obtain rfl | ⟨-, rfl⟩ := pardons
        · exact .inl rfl
        · exact .inr rfl
      | _ => exact .inr rfl
    | advance =>
      cases below with
      | tick accords =>
        obtain same | ⟨-, _, _, finished, -⟩ := accords.stage
        · exact .inl (by simp only [fault?, same])
        · exact .inr (by simp only [fault?, finished])
      | _ => exact .inr rfl
    | _ => exact .inr rfl
  | emitting | ended => exact .inr rfl

end Counterpart

end Machine

end Reactor
