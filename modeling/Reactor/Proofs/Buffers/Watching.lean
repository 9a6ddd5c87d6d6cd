import Reactor.Proofs.Buffers.Lending
import Reactor.Proofs.Machine.Observers

/-!
# Loans to handlers that observe

What was read is lent out while it is told. A tick that begins meanwhile was started by a listener,
and a listener goes on to listen as long as its handle is there. So where a tick goes on and a
buffer is lent out, its handle is gone, or has a listener that does more than observe.
-/

namespace Reactor

variable {H : Host} {T : Transport H.Net H.Script} {enter : Handlers H}
  {ends : Option ListenerError → Prop}

namespace Loop

variable {l l' : Loop H} {z : Listener H.Closure} {h : HandleId} {name : EventName} {c : H.Closure}

/-- The listeners of an event are those that are registered for it. -/
theorem mem_listenersOf : c ∈ l.listenersOf h name ↔ ⟨h, name, c⟩ ∈ l.listeners := by
  simp only [listenersOf, List.mem_filterMap]
  constructor
  · rintro ⟨z, hz, here⟩
    split at here
    case isTrue same =>
      obtain ⟨rfl, rfl⟩ := same
      cases here
      exact hz
    case isFalse => cases here
  · exact fun hz => ⟨_, hz, if_pos ⟨rfl, rfl⟩⟩

/-- Operations take nobody off the listeners. -/
theorem Effect.listens {o : Operation H.Closure} {a : o.Answer} (effect : Effect T l o a l')
    (there : z ∈ l.listeners) :
    z ∈ l'.listeners := by
  cases effect with
  | on => exact List.mem_append_left _ there
  | stop same | forgetWake same => rwa [same.listeners]
  | readStop | close => simpa using there
  | _ => exact there

end Loop

namespace Machine

variable {x y m : Machine H} {past : List (Machine H)} {z : Listener H.Closure}

/-- Telling an outcome leaves the listeners as they were. -/
@[simp] theorem listeners_deliver (l : Loop H) (stack : List (Frame H)) (req : RequestId)
    (h : HandleId) (callback : Callback H.Closure) (outcome : RequestOutcome) :
    (deliver l stack req h callback outcome).loop.listeners = l.listeners := by
  cases callback with
  | closure => rfl
  | promise => exact (Loop.release_frame _ _).2.2.2.1.trans rfl

/-- Who listens goes on to, unless the end of its handle is under way. -/
theorem Rule.listens (rule : Rule T enter x y) (there : z ∈ x.loop.listeners) :
    z ∈ y.loop.listeners ∨ ∃ f ∈ x.stack, f.ending? = some z.handle := by
  have kept {listeners : List (Listener H.Closure)} (same : listeners = x.loop.listeners)
      {P : Prop} : z ∈ listeners ∨ P :=
    .inl (same ▸ there)
  cases rule with
  | @issue l _ o =>
    obtain ⟨l₀, l₁, before, effect, after⟩ := Loop.issues_issue T l o
    refine .inl ?_
    rw [after.listeners]
    exact effect.listens (by rwa [before.listeners])
  | refuseListen begun =>
    obtain rfl | rfl := Loop.effect_of_refused_beginListen begun
    · exact kept rfl
    · exact kept rfl
  | beginListen begun =>
    obtain ⟨_, -, -, -, -, agrees⟩ := Loop.effect_of_beginListen begun
    refine .inl ?_
    rw [agrees.listeners]
    exact List.mem_append_left _ there
  | endDelivery | endConnect | dropConnect => exact .inl (by simpa using there)
  | @endParting _ _ h =>
    by_cases same : z.handle = h
    · exact .inr ⟨_, List.mem_cons_self, by rw [same]; rfl⟩
    · exact .inl (List.mem_filter.2 ⟨there, by simpa using same⟩)
  | pausePoll =>
    split
    · exact kept rfl
    · exact kept rfl
  | completeWrite | completeShutdown => exact .inl (by simpa using there)
  | readNothing _ _ _ _ read | readData _ _ _ _ read =>
    obtain rfl := congrArg Prod.snd read
    exact kept rfl
  | readEof _ _ _ _ read | readFailed _ _ _ _ read =>
    obtain rfl := congrArg Prod.snd read
    exact .inl (by simpa [fillBuffer] using there)
  | _ => exact kept rfl

/-! ## What is lent out -/

variable (enter ends) in
/-- Who listens to what was lent out does more than observe, or the handle is gone. -/
def Meddled (m : Machine H) (loan : HandleId × List UInt8) : Prop :=
  m.Gone loan.1 ∨ ∃ c ∈ m.loop.listenersOf loan.1 .data,
    ¬ (enter c (.event loan.1 (.data loan.2))).Observes ends

/-- Where somebody meddled the handle stays gone, or the listener stays. -/
theorem Meddled.next {loan : HandleId × List UInt8} (meddled : x.Meddled enter ends loan)
    (reached : Reached T enter past x) (next : Next T enter x y) : y.Meddled enter ends loan := by
  have turn := reached.turn next
  obtain gone | ⟨c, hc, meddles⟩ := meddled
  · exact .inl (turn.gone gone)
  · have there : ⟨loan.1, .data, c⟩ ∈ y.loop.listeners ∨
        ∃ f ∈ x.stack, f.ending? = some loan.1 := by
      cases next with
      | step taken => exact (rule_of_step? taken).2.listens (Loop.mem_listenersOf.1 hc)
      | resume => exact .inl (Loop.mem_listenersOf.1 hc)
    obtain there | ⟨f, hf, ending⟩ := there
    · exact .inr ⟨c, Loop.mem_listenersOf.2 there, meddles⟩
    · exact .inl (turn.gone (reached.ending hf ending))

variable (ends) in
/-- How far the telling of what was lent out has come among those who listen: what is done next, and
the work above the loan. -/
inductive Telling (l : Loop H) (h : HandleId) (view : List UInt8) :
    Control H → List (Frame H) → Prop where
  | begins : Telling l h view (.emit h (.data view)) []
  | returns {failure cs} (listen : ∀ c ∈ cs, c ∈ l.listenersOf h .data) :
    Telling l h view (.returned failure) [.emission h (.data view) cs]
  | enters {c cs} (listen : ∀ d ∈ c :: cs, d ∈ l.listenersOf h .data) :
    Telling l h view (.enter c (.event h (.data view))) [.emission h (.data view) cs]
  | runs {p cs} (observes : p.Observes ends) (listen : ∀ c ∈ cs, c ∈ l.listenersOf h .data) :
    Telling l h view (.run p) [.emission h (.data view) cs]
  | ended {failure} : Telling l h view (.returned failure) []

variable (enter ends) in
/-- Somebody meddled with all that is lent out, but for what was lent out last and is being told. -/
def Watched (m : Machine H) : Prop :=
  (∀ loan ∈ m.loans, m.Meddled enter ends loan) ∨
    ∃ h view above below, m.stack = above ++ .lending h view :: below ∧
      Telling ends m.loop h view m.control above ∧
      ∀ loan ∈ below.filterMap Frame.loan?, m.Meddled enter ends loan

/-- A step while a loan is told goes on with the telling, or ends the loan, or enters
somebody who meddles. -/
theorem Rule.watched_of_telling {l : Loop H} {control : Control H} {above below : List (Frame H)}
    {h : HandleId} {view : List UInt8} (telling : Telling ends l h view control above)
    (rule : Rule T enter ⟨l, above ++ .lending h view :: below, control⟩ y)
    (rest : ∀ loan ∈ below.filterMap Frame.loan?, y.Meddled enter ends loan) :
    y.Watched enter ends := by
  cases telling with
  | begins => cases rule; exact .inr ⟨h, view, [_], below, rfl, .returns fun _ hc => hc, rest⟩
  | returns listen =>
    cases rule with
    | nextListener => exact .inr ⟨h, view, [_], below, rfl, .enters listen, rest⟩
    | endEmission => exact .inr ⟨h, view, [], below, rfl, .ended, rest⟩
  | @enters c cs listen =>
    cases rule
    obtain ⟨here, later⟩ := List.forall_mem_cons.1 listen
    by_cases observes : (enter c (.event h (.data view))).Observes ends
    · exact .inr ⟨h, view, [_], below, rfl, .runs observes later, rest⟩
    · exact .inl (List.forall_mem_cons.2 ⟨.inr ⟨c, here, observes⟩, rest⟩)
  | runs observes listen =>
    cases observes with
    | done => cases rule; exact .inr ⟨h, view, [_], below, rfl, .returns listen, rest⟩
    | @call c next looks later =>
      cases c with
      | ask | survey | note | «recall» | update =>
        cases rule; exact .inr ⟨h, view, [_], below, rfl, .runs (later _) listen, rest⟩
      | issue | listen | tick | run | poll | script => cases looks
  | ended => cases rule; exact .inl rest

/-- Each rule keeps the machine watched. -/
theorem Rule.watched (rule : Rule T enter x y)
    (meddled : ∀ {loan}, x.Meddled enter ends loan → y.Meddled enter ends loan)
    (watched : x.Watched enter ends) : y.Watched enter ends := by
  obtain ⟨l, stack, control⟩ := x
  obtain all | ⟨h, view, above, below, rfl, telling, rest⟩ := watched
  · have all (loan) (hl : loan ∈ stack.filterMap Frame.loan?) : y.Meddled enter ends loan :=
      meddled (all loan hl)
    cases rule with
    | completeWrite | completeShutdown =>
      refine .inl fun loan hl => all loan ?_
      rwa [loans_deliver] at hl
    | readData => exact .inr ⟨_, _, [], _, rfl, .begins, all⟩
    | endLoan => exact .inl fun loan hl => all loan (List.mem_cons_of_mem _ hl)
    | _ => exact .inl all
  · exact rule.watched_of_telling telling fun loan hl => meddled (rest loan hl)

/-- Where a tick goes on somebody meddled with all that is lent out. -/
theorem Reached.meddled {l : Loop H} {t : Tick} {stack : List (Frame H)}
    (reached : Reached T enter past ⟨l, .tick t :: stack, .advance⟩)
    (ends : Option ListenerError → Prop) :
    ∀ loan ∈ stack.filterMap Frame.loan?,
      Meddled enter ends ⟨l, .tick t :: stack, .advance⟩ loan := by
  have watched : Watched enter ends ⟨l, .tick t :: stack, .advance⟩ := by
    refine reached.history (P := fun _ m => m.Watched enter ends) ?_
      fun past x y reached watched next => ?_
    · exact fun _ _ _ _ => .inl nofun
    · cases next with
      | step taken => exact (rule_of_step? taken).2.watched (·.next reached (.step taken)) watched
      | resume p rest => exact .inl nofun
  obtain all | ⟨h, view, above, below, here, telling, -⟩ := watched
  · exact all
  · cases telling

end Machine

end Reactor
