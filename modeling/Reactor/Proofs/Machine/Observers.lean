import Reactor.Proofs.Machine.Exactness
import Reactor.Proofs.Machine.Steps
import Reactor.Proofs.Stream.Moves

/-!
# Handlers that return

A handler comes to its end when each of its calls is answered at once, and so does an event
that is told to such handlers. What its calls do to the loop, one after the other, is what
it does. A handler that observes only leaves the loop as it is, up to the journal and to
what the handlers share.
-/

namespace Reactor

variable {H : Host} {T : Transport H.Net H.Script} {enter : Handlers H}

/-- Whether a call is answered at once. -/
def Call.prompt : Call H → Bool
  | .listen .. | .tick _ | .run _ | .poll _ => false
  | _ => true

/-- Whether a call touches nothing of a loop but its journal and what the handlers share. -/
def Call.observes : Call H → Bool
  | .ask _ | .survey | .note _ | .recall | .update _ => true
  | _ => false

/-- A program that makes calls of some kind only, whatever they answer, and
ends in one of some ways. -/
inductive Program.Makes (may : Call H → Prop) (ends : Option ListenerError → Prop) :
    Program H → Prop where
  | done {failure} (allowed : ends failure) : Makes may ends (.done failure)
  | call {c next} (allowed : may c) (goes : ∀ a, Makes may ends (next a)) :
      Makes may ends (.call c next)

/-- A program that only observes. -/
abbrev Program.Observes (ends : Option ListenerError → Prop) (p : Program H) : Prop :=
  p.Makes (·.observes = true) ends

/-- What a program makes of a call that may fail it makes of the value, if there is one. -/
theorem Program.Makes.orRefuse {may : Call H → Prop} {α : Type} {next : α → Program H}
    (goes : ∀ a, (next a).Makes may fun _ => True) (r : Except LoopError α) :
    (Program.orRefuse next r).Makes may fun _ => True := by
  cases r with
  | ok a => exact goes a
  | error e => exact .done trivial

/-- A program may make more calls than it was said to. -/
theorem Program.Makes.mono {may may' : Call H → Prop} {ends : Option ListenerError → Prop}
    {p : Program H} (makes : p.Makes may ends) (more : ∀ c, may c → may' c) :
    p.Makes may' ends := by
  induction makes with
  | done allowed => exact .done allowed
  | call allowed _ ih => exact .call (more _ allowed) ih

/-- A call that only observes is answered at once. -/
theorem Call.prompt_of_observes {c : Call H} (observes : c.observes = true) : c.prompt = true := by
  cases c <;> first | rfl | cases observes

/-- The second loop is the first, up to the journal and to what the handlers share. -/
def Loop.Beside (l l' : Loop H) : Prop := l' = { l with journal := l'.journal, shared := l'.shared }

namespace Loop.Beside

variable {l l' l'' : Loop H}

/-- A loop stands beside itself. -/
theorem refl (l : Loop H) : l.Beside l := rfl

/-- Standing beside is transitive. -/
theorem trans (first : l.Beside l') (second : l'.Beside l'') : l.Beside l'' := by
  unfold Beside at first second ⊢
  rw [first] at second
  exact second

/-- A loop beside another agrees with it. -/
theorem agrees (beside : l.Beside l') : l'.Agrees l := by
  unfold Beside at beside
  rw [beside]
  exact ⟨rfl, rfl, fun _ => rfl, rfl, rfl, rfl, rfl, rfl, rfl, rfl, rfl⟩

end Loop.Beside

namespace Machine

variable {x y z : Machine H} {l l' : Loop H} {stack : List (Frame H)} {h : HandleId} {e : Event}
  {cs : List H.Closure} {news later : List (HandleId × Event)}

/-! ## Ways and what is told on them -/

variable (T enter) in
/-- A way leads from one machine to another by steps alone, and these events are
told on it, in order. -/
def Tells (x : Machine H) (news : List (HandleId × Event)) (y : Machine H) : Prop :=
  ∃ past, Steps T enter x past y ∧ past.filterMap told? = news

namespace Tells

/-- No step tells nothing. -/
theorem refl (x : Machine H) : Tells T enter x [] x := ⟨[], .refl, rfl⟩

/-- What is told on two ways, one after the other, is told in that order. -/
theorem trans (first : Tells T enter x news y) (second : Tells T enter y later z) :
    Tells T enter x (news ++ later) z := by
  obtain ⟨past, steps, rfl⟩ := first
  obtain ⟨past', steps', rfl⟩ := second
  exact ⟨past ++ past', steps.trans steps', List.filterMap_append ..⟩

/-- A way on which nothing is told comes first. -/
theorem after (silent : Tells T enter x [] y) (rest : Tells T enter y news z) :
    Tells T enter x news z := silent.trans rest

/-- One step tells the event that is about to be told, if there is one. -/
theorem of_rule (rule : Rule T enter x y) (b : x.Balanced) : Tells T enter x x.told?.toList y :=
  ⟨[x], .single (rule.taken b.sound), by cases told : x.told? <;> simp [told]⟩

/-- The machine at the end of a way is balanced if the one at its beginning was. -/
theorem balanced (tells : Tells T enter x news y) (b : x.Balanced) : y.Balanced := by
  obtain ⟨past, steps, -⟩ := tells
  exact steps.run.keeps (fun _ _ b next => b.next next) b

/-- A run goes on along such a way. -/
theorem run {m : Machine H} {past : List (Machine H)} (tells : Tells T enter x news y)
    (run : Run T enter m past x) :
    ∃ later, Run T enter m (past ++ later) y ∧ later.filterMap told? = news := by
  obtain ⟨later, steps, told⟩ := tells
  exact ⟨later, run.trans steps.run, told⟩

end Tells

/-! ## Programs that come to their end -/

variable {R : Loop H → Option ListenerError → Loop H → Prop}

variable (T enter) in
/-- A program on a loop comes to its end, on top of any work, without telling an event, and the
loops before and after are related by how it ended. -/
def Finishes (R : Loop H → Option ListenerError → Loop H → Prop) (l : Loop H) (p : Program H) :
    Prop :=
  ∀ stack, Balanced ⟨l, stack, .run p⟩ →
    ∃ failure l', R l failure l' ∧
      Tells T enter ⟨l, stack, .run p⟩ [] ⟨l', stack, .returned failure⟩

/-- Less may be said of how a program comes to its end. -/
theorem Finishes.mono {R' : Loop H → Option ListenerError → Loop H → Prop} {p : Program H}
    (finishes : Finishes T enter R l p) (more : ∀ failure l', R l failure l' → R' l failure l') :
    Finishes T enter R' l p := fun stack b =>
  let ⟨failure, l', done, way⟩ := finishes stack b
  ⟨failure, l', more failure l' done, way⟩

/-- A program that is done comes to its end at once. -/
theorem finishes_done (failure : Option ListenerError) :
    Finishes T enter (fun l f l' => l' = l ∧ f = failure) l (.done failure) :=
  fun _ b => ⟨_, _, ⟨rfl, rfl⟩, .of_rule .finish b⟩

/-- What is done on the answer of an operation is done from where the operation has led. -/
theorem finishes_issue {o : Operation H.Closure} {next : o.Answer → Program H}
    (goes : Finishes T enter R (l.issue T o).2 (next (l.issue T o).1)) :
    Finishes T enter (fun l => R (l.issue T o).2) l (.call (.issue o) next) := fun stack b =>
  have issued : Rule T enter ⟨l, stack, .run (.call (.issue o) next)⟩ _ := .issue
  let ⟨failure, l', done, way⟩ := goes stack (b.rule issued)
  ⟨failure, l', done, .after (.of_rule issued b) way⟩

variable (T enter) in
/-- What a call that is answered at once does. -/
theorem exists_rule_of_prompt {c : Call H} (prompt : c.prompt = true) (l : Loop H)
    (next : c.Answer → Program H) :
    ∃ a l', ∀ stack, Rule T enter ⟨l, stack, .run (.call c next)⟩ ⟨l', stack, .run (next a)⟩ := by
  cases c with
  | ask => exact ⟨_, _, fun _ => .ask⟩
  | issue => exact ⟨_, _, fun _ => .issue⟩
  | script => exact ⟨_, _, fun _ => .script⟩
  | survey => exact ⟨_, _, fun _ => .survey⟩
  | note => exact ⟨_, _, fun _ => .note⟩
  | «recall» => exact ⟨_, _, fun _ => .recallShared⟩
  | update => exact ⟨_, _, fun _ => .update⟩
  | listen | tick | run | poll => cases prompt

/-- A program with prompt calls comes to its end. What each call makes of a loop, composed, is what
the program does. -/
theorem finishes_of_makes {may : Call H → Prop} {ends : Option ListenerError → Prop}
    {S : Loop H → Loop H → Prop} (refl : ∀ l, S l l)
    (trans : ∀ {l l' l''}, S l l' → S l' l'' → S l l'') (prompt : ∀ c, may c → c.prompt = true)
    (calls : ∀ {l stack c next y},
      may c → Rule T enter ⟨l, stack, .run (.call c next)⟩ y → S l y.loop)
    {p : Program H} (makes : p.Makes may ends) (l : Loop H) :
    Finishes T enter (fun l failure l' => S l l' ∧ ends failure) l p := by
  induction makes generalizing l with
  | done allowed => exact fun stack b => ⟨_, l, ⟨refl l, allowed⟩, .of_rule .finish b⟩
  | @call c next allowed _ ih =>
    intro stack b
    obtain ⟨a, l₁, rule⟩ := exists_rule_of_prompt T enter (prompt c allowed) l next
    obtain ⟨failure, l', ⟨done, ended⟩, rest⟩ := ih a l₁ stack (b.rule (rule stack))
    exact ⟨failure, l', ⟨trans (calls allowed (rule stack)) done, ended⟩,
      .after (.of_rule (rule stack) b) rest⟩

/-- A program that observes only comes to its end, and leaves the loop as it is. -/
theorem finishes_of_observes {ends : Option ListenerError → Prop} {p : Program H}
    (observes : p.Observes ends) (l : Loop H) :
    Finishes T enter (fun l failure l' => l.Beside l' ∧ ends failure) l p := by
  refine finishes_of_makes Loop.Beside.refl Loop.Beside.trans (fun c => Call.prompt_of_observes)
    (fun {_ _ c _ _} may rule => ?_)
    observes l
  cases c with
  | ask | survey | note | «recall» | update => cases rule; rfl
  | issue | listen | tick | run | poll | script => cases may

/-! ## Events that are told -/

/-- An event is told to handlers that return, up to the first that fails. What each of them leaves
alone is still so for the next. -/
theorem tells_listeners {I : Loop H → Prop} (refl : ∀ l, R l none l)
    (trans : ∀ {l l' failure l''}, R l none l' → R l' failure l'' → R l failure l'')
    (keeps : ∀ {l l'}, I l → R l none l' → I l')
    (listens : ∀ c ∈ cs, ∀ l, I l → Finishes T enter R l (enter c (.event h e))) (here : I l)
    (b : Balanced ⟨l, .emission h e cs :: stack, .returned none⟩) :
    ∃ failure l', R l failure l' ∧
      Tells T enter ⟨l, .emission h e cs :: stack, .returned none⟩ []
        ⟨l', stack, .returned failure⟩ := by
  induction cs generalizing l with
  | nil => exact ⟨none, l, refl l, .of_rule (.endEmission fun _ => rfl) b⟩
  | cons c cs ih =>
    have told : Tells T enter ⟨l, .emission h e (c :: cs) :: stack, .returned none⟩ []
        ⟨l, .emission h e cs :: stack, .run (enter c (.event h e))⟩ :=
      .after (.of_rule .nextListener b)
        (.of_rule .enter (b.rule (.nextListener : Rule T enter _ _)))
    obtain ⟨failure, l₁, done, first⟩ := listens c List.mem_cons_self l here _ (told.balanced b)
    have first := told.after first
    cases failure with
    | none =>
      obtain ⟨failure, l', rest, way⟩ :=
        ih (fun d hd => listens d (List.mem_cons_of_mem _ hd)) (keeps here done) (first.balanced b)
      exact ⟨failure, l', trans done rest, first.after way⟩
    | some cause =>
      exact ⟨some cause, l₁, done,
        first.after (.of_rule (.endEmission (by simp)) (first.balanced b))⟩

/-- An event is told to those who listen to it. -/
theorem tells_event {I : Loop H → Prop} (refl : ∀ l, R l none l)
    (trans : ∀ {l l' failure l''}, R l none l' → R l' failure l'' → R l failure l'')
    (keeps : ∀ {l l'}, I l → R l none l' → I l')
    (listens : ∀ c ∈ l.listenersOf h e.name, ∀ l, I l → Finishes T enter R l (enter c (.event h e)))
    (here : I l) (b : Balanced ⟨l, stack, .emit h e⟩) :
    ∃ failure l', R l failure l' ∧
      Tells T enter ⟨l, stack, .emit h e⟩ [(h, e)] ⟨l', stack, .returned failure⟩ := by
  have begun : Tells T enter ⟨l, stack, .emit h e⟩ [(h, e)]
      ⟨l, .emission h e (l.listenersOf h e.name) :: stack, .returned none⟩ := .of_rule .emit b
  obtain ⟨failure, l', done, way⟩ :=
    tells_listeners refl trans keeps listens here (begun.balanced b)
  exact ⟨failure, l', done, begun.trans way⟩

/-- An event is told to listeners that observe only. -/
theorem tells_observers {ends : Option ListenerError → Prop}
    (observe : ∀ c ∈ l.listenersOf h e.name, (enter c (.event h e)).Observes ends)
    (b : Balanced ⟨l, stack, .emit h e⟩) :
    ∃ failure l', (l.Beside l' ∧ (failure = none ∨ ends failure)) ∧
      Tells T enter ⟨l, stack, .emit h e⟩ [(h, e)] ⟨l', stack, .returned failure⟩ := by
  refine tells_event (R := fun l failure l' => l.Beside l' ∧ (failure = none ∨ ends failure))
    (I := fun _ => True) (fun l => ⟨.refl l, .inl rfl⟩)
    (fun first second => ⟨first.1.trans second.1, second.2⟩) (fun _ _ => trivial)
    (fun c hc l _ stack b => ?_) trivial b
  obtain ⟨failure, l', ⟨beside, ended⟩, way⟩ := finishes_of_observes (observe c hc) l stack b
  exact ⟨failure, l', ⟨beside, .inr ended⟩, way⟩

end Machine

end Reactor
