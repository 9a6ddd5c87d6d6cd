import Reactor.Proofs.Forgiving.Counterparts

/-!
# Counterparts step by step

Each step of a machine is one of its counterpart, by the same rule, and leads to counterparts again.
Only where an error of a read is forgiven do the two part: the error breaks off the reads of the
first tick, and the second tick has still to find that nothing was left to read.
-/

namespace Reactor.Machine

variable {H : Host} {T : Transport H.Net H.Script} {enter enter' : Handlers H}
  {spared : H.Closure → Bool}
variable {x y x' y' : Machine H} {l : Loop H} {s s' : List (Frame H)} {t t' : Tick}
  {blamed loose : Bool}

/-- A handle has nothing to read: it does not read, or a read of it finds nothing and
leaves the loop as it is. -/
def Dry (T : Transport H.Net H.Script) (l : Loop H) (w : Waker) (h : HandleId) : Prop :=
  ∀ z, l.handles.get? h = some z → z.isReading = true → (readBuffer l z).exposed = false ∧
    ∃ status bytes l', l.ask (T.read w h (readBuffer l z).size) = ((status, bytes), l') ∧
      (status = .pending ∨ status = .data 0) ∧ fillBuffer l' h (readBuffer l z) bytes = l

/-- Whatever a tick has still to read from has nothing to read. -/
def RunsDry (T : Transport H.Net H.Script) (l : Loop H) (t : Tick) : Prop :=
  ∀ passes rest productive, t.stage = .reads passes rest productive →
    (∀ h ∈ rest, Dry T l t.waker h) ∧ (0 < passes → ∀ h ∈ l.handles.ids, Dry T l t.waker h)

/-- The first tick has broken off its reads, and the second is still to find that
nothing was left to read. -/
inductive Lags (T : Transport H.Net H.Script) (l : Loop H) : Machine H → Machine H → Prop where
  | reads {t t' passes rest productive} (waker : t'.waker = t.waker) (finished : t.ReadsOver)
    (here : t'.stage = .reads passes rest productive) (dry : RunsDry T l t') :
    Lags T l (ofTick [] t l) (ofTick [] t' l)

/-- Where no error may be missing there is nobody to blame. -/
theorem Counterpart.strictly {c c' : Control H} (below : Counterparts blamed false s s')
    (matched : Matches false c c') :
    Counterpart blamed ⟨l, s, c⟩ ⟨l, s', c'⟩ :=
  .inside below matched nofun

/-- A step of a running program has a counterpart in one that forgives it. -/
theorem Counterparts.run {p p' : Program H} (below : Counterparts blamed loose s s')
    (due : loose = true → grounded s = true → blamed = true)
    (forgives : Program.Forgives loose p p') (calm : reenters ⟨l, s, .run p⟩ = false)
    (rule : Rule T enter ⟨l, s, .run p⟩ y) :
    ∃ y', Rule T enter' ⟨l, s', .run p'⟩ y' ∧ y.Counterpart blamed y' := by
  cases p with
  | done failure =>
    obtain ⟨failure', rfl, pardons⟩ := forgives.done
    cases rule
    exact ⟨_, .finish, .inside below (.returned pardons) due⟩
  | call c next =>
    obtain ⟨next', rfl, goes⟩ := forgives.call
    cases rule with
    | ask => exact ⟨_, .ask, .inside below (.run (goes _)) due⟩
    | issue => exact ⟨_, .issue, .inside below (.run (goes _)) due⟩
    | refuseListen begun => exact ⟨_, .refuseListen begun, .inside below (.run (goes _)) due⟩
    | beginListen begun => exact ⟨_, .beginListen begun, .emitting (.listening goes below due)⟩
    | script => exact ⟨_, .script, .inside below (.run (goes _)) due⟩
    | survey => exact ⟨_, .survey, .inside below (.run (goes _)) due⟩
    | note => exact ⟨_, .note, .inside below (.run (goes _)) due⟩
    | recallShared => exact ⟨_, .recallShared, .inside below (.run (goes _)) due⟩
    | update => exact ⟨_, .update, .inside below (.run (goes _)) due⟩
    | tick | runLoop | poll => cases calm

/-- An error of which the second tick does not hear. -/
theorem forgive_of_accords {cause : ListenerError} (accords : t.Accords t') (dry : RunsDry T l t) :
    (ofTick [] (t.note (some cause)) l).Counterpart blamed (ofTick [] t' l) ∨
      Lags T l (ofTick [] (t.note (some cause)) l) (ofTick [] t' l) := by
  have waker : t'.waker = (t.note (some cause)).waker := by simpa using accords.waker
  cases stage : t.stage with
  | reads passes rest productive =>
    have finished := Tick.readsOver_of_broken (Tick.stage_note_of_reads stage cause)
    obtain same | ⟨-, finished'⟩ := accords.stage
    · refine .inr (.reads waker finished (same.trans stage) fun passes rest productive here => ?_)
      rw [accords.waker]
      exact dry passes rest productive (same.symm.trans here)
    · exact .inl (.strictly (.tick ⟨waker, .inr ⟨finished, finished'⟩⟩) .advance)
  | _ =>
    obtain same | ⟨⟨_, _, here, -⟩, -⟩ := accords.stage
    · have noted := Tick.stage_note_of_others (t := t) (by simp [stage]) (some cause)
      exact .inl (.strictly (.tick ⟨waker, .inl (same.trans noted.symm)⟩) .advance)
    · cases stage.symm.trans here

/-- A step that hands back a result has a counterpart in one that hands back a
result that pardons it. -/
theorem Counterparts.returned {failure failure' : Option ListenerError}
    (below : Counterparts blamed loose s s')
    (due : loose = true → grounded s = true → blamed = true)
    (pardons : Pardons loose failure failure')
    (dry : blamed = true → ∀ cause t, failure = some cause → s = [.tick t] → RunsDry T l t)
    (rule : Rule T enter ⟨l, s, .returned failure⟩ y) :
    ∃ y', Rule T enter' ⟨l, s', .returned failure'⟩ y' ∧
      (y.Counterpart blamed y' ∨ Lags T l y y') := by
  cases below with
  | tick accords =>
    cases rule
    refine ⟨_, .noteResult, ?_⟩
    obtain rfl | ⟨allowed, rfl⟩ := pardons
    · exact .inl (.strictly (.tick (accords.note _)) .advance)
    · cases failure with
      | none => exact .inl (.strictly (.tick accords) .advance)
      | some cause => exact forgive_of_accords accords (dry (due allowed rfl) cause _ rfl rfl)
  | lastListener below blame =>
    cases rule with
    | endEmission =>
      exact ⟨_, .endEmission fun _ => rfl, .inl (.inside below (.returned pardons) fun _ => blame)⟩
  | emission below =>
    obtain rfl := pardons.strict
    cases rule with
    | nextListener => exact ⟨_, .nextListener, .inl (.strictly (.emission below) .enter)⟩
    | endEmission last =>
      exact ⟨_, .endEmission last, .inl (.strictly below.strict (.returned pardons))⟩
  | connecting below =>
    cases rule
    exact ⟨_, .endConnect, .inl (.inside below (.returned pardons) due)⟩
  | lending below =>
    cases rule
    exact ⟨_, .endLoan, .inl (.inside below (.returned pardons) due)⟩
  | delivering below =>
    cases rule
    exact ⟨_, .endDelivery, .inl (.strictly below (.returned (.inl rfl)))⟩
  | reclaiming below =>
    obtain rfl := pardons.strict
    cases rule with
    | beginParting => exact ⟨_, .beginParting, .inl (.strictly (.parting below) .enter)⟩
    | skipParting =>
      exact ⟨_, .skipParting, .inl (.strictly (.parting below) (.returned (.inl rfl)))⟩
  | parting below =>
    cases rule
    exact ⟨_, .endParting, .inl (.strictly below (.returned (.inl rfl)))⟩
  | listening goes below blame =>
    obtain rfl := pardons.strict
    cases rule with
    | endListen => exact ⟨_, .endListen, .inl (.inside below (.run (goes _)) blame)⟩
    | failListen => exact ⟨_, .failListen, .inl (.inside below (.run (goes _)) blame)⟩

/-- A delivery by ticks at the same place. -/
theorem counterpart_deliver (accords : t.Accords t') (l : Loop H) (req : RequestId) (h : HandleId)
    (callback : Callback H.Closure) (outcome : RequestOutcome) :
    (deliver l [.tick t] req h callback outcome).Counterpart blamed
      (deliver l [.tick t'] req h callback outcome) := by
  cases callback with
  | closure c => exact .strictly (.delivering (.tick accords)) .enter
  | promise => exact .strictly (.tick accords) .advance

/-- Ticks that have no more reads to do go on to what is to be reclaimed. -/
theorem counterpart_of_readsOver (accords : t.Accords t') (finished : t.ReadsOver)
    (finished' : t'.ReadsOver) (rule : Rule T enter ⟨l, [.tick t], .advance⟩ y) :
    ∃ y', Rule T enter' ⟨l, [.tick t'], .advance⟩ y' ∧ y.Counterpart blamed y' := by
  obtain ⟨passes, productive, here, stop⟩ := finished
  obtain ⟨passes', productive', here', stop'⟩ := finished'
  cases rule with
  | beginReclaims =>
    exact ⟨_, .beginReclaims here' stop', .strictly (.tick (accords.goOn rfl rfl rfl)) .advance⟩
  | nextPass other left =>
    cases here.symm.trans other
    exact absurd ⟨rfl, left⟩ stop
  | collect other | firstPass other | endTick other | skipRead other | refuseRead other
    | readNothing other | readData other | readEof other | readFailed other | skipReclaim other
    | breach other | reclaim other =>
    cases here.symm.trans other
  | skipReport other | completeWrite other | completeShutdown other | completeConnect other
    | failConnect other | dropConnect other | connection other | dropConnection other =>
    rw [here] at other
    cases other

/-- Ticks at the same stage take the same step. -/
theorem counterpart_of_stage (accords : t.Accords t') (same : t'.stage = t.stage)
    (rule : Rule T enter ⟨l, [.tick t], .advance⟩ y) :
    ∃ y', Rule T enter' ⟨l, [.tick t'], .advance⟩ y' ∧ y.Counterpart blamed y' := by
  have goOn {u u' : Tick} (waker : u.waker = t.waker) (waker' : u'.waker = t'.waker)
      (stage : u'.stage = u.stage) :=
    accords.goOn waker waker' stage
  have pop {c : Completion} {stage : Stage} (here : t.stage.pop? = some (c, stage)) :
      t'.stage.pop? = some (c, stage) := by
    rwa [same]
  cases rule with
  | collect here =>
    have asked : (l.beginCompletions T t').2 = (l.beginCompletions T t).2 := by
      simp only [Loop.beginCompletions, accords.waker]
    have stage : (l.beginCompletions T t').1.stage = (l.beginCompletions T t).1.stage := by
      simp only [Loop.beginCompletions, accords.waker]
    refine ⟨_, .collect (same.trans here), ?_⟩
    rw [asked]
    exact .strictly (.tick (goOn rfl rfl stage)) .advance
  | firstPass here =>
    exact ⟨_, .firstPass (same.trans here), .strictly (.tick (goOn rfl rfl rfl)) .advance⟩
  | nextPass here left =>
    exact ⟨_, .nextPass (same.trans here) left, .strictly (.tick (goOn rfl rfl rfl)) .advance⟩
  | beginReclaims here stop =>
    exact ⟨_, .beginReclaims (same.trans here) stop, .strictly (.tick (goOn rfl rfl rfl)) .advance⟩
  | endTick here => exact ⟨_, .endTick (same.trans here), .ended⟩
  | skipReport here report gone =>
    exact ⟨_, .skipReport (pop here) report gone, .strictly (.tick (goOn rfl rfl rfl)) .advance⟩
  | completeWrite here report pending =>
    exact ⟨_, .completeWrite (pop here) report pending, counterpart_deliver (accords.restage _) ..⟩
  | completeShutdown here report pending =>
    exact ⟨_, .completeShutdown (pop here) report pending,
      counterpart_deliver (accords.restage _) ..⟩
  | completeConnect here report pending state =>
    exact ⟨_, .completeConnect (pop here) report pending state,
      .emitting (.connecting (.tick (goOn rfl rfl rfl)))⟩
  | failConnect here report pending state =>
    exact ⟨_, .failConnect (pop here) report pending state,
      .emitting (.connecting (.tick (goOn rfl rfl rfl)))⟩
  | dropConnect here report pending state =>
    exact ⟨_, .dropConnect (pop here) report pending state,
      .strictly (.tick (goOn rfl rfl rfl)) .advance⟩
  | connection here state =>
    exact ⟨_, .connection (pop here) state, .emitting (.tick (goOn rfl rfl rfl))⟩
  | dropConnection here state =>
    exact ⟨_, .dropConnection (pop here) state, .strictly (.tick (goOn rfl rfl rfl)) .advance⟩
  | skipRead here idle =>
    exact ⟨_, .skipRead (same.trans here) idle, .strictly (.tick (goOn rfl rfl rfl)) .advance⟩
  | refuseRead here found reading exposed =>
    exact ⟨_, .refuseRead (same.trans here) found reading exposed,
      .strictly (.tick (goOn rfl rfl rfl)) .advance⟩
  | readNothing here found reading free read nothing =>
    exact ⟨_, .readNothing (same.trans here) found reading free (by rwa [accords.waker]) nothing,
      .strictly (.tick (goOn rfl rfl rfl)) .advance⟩
  | readData here found reading free read filled =>
    exact ⟨_, .readData (same.trans here) found reading free (by rwa [accords.waker]) filled,
      .emitting (.lending (.tick (goOn rfl rfl rfl)))⟩
  | readEof here found reading free read =>
    exact ⟨_, .readEof (same.trans here) found reading free (by rwa [accords.waker]),
      .emitting (.tick (goOn rfl rfl rfl))⟩
  | readFailed here found reading free read =>
    exact ⟨_, .readFailed (same.trans here) found reading free (by rwa [accords.waker]),
      .emitting (.tick (goOn rfl rfl rfl))⟩
  | skipReclaim here gone =>
    exact ⟨_, .skipReclaim (same.trans here) gone, .strictly (.tick (goOn rfl rfl rfl)) .advance⟩
  | breach here found held =>
    exact ⟨_, .breach (same.trans here) found held, .strictly (.tick (goOn rfl rfl rfl)) .advance⟩
  | reclaim here found closing free =>
    exact ⟨_, .reclaim (same.trans here) found closing free,
      .emitting (.reclaiming (.tick (goOn rfl rfl rfl)))⟩

/-- Ticks at the same place take the same step. -/
theorem counterpart_advance (accords : t.Accords t')
    (rule : Rule T enter ⟨l, [.tick t], .advance⟩ y) :
    ∃ y', Rule T enter' ⟨l, [.tick t'], .advance⟩ y' ∧ y.Counterpart blamed y' := by
  obtain same | ⟨finished, finished'⟩ := accords.stage
  · exact counterpart_of_stage accords same rule
  · exact counterpart_of_readsOver accords finished finished' rule

/-- When the tick tells a listener, it is this one that is to blame. -/
theorem Counterparts.addressed {c : H.Closure} {o : Occasion}
    (below : Counterparts blamed false s s') :
    Counterparts ((addressee? ⟨l, s, .enter c o⟩).elim blamed spared) false s s' := by
  unfold addressee?
  split
  case h_2 => exact below
  case h_1 stack =>
    split
    case isFalse => exact below
    case isTrue ground =>
      obtain rfl : s = _ := stack
      cases below with
      | emission below => exact .emission (below.blame ground _)

/-- A closure that is entered is forgiven at most where its error would go to the tick. -/
theorem Counterparts.entered {c : H.Closure} {o : Occasion} (below : Counterparts blamed false s s')
    (last : ∀ h e, o = .event h e → spared c = true → e.incoming = true →
      ∃ rest, s = .emission h e [] :: rest) :
    Counterpart ((addressee? ⟨l, s, .enter c o⟩).elim blamed spared) ⟨l, s, .run (enter c o)⟩
      ⟨l, s', .run (enter.sparing spared c o)⟩ := by
  have below : Counterparts ((addressee? ⟨l, s, .enter c o⟩).elim blamed spared) false s s' :=
    below.addressed
  cases o with
  | completed | closed => exact .strictly below (.run (.inl rfl))
  | event h e =>
    rw [Handlers.sparing]
    split
    case isFalse => exact .strictly below (.run (.inl rfl))
    case isTrue forgiven =>
      obtain ⟨isSpared, incoming⟩ := Bool.and_eq_true_iff.1 forgiven
      obtain ⟨rest, rfl⟩ := last h e rfl isSpared incoming
      cases below with
      | emission under =>
        rw [incoming] at under
        refine .inside (.lastListener under fun ground => ?_) (.run (.inr ⟨rfl, rfl⟩)) nofun
        simp [addressee?, ground, isSpared]

/-- No handler starts a tick, and a spared closure is the last to be told of what came in. -/
structure Tame (spared : H.Closure → Bool) (x : Machine H) : Prop where
  calm : x.reenters = false
  last : ∀ c h e, x.control = .enter c (.event h e) → spared c = true → e.incoming = true →
    ∃ rest, x.stack = .emission h e [] :: rest

/-- If an error of a listener reaches the tick, the tick has nothing left to read. -/
def FailsDry (T : Transport H.Net H.Script) (x : Machine H) : Prop :=
  ∀ cause t, x.control = .returned (some cause) → x.stack = [.tick t] → RunsDry T x.loop t

/-- When a tick hears an error of a spared listener, it has nothing left to read. -/
def FailDry (T : Transport H.Net H.Script) (spared : H.Closure → Bool) (past : List (Machine H)) :
    Prop :=
  ∀ before x after, past = before ++ x :: after → blames spared before = true → x.FailsDry T

/-- What fails only where nothing is left to read does so in every part that comes first. -/
theorem FailDry.of_append {before after : List (Machine H)}
    (dry : FailDry T spared (before ++ after)) :
    FailDry T spared before :=
  fun first x last split => dry first x (last ++ after) (by simp [split])

/-- Each step of a machine is one of its counterpart. -/
theorem Counterpart.rule (c : x.Counterpart blamed x') (tame : x.Tame spared)
    (dry : blamed = true → x.FailsDry T) (rule : Rule T enter x y) :
    ∃ y', Rule T (enter.sparing spared) x' y' ∧
      (y.Counterpart (x.addressee?.elim blamed spared) y' ∨ Lags T x.loop y y') := by
  cases c with
  | ended => cases rule
  | emitting below =>
    cases rule
    exact ⟨_, .emit, .inl (.strictly (.emission below) (.returned (.inl rfl)))⟩
  | inside below matched due =>
    cases matched with
    | run forgives =>
      obtain ⟨y', rule', c⟩ := below.run due forgives tame.calm rule
      exact ⟨y', rule', .inl c⟩
    | @enter c o =>
      cases rule
      exact ⟨_, .enter,
        .inl (below.entered fun h e same => by subst same; exact tame.last c h e rfl)⟩
    | returned pardons =>
      exact below.returned due pardons
        (fun blame cause t failed alone => by subst failed; exact dry blame cause t rfl alone) rule
    | advance =>
      cases below with
      | tick accords =>
        obtain ⟨y', rule', c⟩ := counterpart_advance accords rule
        exact ⟨y', rule', .inl c⟩
      | _ => cases rule

/-! ## Reads that find nothing -/

/-- Nothing is done to handlers, no error is recorded, and no tick is started. -/
structure Quiet (x : Machine H) : Prop where
  act : x.act? = none
  fault : x.fault? = none
  calm : x.reenters = false

/-- A handle on which a read finds nothing is not held up by its buffer. -/
theorem Dry.blocked {w : Waker} {h : HandleId} (dry : Dry T l w h) :
    Machine.blocked l h = false := by
  unfold Machine.blocked
  cases found : l.handles.get? h with
  | none => rfl
  | some z =>
    cases reading : z.isReading with
    | false => simp [reading]
    | true => simp [(dry z found reading).1]

/-- A handle that has nothing to read is passed over. -/
theorem Dry.rule {passes : Nat} {h : HandleId} {rest : List HandleId} {productive : Bool}
    (dry : Dry T l t.waker h) (here : t.stage = .reads passes (h :: rest) productive) :
    Rule T enter ⟨l, .tick t :: s, .advance⟩
      (ofTick s { t with stage := .reads passes rest productive } l) := by
  by_cases reads : ∃ z, l.handles.get? h = some z ∧ z.isReading = true
  · obtain ⟨z, found, reading⟩ := reads
    obtain ⟨free, status, bytes, l', read, nothing, same⟩ := dry z found reading
    have passed : Rule T enter ⟨l, .tick t :: s, .advance⟩ _ :=
      .readNothing here found reading free read nothing
    rwa [same] at passed
  · refine .skipRead here fun z found => ?_
    simpa using fun reading => reads ⟨z, found, reading⟩

/-- A pass over handles that have nothing to read comes to its end, and leaves the loop as it is. -/
theorem steps_of_dry (enter : Handlers H) (sound : l.breach = none) {passes : Nat}
    {rest : List HandleId} {productive : Bool} (here : t.stage = .reads passes rest productive)
    (dry : ∀ h ∈ rest, Dry T l t.waker h) :
    ∃ later, Steps T enter (ofTick [] t l) later
      (ofTick [] { t with stage := .reads passes [] productive } l) ∧
      ∀ z ∈ later, z.Quiet := by
  induction rest generalizing t with
  | nil =>
    refine ⟨[], ?_, by simp⟩
    rw [← here]
    exact .refl
  | cons h rest ih =>
    have first : (ofTick [] t l).step? T enter =
        some (ofTick [] { t with stage := .reads passes rest productive } l) :=
      ((dry h List.mem_cons_self).rule here).taken sound
    have quiet : (ofTick [] t l).Quiet := by
      refine ⟨rfl, ?_, rfl⟩
      simp [fault?, ofTick, here, (dry h List.mem_cons_self).blocked]
    obtain ⟨later, steps, quiets⟩ := ih (t := { t with stage := .reads passes rest productive }) rfl
      fun k hk => dry k (List.mem_cons_of_mem _ hk)
    exact ⟨_ :: later, (Steps.single first).trans steps, List.forall_mem_cons.2 ⟨quiet, quiets⟩⟩

/-- The second tick finds that nothing was left to read, and is where the first one is. -/
theorem Lags.catchUp (lags : Lags T l y y') (sound : l.breach = none) :
    ∃ later z, Steps T enter y' later z ∧ y.Counterpart blamed z ∧ ∀ z ∈ later, z.Quiet := by
  cases lags with
  | @reads t t' passes rest productive waker finished here dry =>
    obtain ⟨first, second⟩ := dry passes rest productive here
    obtain ⟨later, steps, quiet⟩ := steps_of_dry enter sound here first
    by_cases on : productive = true ∧ 0 < passes
    · obtain ⟨rfl, left⟩ := on
      have pass : (ofTick [] { t' with stage := .reads passes [] true } l).step? T enter =
          some (ofTick []
            (l.beginPass { t' with stage := .reads passes [] true, worked := true } passes) l) :=
        (Rule.nextPass rfl left).taken sound
      obtain ⟨later', steps', quiet'⟩ := steps_of_dry enter sound
        (t := l.beginPass { t' with stage := .reads passes [] true, worked := true } passes) rfl
        (second left)
      refine ⟨later ++ (_ :: later'), _, steps.trans ((Steps.single pass).trans steps'), ?_, ?_⟩
      · exact .strictly (.tick ⟨waker, .inr ⟨finished, _, _, rfl, by simp⟩⟩) .advance
      · exact List.forall_mem_append.2 ⟨quiet, List.forall_mem_cons.2 ⟨⟨rfl, rfl, rfl⟩, quiet'⟩⟩
    · exact ⟨later, _, steps, .strictly (.tick ⟨waker, .inr ⟨finished, _, _, rfl, on⟩⟩) .advance,
        quiet⟩

/-! ## Whole ways -/

/-- A way of a machine is one of its counterpart, on which the same is done to handlers and no error
comes up that does not come up on the way of the machine. -/
theorem Steps.counterpart {past : List (Machine H)} (steps : Steps T enter x past y)
    (begins : x.Counterpart false x') (tame : ∀ z ∈ past, z.Tame spared)
    (dry : FailDry T spared past) :
    ∃ past' y', Steps T (enter.sparing spared) x' past' y' ∧ y.Counterpart (blames spared past) y' ∧
      past'.filterMap act? = past.filterMap act? ∧
      (past'.filterMap fault?).Sublist (past.filterMap fault?) ∧
      ∀ z ∈ past', z.reenters = false := by
  induction steps with
  | refl => exact ⟨[], x', .refl, begins, rfl, .refl _, by simp⟩
  | @snoc past m₁ m₂ first taken ih =>
    obtain ⟨past', z, steps, c, acts, faults, calm⟩ :=
      ih (fun z hz => tame z (List.mem_append_left _ hz)) dry.of_append
    have here := tame m₁ (by simp)
    obtain ⟨sound, rule⟩ := rule_of_step? taken
    obtain ⟨y', rule', next⟩ := c.rule here (dry past m₁ [] rfl) rule
    rw [← blames_concat] at next
    have taken' := rule'.taken (by rw [c.loop]; exact sound)
    -- where the first tick has broken off its reads, the second has to catch up
    obtain ⟨later, y'', on, next, quiet⟩ :
        ∃ later y'', Steps T (enter.sparing spared) y' later y'' ∧
        m₂.Counterpart (blames spared (past ++ [m₁])) y'' ∧ ∀ z ∈ later, z.Quiet := by
      obtain next | lags := next
      · exact ⟨[], y', .refl, next, by simp⟩
      · exact lags.catchUp sound
    have silent : later.filterMap act? = [] :=
      List.filterMap_eq_nil_iff.2 fun z hz => (quiet z hz).act
    have faultless : later.filterMap fault? = [] :=
      List.filterMap_eq_nil_iff.2 fun z hz => (quiet z hz).fault
    refine ⟨past' ++ z :: later, y'', steps.trans ((Steps.single taken').trans on),
      next, ?_, ?_, ?_⟩
    · simp [acts, silent, List.filterMap_cons, c.act]
    · simp only [List.filterMap_append, List.filterMap_cons, List.filterMap_nil, faultless]
      refine faults.append ?_
      obtain same | none := c.fault
      · simp only [same, List.Sublist.refl]
      · rw [none]
        exact List.nil_sublist _
    · refine List.forall_mem_append.2 ⟨calm,
        List.forall_mem_cons.2 ⟨?_, fun z hz => (quiet z hz).calm⟩⟩
      rw [c.reenters]
      exact here.calm

end Reactor.Machine
