import Reactor.Proofs.Stream.Grammar
import Reactor.Proofs.Stream.Moves

/-!
# The streams of a run

Along every run, on any transport and with any handlers, each stream lives its life. So its
state agrees with what stands behind it, and what is told of it follows the grammar of events.
-/

namespace Reactor

variable {H : Host} {T : Transport H.Net H.Script} {enter : Handlers H}

namespace Machine

variable {x y m : Machine H} {past before between : List (Machine H)} {h : HandleId}
  {s : Sign} {d : Deed}

/-- The signs of a stream at a machine: the event that is about to be told of it, and the
call that succeeds next. -/
def signs (T : Transport H.Net H.Script) (h : HandleId) (m : Machine H) : List Sign :=
  (about h m.told?).toList.map .told ++ (about h (m.deed? T)).toList.map .did

/-- The story of a stream at the machines that a run left behind. -/
def story (T : Transport H.Net H.Script) (h : HandleId) (machines : List (Machine H)) : List Sign :=
  machines.flatMap (signs T h)

/-- A story falls into what was before a machine, its own signs, and what came after. -/
theorem story_split :
    story T h (before ++ x :: between) = story T h before ++
      (x.signs T h ++ story T h between) := by
  rw [story, List.flatMap_append, List.flatMap_cons]
  rfl

/-- A machine that is about to tell an event runs no call. -/
theorem deed?_of_emit {k : HandleId} {e : Event} (control : m.control = .emit k e) :
    m.deed? T = none := by
  rw [deed?, control]

/-- A machine gives no more than one sign. -/
theorem signs_of_mem (given : s ∈ x.signs T h) : x.signs T h = [s] := by
  unfold signs at given ⊢
  cases told : about h x.told? with
  | none =>
    rw [told] at given
    cases did : about h (x.deed? T) with
    | none => simp [did] at given
    | some d => simpa [did, eq_comm] using given
  | some e =>
    have quiet : x.deed? T = none := by
      have told := about_eq_some_iff.1 told
      unfold told? at told
      split at told
      case h_1 control => exact deed?_of_emit control
      case h_2 => cases told
    rw [told, quiet] at given
    simpa [quiet, eq_comm] using given

/-- That something was done is a sign of the step that does it, and of no other. -/
theorem did_mem_signs_iff : .did d ∈ x.signs T h ↔ x.deed? T = some (h, d) := by
  simp [signs, about_eq_some_iff]

/-- What the story began anew after it was over was begun by a call in between. -/
theorem begun_between {ends : Sign → Bool}
    (since : Since (.did d) ends (story T h (before ++ x :: between))) (given : s ∈ x.signs T h)
    (closes : ends s = true) (begins : ends (.did d) = false) :
    ∃ z ∈ between, z.deed? T = some (h, d) := by
  rw [story_split, signs_of_mem given] at since
  have begun := since.begins_mem closes fun same => by
    rw [same, begins] at closes
    cases closes
  obtain ⟨z, hz, given⟩ := List.mem_flatMap.1 begun
  exact ⟨z, hz, did_mem_signs_iff.1 given⟩

/-- Along every run each stream lives its life. -/
theorem Reached.lives (reached : Reached T enter past m) (h : HandleId) :
    Life.Story (story T h past ++ (about h m.told?).toList.map .told) (m.loop.life h) := by
  refine reached.history
    (P := fun past m =>
    Life.Story (story T h past ++ (about h m.told?).toList.map .told) (m.loop.life h)) ?_ ?_
  · intro options net shared p
    exact .start
  · intro past x y reached ih next
    have goes := ih.step (next.moves (Balanced.of_reached reached) h)
    rw [story_split, signs]
    simpa [story] using goes

/-- Every stream that is there is in a sound stance. -/
theorem Reached.sound (reached : Reached T enter past m) {z : Handle H.Closure}
    (found : m.loop.handles.get? h = some z) : (m.loop.stance h z).Sound := by
  have sound := (reached.lives h).sound
  rwa [Loop.life_of_some found] at sound

/-- A machine that does not go on with a program came after another one. -/
theorem Reached.after (reached : Reached T enter past m) (other : ∀ p, m.control ≠ .run p) :
    ∃ before x, past = before ++ [x] ∧ Reached T enter before x ∧ Next T enter x m := by
  obtain ⟨options, net, shared, p, run⟩ := reached
  cases run with
  | refl => exact (other p rfl).elim
  | @snoc before x _ first next => exact ⟨before, x, rfl, ⟨options, net, shared, p, first⟩, next⟩

/-- What is about to be told may be told after the story so far. -/
theorem Reached.mayTell (reached : Reached T enter past m) {e : Event}
    (control : m.control = .emit h e) :
    MayTell (story T h past) e := by
  obtain ⟨past, x, rfl, first, next⟩ := reached.after (by simp [control])
  have lives := first.lives h
  have step := next.moves (Balanced.of_reached first) h
  have told : about h m.told? = some e := about_eq_some_iff.2 (by rw [told?, control])
  rw [told] at step
  have may := step.mayTell lives.sound lives.recalls
  rw [story_split, signs]
  simpa [story] using may

/-- What serves or listens is told of a stream in the state of listening. -/
theorem Next.listening (b : x.Balanced) (next : Next T enter x y) {e : Event}
    (control : y.control = .emit h e) (serves : e.isOfServing = true ∨ e = .listening) :
    hasState y.loop h .listening = true := by
  have step := next.moves b h
  rw [about_eq_some_iff.2 (show y.told? = some (h, e) by rw [told?, control])] at step
  generalize about h (x.deed? T) = did at step
  generalize x.loop.life h = p at step
  generalize after : y.loop.life h = q at step
  cases step with
  | listen => exact (hasState_iff after _).2 rfl
  | connection listening => exact (hasState_iff after _).2 listening
  | _ => simp at serves

/-- That a stream listens is told in the call that made it listen. -/
theorem Next.listens (next : Next T enter x y) (control : y.control = .emit h .listening) :
    ∃ backlog c next, x.control = .run (.call (.listen h backlog c) next) ∧
      y.stack = .listening h next :: x.stack := by
  cases next with
  | step taken =>
    cases (rule_of_step? taken).2 with
    | beginListen => cases control; exact ⟨_, _, _, rfl, rfl⟩
    | @completeWrite _ _ _ _ _ _ _ _ _ callback => cases callback <;> cases control
    | @completeShutdown _ _ _ _ _ _ _ _ callback => cases callback <;> cases control
    | @connection _ _ _ _ _ status => cases status <;> cases control
    | _ => cases control
  | resume => cases control

/-- A stream that was in a state once has come to its state from it. -/
theorem Reached.goesOn (reached : Reached T enter past m) {i : Machine H} (hi : i ∈ past ++ [m])
    {z : Handle H.Closure} (found : i.loop.handles.get? h = some z) :
    (m.loop.life h).GoesOnFrom z.state := by
  have here {y : Machine H} (same : i = y) : (y.loop.life h).GoesOnFrom z.state := by
    subst same
    rw [Loop.life_of_some found]
    exact .refl
  refine reached.history (P := fun past m =>
    i ∈ past ++ [m] → (m.loop.life h).GoesOnFrom z.state) ?_ ?_ hi
  · intro options net shared p hi
    exact here (List.mem_singleton.1 hi)
  · intro past x y reached ih next hi
    rcases List.mem_append.1 hi with hi | hi
    · exact (next.moves (Balanced.of_reached reached) h).goesOnFrom (reached.lives h).sound (ih hi)
    · exact here (List.mem_singleton.1 hi)

/-- What the loop of a machine shows of its streams. -/
structure StatesAgree (T : Transport H.Net H.Script) (enter : Handlers H) (past : List (Machine H))
    (m : Machine H) :
    Prop where
  /-- A handle is in the state of closing if it is marked, and only then; it neither reads nor
  listens from there. -/
  closing : ∀ h z, m.loop.handles.get? h = some z →
    (z.state = .closing ↔ z.closing = true) ∧
      (z.closing = true → z.isReading = false ∧ z.listenRef = false)
  listening : ∀ h z, m.loop.handles.get? h = some z → z.state ≠ .closing →
    (z.state = .listening ↔ z.listenRef = true)
  connecting : ∀ h z, m.loop.handles.get? h = some z → z.state ≠ .closing →
    m.loop.pendingOf .connect h = if z.state = .connecting then 1 else 0
  shuttingDown : ∀ h z, m.loop.handles.get? h = some z → z.state ≠ .closing →
    m.loop.pendingOf .shutdown h = if z.state = .shuttingDown then 1 else 0
  /-- A stream that reads, or on which a write is pending, is connected, and perhaps its writable
  side is closed. -/
  carries : ∀ h z, m.loop.handles.get? h = some z → z.state ≠ .closing →
    (z.isReading = true ∨ 0 < m.loop.pendingOf .write h) →
    z.state = .connected ∨ z.state = .shuttingDown ∨ z.state = .shutDown
  /-- A handle that the next step creates is idle. -/
  starts : ∀ y, Next T enter m y →
    ∀ h z, y.loop.handles.get? h = some z → m.loop.handles.get? h = none →
    z.state = .idle
  /-- The next step leaves a handle in its state, or the state goes on in one of the ways. -/
  moves : ∀ y, Next T enter m y →
    ∀ h z w, m.loop.handles.get? h = some z → y.loop.handles.get? h = some w →
    w.state = z.state ∨ z.state.Goes w.state
  /-- Since any earlier machine the state has gone on in these ways only. -/
  since : ∀ i ∈ past, ∀ h z w, i.loop.handles.get? h = some z → m.loop.handles.get? h = some w →
    Relation.ReflTransGen StreamState.Goes z.state w.state

/-- What is told of streams at a machine of a run. -/
structure FollowsGrammar (T : Transport H.Net H.Script) (past : List (Machine H)) (m : Machine H) :
    Prop where
  /-- What is about to be told of a stream may be told after its story so far. -/
  tells : ∀ h e, m.control = .emit h e → MayTell (story T h past) e
  /-- That a stream listens is told inside the call of `listen` that made it listen. -/
  listens : ∀ h, m.control = .emit h .listening → ∃ before x backlog c next, past = before ++ [x] ∧
    x.control = .run (.call (.listen h backlog c) next) ∧ m.stack = .listening h next :: x.stack ∧
    hasState m.loop h .listening = true
  /-- Connections, and errors in place of them, are told of a stream in the state of listening. -/
  serves : ∀ h e, m.control = .emit h e → e.isOfServing = true → hasState m.loop h .listening = true
  /-- After a call that stopped it, a close, the end of the stream or an error, nothing is told of
  reading before the next session is opened. -/
  sessions : ∀ before x between h s e,
    past = before ++ x :: between → s ∈ x.signs T h → s.endsReading = true →
    m.control = .emit h e → e.isOfReading = true → ∃ z ∈ between, z.deed? T = some (h, .readStart)
  /-- After the outcome of a connect, or a close, no outcome is told before the
  next connect is begun. -/
  connects : ∀ before x between h s e,
    past = before ++ x :: between → s ∈ x.signs T h → s.endsConnecting = true →
    m.control = .emit h e → e.isOfConnecting = true → ∃ z ∈ between, z.deed? T = some (h, .connect)

end Machine

open Machine

/-- Along every run, on any transport and with any handlers, the states of handles agree with
their marks, their read sessions, their listening and their pending requests, and they go on in no
other way than a stream's life. -/
theorem states_agree_with_resources {past : List (Machine H)} {m : Machine H}
    (reached : Reached T enter past m) :
    StatesAgree T enter past m := by
  have sound {h z} (found : m.loop.handles.get? h = some z) : (m.loop.stance h z).Sound :=
    reached.sound found
  have unmarked {h z} (found : m.loop.handles.get? h = some z) (open_ : z.state ≠ .closing) :
      (m.loop.stance h z).marked = false := (sound found).unmarked open_
  constructor
  case closing => intro h z found; exact ⟨(sound found).closing, (sound found).rests⟩
  case listening => intro h z found open_; exact (sound found).listens (unmarked found open_)
  case connecting => intro h z found open_; exact (sound found).connects (unmarked found open_)
  case shuttingDown => intro h z found open_; exact (sound found).shutdowns (unmarked found open_)
  case carries =>
    intro h z found open_ carries
    have state : z.state.canRead = true := (sound found).carries (unmarked found open_) carries
    cases of : z.state <;> simp [of, StreamState.canRead] at state ⊢
  case starts =>
    intro y next h z found new
    have step := next.moves (Balanced.of_reached reached) h
    rw [Loop.life_of_some found] at step
    exact step.starts (fun s alive => by
      obtain ⟨w, there, -⟩ := Loop.exists_of_life alive
      rw [new] at there
      cases there)
  case moves =>
    intro y next h z w found later
    have step := next.moves (Balanced.of_reached reached) h
    rw [Loop.life_of_some found, Loop.life_of_some later] at step
    exact step.goes (sound found)
  case since =>
    intro i hi h z w found later
    have goes := reached.goesOn (List.mem_append_left _ hi) found
    rwa [Loop.life_of_some later] at goes

/-- While a client's connect is pending its handle is connecting, and no write of it is pending. -/
theorem states_agree_with_resources_for_client :
    ∃ past z, Reached Memory.transport (Echo.handlers _ _) past (Client.after 2) ∧
      (Client.after 2).loop.handles.get? 0 = some z ∧ z.state = .connecting ∧
      (Client.after 2).loop.pendingOf .connect 0 = 1 ∧
      (Client.after 2).loop.pendingOf .write 0 = 0 := by
  obtain ⟨past, reached⟩ := Client.reached_after 2
  have there : ((Client.after 2).loop.handles.get? 0).isSome := by rfl
  obtain ⟨z, found⟩ := Option.isSome_iff_exists.1 there
  have shown : ((Client.after 2).loop.handles.get? 0).map (·.state) = some .connecting := by rfl
  have state : z.state = .connecting := by simpa [found] using shown
  have agree := states_agree_with_resources reached
  have pending := agree.connecting 0 z found (by simp [state])
  refine ⟨past, z, reached, found, state, by simpa [state] using pending,
    Nat.eq_zero_of_not_pos fun writes => ?_⟩
  have carries := agree.carries 0 z found (by simp [state]) (.inr writes)
  simp [state] at carries

/-- Along every run, on any transport and with any handlers, the events of each
stream follow the grammar. -/
theorem events_follow_grammar {past : List (Machine H)} {m : Machine H}
    (reached : Reached T enter past m) :
    FollowsGrammar T past m := by
  constructor
  case tells => intro h e control; exact reached.mayTell control
  case listens =>
    intro h control
    obtain ⟨before, x, split, first, next⟩ := reached.after (by simp [control])
    have b := Balanced.of_reached first
    obtain ⟨backlog, c, program, called, stack⟩ := next.listens control
    exact ⟨before, x, backlog, c, program, split, called, stack,
      next.listening b control (.inr rfl)⟩
  case serves =>
    intro h e control serving
    obtain ⟨before, x, -, first, next⟩ := reached.after (by simp [control])
    exact next.listening (Balanced.of_reached first) control (.inl serving)
  case sessions =>
    intro before x between h s e split given closes control reading
    have open_ := (reached.mayTell control).reading reading
    rw [split] at open_
    exact begun_between open_ given closes rfl
  case connects =>
    intro before x between h s e split given closes control connecting
    have awaits := ((reached.mayTell control).connecting connecting).1
    rw [split] at awaits
    exact begun_between awaits given closes rfl

namespace Client

open Memory (Script)

/-- A client that reads to the end of the stream, and then opens a second session. -/
def rereading : Program (Echo.host Memory Script) :=
  .call (.issue (.newHandle .tcp)) fun (h : HandleId) =>
  .call (.issue (.connect h (.v4 ⟨127, 0, 0, 1⟩ 80))) fun _ =>
  .call (.tick .idle) fun _ =>
  .call (.issue (.readStart h)) fun _ =>
  .call (.script (Script.pushData h [1, 2])) fun _ =>
  .call (.script (Script.pushEof h)) fun _ =>
  .call (.tick .idle) fun _ =>
  .call (.issue (.readStart h)) fun _ =>
  .call (.script (Script.pushData h [3])) fun _ =>
  .call (.tick .idle) fun _ => .skip

/-- The client after so many steps; after 41 of them it is told the bytes of its second session. -/
def reread (steps : Nat) : Machine (Echo.host Memory Script) :=
  (Machine.start rereading (.fresh .standard Memory.initial ())).run Memory.transport
    (Echo.handlers _ _) steps

end Client

/-- A client hears of bytes again after the end of the stream, since it has
opened a second session. -/
theorem events_follow_grammar_for_client :
    ∃ past, Reached Memory.transport (Echo.handlers _ _) past (Client.reread 41) ∧
      (Client.reread 41).control = .emit 0 (.data [3]) ∧ InSession (story Memory.transport 0 past) ∧
      .told .close ∉ story Memory.transport 0 past := by
  obtain ⟨past, run, -⟩ := Run.exists_of_run Memory.transport (Echo.handlers _ _)
    (Machine.start Client.rereading (.fresh .standard Memory.initial ())) 41
  have reached : Reached Memory.transport (Echo.handlers _ _) past (Client.reread 41) :=
    ⟨.standard, Memory.initial, (), Client.rereading, run⟩
  have control : (Client.reread 41).control = .emit 0 (.data [3]) := by rfl
  have may := (events_follow_grammar reached).tells 0 _ control
  exact ⟨past, reached, control, may.reading rfl, may.last⟩

end Reactor
