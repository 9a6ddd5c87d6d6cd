import Reactor.Proofs.Memory.Coupling
import Reactor.Proofs.Refusals.Cues

/-!
# A refused call changes nothing

A call that is refused has no more effect than not to be made: the handles, the requests, the
listeners and all that is due stay as they were, and whoever was given to the call is not
entered for it. In memory nothing of a handle changes either, so a connection that is not
accepted goes on to wait.
-/

namespace Reactor

variable {H : Host} {T : Transport H.Net H.Script} {enter : Handlers H}

open Machine

/-- What calls that are refused make of a machine `m` after the machines `past`. -/
structure RefusesCleanly (T : Transport H.Net H.Script) (enter : Handlers H)
    (past : List (Machine H)) (m : Machine H) :
    Prop where
  /-- A refused call returns at once, and the loop is as it was. -/
  untouched : ∀ e p, m.refusal? T = some (e, p) →
    ∃ y, m.step? T enter = some y ∧ m.loop.Untouched T y.loop ∧ y.stack = m.stack ∧
      y.control = .run p
  /-- A call of `listen` that is not refused waits for its listeners. -/
  waits : ∀ h backlog c next, m.control = .run (.call (.listen h backlog c) next) →
    m.refusal? T = none → ∃ y, m.step? T enter = some y ∧ y.stack = .listening h next :: m.stack
  /-- It returns no error then but the one of a listener. -/
  returns : ∀ h next rest failure,
    m.stack = .listening h next :: rest → m.control = .returned failure →
    ∃ y a, m.step? T enter = some y ∧ y.control = .run (next a) ∧
      ∀ e, a = .error e → ∃ cause, e = .listener cause
  /-- Whoever is entered was given, for what it is entered on, to a call that was not refused. -/
  granted : ∀ c o, m.control = .enter c o → ∃ i ∈ past, i.granted? T = some (o.cue, c)

namespace Machine

variable {past : List (Machine H)} {m : Machine H}

/-- A machine that makes a call takes a step. -/
theorem Balanced.step?_call (b : m.Balanced) (T : Transport H.Net H.Script) (enter : Handlers H)
    {c : Call H} {next : c.Answer → Program H} (control : m.control = .run (.call c next)) :
    m.step? T enter = some (perform T m.loop m.stack c next) := by
  simp [step?, b.sound, control]

/-- At every machine that is reached, calls that are refused change nothing that counts. -/
theorem Reached.refusesCleanly (reached : Reached T enter past m) :
    RefusesCleanly T enter past m where
  untouched e p refused := by
    have b := Balanced.of_reached reached
    obtain ⟨c, next, control⟩ : ∃ c next, m.control = .run (.call c next) := by
      unfold refusal? at refused
      split at refused
      case h_1 control => exact ⟨_, _, control⟩
      case h_2 control => exact ⟨_, _, control⟩
      case h_3 => cases refused
    have taken := b.step?_call T enter control
    exact ⟨_, taken, (rule_of_step? taken).2.untouched b refused⟩
  waits h backlog c next control accepted := by
    have taken := (Balanced.of_reached reached).step?_call T enter control
    refine ⟨_, taken, ?_⟩
    rcases begun : (m.loop.meter h .listen .dispatched).beginListen T h backlog c with ⟨_ | ⟨⟩, l⟩
    case error => simp [refusal?, control, begun, errorOf] at accepted
    case ok => simp [perform, begun]
  returns h next rest failure stack control := by
    have sound := (Balanced.of_reached reached).sound
    cases failure with
    | none => exact ⟨_, .ok (), by simp [step?, sound, control, stack, return?]; rfl, rfl, by simp⟩
    | some cause =>
      exact ⟨_, .error (.listener cause), by simp [step?, sound, control, stack, return?]; rfl,
        rfl, by simp⟩
  granted c o entered := reached.granted entered

end Machine

/-- Along every run, on any transport and with any handlers, a call that is refused leaves all
of the loop as it was, up to read buffers, and whoever was given to it is not entered for it. In
memory it leaves what belongs to the handles as it was, too. -/
theorem refused_calls_change_nothing :
    (∀ {H : Host} (T : Transport H.Net H.Script) (enter : Handlers H)
      (past : List (Machine H)) (m : Machine H),
      Reached T enter past m → RefusesCleanly T enter past m) ∧
    (∀ {S N C : Type} (enter : Handlers (Memory.host S N C))
      (past : List (Machine (Memory.host S N C)))
      (m y : Machine (Memory.host S N C)) (e : LoopError) (p : Program (Memory.host S N C)),
      Reached Memory.transport enter past m → m.refusal? Memory.transport = some (e, p) →
      m.step? Memory.transport enter = some y →
        ∀ h, y.loop.net.endpoint h = m.loop.net.endpoint h) := by
  refine ⟨fun T enter past m reached => reached.refusesCleanly,
    fun enter past m y e p reached refused taken h => ?_⟩
  obtain ⟨untouched, -⟩ := (rule_of_step? taken).2.untouched (Balanced.of_reached reached) refused
  obtain same | refuses := untouched.net
  · rw [same]
  · exact Memory.endpoint_of_refuses refuses h

/-! ## A client that is refused -/

namespace Client

/-- A server with a connection that waits, and a client that connects
elsewhere and cannot take it. -/
def occupied : Program (Memory.host Unit Empty Echo.Closure) :=
  .call (.issue (.newHandle .tcp)) fun (server : HandleId) =>
  .call (.issue (.newHandle .tcp)) fun (client : HandleId) =>
  .call (.issue (.connect client (.v4 ⟨127, 0, 0, 1⟩ 80))) fun _ =>
  .call (.listen server none Echo.Closure.onConnection) fun _ =>
  .call (.script (.pushConnection server)) fun _ =>
  .call (.issue (.accept server client)) fun _ => .skip

/-- The client after so many steps on a transport in memory. -/
def refused (steps : Nat) : Machine (Memory.host Unit Empty Echo.Closure) :=
  (start occupied (.fresh .standard Memory.initial ())).run Memory.transport
    (Echo.handlers _ _) steps

end Client

/-- A client that connects elsewhere is refused the connection, which goes on to wait. -/
theorem refused_calls_change_nothing_for_client :
    ∃ past p y, Reached Memory.transport (Echo.handlers _ _) past (Client.refused 8) ∧
      (Client.refused 8).refusal? Memory.transport = some (.invalidState "accept" .connecting, p) ∧
      (Client.refused 8).step? Memory.transport (Echo.handlers _ _) = some y ∧
      (y.loop.net.endpoint 0).waiting = 1 ∧ y.loop.requests = (Client.refused 8).loop.requests := by
  obtain ⟨past, run, -⟩ := Run.exists_of_run Memory.transport (Echo.handlers _ _)
    (start Client.occupied (.fresh .standard Memory.initial ())) 8
  have reached : Reached Memory.transport (Echo.handlers _ _) past (Client.refused 8) :=
    ⟨_, _, _, _, run⟩
  have refused : (Client.refused 8).refusal? Memory.transport =
      some (.invalidState "accept" .connecting, .skip) := by rfl
  have waiting : ((Client.refused 8).loop.net.endpoint 0).waiting = 1 := by rfl
  obtain ⟨y, taken, untouched, -⟩ :=
    (refused_calls_change_nothing.1 _ _ _ _ reached).untouched _ _ refused
  have endpoint := refused_calls_change_nothing.2 _ _ _ y _ _ reached refused taken 0
  exact ⟨past, _, y, reached, refused, taken, by rw [endpoint, waiting], untouched.requests⟩

end Reactor
