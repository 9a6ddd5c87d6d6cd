import Reactor.Echo.Server
import Reactor.Proofs.Echo.Setup
import Reactor.Transport.Injected

/-!
# Clients that an echo server strands

Whoever is refused while a connection is taken over hands the error on at once, and does nothing
about the client that was created for it. The client stays in the table, idle or connected, and
nothing is under way on it: the loop tells nobody of it and does not count it as alive. So unless a
call names it, it is never closed, and an echo server names it no more.
-/

namespace Reactor

open Machine

variable {H : Host} {T : Transport H.Net H.Script} {enter : Handlers H} {l : Loop H}
  {stack : List (Frame H)} {server : HandleId} {past : List (Machine H)}

/-- A handle is in the table, idle or connected, and left to itself: it is not closing, it does not
read, and no reference to it keeps the loop alive. -/
def Loop.Strands (l : Loop H) (h : HandleId) : Prop :=
  ∃ x, l.handles.get? h = some x ∧ (x.state = .idle ∨ x.state = .connected) ∧ x.closing = false ∧
    x.isReading = false ∧ x.refs = 0

/-- A stream on which nothing is under way has no references but those of work that
is being done for it. -/
theorem Machine.Balanced.strands {m : Machine H} {h : HandleId} {s : Stance} (b : m.Balanced)
    (alive : m.loop.life h = .alive s) (dormant : s.Dormant) (silent : s.listening = false)
    (free : h ∉ m.stack.flatMap Frame.held) : m.loop.Strands h := by
  obtain ⟨x, found, rfl⟩ := Loop.exists_of_life alive
  have reading : x.isReading = false := dormant.reading
  have listening : x.listenRef = false := silent
  have pending : m.loop.pendingRequests h = 0 := by
    refine Nat.eq_zero_of_not_pos fun some => ?_
    obtain ⟨req, r, pending, rfl⟩ := (m.loop.pendingRequests_pos_iff h).1 some
    exact Loop.not_dormant_of_pending pending alive dormant
  refine ⟨x, found, dormant.state, dormant.marked, reading, ?_⟩
  rw [b.refs found, Handle.ownRefs, reading, listening, pending, List.count_eq_zero_of_not_mem free]
  rfl

/-- Taking a connection over comes to an end. -/
theorem Machine.Reached.setsUp {embed : Echo.Closure → H.Closure}
    (reached : Reached T enter past ⟨l, stack, .run (Echo.onConnection embed server)⟩) :
    ∃ failure l', Echo.SetsUp T embed l server l.handles.next failure l' ∧
      Tells T enter ⟨l, stack, .run (Echo.onConnection embed server)⟩ []
        ⟨l', stack, .returned failure⟩ :=
  Echo.finishes_onConnection embed server l stack (Balanced.of_reached reached)

/-- Whenever a connection is taken over, on every transport and among any handlers, that comes to an
end, and touches no handle but the client that it creates. If it ends with an error, the client is
stranded, and stays as it is until a call names it. -/
theorem failed_setup_strands_client {embed : Echo.Closure → H.Closure}
    (reached : Reached T enter past ⟨l, stack, .run (Echo.onConnection embed server)⟩) :
    ∃ way failure l', Steps T enter ⟨l, stack, .run (Echo.onConnection embed server)⟩ way ⟨l',
      stack, .returned failure⟩ ∧
      Echo.SetsUp T embed l server l.handles.next failure l' ∧
      (∀ k, l.handles.next ≠ k → l'.life k = l.life k) ∧
      (failure ≠ none → l.handles.get? l.handles.next = none ∧ l'.Strands l.handles.next ∧
        ∀ later m, Run T enter ⟨l', stack, .returned failure⟩ later m →
          (∀ z ∈ later, z.names l.handles.next = false) →
          m.loop.life l.handles.next = l'.life l.handles.next) := by
  have b := Balanced.of_reached reached
  obtain ⟨failure, l', sets, tells⟩ := reached.setsUp
  have after := tells.balanced b
  obtain ⟨way, steps, -⟩ := tells
  refine ⟨way, failure, l', steps, sets, fun k other => sets.elsewhere other, fun failed => ?_⟩
  obtain ⟨s, alive, dormant, silent⟩ := sets.dormant failed
  have new : l.handles.get? l.handles.next = none := Registry.get?_next _
  refine ⟨new, after.strands alive dormant silent fun held => ?_, fun later m run unnamed => ?_⟩
  · have there := b.present held
    rw [show (Machine.loop ⟨l, stack, _⟩).handles.get? l.handles.next = none from new] at there
    cases there
  · rw [run.dormant after alive dormant unnamed, alive]

/-! ## A client that is stranded -/

namespace Client

open Memory (Script)

/-- A server with a connection that waits, on a transport that refuses a primitive once. -/
def unlucky (p : Primitive) : Program (Echo.host (Injected Memory) (InjectedScript Script)) :=
  .call (.issue (.newHandle .tcp)) fun (server : HandleId) =>
  .call (.listen server none Echo.Closure.onConnection) fun _ =>
  .call (.script (.inject (.answer p (.error .eio)))) fun _ =>
  .call (.script (.below (.pushConnection server))) fun _ =>
  .call (.tick .idle) fun _ => .skip

/-- The server after so many steps; after 13 it takes the connection over, and
after 29 it has ended. -/
def stranding (p : Primitive) (steps : Nat) :
    Machine (Echo.host (Injected Memory) (InjectedScript Script)) :=
  (start (unlucky p) (.fresh .standard { below := Memory.initial } ())).run
    (Injected.transport Memory.transport)
    (Echo.handlers _ _) steps

/-- The machine of the client is reached after any number of steps, whatever primitive fails. -/
theorem reached_stranding (p : Primitive) (steps : Nat) :
    ∃ past, Reached (Injected.transport Memory.transport)
      (Echo.handlers _ _) past (stranding p steps) := by
  obtain ⟨past, run, -⟩ :=
    Run.exists_of_run (Injected.transport Memory.transport) (Echo.handlers _ _)
      (start (unlucky p) (.fresh .standard { below := Memory.initial } ())) steps
  exact ⟨past, _, _, _, _, run⟩

/-- The state of the client after so many steps, if it is in the table, and
whether it is closing. -/
def client (p : Primitive) (steps : Nat) : Option (StreamState × Bool) :=
  ((stranding p steps).loop.handles.get? 1).map fun x => (x.state, x.closing)

/-- So many steps after its start the server has failed to take the connection over, and its client
is left in a state, then and when the server has ended. -/
structure Leaves (p : Primitive) (steps : Nat) (e : LoopError) (state : StreamState) : Prop where
  takes : (stranding p 13).control = .run (Echo.onConnection id 0)
  new : client p 13 = none
  way : Steps (Injected.transport Memory.transport) (Echo.handlers _ _) (stranding p 13)
    ((List.range (steps - 13)).map
    ((stranding p 13).run (Injected.transport Memory.transport) (Echo.handlers _ _)))
    (stranding p steps)
  fails : (stranding p steps).control = .returned (some (.operation e))
  left : client p steps = some (state, false)
  ended : (stranding p 29).atRest = true
  stays : client p 29 = some (state, false)

end Client

/-- A server that may not accept a connection strands its client. -/
theorem failed_setup_strands_client_for_server :
    ∃ past way l', Reached (Injected.transport Memory.transport)
      (Echo.handlers _ _) past (Client.stranding .accept 13) ∧
      Steps (Injected.transport Memory.transport) (Echo.handlers _ _)
        (Client.stranding .accept 13) way
        ⟨l', (Client.stranding .accept 13).stack, .returned (some (.operation (.accept .eio)))⟩ ∧
          l'.Strands 1 := by
  obtain ⟨past, reached⟩ := Client.reached_stranding .accept 13
  have taken : Reached (Injected.transport Memory.transport) (Echo.handlers _ _) past
      ⟨(Client.stranding .accept 13).loop, (Client.stranding .accept 13).stack,
        .run (Echo.onConnection id 0)⟩ := reached
  obtain ⟨way, failure, l', steps, sets, -, strands⟩ := failed_setup_strands_client taken
  have listening : hasState (Client.stranding .accept 13).loop 0 .listening = true := by rfl
  have asked : ((Injected.transport Memory.transport).accept 0 1
      (Echo.spawn (Injected.transport Memory.transport)
      (Client.stranding .accept 13).loop.outline 1).net).answer =
        .error .eio := by
    rfl
  cases sets with
  | serves accepted | unread accepted => cases asked.symm.trans accepted
  | unaccepted refused =>
    obtain ⟨status, rfl, same⟩ := refused listening
    obtain rfl := Except.error.inj (same.symm.trans asked)
    exact ⟨past, way, l', reached, steps, (strands (by simp)).2.1⟩

/-- A server that may not accept a connection returns the error and leaves its client idle,
and one that may not read it leaves it connected. Neither client is closing, not even when
the server has ended. -/
theorem unlucky_server_leaves_client :
    (∃ past, Reached (Injected.transport Memory.transport)
      (Echo.handlers _ _) past (Client.stranding .accept 13)) ∧
      Client.Leaves .accept 16 (.accept .eio) .idle ∧
    (∃ past, Reached (Injected.transport Memory.transport)
      (Echo.handlers _ _) past (Client.stranding .readStart 13)) ∧
      Client.Leaves .readStart 20 (.transport "read_start" .eio) .connected :=
  ⟨Client.reached_stranding .accept 13,
    ⟨by rfl, by rfl, Steps.of_run _ _ _ (by rfl), by rfl, by rfl, by rfl, by rfl⟩,
    Client.reached_stranding .readStart 13,
    ⟨by rfl, by rfl, Steps.of_run _ _ _ (by rfl), by rfl, by rfl, by rfl, by rfl⟩⟩

/-! ## An echo server alone -/

/-- An echo server never closes a client that it has stranded: if the embedder does not name the
client, either, the client stays as it was left for good. -/
theorem stranded_client_stays {σ τ : Type} {T : Transport σ τ} {l : Loop (Echo.host σ τ)}
    {stack : List (Frame (Echo.host σ τ))} {past : List (Machine (Echo.host σ τ))}
    (reached : Reached T (Echo.handlers σ τ) past ⟨l, stack, .run (Echo.onConnection id server)⟩)
    (before : ∀ z ∈ past ++ [⟨l, stack, .run (Echo.onConnection id server)⟩],
      z.stack = [] → z.control.Spares l.handles.next) :
    ∃ way failure l', Steps T (Echo.handlers σ τ) ⟨l, stack, .run (Echo.onConnection id server)⟩ way
        ⟨l', stack, .returned failure⟩ ∧
      (failure ≠ none → ∀ later m,
        Run T (Echo.handlers σ τ) ⟨l', stack, .returned failure⟩ later m →
        (∀ z ∈ later ++ [m], z.stack = [] → z.control.Spares l.handles.next) →
        m.loop.life l.handles.next = l'.life l.handles.next) := by
  have discreet := Echo.discreet_handlers σ τ
  obtain ⟨failure, l', sets, tells⟩ := reached.setsUp
  have after := tells.balanced (Balanced.of_reached reached)
  obtain ⟨way, steps, -⟩ := tells
  refine ⟨way, failure, l', steps, fun failed later m run own => ?_⟩
  obtain ⟨s, alive, dormant, -⟩ := sets.dormant failed
  have spares := reached.spares_of_unborn discreet before l.life_next
  exact (run.life_of_spares discreet after own alive dormant ⟨spares.stack, trivial⟩).1.trans
    alive.symm

end Reactor
