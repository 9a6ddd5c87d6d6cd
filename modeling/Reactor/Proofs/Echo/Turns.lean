import Reactor.Echo.Server
import Reactor.Proofs.Loop.Outlines
import Reactor.Proofs.Machine.Leads
import Reactor.Proofs.Memory.Connections
import Reactor.Proofs.Memory.Reclaiming
import Reactor.Proofs.Buffers.Lending
import Reactor.Proofs.Inert

/-!
# Turns of an echo server

Between two machines at which no handler is at work the outline of an echo server changes in one of
a few ways, its turns: one for each item that a tick may take, with all that the handlers of the
server do then. Each turn is told by the outline and the completions that the tick has yet to take.
-/

namespace Reactor.Echo.Server

open Machine

/-- The host of an echo server on a transport in memory. -/
abbrev Hosted : Host := host Memory Memory.Script

/-- The closures that a server has registered for an event of a handle. -/
def registered (h : HandleId) : EventName → List Hosted.Closure
  | .connection => if h = listener then [Closure.onConnection] else []
  | .data => if h = listener then [] else [Closure.onData]
  | .endOfStream => if h = listener then [] else [Closure.onEnd]
  | .error => if h = listener then [] else [Closure.onError]
  | _ => []

/-- The request by which a server writes back what has arrived. -/
def echo (c : HandleId) (view : List UInt8) : Request Hosted.Closure :=
  .write c view (.closure Closure.afterWrite)

/-- The request by which a server ends what it writes. -/
def finale (c : HandleId) : Request Hosted.Closure := .shutdown c (.closure Closure.afterShutdown)

/-- Completions that are still to be taken: finished, due, or in the batch of a tick. -/
def ahead (o : Outline Hosted) (batch : List Completion) : List Completion :=
  o.net.finished.toList ++ o.deferred ++ batch

/-- A client is taken over: it is connected and reads, and its listeners are registered. -/
def greet (o : Outline Hosted) (c : HandleId) : Outline Hosted :=
  { o.turn c (.alive { state := .connected, reading := true }) with
    listeners :=
      o.listeners ++ [⟨c, .data, Closure.onData⟩, ⟨c, .endOfStream, Closure.onEnd⟩,
        ⟨c, .error, Closure.onError⟩]
    net := (Memory.setReading true c (Memory.accept listener o.net).net).net }

/-- What a turn makes of the outline of a server and of the batch that its tick has yet to take, and
the news of it. Scripts are of the allowed ones. -/
inductive Turn (allowed : Memory.Script → Prop) (o : Outline Hosted) :
    List Completion → List News → Outline Hosted → List Completion → Prop where
  | still {batch} : Turn allowed o batch [] o batch
  | script {s} (may : allowed s) : Turn allowed o [] [] (o.ask (Memory.perform s)) []
  | begin : Turn allowed o [] [] { o with deferred := [] } o.deferred
  | collect {w} : Turn allowed o [] [] (o.ask (Memory.collect w)) o.net.finished.toList
  /-- A completion is passed over. -/
  | skip {d batch} : Turn allowed o (d :: batch) [] o batch
  /-- A connection has failed. -/
  | fail {status batch} : Turn allowed o (.connection listener (.error status) :: batch)
      [.told listener (.error ⟨status, "on_connection"⟩)] o batch
  | greet {c batch} (new : o.life c = .unborn) :
      Turn allowed o (.connection listener (.ok ()) :: batch)
      [.told listener .connection] (greet o c) batch
  /-- A write has gone through. -/
  | sent {d batch req c view s} (client : c ≠ listener) (report : d.report? = some (req, .ok ()))
      (pending : o.requests.get? req = some (echo c view)) (alive : o.life c = .alive s) :
      Turn allowed o (d :: batch) [.answered c (.ok ())] (o.settle s req (echo c view)) batch
  /-- A write has failed. -/
  | unsent {d batch req status c view s} (client : c ≠ listener)
      (report : d.report? = some (req, .error status))
      (pending : o.requests.get? req = some (echo c view)) (alive : o.life c = .alive s) :
      Turn allowed o (d :: batch) [.answered c (.error ⟨status, "after_write"⟩)]
        ((o.settle s req (echo c view)).close Memory.transport c (s.settle .write)) batch
  /-- A shutdown has ended, one way or the other. -/
  | done {d batch req status c s state} (client : c ≠ listener)
      (report : d.report? = some (req, status)) (pending : o.requests.get? req = some (finale c))
      (alive : o.life c = .alive s) (past : s.state ≠ .shuttingDown → state = s.state) :
      Turn allowed o (d :: batch) [.answered c (outcomeAt "after_shutdown" status)]
        (((o.settle s req (finale c)).turn c (.alive { s.settle .shutdown with state })).close
          Memory.transport c { s.settle .shutdown with state }) batch
  /-- A read has found nothing. -/
  | vain {w h size} : Turn allowed o [] [] (o.ask (Memory.read w h size)) []
  /-- Bytes are written back. -/
  | echo {w c size n view s} (client : c ≠ listener) (alive : o.life c = .alive s)
      (connected : s.state = .connected) (reading : s.reading = true)
      (read : (Memory.read w c size o.net).answer = (.data n, view)) :
      Turn allowed o [] [.told c (.data view)]
        (((o.ask (Memory.read w c size)).ask (Memory.write o.requests.next c view)).enlist s
          (echo c view)
          (Loop.refusalOf (.write o.requests.next)
            (Memory.write o.requests.next c view (Memory.read w c size o.net).net).answer)) []
  /-- A stream has ended. -/
  | finish {w c size s} (client : c ≠ listener) (alive : o.life c = .alive s)
      (connected : s.state = .connected) (reading : s.reading = true) :
      Turn allowed o [] [.told c .endOfStream]
        ((((o.ask (Memory.read w c size)).endReading Memory.transport c s).ask
            (Memory.shutdown o.requests.next c)).enlist
          { s with reading := false, state := .shuttingDown } (finale c)
          (Loop.refusalOf (.shutdown o.requests.next) (Memory.shutdown o.requests.next c
            ((o.ask (Memory.read w c size)).endReading Memory.transport c s).net).answer)) []
  /-- A read has failed. -/
  | lose {w c size status s} (client : c ≠ listener) (alive : o.life c = .alive s)
      (connected : s.state = .connected) (reading : s.reading = true) :
      Turn allowed o [] [.told c (.error ⟨status, "on_read"⟩)]
        (((o.ask (Memory.read w c size)).endReading Memory.transport c s).close Memory.transport c
          { s with reading := false }) []
  /-- A client leaves the table. -/
  | part {c s} (client : c ≠ listener) (alive : o.life c = .alive s) (marked : s.marked = true) :
      Turn allowed o [] [.told c .close]
        { o.turn c .gone with listeners := o.listeners.filter (·.handle ≠ c) } []

/-! ## What turns keep -/

/-- A client reads, or its stream has ended and is being shut down, or it is closing. -/
inductive Attended (s : Stance) : Prop where
  | attending (unmarked : s.marked = false) (connected : s.state = .connected)
      (reading : s.reading = true)
  | ending (unmarked : s.marked = false) (shutting : s.state = .shuttingDown)
      (silent : s.reading = false)
  | closing (marked : s.marked = true) (closing : s.state = .closing) (silent : s.reading = false)

/-- Whether a completion reports a connection that waits on the server. -/
def connects : Completion → Bool
  | .connection server (.ok ()) => server = listener
  | _ => false

/-- What an echo server looks like when no handler is at work. -/
structure Attends (o : Outline Hosted) (batch : List Completion) : Prop where
  /-- The server listens. -/
  listens : ∃ s, o.life listener = .alive s ∧ s.state = .listening ∧ s.reading = false ∧
    s.marked = false
  clients : ∀ c s, c ≠ listener → o.life c = .alive s → Attended s
  /-- Clients write back and end what they write, and nothing else is pending. -/
  requests : ∀ req r, o.requests.get? req = some r →
    r.handle ≠ listener ∧ ((∃ c view, r = echo c view) ∨ ∃ c, r = finale c)
  listeners : ∀ h s, o.life h = .alive s → ∀ event, o.listenersOf h event = registered h event
  strangers : ∀ h, o.life h = .unborn → ∀ event, o.listenersOf h event = []
  /-- For each connection that is reported one waits. -/
  connections : (ahead o batch).countP connects ≤ (o.net.endpoint listener).waiting

namespace Attends

variable {o o' : Outline Hosted} {batch batch' : List Completion} {c : HandleId} {s s' : Stance}

/-- A change that streams, listeners and requests do not show. -/
theorem keep (attends : Attends o batch) (life : o'.life = o.life)
    (listeners : o'.listeners = o.listeners) (requests : o'.requests = o.requests)
    (connections : (ahead o' batch').countP connects ≤ (o'.net.endpoint listener).waiting) :
    Attends o' batch' where
  listens := by rw [life]; exact attends.listens
  clients := by rw [life]; exact attends.clients
  requests := by rw [requests]; exact attends.requests
  listeners := by
    unfold Outline.listenersOf
    rw [life, listeners]
    exact attends.listeners
  strangers := by
    unfold Outline.listenersOf
    rw [life, listeners]
    exact attends.strangers
  connections := connections

/-- One client goes on. -/
theorem turn (attends : Attends o batch) (client : c ≠ listener) (alive : o.life c = .alive s)
    (attended : Attended s') (life : o'.life = (o.turn c (.alive s')).life)
    (listeners : o'.listeners = o.listeners) (requests : ∀ req r, o'.requests.get? req = some r →
      r.handle ≠ listener ∧ ((∃ c view, r = echo c view) ∨ ∃ c, r = finale c))
    (connections : (ahead o' batch').countP connects ≤ (o'.net.endpoint listener).waiting) :
      Attends o' batch' where
  listens := by
    obtain ⟨s, there, listening⟩ := attends.listens
    exact ⟨s, by rw [life]; exact (if_neg client).trans there, listening⟩
  clients k z other there := by
    rw [life] at there
    by_cases same : c = k
    · obtain rfl := Life.alive.inj ((if_pos same).symm.trans there)
      exact attended
    · exact attends.clients k z other ((if_neg same).symm.trans there)
  requests := requests
  listeners k z there event := by
    have before : ∃ z, o.life k = .alive z := by
      rw [life] at there
      by_cases same : c = k
      · exact ⟨s, same ▸ alive⟩
      · exact ⟨z, (if_neg same).symm.trans there⟩
    obtain ⟨z, before⟩ := before
    have told := attends.listeners k z before event
    unfold Outline.listenersOf at told ⊢
    rwa [listeners]
  strangers k there event := by
    have before : o.life k = .unborn := by
      rw [life] at there
      by_cases same : c = k
      · cases (if_pos same).symm.trans there
      · exact (if_neg same).symm.trans there
    have told := attends.strangers k before event
    unfold Outline.listenersOf at told ⊢
    rwa [listeners]
  connections := connections

/-- The report of a request brings no connection. -/
theorem connects_of_report {d : Completion} (report : d.report?.isSome) : connects d = false := by
  cases d with
  | connection => cases report
  | write | shutdown | connect => rfl

/-- As many connections are reported and wait when requests finish, or are refused. -/
theorem secluded (attends : Attends o batch) (net : o.net.Secluded o'.net) {due : List Completion}
    (deferred : o'.deferred = o.deferred ++ due) (requests : ∀ d ∈ due, d.report?.isSome)
    (fewer : batch'.Sublist batch) :
    (ahead o' batch').countP connects ≤ (o'.net.endpoint listener).waiting := by
  have none {ds : List Completion} (requests : ∀ d ∈ ds, d.report?.isSome) :
      ds.countP connects = 0 :=
    List.countP_eq_zero.2 fun d hd => by simp [connects_of_report (requests d hd)]
  obtain ⟨done, finished, answers⟩ := net.finished
  have less := fewer.countP_le (p := connects)
  have before := attends.connections
  simp only [ahead, net.waiting, finished, deferred, List.countP_append, none requests,
    none answers] at before ⊢
  omega

/-- A request of a client is answered. -/
theorem pending_settle (attends : Attends o batch) (req : RequestId) (r : Request Hosted.Closure)
    (s : Stance) (req' : RequestId) (r' : Request Hosted.Closure)
    (pending : (o.settle s req r).requests.get? req' = some r') :
    r'.handle ≠ listener ∧ ((∃ c view, r' = echo c view) ∨ ∃ c, r' = finale c) :=
  attends.requests req' r' (Registry.get?_of_remove pending).2

/-- A client enters a request. -/
theorem pending_add (attends : Attends o batch) {r : Request Hosted.Closure}
    (client : r.handle ≠ listener) (own : (∃ c view, r = echo c view) ∨ ∃ c, r = finale c)
    (req' : RequestId) (r' : Request Hosted.Closure)
    (pending : (o.requests.add r).get? req' = some r') :
    r'.handle ≠ listener ∧ ((∃ c view, r' = echo c view) ∨ ∃ c, r' = finale c) := by
  rw [Registry.get?_add] at pending
  split at pending
  case isTrue => cases pending; exact ⟨client, own⟩
  case isFalse => exact attends.requests req' r' pending

end Attends

variable {allowed : Memory.Script → Prop} {o o' : Outline Hosted} {batch batch' : List Completion}
  {new : List News}

/-- A refusal that is due reports a request. -/
theorem report_of_refusalOf {completion : Outcome → Completion}
    (request : ∀ outcome, (completion outcome).report?.isSome) (outcome : Outcome) :
    ∀ d ∈ (Loop.refusalOf completion outcome).toList, d.report?.isSome := by
  intro d hd
  cases outcome with
  | ok => cases hd
  | error status =>
    obtain rfl := List.mem_singleton.1 hd
    exact request _

/-- A client that is connected was not closed. -/
theorem Attended.unmarked {s : Stance} (attended : Attended s) (connected : s.state = .connected) :
    s.marked = false := by
  cases attended with
  | attending unmarked => exact unmarked
  | ending _ shutting => cases connected.symm.trans shutting
  | closing _ closing => cases connected.symm.trans closing

/-- A client that was closed reads no more. -/
theorem Attended.silent {s : Stance} (attended : Attended s) (marked : s.marked = true) :
    s.reading = false := by
  cases attended with
  | attending unmarked | ending unmarked => cases marked.symm.trans unmarked
  | closing _ _ silent => exact silent

/-- An answer leaves a client as attended as it is. -/
theorem Attended.settle {s : Stance} (attended : Attended s) (kind : RequestKind) :
    Attended (s.settle kind) := by
  cases attended with
  | attending unmarked connected reading =>
    cases kind <;> exact .attending unmarked connected reading
  | ending unmarked shutting silent => cases kind <;> exact .ending unmarked shutting silent
  | closing marked closing silent => cases kind <;> exact .closing marked closing silent

/-- The end of a read session tells the other endpoints nothing. -/
theorem secluded_endReading (o : Outline Hosted) (c : HandleId) (s : Stance) :
    Memory.Secluded o.net (o.endReading Memory.transport c s).net := by
  unfold Outline.endReading
  split
  case isTrue => exact .setReading false
  case isFalse => exact .refl _

/-- What reads is a client that is connected. -/
theorem Attends.reader {c : HandleId} {s : Stance} (attends : Attends o batch)
    (alive : o.life c = .alive s) (reading : s.reading = true) :
    c ≠ listener ∧ s.state = .connected ∧ s.marked = false := by
  have client : c ≠ listener := fun same => by
    obtain ⟨z, there, -, silent, -⟩ := attends.listens
    rw [same, there] at alive
    cases alive
    cases reading.symm.trans silent
  cases attends.clients c s client alive with
  | attending unmarked connected => exact ⟨client, connected, unmarked⟩
  | ending _ _ silent | closing _ _ silent => cases reading.symm.trans silent

/-- What listens is the server. -/
theorem Attends.server {c : HandleId} {s : Stance} (attends : Attends o batch)
    (alive : o.life c = .alive s) (listening : s.state = .listening) : c = listener := by
  refine Decidable.byContradiction fun client => ?_
  cases attends.clients c s client alive with
  | attending _ state | ending _ state | closing _ state => cases listening.symm.trans state

/-- What was closed is a client. -/
theorem Attends.client_of_marked {c : HandleId} {s : Stance} (attends : Attends o batch)
    (alive : o.life c = .alive s) (marked : s.marked = true) : c ≠ listener := fun same => by
  obtain ⟨z, there, -, -, unmarked⟩ := attends.listens
  rw [same, there] at alive
  cases alive
  cases marked.symm.trans unmarked

/-- Where a connection is reported one waits. -/
theorem Attends.waits (attends : Attends o (.connection listener (.ok ()) :: batch)) :
    (o.net.endpoint listener).waiting ≠ 0 := by
  have counted : 0 < (ahead o (.connection listener (.ok ()) :: batch)).countP connects :=
    List.countP_pos_iff.2 ⟨.connection listener (.ok ()), by simp [ahead], rfl⟩
  have before := attends.connections
  omega

/-- A client is closed, if it was not closed before, after other changes of its own. -/
theorem Attends.close {o₁ : Outline Hosted} {c : HandleId} {s s₁ : Stance}
    (attends : Attends o batch) (client : c ≠ listener) (alive : o.life c = .alive s)
    (life : o₁.life = (o.turn c (.alive s₁)).life) (listeners : o₁.listeners = o.listeners)
    (requests : ∀ req r, o₁.requests.get? req = some r →
      r.handle ≠ listener ∧ ((∃ c view, r = echo c view) ∨ ∃ c, r = finale c))
    (net : o.net.Secluded o₁.net) (deferred : o₁.deferred = o.deferred)
    (fewer : batch'.Sublist batch)
    (before : s₁.marked = true → Attended s₁) :
      Attends (o₁.close Memory.transport c s₁) batch' := by
  unfold Outline.close
  split
  case isTrue marked =>
    refine attends.turn client alive (before marked) life listeners requests ?_
    exact attends.secluded net (deferred.trans (List.append_nil _).symm) (by simp) fewer
  case isFalse =>
    have closed : Attended s₁.close := .closing rfl rfl rfl
    refine attends.turn client alive closed ?_ listeners requests ?_
    · exact Outline.life_turn life _
    · refine attends.secluded ?_ (show _ = o.deferred ++ []
        from deferred.trans (List.append_nil _).symm) (by simp) fewer
      exact net.trans (.trans (secluded_endReading o₁ c s₁) .close)

/-- A script reports connections that wait, and no others. -/
theorem connections_perform (s : Memory.Script) (m : Memory) {rest : List Completion}
    (before : (m.finished.toList ++ rest).countP connects ≤ (m.endpoint listener).waiting) :
    ((Memory.perform s m).net.finished.toList ++ rest).countP connects ≤
      ((Memory.perform s m).net.endpoint listener).waiting := by
  have kept (f : Endpoint → Endpoint) (same : ∀ e, (f e).waiting = e.waiting) (h : HandleId) :
      (m.endpoint listener).waiting ≤ ((m.update h f).endpoint listener).waiting :=
    Nat.le_of_eq ((Memory.Secluded.update same).waiting listener).symm
  cases s with
  | pushConnection server =>
    simp only [Memory.perform, Memory.finished_finish, Memory.endpoint_finish,
      Memory.finished_update, Memory.endpoint_update, List.countP_append, List.countP_singleton,
      connects] at before ⊢
    by_cases same : listener = server
    · subst same
      simp
      omega
    · simp [same, Ne.symm same]
      omega
  | pushConnectionError =>
    simp only [Memory.perform, Memory.finished_finish, Memory.endpoint_finish, List.countP_append,
      List.countP_singleton, connects] at before ⊢
    simpa using before
  | pushData h data =>
    exact Nat.le_trans before
      (kept (fun e => { e with incoming := e.incoming ++ [.data data] }) (fun _ => rfl) h)
  | pushEof h =>
    exact Nat.le_trans before
      (kept (fun e => { e with incoming := e.incoming ++ [.eof] }) (fun _ => rfl) h)
  | pushReadError h status =>
    exact Nat.le_trans before
      (kept (fun e => { e with incoming := e.incoming ++ [.failed status] }) (fun _ => rfl) h)
  | failNextListen | failNextWrite | refuseNextWrite | failNextShutdown | failNextConnect
    | holdWrites => exact before
  | flushWrites =>
    have none : m.flushed.countP connects = 0 := by
      refine List.countP_eq_zero.2 fun d hd => ?_
      obtain ⟨h, hd⟩ := Memory.mem_flushed hd
      rcases Memory.mem_releaseHeld.1 hd with ⟨p, -, rfl⟩ | ⟨req, -, rfl⟩ <;> simp [connects]
    have finished : (Memory.perform .flushWrites m).net.finished.toList =
        m.finished.toList ++ m.flushed :=
      Memory.finished_finish _ _ _
    rw [Memory.endpoint_perform_flushWrites, finished]
    simp only [List.countP_append, none] at before ⊢
    exact before

/-- A client is taken over. -/
theorem Attends.greet {c : HandleId} (attends : Attends o (.connection listener (.ok ()) :: batch))
    (unborn : o.life c = .unborn) : Attends (Server.greet o c) batch := by
  obtain ⟨s, there, listening⟩ := attends.listens
  have client : c ≠ listener := fun same => by
    rw [same, there] at unborn
    cases unborn
  have elsewhere {k : HandleId} (other : c ≠ k) : (Server.greet o c).life k = o.life k :=
    if_neg other
  have silent {k : HandleId} (other : c ≠ k) (event : EventName) :
      (Server.greet o c).listenersOf k event = o.listenersOf k event := by
    simp [Outline.listenersOf, Server.greet, other]
  constructor
  case listens => exact ⟨s, (elsewhere client).trans there, listening⟩
  case clients =>
    intro k z other alive
    by_cases same : c = k
    · obtain rfl := Life.alive.inj ((if_pos same).symm.trans alive)
      exact .attending rfl rfl rfl
    · exact attends.clients k z other ((elsewhere same).symm.trans alive)
  case requests => exact attends.requests
  case listeners =>
    intro k z alive event
    by_cases same : c = k
    · subst same
      have none := attends.strangers c unborn event
      rw [Outline.listenersOf] at none
      have own (event : EventName) : List.filterMap (fun x : Listener Hosted.Closure =>
          if x.handle = c ∧ x.event = event then some x.closure else Option.none)
          [⟨c, .data, Closure.onData⟩, ⟨c, .endOfStream, Closure.onEnd⟩,
            ⟨c, .error, Closure.onError⟩] =
          registered c event := by
        cases event <;> simp [registered, client, List.filterMap_cons]
      rw [Outline.listenersOf, Server.greet, List.filterMap_append, own]
      exact congrArg (· ++ registered c event) none
    · rw [silent same]
      exact attends.listeners k z ((elsewhere same).symm.trans alive) event
  case strangers =>
    intro k alive event
    by_cases same : c = k
    · cases (if_pos same).symm.trans alive
    · rw [silent same]
      exact attends.strangers k ((elsewhere same).symm.trans alive) event
  case connections =>
    have before := attends.connections
    have fewer := Memory.waiting_accept attends.waits
    have kept :=
      (Memory.Secluded.setReading (m := (Memory.accept listener o.net).net) (h := c) true).waiting
        listener
    have finished : (Server.greet o c).net.finished = Memory.finished o.net :=
      Memory.finished_accept
    have deferred : (Server.greet o c).deferred = o.deferred := rfl
    have waiting : ((Server.greet o c).net.endpoint listener).waiting + 1 =
        (Memory.endpoint o.net listener).waiting :=
      (congrArg (· + 1) kept).trans fewer
    simp only [ahead, List.countP_append, List.countP_cons, connects, decide_true, if_true,
      finished, deferred]
      at before ⊢
    omega

/-- A client leaves the table. -/
theorem Attends.part {c : HandleId} (attends : Attends o batch) (client : c ≠ listener) :
    Attends { o.turn c .gone with listeners := o.listeners.filter (·.handle ≠ c) } batch := by
  have elsewhere {k : HandleId} (other : c ≠ k) : (o.turn c .gone).life k = o.life k := if_neg other
  have silent {k : HandleId} (other : c ≠ k) (event : EventName) :
      Outline.listenersOf { o.turn c .gone with listeners := o.listeners.filter (·.handle ≠ c) } k
        event =
        o.listenersOf k event := by
    rw [Outline.listenersOf, List.filterMap_filter]
    refine congrArg (List.filterMap · o.listeners) (funext fun x => ?_)
    by_cases of : x.handle = c
    · simp [of, other]
    · simp [of]
  constructor
  case listens =>
    obtain ⟨s, there, listening⟩ := attends.listens
    exact ⟨s, (elsewhere client).trans there, listening⟩
  case clients =>
    intro k z other alive
    by_cases same : c = k
    · cases (if_pos same).symm.trans alive
    · exact attends.clients k z other ((elsewhere same).symm.trans alive)
  case requests => exact attends.requests
  case listeners =>
    intro k z alive event
    by_cases same : c = k
    · cases (if_pos same).symm.trans alive
    · rw [silent same]
      exact attends.listeners k z ((elsewhere same).symm.trans alive) event
  case strangers =>
    intro k alive event
    by_cases same : c = k
    · cases (if_pos same).symm.trans alive
    · rw [silent same]
      exact attends.strangers k ((elsewhere same).symm.trans alive) event
  case connections => exact attends.connections

/-- Every turn keeps an echo server as it is to be. -/
theorem Turn.attends (turn : Turn allowed o batch new o' batch') (attends : Attends o batch) :
    Attends o' batch' := by
  cases turn with
  | still => exact attends
  | script =>
    refine attends.keep rfl rfl rfl ?_
    have before := attends.connections
    unfold ahead at before ⊢
    rw [List.append_assoc] at before ⊢
    exact connections_perform _ _ before
  | begin =>
    refine attends.keep rfl rfl rfl ?_
    simpa [ahead] using attends.connections
  | collect =>
    refine attends.keep rfl rfl rfl ?_
    have before := attends.connections
    simp only [ahead, List.append_nil, List.countP_append] at before
    simp only [ahead, Outline.ask, Memory.collect, Memory.quiet_net, Queue.toList_empty,
      List.nil_append, List.countP_append]
    exact Nat.le_trans (Nat.le_of_eq (Nat.add_comm _ _)) before
  | skip =>
    exact attends.keep rfl rfl rfl
      (attends.secluded (.refl _) (List.append_nil _).symm (by simp) (List.sublist_cons_self _ _))
  | fail =>
    exact attends.keep rfl rfl rfl
      (attends.secluded (.refl _) (List.append_nil _).symm (by simp) (List.sublist_cons_self _ _))
  | greet unborn => exact attends.greet unborn
  | sent client report pending alive =>
    refine attends.turn client alive ((attends.clients _ _ client alive).settle .write) rfl rfl
      (attends.pending_settle _ _ _) ?_
    exact attends.secluded (.refl _) (List.append_nil _).symm (by simp) (List.sublist_cons_self _ _)
  | unsent client report pending alive =>
    refine attends.close client alive rfl rfl (attends.pending_settle _ _ _)
      (.refl _) rfl (List.sublist_cons_self _ _)
      fun _ => (attends.clients _ _ client alive).settle .write
  | @done d batch req status c s state client report pending alive past =>
    refine attends.close client alive (Outline.life_turn (o := o) rfl _) rfl
      (attends.pending_settle req (finale c) s)
      (.refl _) rfl (List.sublist_cons_self _ _) fun marked => ?_
    cases attends.clients _ _ client alive with
    | attending unmarked | ending unmarked => cases unmarked.symm.trans marked
    | closing _ closing silent =>
      exact .closing marked ((past (by simp [closing])).trans closing) silent
  | vain =>
    exact attends.keep rfl rfl rfl
      (attends.secluded (.read _ _) (List.append_nil _).symm (by simp) (.refl _))
  | echo client alive connected reading read =>
    have attended : Attended (Stance.pend _ .write) :=
      .attending ((attends.clients _ _ client alive).unmarked connected) connected reading
    refine attends.turn client alive attended rfl rfl
      (attends.pending_add client (.inl ⟨_, _, rfl⟩)) ?_
    exact attends.secluded (.trans (.read _ _) (.write _ _)) rfl
      (report_of_refusalOf (fun _ => rfl) _) (.refl _)
  | @finish w c size s client alive connected reading =>
    have unmarked := (attends.clients _ _ client alive).unmarked connected
    have attended : Attended ({ s with reading := false, state := .shuttingDown }.pend .shutdown) :=
      .ending unmarked rfl rfl
    refine attends.turn client alive attended (Outline.life_turn (o := o) rfl _) rfl
      (attends.pending_add client (.inr ⟨_, rfl⟩)) ?_
    exact attends.secluded
      (.trans (.read _ _) (.trans (secluded_endReading (o.ask _) _ _) (.shutdown _))) rfl
      (report_of_refusalOf (fun _ => rfl) _) (.refl _)
  | @lose w c size status s client alive connected reading =>
    have unmarked := (attends.clients _ _ client alive).unmarked connected
    refine attends.close client alive rfl rfl attends.requests
      (.trans (.read _ _) (secluded_endReading (o.ask _) _ _)) rfl (.refl _)
      fun marked => ?_
    cases unmarked.symm.trans marked
  | part client alive => exact attends.part client

end Reactor.Echo.Server
