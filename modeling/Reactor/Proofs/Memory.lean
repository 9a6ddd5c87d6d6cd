import Reactor.Proofs.Closing
import Reactor.Proofs.Memory.Ticks

/-!
# The loop and its transport in memory stay together

Whatever an embedder, its handlers and a script do, every pending request stands in exactly one
place, and the places hold nothing else; both sides agree on who reads and who is closed. So a flush
and one tick complete all that was pending.
-/

namespace Reactor

variable {S N C : Type} {enter : Handlers (Memory.host S N C)}

namespace Machine

variable {x m : Machine (Memory.host S N C)} {past : List (Machine (Memory.host S N C))}

/-- A new loop and a new transport are together. -/
theorem Coupled.fresh (options : Options) (shared : S) (p : Program (Memory.host S N C)) :
    (start p (.fresh options Memory.initial shared)).Coupled where
  once pending := by cases pending
  held hp := by cases hp
  heldShutdown hreq := by cases hreq
  fits hd := by cases hd
  mirrors h :=
    ⟨rfl, ⟨fun closed => (Bool.false_ne_true closed).elim,
      fun known => (Nat.not_lt_zero h known.1).elim⟩,
        fun shut => (Bool.false_ne_true shut).elim⟩
  shutting pending := by cases pending
  single pending := by cases pending
  failing hd := by cases hd

/-- Along every run the loop and its transport stay together. -/
theorem Coupled.of_run {options : Options} {shared : S} {p : Program (Memory.host S N C)}
    (run : Run Memory.transport enter (start p (.fresh options Memory.initial shared)) past m) :
    m.Coupled := by
  refine (run.keeps (P := fun m => m.Balanced ∧ m.Coupled) (fun x y hx next => ?_)
    ⟨Loop.Balanced.fresh (H := Memory.host S N C) options Memory.initial shared,
      .fresh options shared p⟩).2
  obtain ⟨balanced, coupled⟩ := hx
  cases next with
  | step taken =>
    have rule := (rule_of_step? taken).2
    exact ⟨balanced.rule rule, coupled.rule balanced rule⟩
  | resume p rest =>
    rw [Balanced, (atRest_iff.1 rest).2] at balanced
    rw [Coupled, batches, (atRest_iff.1 rest).2] at coupled
    exact ⟨balanced, coupled⟩

/-- The tick that a program is about to start completes every request that is pending, once,
whatever its result: when the stack is empty again, the program goes on with the result, and each of
these requests was answered on the way. -/
def Completes (enter : Handlers (Memory.host S N C)) (m : Machine (Memory.host S N C))
    (next : Except LoopError Bool → Program (Memory.host S N C)) : Prop :=
  ∀ during m', Run Memory.transport enter m (m :: during) m' → (∀ x ∈ during, x.stack ≠ []) →
    m'.stack = [] → (∃ result, m'.control = .run (next result)) ∧
      ∀ req r, m.loop.requests.get? req = some r → m'.loop.requests.get? req = none ∧
        ∃ waiting d y later status, m :: during ++ [m'] = waiting ++ d :: y :: later ∧
          Answered Memory.transport req r status waiting d y later

/-- A tick that begins when nothing is held back completes all that is pending. -/
theorem Reached.completes (reached : Reached Memory.transport enter past m)
    (coupled : m.Coupled) {w : Waker} {next : Except LoopError Bool → Program (Memory.host S N C)}
    (stack : m.stack = []) (control : m.control = .run (.call (.tick w) next))
    (unheld : ∀ h req, (m.loop.net.endpoint h).holds req = 0) :
    m.Completes enter next := by
  intro during m' run busy rests
  obtain ⟨-, m₂, begins, rest⟩ := run.uncons
  have ahead (req : RequestId) (pending : m.loop.requests.get? req ≠ none) :
      0 < namings m.loop.net.finished.toList req + namings m.loop.deferred req := by
    obtain ⟨r, pending⟩ := Option.ne_none_iff_exists'.1 pending
    have once := coupled.once pending
    rw [unheld, Loop.underway, batches, stack, List.flatMap_nil, List.append_nil,
      namings_append] at once
    omega
  obtain ⟨serves, issued⟩ : m₂.Serves m.loop.requests.next next ∧
      m.loop.requests.next ≤ m₂.loop.requests.next := by
    obtain ⟨l, _, _⟩ := m
    obtain rfl : _ = _ := stack
    obtain rfl : _ = _ := control
    cases begins with
    | step taken =>
      cases (rule_of_step? taken).2 with
      | tick =>
        refine ⟨.ticking [] _ rfl fun req _ pending => ?_, Nat.le_refl _⟩
        have batched : namings l.deferred req ≤ namings (l.deferred ++ []) req := by simp
        exact Nat.lt_of_lt_of_le (ahead req pending) (Nat.add_le_add_left batched _)
    | resume p idle => cases idle
  obtain serves | ⟨-, returned, left⟩ := rest.served serves issued busy
  · cases serves with
    | ticking above t stack' => simp [rests] at stack'
    | ended stack' => simp [rests] at stack'
  · refine ⟨returned, fun req r pending => ?_⟩
    have gone := left req (Registry.lt_next_of_get? pending)
    refine ⟨gone, ?_⟩
    obtain ⟨-, waits⟩ | answered := run.answered (reached.waits pending)
    · have waiting := (waits m' (by simp)).waiting
      rw [gone] at waiting
      cases waiting
    · exact answered

/-- What a loop and its transport in memory have in common at a machine. -/
structure Together (enter : Handlers (Memory.host S N C)) (m : Machine (Memory.host S N C)) :
    Prop where
  /-- A pending request stands once among the writes that the endpoint of its handle holds back and
  in the slot of that endpoint, in what the transport has finished, in what is due, and in the
  batches of ticks. -/
  placed : ∀ req r, m.loop.requests.get? req = some r →
    (m.loop.net.endpoint r.handle).held.toList.countP (·.1 = req) +
        (if (m.loop.net.endpoint r.handle).heldShutdown = some req then 1 else 0) +
        namings m.loop.net.finished.toList req + namings m.loop.deferred req +
        namings m.batches req = 1
  /-- Outside of handlers there are no batches. -/
  outside : m.stack = [] → m.batches = []
  /-- Every write that is held back is a pending write of that handle and of these bytes. -/
  held : ∀ h req data, (req, data) ∈ (m.loop.net.endpoint h).held.toList →
    ∃ callback, m.loop.requests.get? req = some (.write h data callback)
  /-- Every shutdown that waits is a pending shutdown of that handle. -/
  waiting : ∀ h req, (m.loop.net.endpoint h).heldShutdown = some req →
    ∃ callback, m.loop.requests.get? req = some (.shutdown h callback)
  /-- Every completion that has finished, is due, or is in a batch names a pending
  request of its kind, if any. -/
  fits : ∀ d ∈ m.loop.net.finished.toList ++ m.loop.deferred ++ m.batches, d.Fits m.loop.requests
  reading : ∀ h, (m.loop.net.endpoint h).reading =
    (m.loop.answer Memory.transport (.isReading h) : Bool)
  closed : ∀ h, (m.loop.net.endpoint h).closed = true ↔
    (∃ x, m.loop.handles.get? h = some x ∧ x.state = .closing) ∨ m.Gone h
  shut : ∀ h, (m.loop.net.endpoint h).shut = true →
    (∃ x, m.loop.handles.get? h = some x ∧
      (x.state = .shuttingDown ∨ x.state = .shutDown ∨ x.state = .closing)) ∨
      m.Gone h
  /-- A tick outside of handlers that begins when nothing is held back
  completes all that is pending. -/
  ticks : ∀ w next, m.stack = [] → m.control = .run (.call (.tick w) next) →
    (∀ h req, (m.loop.net.endpoint h).holds req = 0) → m.Completes enter next
  /-- After a flush nothing is held back, so a flush and a tick complete all that was pending. -/
  flushes : ∀ w next, m.stack = [] →
    m.control = .run (.call (.script .flushWrites) fun _ => .call (.tick w) next) →
    ∃ m₁, m.step? Memory.transport enter = some m₁ ∧ m₁.loop.requests = m.loop.requests ∧
      (∀ h req, (m₁.loop.net.endpoint h).holds req = 0) ∧ m₁.Completes enter next

end Machine

open Machine

/-- Along every run on a transport in memory, with any handlers and any script, the loop and the
transport stay together. -/
theorem loop_and_memory_together {options : Options} {shared : S} {p : Program (Memory.host S N C)}
    {past : List (Machine (Memory.host S N C))} {m : Machine (Memory.host S N C)}
    (run : Run Memory.transport enter (start p (.fresh options Memory.initial shared)) past m) :
    Together enter m := by
  have reached : Reached Memory.transport enter past m := ⟨options, Memory.initial, shared, p, run⟩
  have balanced := Balanced.of_reached reached
  have coupled := Coupled.of_run run
  constructor
  case placed =>
    intro req r pending
    have once := coupled.once pending
    rw [Loop.underway, namings_append, namings_append, Endpoint.holds] at once
    omega
  case outside =>
    intro stack
    rw [batches, stack]
    rfl
  case held => intro h req data hp; exact coupled.held hp
  case waiting => intro h req hreq; exact coupled.heldShutdown hreq
  case fits => intro d hd; exact coupled.fits hd
  case reading => intro h; exact (coupled.mirrors h).reading
  case closed =>
    intro h
    refine (coupled.mirrors h).closed.trans ?_
    cases found : m.loop.handles.get? h with
    | none => simp [Gone, found]
    | some x =>
      have known := Registry.lt_next_of_get? found
      simp [Gone, found, known, (balanced.coherent found).1]
  case shut =>
    intro h shut
    obtain ⟨known, past⟩ := (coupled.mirrors h).shut shut
    cases found : m.loop.handles.get? h with
    | none => exact .inr ⟨known, found⟩
    | some x =>
      have past := past x found
      refine .inl ⟨x, rfl, ?_⟩
      cases state : x.state <;> simp [state, StreamState.pastWriting] at past ⊢
  case ticks =>
    intro w next stack control unheld
    exact reached.completes coupled stack control unheld
  case flushes =>
    intro w next stack control
    obtain ⟨l, _, _⟩ := m
    obtain rfl : _ = _ := stack
    obtain rfl : _ = _ := control
    let m₁ : Machine (Memory.host S N C) :=
      ⟨(l.ask (Memory.transport.perform .flushWrites)).2, [], .run (.call (.tick w) next)⟩
    have step : Machine.step? Memory.transport enter ⟨l, [],
        .run (.call (.script .flushWrites) fun _ => .call (.tick w) next)⟩ =
        some m₁ := by
      have sound : l.breach = none := balanced.sound
      simp [step?, sound]
      rfl
    have run₁ := run.snoc (.step step)
    have unheld (h : HandleId) (req : RequestId) : (m₁.loop.net.endpoint h).holds req = 0 := by
      rw [show m₁.loop.net.endpoint h = _ from Memory.endpoint_perform_flushWrites l.net h]
      exact Memory.holds_flush _ _
    exact ⟨m₁, step, rfl, unheld,
      Reached.completes ⟨options, Memory.initial, shared, p, run₁⟩
        (Coupled.of_run run₁) rfl rfl unheld⟩

/-! ## A client whose writes are held back -/

namespace Client

open Memory (Script)

/-- A client whose two writes and shutdown are held back, and then flushed and
completed by one tick. -/
def patient : Program (Echo.host Memory Script) :=
  .call (.issue (.newHandle .tcp)) fun (h : HandleId) =>
  .call (.issue (.connect h (.v4 ⟨127, 0, 0, 1⟩ 80))) fun _ =>
  .call (.tick .idle) fun _ =>
  .call (.script .holdWrites) fun _ =>
  .call (.issue (.write h [1] (.closure Echo.Closure.afterWrite))) fun _ =>
  .call (.issue (.write h [2] .promise)) fun _ =>
  .call (.issue (.shutdown h .promise)) fun _ =>
  .call (.script .flushWrites) fun _ =>
  .call (.tick .idle) fun _ => .skip

/-- The client at the call of the flush. -/
def holding : Machine (Echo.host Memory Script) :=
  (Machine.start patient (.fresh .standard Memory.initial ())).run Memory.transport
    (Echo.handlers _ _) 18

/-- The client so many steps after it started the tick that follows. -/
def ticking (steps : Nat) : Machine (Echo.host Memory Script) :=
  (holding.run Memory.transport (Echo.handlers _ _) 2).run Memory.transport
    (Echo.handlers _ _) steps

end Client

/-- At the flush the two writes are held back and the shutdown waits; when the tick has returned,
all three were answered. -/
theorem loop_and_memory_together_for_client :
    (Client.holding.loop.net.endpoint 0).held.toList = [(1, [1]), (2, [2])] ∧
      (Client.holding.loop.net.endpoint 0).heldShutdown = some 3 ∧
      ∃ m₁ during, Run Memory.transport (Echo.handlers _ _) m₁ (m₁ :: during) (Client.ticking 13) ∧
        ∀ req r, Client.holding.loop.requests.get? req = some r →
          ∃ waiting d y later status,
            m₁ :: during ++ [Client.ticking 13] = waiting ++ d :: y :: later ∧
            Answered Memory.transport req r status waiting d y later := by
  obtain ⟨past, run, -⟩ := Run.exists_of_run Memory.transport (Echo.handlers _ _)
    (Machine.start Client.patient (.fresh .standard Memory.initial ())) 18
  obtain ⟨m₁, flushed, same, -, completes⟩ :=
    (loop_and_memory_together run).flushes .idle (fun _ => .skip) (by rfl) (by rfl)
  have first : Client.holding.run Memory.transport (Echo.handlers _ _) 1 = m₁ := run_succ flushed 0
  have goes : ((Client.holding.run Memory.transport (Echo.handlers _ _) 1).step? Memory.transport
      (Echo.handlers _ _)).isSome = true := by rfl
  rw [first] at goes
  obtain ⟨m₂, taken⟩ := Option.isSome_iff_exists.1 goes
  have second : Client.holding.run Memory.transport (Echo.handlers _ _) 2 = m₂ :=
    (run_succ flushed 1).trans (run_succ taken 0)
  obtain ⟨during, rest, behind⟩ := Run.exists_of_run Memory.transport (Echo.handlers _ _) m₂ 13
  have ticks : Run Memory.transport (Echo.handlers _ _) m₁ (m₁ :: during) (Client.ticking 13) := by
    rw [Client.ticking, second]
    exact (Run.refl.snoc (.step taken)).trans rest
  rw [← second] at behind
  have busy : (List.range 13).all (fun k => !(Client.ticking k).stack.isEmpty) = true := by rfl
  have completed := completes during (Client.ticking 13) ticks (fun x hx => ?_) (by rfl)
  · refine ⟨by rfl, by rfl, m₁, during, ticks, fun req r pending => ?_⟩
    exact (completed.2 req r ((congrArg (Registry.get? · req) same).trans pending)).2
  · obtain ⟨k, less, rfl⟩ := behind x hx
    have some_frame := List.all_eq_true.1 busy k (List.mem_range.2 less)
    intro none
    rw [Client.ticking, none] at some_frame
    cases some_frame

end Reactor
