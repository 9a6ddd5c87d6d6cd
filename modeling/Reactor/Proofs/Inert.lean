import Reactor.Proofs.Closing.Parting
import Reactor.Proofs.Machine.Progress
import Reactor.Proofs.Stream
import Reactor.Transport.Injected

/-!
# A loop that is not alive is inert

Outside of handlers a loop that is not alive has settled all that it owes: no handle is at
work, no request waits, nothing is due, and every callback that was promised has run. Ticks
alone do not bring it back to life: whatever the transport reports belongs to nothing that is
there, and is passed over.
-/

namespace Reactor

variable {H : Host} {T : Transport H.Net H.Script} {enter : Handlers H}

/-- Whether a call puts a loop to use: it issues an operation, or starts to listen. -/
def Call.uses : Call H → Bool
  | .issue _ | .listen .. => true
  | _ => false

namespace Loop

variable {l l' : Loop H}

/-- A loop that is not alive is empty of all that keeps it so. -/
theorem of_not_alive (dead : l.alive = false) :
    (∀ h z, l.handles.get? h = some z → z.refs = 0) ∧ (∀ req, l.requests.get? req = none) ∧
      l.deferred = [] ∧ l.closing = [] := by
  simp only [alive, Bool.or_eq_false_iff, Bool.not_eq_false', List.isEmpty_iff, List.any_eq_false,
    decide_eq_true_eq] at dead
  obtain ⟨⟨⟨free, none⟩, deferred⟩, closing⟩ := dead
  refine ⟨fun h z found => ?_, fun req => ?_, deferred, closing⟩
  · exact Nat.eq_zero_of_not_pos (free z ((Registry.mem_values_iff _ _).2 ⟨h, found⟩))
  · exact Std.TreeMap.getElem?_of_isEmpty none

/-- A loop in which no handle reads or listens, no request waits and nothing is due. -/
structure Settled (l : Loop H) : Prop where
  reading : ∀ h z, l.handles.get? h = some z → z.isReading = false
  listening : ∀ h, Machine.hasState l h .listening = false
  requests : ∀ req, l.requests.get? req = none
  deferred : l.deferred = []
  closing : l.closing = []

/-- A loop in which nothing has happened to the handles, the requests with their futures, the
listeners, and what is due. -/
structure Unmoved (l l' : Loop H) : Prop where
  handles : l'.handles = l.handles
  requests : l'.requests = l.requests
  futures : l'.settled = l.settled
  listeners : l'.listeners = l.listeners
  deferred : l'.deferred = l.deferred
  closing : l'.closing = l.closing

/-- A loop is unmoved from itself. -/
theorem Unmoved.refl (l : Loop H) : l.Unmoved l := ⟨rfl, rfl, rfl, rfl, rfl, rfl⟩

/-- Staying unmoved composes. -/
theorem Unmoved.trans {l'' : Loop H} (first : l.Unmoved l') (second : l'.Unmoved l'') :
    l.Unmoved l'' where
  handles := second.handles.trans first.handles
  requests := second.requests.trans first.requests
  futures := second.futures.trans first.futures
  listeners := second.listeners.trans first.listeners
  deferred := second.deferred.trans first.deferred
  closing := second.closing.trans first.closing

/-- An unmoved loop is alive if it was. -/
theorem Unmoved.alive (same : l.Unmoved l') : l'.alive = l.alive := by
  simp only [Loop.alive, same.handles, same.requests, same.deferred, same.closing]

/-- An unmoved loop has nothing left to do if it had not. -/
theorem Unmoved.settled (same : l.Unmoved l') (settled : l.Settled) : l'.Settled where
  reading h z found := settled.reading h z (by rwa [← same.handles])
  listening h := by
    have none := settled.listening h
    simp only [Machine.hasState] at none ⊢
    rwa [same.handles]
  requests req := by rw [same.requests]; exact settled.requests req
  deferred := same.deferred.trans settled.deferred
  closing := same.closing.trans settled.closing

end Loop

/-- Whether no result and no reclaim is due in a stage of a tick; reports and reads may be left. -/
def Stage.idle : Stage → Bool
  | .deferred batch => batch.isEmpty
  | .reclaims batch => batch.isEmpty
  | .completions _ | .reads .. => true

/-- A stage in which nothing is due has only reports to take, and nothing is due after it. -/
theorem Stage.idle_of_pop? {s s' : Stage} {c : Completion} (idle : s.idle = true)
    (here : s.pop? = some (c, s')) :
    s'.idle = true := by
  obtain ⟨batch, ⟨rfl, rfl⟩ | ⟨rfl, rfl⟩⟩ := eq_of_pop? here
  · cases idle
  · rfl

namespace Machine

variable {x y m : Machine H} {past : List (Machine H)}

/-- Whether the next step is a call that puts the loop to use. -/
def uses (m : Machine H) : Bool :=
  match m.control with
  | .run (.call c _) => c.uses
  | _ => false

/-- Whether the machine enters a handler, or tells an event. -/
def calls (m : Machine H) : Bool :=
  match m.control with
  | .enter .. | .emit .. => true
  | _ => false

/-- Whether the suspended work is none, or one tick in which nothing is due and the
work that waits for it. -/
def ticksIdly (m : Machine H) : Bool :=
  match m.control, m.stack with
  | .run _, [] | .returned _, [] => true
  | .advance, [.tick t, f] => t.stage.idle && f.awaits
  | .ticked _, [f] => f.awaits
  | _, _ => false

/-- A machine that ticks idly is about to call nothing. -/
theorem calls_of_ticksIdly (idle : m.ticksIdly = true) : m.calls = false := by
  obtain ⟨l, stack, control⟩ := m
  cases control with
  | enter | emit => cases idle
  | _ => rfl

section Shape

variable {l l' : Loop H} {rest : List (Frame H)} {f : Frame H} {t t' : Tick}

/-- A machine that ticks idly runs a program only at the bottom of its stack. -/
theorem ticksIdly_run {p : Program H} (idle : ticksIdly ⟨l, rest, .run p⟩ = true) : rest = [] := by
  cases rest with
  | nil => rfl
  | cons => cases idle

/-- A machine that ticks idly has, at the end of a tick, only the frame that awaits the result. -/
theorem ticksIdly_ticked {result : Except LoopError Bool}
    (idle : ticksIdly ⟨l, f :: rest, .ticked result⟩ = true) :
    rest = [] ∧ f.awaits = true := by
  cases rest with
  | nil => exact ⟨rfl, idle⟩
  | cons => cases idle

/-- A machine that ticks idly has one tick, at an idle stage, and below it the frame
that awaits the result. -/
theorem ticksIdly_advance (idle : ticksIdly ⟨l, .tick t :: rest, .advance⟩ = true) :
    t.stage.idle = true ∧ ∃ f, rest = [f] ∧ f.awaits = true := by
  cases rest with
  | nil => cases idle
  | cons f rest =>
    cases rest with
    | nil => exact ⟨(Bool.and_eq_true_iff.1 idle).1, f, rfl, (Bool.and_eq_true_iff.1 idle).2⟩
    | cons => cases idle

/-- A tick in which nothing is due goes on to the next stage, or the next part of it, in which
nothing is due. -/
theorem ticksIdly_ofTick (idle : ticksIdly ⟨l, .tick t :: rest, .advance⟩ = true)
    (due : t'.stage.idle = true) :
    (ofTick rest t' l').ticksIdly = true := by
  obtain ⟨-, f, rfl, waits⟩ := ticksIdly_advance idle
  exact Bool.and_eq_true_iff.2 ⟨due, waits⟩

/-- A tick starts with nothing due when the loop owes nothing. -/
theorem ticksIdly_beginTick (none : l.deferred = []) (waits : f.awaits = true) (w : Waker) :
    (beginTick [f] l w).ticksIdly = true :=
  Bool.and_eq_true_iff.2 ⟨List.isEmpty_iff.2 none, waits⟩

end Shape

/-- What a step of a settled loop leaves, when nothing is due in its tick and the loop is not put to
use: the same loop, as far as it owes anything, and no more is due. -/
theorem Rule.inert (rule : Rule T enter x y) (settled : x.loop.Settled) (idle : x.ticksIdly = true)
    (unused : x.uses = false) : x.loop.Unmoved y.loop ∧ y.ticksIdly = true := by
  cases rule with
  | finish | ask | script | survey | note | recallShared | update =>
    obtain rfl := ticksIdly_run idle
    exact ⟨⟨rfl, rfl, rfl, rfl, rfl, rfl⟩, rfl⟩
  | issue | refuseListen | beginListen => cases unused
  | tick | runLoop | poll =>
    obtain rfl := ticksIdly_run idle
    exact ⟨⟨rfl, rfl, rfl, rfl, settled.deferred.symm, rfl⟩,
      ticksIdly_beginTick settled.deferred rfl _⟩
  | enter | emit | nextListener | endEmission | endDelivery | endConnect | endLoan | beginParting
    | skipParting | endParting | noteResult | endListen | failListen => cases idle
  | collect | firstPass | nextPass =>
    exact ⟨⟨rfl, rfl, rfl, rfl, rfl, rfl⟩, ticksIdly_ofTick idle rfl⟩
  | beginReclaims =>
    refine ⟨⟨rfl, rfl, rfl, rfl, rfl, settled.closing.symm⟩, ticksIdly_ofTick idle ?_⟩
    exact List.isEmpty_iff.2 settled.closing
  | endTick here =>
    obtain ⟨-, f, rfl, waits⟩ := ticksIdly_advance idle
    exact ⟨⟨rfl, rfl, rfl, rfl, rfl, rfl⟩, waits⟩
  | skipReport here | dropConnection here =>
    have due := (ticksIdly_advance idle).1
    exact ⟨⟨rfl, rfl, rfl, rfl, rfl, rfl⟩, ticksIdly_ofTick idle (Stage.idle_of_pop? due here)⟩
  | completeWrite _ _ pending | completeShutdown _ _ pending | completeConnect _ _ pending
    | failConnect _ _ pending | dropConnect _ _ pending =>
    rw [settled.requests] at pending
    cases pending
  | connection _ state =>
    rw [settled.listening] at state
    cases state
  | skipRead => exact ⟨⟨rfl, rfl, rfl, rfl, rfl, rfl⟩, ticksIdly_ofTick idle rfl⟩
  | refuseRead _ found reading | readNothing _ found reading | readData _ found reading
    | readEof _ found reading | readFailed _ found reading =>
    rw [settled.reading _ _ found] at reading
    cases reading
  | skipReclaim here | breach here | reclaim here =>
    have due := (ticksIdly_advance idle).1
    rw [here] at due
    cases due
  | ticked | runFailed | pollFailed | endRun | endPoll =>
    obtain ⟨rfl, -⟩ := ticksIdly_ticked idle
    exact ⟨⟨rfl, rfl, rfl, rfl, rfl, rfl⟩, rfl⟩
  | runAgain =>
    obtain ⟨rfl, waits⟩ := ticksIdly_ticked idle
    exact ⟨⟨rfl, rfl, rfl, rfl, settled.deferred.symm, rfl⟩,
      ticksIdly_beginTick settled.deferred waits _⟩
  | pausePoll =>
    obtain ⟨rfl, -⟩ := ticksIdly_ticked idle
    refine ⟨?_, rfl⟩
    split <;> exact ⟨rfl, rfl, rfl, rfl, rfl, rfl⟩

/-- A settled loop that is not put to use stays as it is over a whole run, and
no handler is entered. -/
theorem Run.inert {later : List (Machine H)} (run : Run T enter m later y)
    (settled : m.loop.Settled) (idle : m.ticksIdly = true)
    (unused : ∀ x ∈ later, x.stack = [] → x.uses = false) :
    ∀ x ∈ later ++ [y], m.loop.Unmoved x.loop ∧ x.ticksIdly = true := by
  induction run with
  | refl =>
    intro x hx
    rw [List.mem_singleton.1 hx]
    exact ⟨.refl _, idle⟩
  | @snoc later x₁ x₂ _ next ih =>
    have before := ih fun x hx => unused x (List.mem_append_left _ hx)
    obtain ⟨same, idle⟩ := before x₁ (by simp)
    intro x hx
    rcases List.mem_append.1 hx with hx | hx
    · exact before x hx
    · rw [List.mem_singleton.1 hx]
      cases next with
      | step taken =>
        -- Only programs outside of handlers call anything here.
        have unused : x₁.uses = false := by
          cases outside : x₁.uses with
          | false => rfl
          | true =>
            rw [← outside]
            refine unused x₁ (by simp) ?_
            obtain ⟨l, stack, control⟩ := x₁
            cases control with
            | run p => exact ticksIdly_run idle
            | _ => cases outside
        obtain ⟨step, idle⟩ := (rule_of_step? taken).2.inert (same.settled settled) idle unused
        exact ⟨same.trans step, idle⟩
      | resume p rest => exact ⟨same, rfl⟩

/-- A handler is entered, and an event told, above work that waits for it. -/
theorem Rule.calls (rule : Rule T enter x y) (calls : y.calls = true) : y.stack ≠ [] := by
  cases rule with
  | @completeWrite _ _ _ _ _ _ _ _ _ callback => cases callback <;> simp [deliver]
  | @completeShutdown _ _ _ _ _ _ _ _ callback => cases callback <;> simp [deliver]
  | beginListen | nextListener | beginParting | completeConnect | failConnect | connection
    | readData | readEof | readFailed | reclaim => simp
  | _ => cases calls

/-- Outside of handlers a program goes on or has ended. -/
theorem Reached.ticksIdly (reached : Reached T enter past m) (outside : m.stack = []) :
    m.ticksIdly = true := by
  have fits := reached.fitted
  have calls : m.calls = true → m.stack ≠ [] :=
    reached.invariant (P := fun m => m.calls = true → m.stack ≠ [])
      (fun _ _ _ _ calls => by cases calls) (fun _ _ _ rule => rule.calls)
      (fun _ _ _ _ calls => by cases calls)
  obtain ⟨l, stack, control⟩ := m
  obtain rfl : stack = [] := outside
  cases control with
  | run | returned => rfl
  | enter | emit => exact absurd rfl (calls rfl)
  | advance | ticked => cases fits

/-! ## The whole run -/

/-- What holds at a machine outside of handlers whose loop is not alive. -/
structure Inert (T : Transport H.Net H.Script) (enter : Handlers H) (past : List (Machine H))
    (m : Machine H) :
    Prop where
  /-- No handle reads, listens, connects, shuts down or closes, and none has a pending request. -/
  handles : ∀ h z, m.loop.handles.get? h = some z → z.isReading = false ∧ z.state ≠ .listening ∧
    z.state ≠ .connecting ∧ z.state ≠ .shuttingDown ∧ z.state ≠ .closing ∧ z.closing = false ∧
    m.loop.pendingRequests h = 0
  /-- Of every handle that was closed the last callback has been entered. -/
  parted : ∀ i ∈ past,
    ∀ h c, i.closed? T = some (h, c) → ∃ w ∈ past, w.control = .enter c (.closed h)
  /-- Every request that was issued has been answered. -/
  answered : ∀ before i after req r, past = before ++ i :: after → i.issued? T = some (req, r) →
    ∃ waiting d y later status,
      after ++ [m] = waiting ++ d :: y :: later ∧ Answered T req r status waiting d y later
  /-- Whatever the transport reports from here on, as long as no operation is called from outside,
  no listener and no callback runs, the handles, the requests, the listeners and what is due stay as
  they are, and the loop is not alive. -/
  rests : ∀ later m', Run T enter m later m' → (∀ x ∈ later, x.stack = [] → x.uses = false) →
    ∀ x ∈ later ++ [m'], x.calls = false ∧ m.loop.Unmoved x.loop ∧ x.loop.alive = false

/-- A loop that is not alive owes nothing, outside of handlers. -/
theorem Reached.settled (reached : Reached T enter past m) (dead : m.loop.alive = false) :
    m.loop.Settled := by
  obtain ⟨free, none, deferred, closing⟩ := Loop.of_not_alive dead
  have counted {h z} (found : m.loop.handles.get? h = some z) : z.refs = 0 := free h z found
  have b := Balanced.of_reached reached
  have unused {h z} (found : m.loop.handles.get? h = some z) :
      z.isReading = false ∧ z.listenRef = false := by
    have counts := b.refs found
    rw [counted found, Handle.ownRefs] at counts
    cases hr : z.isReading <;> cases hl : z.listenRef <;> simp [hr, hl] at counts ⊢ <;> omega
  refine ⟨fun h z found => (unused found).1, fun h => ?_, none, deferred, closing⟩
  cases listens : hasState m.loop h .listening with
  | false => rfl
  | true =>
    obtain ⟨z, found, state⟩ := (Option.any_eq_true _ _).1 listens
    have state : z.state = .listening := by simpa using state
    have held :=
      ((states_agree_with_resources reached).listening h z found (by simp [state])).1 state
    rw [(unused found).2] at held
    cases held

/-- A handle that was closed is gone from a loop that is not alive, and its last
callback has been entered. -/
theorem Reached.partedOf (reached : Reached T enter past m) (outside : m.stack = [])
    (gone : ∀ h z, m.loop.handles.get? h = some z → z.closing = false) {i : Machine H}
    (hi : i ∈ past) {h : HandleId} {c : H.Closure} (closed : i.closed? T = some (h, c)) :
    ∃ w ∈ past, w.control = .enter c (.closed h) := by
  have absent : ¬m.Outstanding h := by
    rintro (there | entering)
    · obtain ⟨z, found⟩ := Option.isSome_iff_exists.1 there
      have marked := (reached.retired hi closed).2 z found
      rw [gone h z found] at marked
      cases marked
    · simp [partings, outside] at entering
  obtain ⟨before, after, split⟩ := List.append_of_mem hi
  have there : (i.loop.handles.get? h).isSome := by
    rw [split] at reached
    obtain ⟨-, y, next, -⟩ := reached.cut.2.uncons
    exact (reached.cut.1.turn next).there closed
  obtain ⟨w, hw, parts⟩ :=
    (reached.outstanding (List.mem_append_left _ hi) there).resolve_left absent
  obtain ⟨c', control⟩ := exists_of_parts parts
  have hw : w ∈ past := by
    rcases List.mem_append.1 hw with hw | hw
    · exact hw
    · have quiet := calls_of_ticksIdly (reached.ticksIdly outside)
      rw [← List.mem_singleton.1 hw, calls, control] at quiet
      cases quiet
  obtain ⟨before, after, split⟩ := List.append_of_mem hw
  have entering : Reached T enter before w := by
    rw [split] at reached
    exact reached.cut.1
  obtain ⟨j, hj, closed'⟩ := (entering.parts control).closed
  obtain rfl :=
    reached.closed_unique hi (by rw [split]; exact List.mem_append_left _ hj) closed closed'
  exact ⟨w, hw, control⟩

end Machine

open Machine

/-- A loop that is not alive is inert outside of handlers, on every transport and with every
handlers: it owes no callback, and ticks alone change nothing of it that matters. -/
theorem dead_loop_is_inert {past : List (Machine H)} {m : Machine H}
    (reached : Reached T enter past m) (outside : m.stack = []) (dead : m.loop.alive = false) :
    Inert T enter past m := by
  have settled := reached.settled dead
  have b := Balanced.of_reached reached
  have agree := states_agree_with_resources reached
  have pending (kind : RequestKind) (h : HandleId) : m.loop.pendingOf kind h = 0 := by
    refine Nat.eq_zero_of_not_pos fun pos => ?_
    obtain ⟨req, r, there, -⟩ := (m.loop.pendingOf_pos_iff kind h).1 pos
    rw [settled.requests] at there
    cases there
  have unmarked (h) (z) (found : m.loop.handles.get? h = some z) : z.closing = false := by
    have due := (close_is_final reached).due h
    have free := (Loop.of_not_alive dead).1 h z found
    rw [settled.closing, outside, found] at due
    simpa [Handle.reclaimable, free] using due
  constructor
  case handles =>
    intro h z found
    have open_ : z.state ≠ .closing := fun state => by
      have marked := (agree.closing h z found).1.1 state
      rw [unmarked h z found] at marked
      cases marked
    have connecting := agree.connecting h z found open_
    have shutting := agree.shuttingDown h z found open_
    rw [pending] at connecting shutting
    refine ⟨settled.reading h z found, fun state => ?_, fun state => ?_, fun state => ?_, open_,
      unmarked h z found, ?_⟩
    · have none := settled.listening h
      simp [hasState, found, state] at none
    · simp [state] at connecting
    · simp [state] at shutting
    · refine Nat.eq_zero_of_not_pos fun pos => ?_
      obtain ⟨req, r, there, -⟩ := (m.loop.pendingRequests_pos_iff h).1 pos
      rw [settled.requests] at there
      cases there
  case parted => intro i hi h c closed; exact reached.partedOf outside unmarked hi closed
  case answered =>
    intro before i after req r split issued
    rw [split] at reached
    obtain ⟨-, waits⟩ | answered := reached.answered issued
    · have waiting := (waits m (by simp)).waiting
      rw [settled.requests] at waiting
      cases waiting
    · exact answered
  case rests =>
    intro later m' run unused x hx
    obtain ⟨same, idle⟩ := run.inert settled (reached.ticksIdly outside) unused x hx
    exact ⟨calls_of_ticksIdly idle, same, same.alive.trans dead⟩

namespace Client

open Memory (Script)

/-- A client that connects and then lets the loop run, while bytes arrive and the transport reports
a connection to a handle that does not listen, and a write that nobody issued. -/
def idling : Program (Echo.host (Injected Memory) (InjectedScript Script)) :=
  .call (.issue (.newHandle .tcp)) fun (h : HandleId) =>
  .call (.issue (.connect h (.v4 ⟨127, 0, 0, 1⟩ 80))) fun _ =>
  .call (.tick .idle) fun _ =>
  .call (.script (.below (.pushData h [1]))) fun _ =>
  .call (.script (.inject (.completion (.connection h (.ok ()))))) fun _ =>
  .call (.script (.inject (.completion (.write 7 (.ok ()))))) fun _ =>
  .call (.run .default) fun _ => .skip

/-- The client after so many steps; after 14 of them its first tick has returned, and
after 27 it has ended. -/
def idled (steps : Nat) : Machine (Echo.host (Injected Memory) (InjectedScript Script)) :=
  (Machine.start idling (.fresh .standard { below := Memory.initial } ())).run
    (Injected.transport Memory.transport)
    (Echo.handlers _ _) steps

end Client

/-- Once a client is connected and does not read, its loop is not alive, and no report of the
transport does anything to it until the client has ended. -/
theorem dead_loop_is_inert_for_client :
    ∃ past, Reached (Injected.transport Memory.transport)
      (Echo.handlers _ _) past (Client.idled 14) ∧
      (Client.idled 14).loop.handles.size = 1 ∧ (Client.idled 27).atRest = true ∧
      (Client.idled 14).loop.Unmoved (Client.idled 27).loop ∧
      (Client.idled 27).loop.alive = false := by
  obtain ⟨past, run, -⟩ :=
    Run.exists_of_run (Injected.transport Memory.transport) (Echo.handlers _ _)
      (Machine.start Client.idling (.fresh .standard { below := Memory.initial } ())) 14
  have reached : Reached (Injected.transport Memory.transport)
      (Echo.handlers _ _) past (Client.idled 14) :=
    ⟨.standard, { below := Memory.initial }, (), Client.idling, run⟩
  obtain ⟨later, rest, behind⟩ :=
    Run.exists_of_run (Injected.transport Memory.transport) (Echo.handlers _ _)
      (Client.idled 14) 13
  have unused : ∀ k < 13,
      ((Client.idled 14).run (Injected.transport Memory.transport) (Echo.handlers _ _) k).uses =
        false := by
    decide
  have inert := dead_loop_is_inert reached rfl (by rfl)
  have ended := inert.rests later (Client.idled 27) rest
    (fun x hx _ => by
      obtain ⟨k, less, rfl⟩ := behind x hx
      exact unused k less)
    (Client.idled 27) (by simp)
  exact ⟨past, reached, by rfl, by rfl, ended.2.1, ended.2.2⟩

end Reactor
