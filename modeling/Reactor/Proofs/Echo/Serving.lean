import Reactor.Proofs.Buffers.Lending
import Reactor.Proofs.Echo.Turns
import Reactor.Proofs.Memory.Drained
import Reactor.Proofs.Memory.Reading

/-!
# An echo server at work

Whatever comes after a machine at which no handler of an echo server is at work, its handlers come
to an end without an error, and together with them it is a turn of the server. So what every turn
keeps holds all along a run.
-/

namespace Reactor.Echo.Server

open Machine

/-- A machine at which no handler is at work, and with no tick that has failed. -/
inductive Driven : Machine Hosted → Prop where
  | program {l p} : Driven ⟨l, [], .run p⟩
  | rest {l failure} : Driven ⟨l, [], .returned failure⟩
  | ticking {l t f} (unfailed : t.error = none) (waits : f.awaits = true) :
      Driven ⟨l, [.tick t, f], .advance⟩
  | ticked {l f worked} (waits : f.awaits = true) : Driven ⟨l, [f], .ticked (.ok worked)⟩

/-- What is said of outlines holds at a machine at which no handler is at work. -/
def Good (I : List News → Outline Hosted → List Completion → Prop) (news : List News)
    (m : Machine Hosted) : Prop :=
  Driven m ∧ I news m.loop.outline m.batches

/-- From a machine every way leads to one at which no handler is at work and where this is kept. -/
abbrev Leading (I : List News → Outline Hosted → List Completion → Prop) :
    List News → Machine Hosted → Prop :=
  Leads Memory.transport (handlers Memory Memory.Script) Machine.Balanced (Good I)

variable {I : List News → Outline Hosted → List Completion → Prop} {allowed : Memory.Script → Prop}
  {news : List News} {l l' : Loop Hosted} {t t' : Tick} {f : Frame Hosted} {c : HandleId}
  {s : Stance}

/-! ## Machines outside of handlers -/

/-- Above a program that waits for it a tick has its own batch ahead. -/
theorem batches_ticking {H : Host} {l : Loop H} {t : Tick} {f : Frame H} (waits : f.awaits = true)
    (control : Control H) :
    batches ⟨l, [.tick t, f], control⟩ = t.stage.batch := by
  cases f with
  | ticking | running | polling => exact List.append_nil _
  | _ => cases waits

/-- A program that waits has no batch ahead. -/
theorem batches_waiting {H : Host} {l : Loop H} {f : Frame H} (waits : f.awaits = true)
    (control : Control H) :
    batches ⟨l, [f], control⟩ = [] := by
  cases f with
  | ticking | running | polling => rfl
  | _ => cases waits

/-- A program on an empty stack leads to what holds of the loop now. -/
theorem leading_program {p : Program Hosted} (kept : I news l.outline []) :
    Leading I news ⟨l, [], .run p⟩ :=
  .here ⟨.program, kept⟩

/-- A tick that has not failed leads to what holds of the loop and of its batch. -/
theorem leading_ticking (unfailed : t.error = none) (waits : f.awaits = true)
    (kept : I news l.outline t.stage.batch) :
    Leading I news ⟨l, [.tick t, f], .advance⟩ := by
  refine .here ⟨.ticking unfailed waits, ?_⟩
  rw [batches_ticking waits]
  exact kept

/-- A tick at its start takes what was due as its batch. -/
theorem leading_beginTick (waits : f.awaits = true) (w : Waker)
    (kept : I news { l.outline with deferred := [] } l.deferred) :
    Leading I news (Machine.beginTick [f] l w) :=
  leading_ticking rfl waits kept

/-- What a tick goes on with, once the handlers that it has entered have come to an end. -/
theorem leading_returned (unfailed : t.error = none) (waits : f.awaits = true)
    (kept : I news l.outline t.stage.batch) :
    Leading I news ⟨l, [.tick t, f], .returned none⟩ :=
  .resume (leading_ticking unfailed waits kept)

/-! ## Handlers -/

/-- A client is taken over in six steps. -/
theorem outline_greet (o : Outline Hosted) (c : HandleId) :
    ((((((((o.turn c (.alive {})).ask (Memory.transport.init c .tcp)).ask
      (Memory.accept listener)).turn c (.alive { state := .connected })).listen
      c .data Closure.onData).listen c .endOfStream Closure.onEnd).listen
      c .error Closure.onError).ask (Memory.setReading true c)).turn
      c (.alive { state := .connected, reading := true }) =
        greet o c := by
  have life := Outline.life_turn (o := o) (h := c) (p := .alive { state := .connected })
    (Outline.life_turn (o := o) (h := c) (p := .alive {}) rfl _)
    (.alive { state := .connected, reading := true })
  have listeners (ls : List (Listener Hosted.Closure)) (a b c : Listener Hosted.Closure) :
      ls ++ [a] ++ [b] ++ [c] = ls ++ [a, b, c] := by
    simp
  exact Outline.ext life (listeners _ _ _ _) rfl rfl rfl

section

variable (unfailed : t.error = none) (waits : f.awaits = true)

include unfailed waits

/-- A callback that closes its handle. -/
theorem leading_closeQuietly {req : RequestId} {closure : Closure} {outcome : RequestOutcome}
    (alive : l.life c = .alive s)
    (closes : Echo.enter (H := Hosted) id closure (.completed c outcome) = closeQuietly id c)
    (kept : I (news ++ [.answered c outcome]) (l.outline.close Memory.transport c s)
      t.stage.batch) :
    Leading I news (deliver l [.tick t, f] req c (.closure closure) outcome) := by
  refine .begin ?_
  rw [handlers, closes]
  refine .issue fun balanced => ?_
  obtain ⟨a, l', issued, outline⟩ := Loop.issue_closeAnyway balanced alive Closure.afterClose
  refine ⟨a, l', issued, .finish (.endDelivery (leading_returned unfailed waits ?_))⟩
  rw [Loop.outline_release, outline]
  exact kept

/-- The outcome of a write. -/
theorem leading_wrote {req : RequestId} {view : List UInt8} {ok : Bool} (status : Outcome)
    (pending : l.requests.get? req = some (echo c view)) (alive : l.life c = .alive s)
    (sent : status = .ok () →
    I (news ++ [.answered c (.ok ())]) (l.outline.settle s req (echo c view)) t.stage.batch)
    (unsent : ∀ e, status = .error e → I (news ++ [.answered c (.error ⟨e, "after_write"⟩)])
      ((l.outline.settle s req (echo c view)).close Memory.transport c (s.settle .write))
        t.stage.batch) :
    Leading I news
      (deliver (({ l with requests := l.requests.remove req } : Loop Hosted).meterAsync c .write ok)
      [.tick t, f] req c (.closure Closure.afterWrite) (outcomeAt "after_write" status)) := by
  generalize settles :
    ({ l with requests := l.requests.remove req } : Loop Hosted).meterAsync c .write ok = l₁
  have settled : l₁.outline = l.outline.settle s req (echo c view) := by
    rw [← settles]
    exact Loop.outline_remove pending alive
  rw [← settled] at sent unsent
  cases status with
  | ok =>
    refine .begin (.finish (.endDelivery (leading_returned unfailed waits ?_)))
    rw [Loop.outline_release]
    exact sent rfl
  | error status =>
    have alive₁ : l₁.life c = .alive (s.settle .write) :=
      (congrFun (congrArg Outline.life settled) c).trans (if_pos rfl)
    exact leading_closeQuietly unfailed waits alive₁ rfl (unsent status rfl)

/-- The outcome of a shutdown. -/
theorem leading_done {req : RequestId} {ok : Bool} {outcome : RequestOutcome}
    (pending : l.requests.get? req = some (finale c)) (alive : l.life c = .alive s)
    (kept : ∀ state, (s.state ≠ .shuttingDown → state = s.state) → I (news ++ [.answered c outcome])
      (((l.outline.settle s req (finale c)).turn c (.alive { s.settle .shutdown with state })).close
        Memory.transport c { s.settle .shutdown with state }) t.stage.batch) :
    Leading I news
      (deliver
        (settleShutdown
          (({ l with requests := l.requests.remove req } : Loop Hosted).meterAsync c .shutdown ok)
          c ok)
        [.tick t, f] req c (.closure Closure.afterShutdown) outcome) := by
  generalize settles :
    ({ l with requests := l.requests.remove req } : Loop Hosted).meterAsync c .shutdown ok = l₁
  have settled : l₁.outline = l.outline.settle s req (finale c) := by
    rw [← settles]
    exact Loop.outline_remove pending alive
  have alive₁ : l₁.life c = .alive (s.settle .shutdown) :=
    (congrFun (congrArg Outline.life settled) c).trans (if_pos rfl)
  obtain ⟨state, outline, past⟩ := Loop.outline_settleShutdown alive₁ ok
  have alive₂ : (settleShutdown l₁ c ok).life c = .alive { s.settle .shutdown with state } :=
    (congrFun (congrArg Outline.life outline) c).trans (if_pos rfl)
  have kept := kept state past
  rw [← settled, ← outline] at kept
  exact leading_closeQuietly unfailed waits alive₂ rfl kept

/-- A connection that is not taken over. -/
theorem leading_fail {status : Status} (none : l.outline.listenersOf listener .error = [])
    (kept : I (news ++ [.told listener (.error ⟨status, "on_connection"⟩)]) l.outline
      t.stage.batch) :
    Leading I news ⟨l, [.tick t, f], .emit listener (.error ⟨status, "on_connection"⟩)⟩ :=
  .tellNobody none (leading_returned unfailed waits kept)

/-- A connection that is taken over. -/
theorem leading_greet (one : l.outline.listenersOf listener .connection = [Closure.onConnection])
    (listens : l.life listener = .alive s) (listening : s.state = .listening)
    (waiting : (l.net.endpoint listener).waiting ≠ 0)
    (kept : ∀ c, l.outline.life c = .unborn →
    I (news ++ [.told listener .connection]) (greet l.outline c) t.stage.batch) :
    Leading I news ⟨l, [.tick t, f], .emit listener .connection⟩ := by
  refine .tellOne one (.issue fun balanced => ?_)
  obtain ⟨l₁, created, unborn, outline₁⟩ := Loop.issue_newHandle Memory.transport balanced .tcp
  generalize (Loop.handles l).next = c at created unborn outline₁
  have client : c ≠ listener := fun same => by
    rw [same] at unborn
    cases unborn.symm.trans listens
  have server₁ : l₁.life listener = .alive s :=
    (congrFun (congrArg Outline.life outline₁) _).trans ((if_neg client).trans listens)
  have client₁ : l₁.life c = .alive {} :=
    (congrFun (congrArg Outline.life outline₁) _).trans (if_pos rfl)
  have accepts : (Memory.accept listener l₁.net).answer = .ok () := by
    refine Memory.accept_answer fun none => waiting ?_
    rwa [show l₁.net = l.net from congrArg Outline.net outline₁] at none
  refine ⟨_, _, created, .issue fun _ => ?_⟩
  obtain ⟨l₂, accepted, outline₂⟩ :=
    Loop.issue_accept (T := Memory.transport) server₁ listening client₁ rfl accepts
  have client₂ : l₂.life c = .alive { state := .connected } :=
    (congrFun (congrArg Outline.life outline₂) c).trans (if_pos rfl)
  refine ⟨_, _, accepted, .issue fun _ => ?_⟩
  obtain ⟨l₃, registered₃, outline₃⟩ :=
    Loop.issue_on (T := Memory.transport) client₂ .data Closure.onData
  have client₃ : l₃.life c = .alive { state := .connected } :=
    (congrFun (congrArg Outline.life outline₃) c).trans client₂
  refine ⟨_, _, registered₃, .issue fun _ => ?_⟩
  obtain ⟨l₄, registered₄, outline₄⟩ :=
    Loop.issue_on (T := Memory.transport) client₃ .endOfStream Closure.onEnd
  have client₄ : l₄.life c = .alive { state := .connected } :=
    (congrFun (congrArg Outline.life outline₄) c).trans client₃
  refine ⟨_, _, registered₄, .issue fun _ => ?_⟩
  obtain ⟨l₅, registered₅, outline₅⟩ :=
    Loop.issue_on (T := Memory.transport) client₄ .error Closure.onError
  have client₅ : l₅.life c = .alive { state := .connected } :=
    (congrFun (congrArg Outline.life outline₅) c).trans client₄
  refine ⟨_, _, registered₅, .issue fun _ => ?_⟩
  obtain ⟨l₆, reads, outline₆⟩ :=
    Loop.issue_readStart (T := Memory.transport) client₅ rfl rfl rfl rfl
  refine ⟨_, _, reads, .finish (.endEmission (leading_returned unfailed waits ?_))⟩
  have outline : l₆.outline = greet l.outline c := by
    rw [outline₆, outline₅, outline₄, outline₃, outline₂, outline₁]
    exact outline_greet _ _
  rw [outline]
  exact kept c unborn

/-- Bytes that are written back. -/
theorem leading_echo {view : List UInt8} (one : l.outline.listenersOf c .data = [Closure.onData])
    (alive : l.life c = .alive s) (connected : s.state = .connected) (unmarked : s.marked = false)
    (kept : I (news ++ [.told c (.data view)])
    ((l.outline.ask (Memory.write l.outline.requests.next c view)).enlist s
      (echo c view) (Loop.refusalOf (.write l.outline.requests.next)
        (Memory.write l.outline.requests.next c view l.outline.net).answer)) t.stage.batch) :
    Leading I news ⟨l, [.lending c view, .tick t, f], .emit c (.data view)⟩ := by
  refine .tellOne one (.issue fun _ => ?_)
  obtain ⟨l', issued, outline⟩ :=
    Loop.issue_write (T := Memory.transport) alive connected unmarked view
      (.closure Closure.afterWrite)
  refine ⟨_, l', issued, .finish (.endEmission (.endLoan (leading_returned unfailed waits ?_)))⟩
  rw [Loop.outline_expose, outline]
  exact kept

/-- The end of a stream. -/
theorem leading_finish (one : l.outline.listenersOf c .endOfStream = [Closure.onEnd])
    (alive : l.life c = .alive s) (connected : s.state = .connected) (unmarked : s.marked = false)
    (kept : I (news ++ [.told c .endOfStream])
    ((l.outline.ask (Memory.shutdown l.outline.requests.next c)).enlist
      { s with state := .shuttingDown } (finale c)
      (Loop.refusalOf (.shutdown l.outline.requests.next)
        (Memory.shutdown l.outline.requests.next c l.outline.net).answer)) t.stage.batch) :
    Leading I news ⟨l, [.tick t, f], .emit c .endOfStream⟩ := by
  refine .tellOne one (.issue fun _ => ?_)
  obtain ⟨l', issued, outline⟩ :=
    Loop.issue_shutdown (T := Memory.transport) alive connected unmarked
      (.closure Closure.afterShutdown)
  refine ⟨_, l', issued, .finish (.endEmission (leading_returned unfailed waits ?_))⟩
  rw [outline]
  exact kept

/-- A read that has failed. -/
theorem leading_lose {status : Status} (one : l.outline.listenersOf c .error = [Closure.onError])
    (alive : l.life c = .alive s) (unmarked : s.marked = false)
    (kept : I (news ++ [.told c (.error ⟨status, "on_read"⟩)])
    (l.outline.close Memory.transport c s) t.stage.batch) :
    Leading I news ⟨l, [.tick t, f], .emit c (.error ⟨status, "on_read"⟩)⟩ := by
  refine .tellOne one (.issue fun balanced => ?_)
  obtain ⟨l', issued, outline⟩ :=
    Loop.issue_close (T := Memory.transport) balanced alive unmarked Closure.afterClose
  refine ⟨_, l', issued, .finish (.endEmission (leading_returned unfailed waits ?_))⟩
  rw [outline]
  exact kept

/-- A handle that leaves the table. -/
theorem leading_part {onClose : Option Closure} (none : l.outline.listenersOf c .close = [])
    (kept : I (news ++ [.told c .close])
    { l.outline with listeners := l.outline.listeners.filter (·.handle ≠ c) }
      t.stage.batch) :
    Leading I news ⟨l, [.reclaiming c onClose, .tick t, f], .emit c .close⟩ := by
  have left : Leading I (news ++ [.told c .close])
      ⟨l.removeListeners c, [.tick t, f], .returned Option.none⟩ :=
    leading_returned unfailed waits kept
  refine .tellNobody none ?_
  cases onClose with
  | none => exact .skipParting (.endParting left)
  | some closure =>
    have idle : Echo.enter (H := Hosted) id closure (.closed c) = .skip := by cases closure <;> rfl
    refine .beginParting ?_
    rw [handlers, idle]
    exact .finish (.endParting left)

end

/-! ## Steps -/

/-- No buffer is lent out, and so none is exposed, when no handler is at work. -/
theorem free_of_guarded {H : Host} {l : Loop H} {t : Tick} {f : Frame H} {control : Control H}
    {x : Handle H.Closure} {c : HandleId} (waits : f.awaits = true)
    (guarded : Guarded ⟨l, [.tick t, f], control⟩) (found : l.handles.get? c = some x) :
    (readBuffer l x).exposed = false := by
  have unlent : loans ⟨l, [.tick t, f], control⟩ = [] := by
    cases f with
    | ticking | running | polling => rfl
    | _ => cases waits
  exact guarded.free found (by rw [unlent]; exact List.not_mem_nil)

section

variable {l₁ : Loop Hosted} (w : Waker) (size : Nat) (unfailed : t.error = none)
  (waits : f.awaits = true) (idle : t.stage.batch = []) (attends : Attends l.outline [])
  (alive : l.life c = .alive s) (reading : s.reading = true)
  (turn : ∀ new o' batch', Turn allowed l.outline [] new o' batch' → I (news ++ new) o' batch')

include unfailed waits idle attends alive reading turn

/-- A client has read bytes. -/
theorem leading_data {n : Nat} {view : List UInt8}
    (outline : l₁.outline = l.outline.ask (Memory.read w c size))
    (answer : (Memory.read w c size l.net).answer = (.data n, view)) :
    Leading I news ⟨l₁, [.lending c view, .tick t, f], .emit c (.data view)⟩ := by
  obtain ⟨client, connected, unmarked⟩ := attends.reader alive reading
  have alive₁ : l₁.life c = .alive s := (congrFun (congrArg Outline.life outline) c).trans alive
  have one : l₁.outline.listenersOf c .data = [Closure.onData] := by
    rw [outline]
    exact (attends.listeners c s alive .data).trans (if_neg client)
  refine leading_echo unfailed waits one alive₁ connected unmarked ?_
  rw [outline, idle]
  exact turn _ _ _ (.echo client alive connected reading answer)

/-- A client has read to the end of its stream. -/
theorem leading_end (outline : l₁.outline = l.outline.ask (Memory.read w c size)) :
    Leading I news ⟨l₁.endReading Memory.transport c .ended, [.tick t, f],
      .emit c .endOfStream⟩ := by
  obtain ⟨client, connected, unmarked⟩ := attends.reader alive reading
  have outline := Loop.outline_endReading Memory.transport outline alive .ended (by simp)
  generalize Loop.endReading (H := Hosted) Memory.transport l₁ c .ended = l₁ at outline ⊢
  have alive₁ : l₁.life c = .alive { s with reading := false } :=
    (congrFun (congrArg Outline.life outline) c).trans (if_pos rfl)
  have one : l₁.outline.listenersOf c .endOfStream = [Closure.onEnd] := by
    rw [outline]
    exact (attends.listeners c s alive .endOfStream).trans (if_neg client)
  refine leading_finish unfailed waits one alive₁ connected unmarked ?_
  rw [outline, idle]
  exact turn _ _ _ (.finish client alive connected reading)

/-- A client has met a failure as it read. -/
theorem leading_failure {status : Status}
    (outline : l₁.outline = l.outline.ask (Memory.read w c size)) :
    Leading I news ⟨l₁.endReading Memory.transport c .ended, [.tick t, f],
      .emit c (.error ⟨status, "on_read"⟩)⟩ := by
  obtain ⟨client, connected, unmarked⟩ := attends.reader alive reading
  have outline := Loop.outline_endReading Memory.transport outline alive .ended (by simp)
  generalize Loop.endReading (H := Hosted) Memory.transport l₁ c .ended = l₁ at outline ⊢
  have alive₁ : l₁.life c = .alive { s with reading := false } :=
    (congrFun (congrArg Outline.life outline) c).trans (if_pos rfl)
  have one : l₁.outline.listenersOf c .error = [Closure.onError] := by
    rw [outline]
    exact (attends.listeners c s alive .error).trans (if_neg client)
  refine leading_lose unfailed waits one alive₁ unmarked ?_
  rw [outline, idle]
  exact turn _ _ _ (.lose client alive connected reading)

end

/-- What a tick does next, with all that handlers do then, is a turn. -/
theorem leading_tick {y : Machine Hosted}
    (rule : Rule Memory.transport (handlers Memory Memory.Script) ⟨l, [.tick t, f], .advance⟩ y)
    (unfailed : t.error = none) (waits : f.awaits = true)
    (attends : Attends l.outline t.stage.batch) (balanced : Balanced ⟨l, [.tick t, f], .advance⟩)
    (guarded : Guarded ⟨l, [.tick t, f], .advance⟩)
    (turn : ∀ new o' batch', Turn allowed l.outline t.stage.batch new o' batch' →
      I (news ++ new) o' batch') :
    Leading I news y := by
  have silent {o' : Outline Hosted} {batch' : List Completion}
      (same : Turn allowed l.outline t.stage.batch [] o' batch') :
      I news o' batch' := by
    simpa using turn [] o' batch' same
  cases rule with
  | collect here =>
    rw [here] at silent
    exact leading_ticking unfailed waits (silent .collect)
  | firstPass here | nextPass here left | beginReclaims here stop | skipRead here idle
    | skipReclaim here gone | breach here found held =>
    rw [here] at silent
    exact leading_ticking unfailed waits (silent .still)
  | endTick here =>
    rw [here] at silent
    have result : t.result = .ok t.worked := by rw [Tick.result, unfailed]
    rw [result]
    refine .here ⟨.ticked waits, ?_⟩
    rw [batches_waiting waits]
    exact silent .still
  | skipReport here report gone =>
    rw [Stage.batch_of_pop? here] at silent
    exact leading_ticking unfailed waits (silent .skip)
  | dropConnection here state =>
    rw [Stage.batch_of_pop? here] at silent
    exact leading_ticking unfailed waits (silent .skip)
  | @completeWrite _ _ _ d stage req status c view _ here report pending =>
    rw [Stage.batch_of_pop? here] at turn
    obtain ⟨s, alive⟩ := life_of_pending balanced pending
    obtain ⟨client, ⟨_, _, own⟩ | ⟨_, own⟩⟩ := attends.requests _ _ pending <;> cases own
    refine leading_wrote (t := { t with stage }) unfailed waits status pending alive (fun ok => ?_)
      fun e failed => ?_
    · exact turn _ _ _ (.sent client (ok ▸ report) pending alive)
    · exact turn _ _ _ (.unsent client (failed ▸ report) pending alive)
  | @completeShutdown _ _ _ d stage req status c _ here report pending =>
    rw [Stage.batch_of_pop? here] at turn
    obtain ⟨s, alive⟩ := life_of_pending balanced pending
    obtain ⟨client, ⟨_, _, own⟩ | ⟨_, own⟩⟩ := attends.requests _ _ pending <;> cases own
    exact leading_done (t := { t with stage }) unfailed waits pending alive fun state past =>
      turn _ _ _ (.done client report pending alive past)
  | completeConnect here report pending | failConnect here report pending
      | dropConnect here report pending =>
    obtain ⟨-, ⟨_, _, own⟩ | ⟨_, own⟩⟩ := attends.requests _ _ pending <;> cases own
  | @connection _ _ _ stage server status here state =>
    rw [Stage.batch_of_pop? here] at turn attends
    obtain ⟨x, found, listening⟩ : ∃ x, l.handles.get? server = some x ∧ x.state = .listening := by
      simpa [hasState, Option.any_eq_true] using state
    have alive := Loop.life_of_some found
    obtain rfl := attends.server alive listening
    cases status with
    | error status =>
      exact leading_fail (t := { t with stage }) unfailed waits
        (attends.listeners listener _ alive .error) (turn _ _ _ .fail)
    | ok =>
      exact leading_greet (t := { t with stage }) unfailed waits
        (attends.listeners listener _ alive .connection) alive listening attends.waits
        fun c unborn => turn _ _ _ (.greet unborn)
  | refuseRead here found reading exposed =>
    cases exposed.symm.trans (free_of_guarded waits guarded found)
  | @readNothing _ _ _ passes c rest productive x status bytes l' here found reading free
      read nothing =>
    obtain ⟨answer, rfl⟩ := Prod.mk.inj read
    rw [here] at silent
    refine leading_ticking unfailed waits ?_
    rw [Loop.outline_fillBuffer]
    exact silent .vain
  | @readData _ _ _ passes c rest productive x n bytes l' here found reading free read filled =>
    obtain ⟨answer, rfl⟩ := Prod.mk.inj read
    obtain ⟨rfl, fits⟩ := Memory.read_fits answer
    rw [here] at turn attends
    rw [ReadBuffer.view_overwrite fits]
    refine leading_data (t := { t with stage := .reads passes rest true }) t.waker
      (readBuffer l x).size unfailed waits rfl attends (Loop.life_of_some found) reading
      turn ?_ answer
    rw [Loop.outline_expose, Loop.outline_meterAsync, Loop.outline_fillBuffer]
    rfl
  | @readEof _ _ _ passes c rest productive x bytes l' here found reading free read =>
    obtain ⟨answer, rfl⟩ := Prod.mk.inj read
    rw [here] at turn attends
    refine leading_end (t := { t with stage := .reads passes rest true }) t.waker
      (readBuffer l x).size unfailed waits rfl attends (Loop.life_of_some found) reading turn ?_
    exact Loop.outline_fillBuffer _ _ _ _
  | @readFailed _ _ _ passes c rest productive x status bytes l' here found reading free read =>
    obtain ⟨answer, rfl⟩ := Prod.mk.inj read
    rw [here] at turn attends
    refine leading_failure (t := { t with stage := .reads passes rest true }) t.waker
      (readBuffer l x).size unfailed waits rfl attends (Loop.life_of_some found) reading turn ?_
    exact Loop.outline_fillBuffer _ _ _ _
  | @reclaim _ _ _ c batch x here found closing free =>
    rw [here] at turn
    have alive := Loop.life_of_some found
    generalize taken : (takeHandle l c x).meterAsync c .close true = l₁
    have outline : l₁.outline = l.outline.turn c .gone := by
      rw [← taken, Loop.outline_meterAsync, Loop.outline_takeHandle found]
    have none : l₁.outline.listenersOf c .close = [] := by
      rw [outline]
      exact attends.listeners c _ alive .close
    refine leading_part (t := { t with stage := .reclaims batch }) unfailed waits none ?_
    rw [outline]
    exact turn _ _ _ (.part (attends.client_of_marked alive closing) alive closing)

/-- Whatever comes after a machine at which no handler is at work, it leads to another such machine,
by way of a turn. -/
theorem leading_next {x y : Machine Hosted}
    (next : Next Memory.transport (handlers Memory Memory.Script) x y) (driven : Driven x)
    (attends : Attends x.loop.outline x.batches) (balanced : x.Balanced) (guarded : x.Guarded)
    (unused : x.stack = [] → x.uses = false) (may : ∀ s, x.script? = some s → allowed s)
    (turn : ∀ new o' batch', Turn allowed x.loop.outline x.batches new o' batch' →
      I (news ++ new) o' batch') :
    Leading I (heed news x) y := by
  have silent {o' : Outline Hosted} {batch' : List Completion}
      (same : Turn allowed x.loop.outline x.batches [] o' batch') :
      I news o' batch' := by
    simpa using turn [] o' batch' same
  cases next with
  | resume p rest =>
    obtain ⟨⟨failure, control⟩, stack⟩ := atRest_iff.1 rest
    obtain ⟨l, stack, control⟩ := x
    cases stack
    cases control
    exact leading_program (silent .still)
  | step taken =>
    have rule := (rule_of_step? taken).2
    cases driven with
    | rest => cases rule
    | ticking unfailed waits =>
      rw [batches_ticking waits] at attends turn
      exact leading_tick rule unfailed waits attends balanced guarded turn
    | program =>
      cases rule with
      | finish => exact .here ⟨.rest, silent .still⟩
      | ask | survey | note | recallShared | update => exact leading_program (silent .still)
      | issue | refuseListen | beginListen => cases unused rfl
      | tick | runLoop | poll => exact leading_beginTick rfl _ (silent .begin)
      | script => exact leading_program (silent (.script (may _ rfl)))
    | @ticked _ _ worked waits =>
      rw [batches_waiting waits] at silent
      cases rule with
      | ticked | endRun | endPoll => exact leading_program (silent .still)
      | pausePoll => cases worked <;> exact leading_program (silent .still)
      | runAgain => exact leading_beginTick rfl _ (silent .begin)

/-! ## Runs -/

end Reactor.Echo.Server

namespace Reactor.Machine

variable {S N C : Type} {m : Machine (Memory.host S N C)}

/-- Whether a machine neither tells a script nor an event with tokens. -/
def silent (m : Machine (Memory.host S N C)) : Bool :=
  m.script?.isNone && m.told?.all (·.2.tokens.isEmpty)

/-- A silent machine pushes nothing. -/
theorem pushed_of_silent (silent : m.silent = true) (h : HandleId) : m.pushed h = [] := by
  have idle := Option.isNone_iff_eq_none.1 (Bool.and_eq_true_iff.1 silent).1
  unfold pushed
  split
  case h_1 control => rw [script?, control] at idle; cases idle
  case h_2 => rfl

/-- In a silent machine nothing is heard. -/
theorem heard_of_silent (silent : m.silent = true) (h : HandleId) : m.heard h = [] := by
  have mute := (Bool.and_eq_true_iff.1 silent).2
  cases told : m.told? with
  | none => exact heard_of_untold told
  | some ke =>
    rw [told, Option.all_some, List.isEmpty_iff] at mute
    rw [heard, told, about_some]
    split
    case isTrue => rw [Option.toList_some, List.flatMap_singleton, mute]
    case isFalse => rfl

end Reactor.Machine

namespace Reactor.Echo.Server

open Machine

/-- The machine after the program that opens a server. -/
def opening (options : Options) (address : SocketAddress) : Machine Hosted :=
  (start (openProgram address) (empty options)).run Memory.transport (handlers _ _) 10

/-- A server that listens. -/
def opened (options : Options) (address : SocketAddress) : Server := (opening options address).loop

/-- A server that has just been opened rests. -/
theorem atRest_opening (options : Options) (address : SocketAddress) :
    (opening options address).atRest = true := rfl

/-- When a server is opened, its listener listens and no other handle is there. -/
theorem life_opened (options : Options) (address : SocketAddress) (h : HandleId) :
    (opened options address).life h =
      if h = listener then .alive { state := .listening, listening := true } else .unborn := by
  split
  case isTrue same => subst same; rfl
  case isFalse other =>
    have next : (opened options address).handles.next ≤ h := Nat.pos_of_ne_zero other
    rw [Loop.life, Registry.get?_eq_none_of_next_le _ next]
    exact if_neg (Nat.not_lt.2 next)

/-- What a server that listens looks like. -/
theorem outline_opened (options : Options) (address : SocketAddress) :
    (opened options address).outline =
    { life := fun h =>
      if h = listener then .alive { state := .listening, listening := true } else .unborn
      listeners := [⟨listener, .connection, Closure.onConnection⟩]
      requests := (empty options).requests
      deferred := []
      net :=
        (Memory.listen listener options.defaultBacklog
          (Memory.bind listener address Memory.initial).net).net } :=
  Outline.ext (funext (life_opened options address)) rfl rfl rfl rfl

/-- A server that listens attends to its clients, of which there are none. -/
theorem attends_opened (options : Options) (address : SocketAddress) :
    Attends (opened options address).outline [] := by
  rw [outline_opened]
  constructor
  case listens => exact ⟨{ state := .listening, listening := true }, rfl, rfl, rfl, rfl⟩
  case clients =>
    intro c s client alive
    cases (if_neg client).symm.trans alive
  case requests =>
    intro req r pending
    cases pending
  case listeners =>
    intro h s alive event
    by_cases same : h = listener
    · subst same
      cases event <;> rfl
    · cases (if_neg same).symm.trans alive
  case strangers =>
    intro h unborn event
    by_cases same : h = listener
    · cases (if_pos same).symm.trans unborn
    · refine List.filterMap_eq_nil_iff.2 fun x hx => ?_
      obtain rfl := List.mem_singleton.1 hx
      exact if_neg fun own => same own.1.symm
  case connections => exact Nat.zero_le _

variable {options : Options} {address : SocketAddress} {p : Program Hosted}
  {past : List (Machine Hosted)} {m : Machine Hosted}

/-- What is done with a server that listens is the end of a run on a new loop, of which the
beginning pushes nothing and tells nothing of any client. -/
theorem exists_of_opened
    (run : Run Memory.transport (handlers _ _) (start p (opened options address)) past m) :
    ∃ before, Run Memory.transport (handlers _ _)
      (start (openProgram address) (.fresh options Memory.initial ())) (before ++ past) m ∧
        ∀ x ∈ before, ∀ h, x.pushed h = [] ∧ x.heard h = [] := by
  obtain ⟨before, opens, behind⟩ := Run.exists_of_run Memory.transport (handlers _ _)
    (start (openProgram address) (empty options)) 10
  refine ⟨before ++ [opening options address],
    (opens.snoc (.resume p (atRest_opening options address))).trans run, ?_⟩
  have silent : (List.range 10).all (fun k => Machine.silent
      ((start (openProgram address) (empty options)).run Memory.transport (handlers _ _) k)) =
        true := by
    rfl
  intro x hx h
  rcases List.mem_append.1 hx with hx | hx
  · obtain ⟨k, less, rfl⟩ := behind x hx
    have silent := List.all_eq_true.1 silent k (List.mem_range.2 less)
    exact ⟨pushed_of_silent silent h, heard_of_silent silent h⟩
  · rw [List.mem_singleton.1 hx]
    exact ⟨rfl, rfl⟩

/-- Along every run on a server that listens, it attends to its clients whenever no handler is at
work, and what every turn keeps holds. -/
theorem serves (allowed : Memory.Script → Prop)
    (I : List News → Outline Hosted → List Completion → Prop)
    (run : Run Memory.transport (handlers _ _) (start p (opened options address)) past m)
    (plays : ∀ x ∈ past, (x.stack = [] → x.uses = false) ∧ ∀ s, x.script? = some s → allowed s)
    (start : I [] (opened options address).outline [])
    (turn : ∀ before x,
      Run Memory.transport (handlers _ _) (Machine.start p (opened options address)) before x →
      Driven x → Attends x.loop.outline x.batches →
      I (before.filterMap news?) x.loop.outline x.batches → ∀ new o' batch',
      Turn allowed x.loop.outline x.batches new o' batch' →
        I (before.filterMap news? ++ new) o' batch')
    (outside : m.inside = false) :
    Driven m ∧ Attends m.loop.outline m.batches ∧
      I (past.filterMap news?) m.loop.outline m.batches := by
  have reached {before x}
      (run : Run Memory.transport (handlers _ _)
        (Machine.start p (opened options address)) before x) :
      ∃ before, Reached Memory.transport (handlers _ _) before x := by
    obtain ⟨opening, run, -⟩ := exists_of_opened run
    exact ⟨_, _, _, _, _, run⟩
  have leads := run.leads Machine.Balanced
    (fun x => (x.stack = [] → x.uses = false) ∧ ∀ s, x.script? = some s → allowed s)
    (Good fun news o batch => Attends o batch ∧ I news o batch) (fun before y run => by
      obtain ⟨_, reached⟩ := reached run
      exact .of_reached reached) plays ⟨.program, attends_opened _ _, start⟩ ?_
  · exact leads.arrived outside
  · rintro before x y run ⟨driven, attends, kept⟩ ⟨unused, may⟩ next
    obtain ⟨_, reached⟩ := reached run
    exact leading_next next driven attends (.of_reached reached) reached.guarded unused may
      fun new o' batch' taken =>
      ⟨taken.attends attends, turn before x run driven attends kept new o' batch' taken⟩

end Reactor.Echo.Server
