import Reactor.Machine.Step
import Reactor.Proofs.Memory.Coupling

/-!
# What does not depend on whom a loop wakes

A loop and its transport in memory keep wakers, and whether the task was woken. Hushing forgets
them. No operation of the loop looks at what is forgotten: what it answers and what it makes of the
rest are the same for a loop and for the hushed one.
-/

namespace Reactor

/-! ## The transport -/

namespace Memory

/-- The transport without the one to wake. -/
def hush (m : Memory) : Memory := { m with waker := .idle }

/-- Two replies with the same answer, and with states that differ in the one to wake. -/
def Alike {α : Type} (r r' : Reply Memory α) : Prop :=
  r.answer = r'.answer ∧ r.net.hush = r'.net.hush

variable (m : Memory) (h : HandleId)

/-- Hushing leaves the endpoints as they are. -/
@[simp] theorem endpoint_hush : m.hush.endpoint h = m.endpoint h := rfl

/-- Hushing leaves the fault that the next listening is to meet. -/
@[simp] theorem listenFault_hush : m.hush.listenFault = m.listenFault := rfl

/-- Hushing leaves the fault that the next write is to meet. -/
@[simp] theorem writeFault_hush : m.hush.writeFault = m.writeFault := rfl

/-- Hushing leaves the refusal that the next write is to meet. -/
@[simp] theorem writeRefusal_hush : m.hush.writeRefusal = m.writeRefusal := rfl

/-- Hushing leaves the fault that the next shutdown is to meet. -/
@[simp] theorem shutdownFault_hush : m.hush.shutdownFault = m.shutdownFault := rfl

/-- Hushing leaves the fault that the next connect is to meet. -/
@[simp] theorem connectFault_hush : m.hush.connectFault = m.connectFault := rfl

/-- Hushing leaves open whether writes are held back. -/
@[simp] theorem holding_hush : m.hush.holding = m.holding := rfl

/-- What a transport finishes with, and what it becomes, do not depend on the one to wake. -/
theorem alike_finish {α : Type} {m m' : Memory} (answer : α) (done : List Completion)
    (same : m.hush = m'.hush) :
    Alike (finish answer done m) (finish answer done m') := by
  unfold finish
  split
  case isTrue => exact ⟨rfl, same⟩
  case isFalse =>
    have finished : m.finished = m'.finished := (congrArg Memory.finished same :)
    refine ⟨rfl, ?_⟩
    rw [finished]
    exact congrArg (fun m : Memory => { m with finished := m'.finished.append done }) same

/-- A listening does not depend on the one to wake. -/
theorem alike_listen (backlog : Nat) : Alike (listen h backlog m.hush) (listen h backlog m) := by
  unfold listen
  rw [listenFault_hush]
  split
  case h_1 => exact ⟨rfl, rfl⟩
  case h_2 => exact ⟨rfl, rfl⟩

/-- Taking a connection does not depend on the one to wake. -/
theorem alike_accept : Alike (accept h m.hush) (accept h m) := by
  unfold accept
  rw [endpoint_hush]
  split
  case isTrue => exact ⟨rfl, rfl⟩
  case isFalse => exact ⟨rfl, rfl⟩

/-- A read hears of no waker, neither of the one kept nor of the one that it brings along. -/
theorem alike_read (w w' : Waker) (size : Nat) :
    Alike (read w h size m.hush) (read w' h size m) := by
  unfold read
  simp only
  by_cases idle : (!(m.endpoint h).reading) = true
  · rw [if_pos idle, if_pos (show (!(m.hush.endpoint h).reading) = true from idle)]
    exact ⟨rfl, rfl⟩
  · rw [if_neg idle, if_neg (show ¬ (!(m.hush.endpoint h).reading) = true from idle), endpoint_hush]
    cases (m.endpoint h).incoming with
    | nil => exact ⟨rfl, rfl⟩
    | cons i rest => cases i <;> exact ⟨rfl, rfl⟩

/-- A write does not depend on the one to wake. -/
theorem alike_write (req : RequestId) (data : List UInt8) :
    Alike (write req h data m.hush) (write req h data m) := by
  unfold write
  rw [writeRefusal_hush, holding_hush, writeFault_hush]
  split
  case h_1 => exact ⟨rfl, rfl⟩
  case h_2 =>
    split
    case isTrue => exact ⟨rfl, rfl⟩
    case isFalse =>
      split
      case h_1 => exact alike_finish _ _ rfl
      case h_2 => exact alike_finish _ _ rfl

/-- A shutdown does not depend on the one to wake. -/
theorem alike_shutdown (req : RequestId) : Alike (shutdown req h m.hush) (shutdown req h m) := by
  unfold shutdown
  rw [shutdownFault_hush, endpoint_hush]
  split
  case h_1 => exact alike_finish _ _ rfl
  case h_2 =>
    split
    case isTrue => exact alike_finish _ _ rfl
    case isFalse => exact ⟨rfl, rfl⟩

/-- A connect does not depend on the one to wake. -/
theorem alike_connect (req : RequestId) (address : SocketAddress) :
    Alike (connect req h address m.hush) (connect req h address m) := by
  unfold connect
  rw [connectFault_hush]
  split
  case h_1 => exact alike_finish _ _ rfl
  case h_2 => exact alike_finish _ _ rfl

/-- Closing an endpoint does not depend on the one to wake. -/
theorem alike_close : Alike (close h m.hush) (close h m) := alike_finish _ _ rfl

/-- A script does not depend on the one to wake. -/
theorem alike_perform (s : Script) : Alike (perform s m.hush) (perform s m) := by
  cases s with
  | pushConnection | pushConnectionError | flushWrites => exact alike_finish _ _ rfl
  | pushData | pushEof | pushReadError | failNextListen | failNextWrite | refuseNextWrite
    | failNextShutdown | failNextConnect | holdWrites => exact ⟨rfl, rfl⟩

/-- Of a primitive that hears of no waker two states that differ in the waker hear the same. -/
theorem alike_of_hush {α : Type} {primitive : Memory → Reply Memory α}
    (deaf : ∀ m, Alike (primitive m.hush) (primitive m)) {m m' : Memory} (same : m.hush = m'.hush) :
    Alike (primitive m) (primitive m') := by
  obtain ⟨answer, net⟩ := deaf m
  obtain ⟨answer', net'⟩ := deaf m'
  rw [same] at answer net
  exact ⟨answer.symm.trans answer', net.symm.trans net'⟩

/-- Reads of transports that differ in the one to wake are alike, whichever
wakers they bring along. -/
theorem alike_read_of_hush {m m' : Memory} (same : m.hush = m'.hush) (w w' : Waker) (h : HandleId)
    (size : Nat) :
    Alike (read w h size m) (read w' h size m') := by
  obtain ⟨answer, net⟩ := alike_read m h w w size
  obtain ⟨answer', net'⟩ := alike_read m' h w w' size
  rw [same] at answer net
  exact ⟨answer.symm.trans answer', net.symm.trans net'⟩

/-- Transports that differ in the one to wake hand over the same completions. -/
theorem alike_collect_of_hush {m m' : Memory} (same : m.hush = m'.hush) (w w' : Waker) :
    Alike (collect w m) (collect w' m') := by
  have finished : m.finished = m'.finished := (congrArg Memory.finished same :)
  exact ⟨congrArg Queue.toList finished,
    congrArg (fun m : Memory => { m with finished := {} }) same⟩

end Memory

/-! ## The loop -/

namespace Loop

variable {S N C : Type}

/-- The loop without those to wake, here and in the transport, as if nobody had been woken. -/
def hush (l : Loop (Memory.host S N C)) : Loop (Memory.host S N C) :=
  { l with waker := .idle, woken := false, net := Memory.hush l.net }

variable (l : Loop (Memory.host S N C)) (h : HandleId)

/-- Hushing twice is hushing once. -/
@[simp] theorem hush_hush : l.hush.hush = l.hush := rfl

/-- Hushing leaves the handles to be found as they are. -/
@[simp] theorem handle?_hush : l.hush.handle? h = l.handle? h := rfl

/-- Using a waker does not show in a hushed loop. -/
@[simp] theorem hush_wakeBy (w : Waker) : (l.wakeBy w).hush = l.hush := rfl

/-- Using the loop's own waker does not show in a hushed loop. -/
@[simp] theorem hush_wake : l.wake.hush = l.hush := rfl

/-- Samples may be sent before or after hushing. -/
@[simp] theorem hush_meter (op : StreamOp) (p : Progress) :
    (l.meter h op p).hush = l.hush.meter h op p := rfl

/-- A handle may be changed before or after hushing. -/
@[simp] theorem hush_modifyHandle (f : Handle C → Handle C) :
    (l.modifyHandle h f).hush = l.hush.modifyHandle h f := rfl

/-- A buffer may be changed before or after hushing. -/
@[simp] theorem hush_modifyBuffer (f : ReadBuffer → ReadBuffer) :
    (l.modifyBuffer h f).hush = l.hush.modifyBuffer h f := rfl

/-- A state may be set before or after hushing. -/
@[simp] theorem hush_setState (state : StreamState) :
    (l.setState h state).hush = l.hush.setState h state := rfl

/-- A listener may be added before or after hushing. -/
@[simp] theorem hush_addListener (event : EventName) (c : C) :
    (l.addListener h event c).hush = l.hush.addListener h event c := rfl

/-- Listeners may be removed before or after hushing. -/
@[simp] theorem hush_removeListeners : (l.removeListeners h).hush = l.hush.removeListeners h := rfl

/-- A request may be enlisted before or after hushing. -/
@[simp] theorem hush_enlist (r : Request C) (refusal : Option Completion) :
    (l.enlist r refusal).hush = l.hush.enlist r refusal := rfl

/-- A first buffer may be made before or after hushing. -/
@[simp] theorem hush_ensureBuffer : (l.ensureBuffer h).hush = l.hush.ensureBuffer h := rfl

/-- A reference may be given back before or after hushing. -/
@[simp] theorem hush_release : (l.release h).hush = l.hush.release h := by
  unfold release
  cases found : l.handles.get? h with
  | none => simp only [hush, found]
  | some x =>
    simp only [hush, found]
    split
    case isTrue => rfl
    case isFalse => split <;> rfl

/-- Listening may be ended before or after hushing. -/
@[simp] theorem hush_endListening : (l.endListening h).hush = l.hush.endListening h := by
  unfold endListening
  cases found : l.handles.get? h with
  | none => simp only [hush, found]
  | some x =>
    simp only [hush, found]
    split
    case isTrue => exact hush_release _ h
    case isFalse => rfl

/-- A handle may be marked before or after hushing. -/
@[simp] theorem hush_markClosing : (l.markClosing h).hush = l.hush.markClosing h := by
  unfold markClosing
  cases found : l.handles.get? h with
  | none => simp only [hush, found]
  | some x =>
    simp only [hush, found]
    split <;> rfl

/-- A reference may be taken before or after hushing. -/
theorem hush_acquire : (l.acquire h).map hush = l.hush.acquire h := by
  unfold acquire
  cases found : l.handles.get? h with
  | none => simp only [hush, found]; rfl
  | some x =>
    simp only [hush, found]
    split <;> rfl

/-- The same answer, and loops that differ in what hushing forgets. -/
def Alike {α : Type} (r r' : α × Loop (Memory.host S N C)) : Prop :=
  r.1 = r'.1 ∧ r.2.hush = r'.2.hush

/-- Alike results have one answer and loops that are the same once hushed. -/
theorem Alike.cases {α : Type} {r r' : α × Loop (Memory.host S N C)} (alike : Alike r r') :
    ∃ a k k', r = (a, k) ∧ r' = (a, k') ∧ k.hush = k'.hush :=
  ⟨r.1, r.2, r'.2, rfl, Prod.ext alike.1.symm rfl, alike.2⟩

section Operations

/-! ## Operations on two loops that differ in what hushing forgets -/

variable {l} {k k' : Loop (Memory.host S N C)} {α : Type} (same : k.hush = k'.hush)

include same

/-- Loops that are the same once hushed find the same handles. -/
theorem handle?_of_hush (h : HandleId) : k.handle? h = k'.handle? h :=
  (congrArg (handle? · h) same :)

/-- Loops that are the same once hushed have the same requests. -/
theorem requests_of_hush : k.requests = k'.requests := (congrArg Loop.requests same :)

/-- Loops that are the same once hushed have the same options. -/
theorem options_of_hush : k.options = k'.options := (congrArg Loop.options same :)

/-- Loops that are the same once hushed have the same handles. -/
theorem handles_of_hush : k.handles = k'.handles := (congrArg Loop.handles same :)

/-- A reference is taken or refused alike by loops that are the same once hushed. -/
theorem alike_acquire (h : HandleId) :
    (∃ e, k.acquire h = .error e ∧ k'.acquire h = .error e) ∨
      ∃ k₁ k₁', k.acquire h = .ok k₁ ∧ k'.acquire h = .ok k₁' ∧ k₁.hush = k₁'.hush := by
  have hushed : (k.acquire h).map hush = (k'.acquire h).map hush := by
    rw [hush_acquire, hush_acquire, same]
  cases first : k.acquire h with
  | error e =>
    cases second : k'.acquire h with
    | error =>
      rw [first, second] at hushed
      cases hushed
      exact .inl ⟨e, rfl, rfl⟩
    | ok =>
      rw [first, second] at hushed
      cases hushed
  | ok k₁ =>
    cases second : k'.acquire h with
    | error =>
      rw [first, second] at hushed
      cases hushed
    | ok k₁' =>
      rw [first, second] at hushed
      exact .inr ⟨k₁, k₁', rfl, rfl, Except.ok.inj hushed⟩

/-- Loops that are the same once hushed stay so when the transport answers alike. -/
theorem alike_reply {primitive primitive' : Memory → Reply Memory α}
    (asked : Memory.Alike (primitive k.net) (primitive' k'.net)) :
    Alike (k.ask primitive) (k'.ask primitive') := by
  refine ⟨asked.1, ?_⟩
  calc (k.ask primitive).2.hush
    _ = { k.hush with net := Memory.hush (primitive k.net).net } := rfl
    _ = { k'.hush with net := Memory.hush (primitive' k'.net).net } := by rw [same, asked.2]
    _ = (k'.ask primitive').2.hush := rfl

/-- They hear the same of a primitive that hears of no waker. -/
theorem alike_ask (primitive : Memory → Reply Memory α)
    (deaf : ∀ m : Memory, Memory.Alike (primitive m.hush) (primitive m)) :
    Alike (k.ask primitive) (k'.ask primitive) :=
  alike_reply same (Memory.alike_of_hush deaf (congrArg Loop.net same :))

/-- Samples make no difference. -/
theorem alike_tracked (h : HandleId) {op : StreamOp}
    {body : Loop (Memory.host S N C) → Except LoopError α × Loop (Memory.host S N C)}
    (alike : ∀ {k k'}, k.hush = k'.hush → Alike (body k) (body k')) :
    Alike (k.tracked h op body) (k'.tracked h op body) := by
  have same : (k.meter h op .dispatched).hush = (k'.meter h op .dispatched).hush := by simp [same]
  obtain ⟨a, k₁, k₁', first, second, same⟩ := (alike same).cases
  unfold tracked
  rw [first, second]
  cases a <;> exact ⟨rfl, by simp [same]⟩

/-- A new handle does not depend on wakers. -/
theorem alike_newHandle (kind : HandleKind) :
    Alike (k.newHandle Memory.transport kind) (k'.newHandle Memory.transport kind) := by
  have next : k.handles.next = k'.handles.next := by rw [handles_of_hush same]
  exact ⟨next, congrArg (fun l => { l with handles := l.handles.add { kind } }) same⟩

/-- Registering a listener does not depend on wakers. -/
theorem alike_on (h : HandleId) (event : EventName) (listener : C) :
    Alike (k.on h event listener) (k'.on h event listener) := by
  unfold on
  rw [handle?_of_hush same]
  cases k'.handle? h with
  | error e => exact ⟨rfl, same⟩
  | ok x => exact ⟨rfl, by simp [same]⟩

/-- Starting to listen does not depend on wakers. -/
theorem alike_beginListen (h : HandleId) (backlog : Option Nat) (onConnection : C) :
    Alike (k.beginListen Memory.transport h backlog onConnection)
      (k'.beginListen Memory.transport h backlog onConnection) := by
  unfold beginListen
  rw [handle?_of_hush same, options_of_hush same]
  cases k'.handle? h with
  | error e => exact ⟨rfl, same⟩
  | ok x =>
    dsimp only
    split
    case isTrue => exact ⟨rfl, same⟩
    case isFalse =>
      obtain ⟨a, k₁, k₁', first, second, same⟩ := (alike_ask same
        (Memory.transport.listen h (backlog.getD k'.options.defaultBacklog))
        (Memory.alike_listen · h _)).cases
      rw [first, second]
      cases a with
      | error status => exact ⟨rfl, same⟩
      | ok =>
        obtain ⟨e, first, second⟩ | ⟨k₂, k₂', first, second, same⟩ := alike_acquire same h
        · simp only [first, second]
          exact ⟨rfl, same⟩
        · simp only [first, second]
          exact ⟨rfl, by simp [same]⟩

/-- Taking a connection does not depend on wakers. -/
theorem alike_acceptUntracked (server client : HandleId) :
    Alike (k.acceptUntracked Memory.transport server client)
      (k'.acceptUntracked Memory.transport server client) := by
  unfold acceptUntracked
  rw [handle?_of_hush same, handle?_of_hush same]
  cases k'.handle? server with
  | error e => exact ⟨rfl, same⟩
  | ok s =>
    dsimp only
    split
    case isTrue => exact ⟨rfl, same⟩
    case isFalse =>
      cases k'.handle? client with
      | error e => exact ⟨rfl, same⟩
      | ok x =>
        dsimp only
        split
        case isTrue => exact ⟨rfl, same⟩
        case isFalse =>
          obtain ⟨a, k₁, k₁', first, second, same⟩ :=
            (alike_ask same (Memory.transport.accept server client)
              (Memory.alike_accept · server)).cases
          rw [first, second]
          cases a <;> exact ⟨rfl, by simp [same]⟩

/-- Adopting a stream does not depend on wakers. -/
theorem alike_adopt (h : HandleId) :
    Alike (k.adopt Memory.transport h) (k'.adopt Memory.transport h) := by
  unfold adopt
  rw [handle?_of_hush same]
  cases k'.handle? h with
  | error e => exact ⟨rfl, same⟩
  | ok x =>
    dsimp only
    split
    case isTrue => exact ⟨rfl, same⟩
    case isFalse => exact ⟨rfl, same⟩

/-- Binding an address does not depend on wakers. -/
theorem alike_bind (h : HandleId) (address : SocketAddress) :
    Alike (k.bind Memory.transport h address) (k'.bind Memory.transport h address) := by
  unfold bind
  rw [handle?_of_hush same]
  cases k'.handle? h with
  | error e => exact ⟨rfl, same⟩
  | ok x =>
    dsimp only
    split
    case isTrue => exact ⟨rfl, same⟩
    case isFalse =>
      have asked := alike_ask same (Memory.transport.bind h address) fun _ => ⟨rfl, rfl⟩
      exact ⟨rfl, asked.2⟩

/-- Starting to read does not depend on wakers. -/
theorem alike_readStartUntracked (h : HandleId) :
    Alike (k.readStartUntracked Memory.transport h) (k'.readStartUntracked Memory.transport h) := by
  unfold readStartUntracked
  rw [handle?_of_hush same]
  cases k'.handle? h with
  | error e => exact ⟨rfl, same⟩
  | ok x =>
    dsimp only
    split
    case isTrue => exact ⟨rfl, same⟩
    case isFalse =>
      split
      case isTrue => exact ⟨rfl, same⟩
      case isFalse =>
        have same : (k.ensureBuffer h).hush = (k'.ensureBuffer h).hush := by simp [same]
        obtain ⟨e, first, second⟩ | ⟨k₁, k₁', first, second, same⟩ := alike_acquire same h
        · simp only [first, second]
          exact ⟨rfl, same⟩
        · simp only [first, second]
          have asked := alike_ask same (Memory.transport.readStart h) fun _ => ⟨rfl, rfl⟩
          exact ⟨rfl, congrArg (Loop.modifyHandle · h ({ · with read := .reading })) asked.2⟩

/-- Ending a read session does not depend on wakers. -/
theorem hush_endReading (h : HandleId) (next : ReadState) :
    (k.endReading Memory.transport h next).hush = (k'.endReading Memory.transport h next).hush := by
  unfold endReading
  rw [handles_of_hush same]
  cases k'.handles.get? h with
  | none => exact same
  | some x =>
    have same : (k.modifyHandle h ({ · with read := next })).hush =
        (k'.modifyHandle h ({ · with read := next })).hush := by
      simp [same]
    dsimp only
    split
    case isTrue =>
      have asked := alike_ask same (Memory.transport.readStop h) fun _ => ⟨rfl, rfl⟩
      rw [hush_release, hush_release, asked.2]
    case isFalse => exact same

/-- Stopping to read does not depend on wakers. -/
theorem alike_readStopUntracked (h : HandleId) :
    Alike (k.readStopUntracked Memory.transport h) (k'.readStopUntracked Memory.transport h) := by
  unfold readStopUntracked
  rw [handle?_of_hush same]
  cases k'.handle? h with
  | error e => exact ⟨rfl, same⟩
  | ok x => exact ⟨rfl, hush_endReading same h .stopped⟩

/-- Writing into a buffer does not depend on wakers. -/
theorem alike_bufferWrite (h : HandleId) (offset : Nat) (data : List UInt8) :
    Alike (k.bufferWrite h offset data) (k'.bufferWrite h offset data) := by
  unfold bufferWrite
  rw [handle?_of_hush same]
  cases k'.handle? h with
  | error e => exact ⟨rfl, same⟩
  | ok x =>
    dsimp only
    cases x.buffer with
    | none => exact ⟨rfl, same⟩
    | some b =>
      dsimp only
      cases b.write? offset data <;> exact ⟨rfl, by simp [same]⟩

/-- Writing into a buffer that was had before does not depend on wakers. -/
theorem alike_keptWrite (h : HandleId) (offset : Nat) (data : List UInt8) :
    Alike (k.keptWrite h offset data) (k'.keptWrite h offset data) := by
  have buffer : k.buffer? h = k'.buffer? h := (congrArg (buffer? · h) same :)
  unfold keptWrite
  rw [buffer]
  cases k'.buffer? h with
  | none => exact ⟨rfl, same⟩
  | some b =>
    dsimp only
    cases b.write? offset data <;> exact ⟨rfl, by simp [same]⟩

/-- A write does not depend on wakers. -/
theorem alike_writeUntracked (h : HandleId) (data : List UInt8) (callback : Callback C) :
    Alike (k.writeUntracked Memory.transport h data callback)
      (k'.writeUntracked Memory.transport h data callback) := by
  unfold writeUntracked
  rw [handle?_of_hush same]
  cases k'.handle? h with
  | error e => exact ⟨rfl, same⟩
  | ok x =>
    dsimp only
    split
    case isTrue => exact ⟨rfl, same⟩
    case isFalse =>
      obtain ⟨e, first, second⟩ | ⟨k₁, k₁', first, second, same⟩ := alike_acquire same h
      · simp only [first, second]
        exact ⟨rfl, same⟩
      · have requests := requests_of_hush same
        obtain ⟨a, k₂, k₂', asked, asked', same⟩ :=
          (alike_ask same (Memory.transport.write k₁'.requests.next h data)
            (Memory.alike_write · h _ data)).cases
        simp only [first, second, requests, asked, asked']
        exact ⟨rfl, by simp [same]⟩

/-- A shutdown does not depend on wakers. -/
theorem alike_shutdownUntracked (h : HandleId) (callback : Callback C) :
    Alike (k.shutdownUntracked Memory.transport h callback)
      (k'.shutdownUntracked Memory.transport h callback) := by
  unfold shutdownUntracked
  rw [handle?_of_hush same]
  cases k'.handle? h with
  | error e => exact ⟨rfl, same⟩
  | ok x =>
    dsimp only
    split
    case isTrue => exact ⟨rfl, same⟩
    case isFalse =>
      obtain ⟨e, first, second⟩ | ⟨k₁, k₁', first, second, same⟩ := alike_acquire same h
      · simp only [first, second]
        exact ⟨rfl, same⟩
      · have same : (k₁.setState h .shuttingDown).hush = (k₁'.setState h .shuttingDown).hush := by
          simp [same]
        have requests := requests_of_hush same
        obtain ⟨a, k₂, k₂', asked, asked', same⟩ := (alike_ask same
          (Memory.transport.shutdown (k₁'.setState h .shuttingDown).requests.next h)
          (Memory.alike_shutdown · h _)).cases
        simp only [first, second, requests, asked, asked']
        exact ⟨rfl, by simp [same]⟩

/-- A connect does not depend on wakers. -/
theorem alike_connectUntracked (h : HandleId) (address : SocketAddress) :
    Alike (k.connectUntracked Memory.transport h address)
      (k'.connectUntracked Memory.transport h address) := by
  unfold connectUntracked
  rw [handle?_of_hush same]
  cases k'.handle? h with
  | error e => exact ⟨rfl, same⟩
  | ok x =>
    dsimp only
    split
    case isTrue => exact ⟨rfl, same⟩
    case isFalse =>
      obtain ⟨e, first, second⟩ | ⟨k₁, k₁', first, second, same⟩ := alike_acquire same h
      · simp only [first, second]
        exact ⟨rfl, same⟩
      · have requests := requests_of_hush same
        obtain ⟨a, k₂, k₂', asked, asked', same⟩ :=
          (alike_ask same (Memory.transport.connect k₁'.requests.next h address)
            (Memory.alike_connect · h _ address)).cases
        simp only [first, second, requests, asked, asked']
        cases a <;> exact ⟨rfl, by simp [same]⟩

/-- A close does not depend on wakers. -/
theorem alike_closeUntracked (h : HandleId) (onClose : C) :
    Alike (k.closeUntracked Memory.transport h onClose)
      (k'.closeUntracked Memory.transport h onClose) := by
  unfold closeUntracked
  rw [handle?_of_hush same]
  cases k'.handle? h with
  | error e => exact ⟨rfl, same⟩
  | ok x =>
    dsimp only
    split
    case isTrue => exact ⟨rfl, same⟩
    case isFalse =>
      have same : ((k.endReading Memory.transport h .stopped).endListening h).hush =
          ((k'.endReading Memory.transport h .stopped).endListening h).hush := by
        rw [hush_endListening, hush_endListening, hush_endReading same]
      have asked := alike_ask same (Memory.transport.close h) (Memory.alike_close · h)
      exact ⟨rfl, by simp [asked.2]⟩

/-- An operation hears of no waker. -/
theorem alike_issue (o : Operation C) :
    Alike (k.issue Memory.transport o) (k'.issue Memory.transport o) := by
  cases o with
  | newHandle kind => exact alike_newHandle same kind
  | on h event listener => exact alike_on same h event listener
  | accept server client =>
    exact alike_tracked same server fun same => alike_acceptUntracked same server client
  | adopt h => exact alike_adopt same h
  | bind h address => exact alike_bind same h address
  | readStart h => exact alike_tracked same h fun same => alike_readStartUntracked same h
  | readStop h => exact alike_tracked same h fun same => alike_readStopUntracked same h
  | bufferWrite h offset data => exact alike_bufferWrite same h offset data
  | keptWrite h offset data => exact alike_keptWrite same h offset data
  | write h data callback =>
    exact alike_tracked same h fun same => alike_writeUntracked same h data callback
  | shutdown h callback =>
    exact alike_tracked same h fun same => alike_shutdownUntracked same h callback
  | connect h address =>
    exact alike_tracked same h fun same => alike_connectUntracked same h address
  | close h onClose => exact alike_tracked same h fun same => alike_closeUntracked same h onClose
  | stop => exact ⟨rfl, congrArg (fun l => { l with stopping := true }) same⟩
  | forgetWake => exact ⟨rfl, same⟩

end Operations

end Loop

end Reactor
