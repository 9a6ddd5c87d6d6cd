import Reactor.Queue
import Reactor.SortedMap
import Reactor.Transport

/-!
# A transport in memory

Nothing stands behind the handles of this transport. What would arrive from a network is put in by a
script, and what is written is kept. A script can also make the next operation of a kind fail, and
hold writes back until they are flushed.
-/

namespace Reactor

/-- Something that arrives on a handle, in order. -/
inductive Incoming where
  | data (bytes : List UInt8)
  | eof
  | failed (status : Status)
  deriving DecidableEq, Repr

/-- What the transport keeps of a handle. -/
structure Endpoint where
  incoming : List Incoming := []
  reading : Bool := false
  /-- The length of the queue that the handle listens with. -/
  backlog : Option Nat := none
  /-- The number of connections that wait to be accepted. -/
  waiting : Nat := 0
  bound : Option SocketAddress := none
  /-- The bytes of every write that went through. -/
  sent : Queue (List UInt8) := {}
  /-- The writes that are held back. -/
  held : Queue (RequestId × List UInt8) := {}
  /-- The shutdown that waits for the writes held back. -/
  heldShutdown : Option RequestId := none
  shut : Bool := false
  closed : Bool := false
  deriving DecidableEq, Repr

/-- All that was written to a handle. -/
def Endpoint.written (e : Endpoint) : List UInt8 := e.sent.toList.flatten

/-- The state of the transport. -/
structure Memory where
  /-- What is kept of the handles of which anything is kept. -/
  endpoints : SortedMap HandleId Endpoint := {}
  /-- What has finished and was not handed over yet. -/
  finished : Queue Completion := {}
  listenFault : Option Status := none
  writeFault : Option Status := none
  writeRefusal : Option Status := none
  shutdownFault : Option Status := none
  connectFault : Option Status := none
  holding : Bool := false
  waker : Waker := .idle

namespace Memory

/-- The state before anything happened. -/
def initial : Memory := {}

/-- What happens on the far side, and what is to go wrong. -/
inductive Script where
  | pushConnection (server : HandleId)
  | pushConnectionError (server : HandleId) (status : Status)
  | pushData (h : HandleId) (data : List UInt8)
  | pushEof (h : HandleId)
  | pushReadError (h : HandleId) (status : Status)
  | failNextListen (status : Status)
  /-- The next write that is accepted completes with an error. -/
  | failNextWrite (status : Status)
  /-- The next write is refused when it is issued. -/
  | refuseNextWrite (status : Status)
  | failNextShutdown (status : Status)
  | failNextConnect (status : Status)
  | holdWrites
  /-- Completes the writes held back, and holds no more. -/
  | flushWrites
  deriving DecidableEq, Repr

/-- What the transport keeps of a handle. -/
def endpoint (m : Memory) (h : HandleId) : Endpoint := (m.endpoints.get? h).getD {}

/-- The state with the endpoint of a handle changed. -/
def update (m : Memory) (h : HandleId) (f : Endpoint → Endpoint) : Memory :=
  { m with endpoints := m.endpoints.insert h (f (m.endpoint h)) }

/-- Changing an endpoint changes no other. -/
theorem endpoint_update (m : Memory) (h : HandleId) (f : Endpoint → Endpoint) (k : HandleId) :
    (m.update h f).endpoint k = if k = h then f (m.endpoint h) else m.endpoint k := by
  unfold update endpoint
  rw [SortedMap.get?_insert]
  split <;> rfl

/-- A reply that wakes nobody. -/
def quiet {α : Type} (answer : α) (m : Memory) : Reply Memory α := ⟨answer, m, false⟩

/-- A reply that wakes the task if it waits. -/
def waking {α : Type} (answer : α) (m : Memory) : Reply Memory α :=
  ⟨answer, { m with waker := .idle }, m.waker = .task⟩

/-- A reply after which completions wait to be handed over; they wake the task. -/
def finish {α : Type} (answer : α) (done : List Completion) (m : Memory) : Reply Memory α :=
  if done.isEmpty then
    quiet answer m
  else waking answer { m with finished := m.finished.append done }

/-- The outcome that a fault gives. -/
def outcomeOf : Option Status → Outcome
  | none => .ok ()
  | some status => .error status

/-- Keeps the address. -/
def bind (h : HandleId) (address : SocketAddress) (m : Memory) : Reply Memory Outcome :=
  quiet (.ok ()) (m.update h ({ · with bound := some address }))

/-- A fault that waits refuses; otherwise the length of the queue is kept. -/
def listen (h : HandleId) (backlog : Nat) (m : Memory) : Reply Memory Outcome :=
  match m.listenFault with
  | some status => quiet (.error status) { m with listenFault := none }
  | none => quiet (.ok ()) (m.update h ({ · with backlog := some backlog }))

/-- Takes one of the connections that wait, if there is one. -/
def accept (server : HandleId) (m : Memory) : Reply Memory Outcome :=
  if (m.endpoint server).waiting = 0 then quiet (.error .eagain) m
  else quiet (.ok ()) (m.update server fun e => { e with waiting := e.waiting - 1 })

/-- Starts or stops to hand out what arrives. -/
def setReading (reading : Bool) (h : HandleId) (m : Memory) : Reply Memory Outcome :=
  quiet (.ok ()) (m.update h ({ · with reading }))

/-- Takes what arrived first: of data as many bytes as fit, of anything else the whole. When nothing
is there, the reader is woken by the next arrival. -/
def read (w : Waker) (h : HandleId) (size : Nat) (m : Memory) :
    Reply Memory (ReadStatus × List UInt8) :=
  let e := m.endpoint h
  if !e.reading then quiet (.pending, []) m
  else
    match e.incoming with
    | [] => quiet (.pending, []) { m with waker := w }
    | .data bytes :: rest =>
      let taken := bytes.take size
      let left := bytes.drop size
      let incoming := if left.isEmpty then rest else .data left :: rest
      quiet (.data taken.length, taken) (m.update h ({ · with incoming }))
    | .eof :: rest => quiet (.eof, []) (m.update h ({ · with incoming := rest }))
    | .failed status :: rest =>
      quiet (.failed status, []) (m.update h ({ · with incoming := rest }))

/-- A refusal comes first, then holding back, then a fault of the completion. -/
def write (req : RequestId) (h : HandleId) (data : List UInt8) (m : Memory) :
    Reply Memory Outcome :=
  match m.writeRefusal with
  | some status => quiet (.error status) { m with writeRefusal := none }
  | none =>
    if m.holding then
      quiet (.ok ()) (m.update h fun e => { e with held := e.held.push (req, data) })
    else
      match m.writeFault with
      | some status => finish (.ok ()) [.write req (.error status)] { m with writeFault := none }
      | none =>
        finish (.ok ()) [.write req (.ok ())]
          (m.update h fun e => { e with sent := e.sent.push data })

/-- A shutdown waits for the writes held back. -/
def shutdown (req : RequestId) (h : HandleId) (m : Memory) : Reply Memory Outcome :=
  match m.shutdownFault with
  | some status => finish (.ok ()) [.shutdown req (.error status)] { m with shutdownFault := none }
  | none =>
    if (m.endpoint h).held.isEmpty then
      finish (.ok ()) [.shutdown req (.ok ())] (m.update h ({ · with shut := true }))
    else quiet (.ok ()) (m.update h ({ · with heldShutdown := some req }))

/-- Connects at once, or fails with the fault that waits. -/
def connect (req : RequestId) (h : HandleId) (address : SocketAddress) (m : Memory) :
    Reply Memory Outcome :=
  match m.connectFault with
  | some status => finish (.ok ()) [.connect req (.error status)] { m with connectFault := none }
  | none => finish (.ok ()) [.connect req (.ok ())] (m.update h ({ · with bound := some address }))

/-- The number of bytes of the writes held back. -/
def queued (h : HandleId) (m : Memory) : Nat :=
  ((m.endpoint h).held.toList.flatMap (·.2)).length

/-- The address that was kept, if any. -/
def localAddress (h : HandleId) (m : Memory) : Except Status SocketAddress :=
  match (m.endpoint h).bound with
  | some address => .ok address
  | none => .error .einval

/-- The completions of an endpoint's requests that are held back, all with one outcome: the writes
in order, then the shutdown. -/
def releaseHeld (e : Endpoint) (outcome : Outcome) : List Completion :=
  e.held.toList.map (fun (req, _) => .write req outcome) ++
    e.heldShutdown.toList.map (.shutdown · outcome)

/-- What has not arrived never will, and what is held back is canceled. -/
def close (h : HandleId) (m : Memory) : Reply Memory Unit :=
  let canceled := releaseHeld (m.endpoint h) (.error .ecanceled)
  finish () canceled <| m.update h fun e =>
    { e with closed := true, reading := false, incoming := [], held := {}, heldShutdown := none }

/-- Hands over what has finished; what finishes next wakes the one who asked. -/
def collect (w : Waker) (m : Memory) : Reply Memory (List Completion) :=
  quiet m.finished.toList { m with finished := {}, waker := w }

/-- An endpoint with its writes flushed. -/
def flush (e : Endpoint) : Endpoint :=
  { e with
    sent := e.sent.append (e.held.toList.map (·.2))
    held := {}
    shut := e.shut || e.heldShutdown.isSome
    heldShutdown := none }

/-- A flush writes what was held back, in order. -/
theorem written_flush (e : Endpoint) :
    (flush e).written = e.written ++ (e.held.toList.map (·.2)).flatten := by
  simp [flush, Endpoint.written]

/-- Something arrives on a handle. -/
def arrive (h : HandleId) (i : Incoming) (m : Memory) : Reply Memory Unit :=
  waking () (m.update h fun e => { e with incoming := e.incoming ++ [i] })

/-- The far side obeys a script. -/
def perform (s : Script) (m : Memory) : Reply Memory Unit :=
  match s with
  | .pushConnection server =>
    finish () [.connection server (.ok ())]
      (m.update server fun e => { e with waiting := e.waiting + 1 })
  | .pushConnectionError server status => finish () [.connection server (.error status)] m
  | .pushData h data => arrive h (.data data) m
  | .pushEof h => arrive h .eof m
  | .pushReadError h status => arrive h (.failed status) m
  | .failNextListen status => quiet () { m with listenFault := some status }
  | .failNextWrite status => quiet () { m with writeFault := some status }
  | .refuseNextWrite status => quiet () { m with writeRefusal := some status }
  | .failNextShutdown status => quiet () { m with shutdownFault := some status }
  | .failNextConnect status => quiet () { m with connectFault := some status }
  | .holdWrites => quiet () { m with holding := true }
  | .flushWrites =>
    let done := m.endpoints.entries.flatMap fun (_, e) => releaseHeld e (.ok ())
    finish () done { m with holding := false, endpoints := m.endpoints.map flush }

/-- The transport. It takes over streams as little as a transport without the optional
primitives. -/
def transport : Transport Memory Script where
  init _ _ := quiet ()
  adopt _ := Transport.unsupported
  bind := bind
  listen := listen
  accept server _ := accept server
  readStart := setReading true
  readStop := setReading false
  read := read
  write := write
  shutdown := shutdown
  connect := connect
  queued := queued
  localAddress := localAddress
  close := close
  collect := collect
  perform := perform

end Memory

end Reactor
