import Reactor.Loop

/-!
# The operations of a loop

Each operation checks the state of its handle, takes the references that must last until its
completion, and hands the rest to the transport. An operation that is refused returns an error and
leaves the handles, the requests and the listeners as they were.
-/

namespace Reactor.Loop

variable {H : Host} (T : Transport H.Net H.Script)

/-- Creates an idle handle. -/
def newHandle (l : Loop H) (kind : HandleKind) : HandleId × Loop H :=
  let h := l.handles.next
  let l := { l with handles := l.handles.add { kind } }
  (h, (l.ask (T.init h kind)).2)

/-- Registers a listener. -/
def on (l : Loop H) (h : HandleId) (event : EventName) (listener : H.Closure) :
    Except LoopError Unit × Loop H :=
  match l.handle? h with
  | .error e => (.error e, l)
  | .ok _ => (.ok (), l.addListener h event listener)

/-- Makes an idle handle listen. Its listeners are still to be told. -/
def beginListen (l : Loop H) (h : HandleId) (backlog : Option Nat) (onConnection : H.Closure) :
    Except LoopError Unit × Loop H :=
  match l.handle? h with
  | .error e => (.error e, l)
  | .ok x =>
    if x.state ≠ .idle then (.error (.invalidState "listen" x.state), l)
    else
      match l.ask (T.listen h (backlog.getD l.options.defaultBacklog)) with
      | (.error status, l) => (.error (.listen status), l)
      | (.ok (), l) =>
        match l.acquire h with
        | .error e => (.error e, l)
        | .ok l =>
          let l := l.modifyHandle h ({ · with listenRef := true, state := .listening })
          (.ok (), (l.addListener h .connection onConnection).wake)

/-- Moves a connection that waits on a server to an idle handle. -/
def acceptUntracked (l : Loop H) (server client : HandleId) : Except LoopError Unit × Loop H :=
  match l.handle? server with
  | .error e => (.error e, l)
  | .ok s =>
    if s.state ≠ .listening then (.error (.invalidState "accept" s.state), l)
    else
      match l.handle? client with
      | .error e => (.error e, l)
      | .ok c =>
        if c.state ≠ .idle then (.error (.invalidState "accept" c.state), l)
        else
          match l.ask (T.accept server client) with
          | (.error status, l) => (.error (.accept status), l)
          | (.ok (), l) => (.ok (), (l.setState client .connected).wake)

/-- Accepts a connection, with samples on the server. -/
def accept (l : Loop H) (server client : HandleId) : Except LoopError Unit × Loop H :=
  l.tracked server .accept (acceptUntracked T · server client)

/-- Takes over a stream that is connected already. -/
def adopt (l : Loop H) (h : HandleId) : Except LoopError Unit × Loop H :=
  match l.handle? h with
  | .error e => (.error e, l)
  | .ok x =>
    if x.state ≠ .idle then (.error (.invalidState "open" x.state), l)
    else
      match l.ask (T.adopt h) with
      | (.error status, l) => (.error (.transport "open" status), l)
      | (.ok (), l) => (.ok (), l.setState h .connected)

/-- Gives an idle handle an address. -/
def bind (l : Loop H) (h : HandleId) (address : SocketAddress) : Except LoopError Unit × Loop H :=
  match l.handle? h with
  | .error e => (.error e, l)
  | .ok x =>
    if x.state ≠ .idle then (.error (.invalidState "bind" x.state), l)
    else
      match l.ask (T.bind h address) with
      | (.error status, l) => (.error (.bind status), l)
      | (.ok (), l) => (.ok (), l)

/-- The loop with a read buffer for a handle; one that is there stays. -/
def ensureBuffer (l : Loop H) (h : HandleId) : Loop H :=
  l.modifyHandle h fun x =>
    { x with buffer := some (x.buffer.getD (.ofSize l.options.readBufferSize)) }

/-- Opens a read session. -/
def readStartUntracked (l : Loop H) (h : HandleId) : Except LoopError Unit × Loop H :=
  match l.handle? h with
  | .error e => (.error e, l)
  | .ok x =>
    if !x.state.canRead then (.error (.invalidState "read_start" x.state), l)
    else if x.isReading then (.error .alreadyReading, l)
    else
      let l := l.ensureBuffer h
      match l.acquire h with
      | .error e => (.error e, l)
      | .ok l =>
        match l.ask (T.readStart h) with
        | (.error status, l) => (.error (.transport "read_start" status), l.release h)
        | (.ok (), l) => (.ok (), (l.modifyHandle h ({ · with read := .reading })).wake)

/-- Opens a read session, with samples. -/
def readStart (l : Loop H) (h : HandleId) : Except LoopError Unit × Loop H :=
  l.tracked h .readStart (readStartUntracked T · h)

/-- Leaves a handle's reading in a state other than reading. An open session ends: the transport
stops, whatever it answers, and the session's reference is given back. -/
def endReading (l : Loop H) (h : HandleId) (next : ReadState) : Loop H :=
  match l.handles.get? h with
  | none => l
  | some x =>
    let l := l.modifyHandle h ({ · with read := next })
    if x.isReading then (l.ask (T.readStop h)).2.release h else l

/-- Ends a read session, or forgets that it has ended. -/
def readStopUntracked (l : Loop H) (h : HandleId) : Except LoopError Unit × Loop H :=
  match l.handle? h with
  | .error e => (.error e, l)
  | .ok x => (if x.read = .stopped then .error .notReading else .ok (), l.endReading T h .stopped)

/-- Ends a read session, with samples. -/
def readStop (l : Loop H) (h : HandleId) : Except LoopError Unit × Loop H :=
  l.tracked h .readStop (readStopUntracked T · h)

/-- Writes into the read buffer of a handle, if it has one. -/
def bufferWrite (l : Loop H) (h : HandleId) (offset : Nat) (data : List UInt8) :
    Except LoopError (Option Nat) × Loop H :=
  match l.handle? h with
  | .error e => (.error e, l)
  | .ok x =>
    match x.buffer with
    | none => (.ok none, l)
    | some b =>
      match b.write? offset data with
      | none => (.error .bufferExposed, l)
      | some (n, b) => (.ok (some n), l.modifyHandle h ({ · with buffer := some b }))

/-- Writes into the read buffer of a handle, which may be gone, if it ever had one. -/
def keptWrite (l : Loop H) (h : HandleId) (offset : Nat) (data : List UInt8) :
    Except LoopError (Option Nat) × Loop H :=
  match l.buffer? h with
  | none => (.ok none, l)
  | some b =>
    match b.write? offset data with
    | none => (.error .bufferExposed, l)
    | some (n, b) => (.ok (some n), l.modifyBuffer h fun _ => b)

/-- Enters a request under the next number, with the result that is due
already if it was refused. -/
def enlist (l : Loop H) (request : Request H.Closure) (refusal : Option Completion) : Loop H :=
  { l with requests := l.requests.add request, deferred := l.deferred ++ refusal.toList }

/-- The completion of a request that the transport refused. -/
def refusalOf (completion : Outcome → Completion) : Outcome → Option Completion
  | .ok () => none
  | .error status => some (completion (.error status))

/-- Queues bytes to be written. -/
def writeUntracked (l : Loop H) (h : HandleId) (data : List UInt8) (callback : Callback H.Closure) :
    Except LoopError RequestId × Loop H :=
  match l.handle? h with
  | .error e => (.error e, l)
  | .ok x =>
    if x.state ≠ .connected then (.error (.notWritable "write" x.state), l)
    else
      match l.acquire h with
      | .error e => (.error e, l)
      | .ok l =>
        let req := l.requests.next
        let (outcome, l) := l.ask (T.write req h data)
        (.ok req, (l.enlist (.write h data callback) (refusalOf (.write req) outcome)).wake)

/-- Queues bytes to be written, with samples. -/
def write (l : Loop H) (h : HandleId) (data : List UInt8) (callback : Callback H.Closure) :
    Except LoopError RequestId × Loop H :=
  l.tracked h .write (writeUntracked T · h data callback)

/-- Closes the writable side once all is written. Nothing can be written from now on. -/
def shutdownUntracked (l : Loop H) (h : HandleId) (callback : Callback H.Closure) :
    Except LoopError RequestId × Loop H :=
  match l.handle? h with
  | .error e => (.error e, l)
  | .ok x =>
    if x.state ≠ .connected then (.error (.notWritable "shutdown" x.state), l)
    else
      match l.acquire h with
      | .error e => (.error e, l)
      | .ok l =>
        let l := l.setState h .shuttingDown
        let req := l.requests.next
        let (outcome, l) := l.ask (T.shutdown req h)
        (.ok req, (l.enlist (.shutdown h callback) (refusalOf (.shutdown req) outcome)).wake)

/-- Closes the writable side, with samples. -/
def shutdown (l : Loop H) (h : HandleId) (callback : Callback H.Closure) :
    Except LoopError RequestId × Loop H :=
  l.tracked h .shutdown (shutdownUntracked T · h callback)

/-- Connects an idle handle to a peer. -/
def connectUntracked (l : Loop H) (h : HandleId) (address : SocketAddress) :
    Except LoopError RequestId × Loop H :=
  match l.handle? h with
  | .error e => (.error e, l)
  | .ok x =>
    if x.state ≠ .idle then (.error (.invalidState "connect" x.state), l)
    else
      match l.acquire h with
      | .error e => (.error e, l)
      | .ok l =>
        let req := l.requests.next
        match l.ask (T.connect req h address) with
        | (.error status, l) => (.error (.transport "connect" status), l.release h)
        | (.ok (), l) => (.ok req, ((l.enlist (.connect h) none).setState h .connecting).wake)

/-- Connects an idle handle to a peer, with samples. -/
def connect (l : Loop H) (h : HandleId) (address : SocketAddress) :
    Except LoopError RequestId × Loop H :=
  l.tracked h .connect (connectUntracked T · h address)

/-- Marks a handle for reclaim, which is due at once when no reference is held. -/
def markClosing (l : Loop H) (h : HandleId) : Loop H :=
  match l.handles.get? h with
  | none => l
  | some x =>
    let l := l.modifyHandle h ({ · with closing := true })
    if x.refs = 0 then { l with closing := l.closing ++ [h] } else l

/-- Gives back the reference of a server that listens. -/
def endListening (l : Loop H) (h : HandleId) : Loop H :=
  match l.handles.get? h with
  | none => l
  | some x =>
    if x.listenRef then (l.modifyHandle h ({ · with listenRef := false })).release h else l

/-- Closes a handle: its reading and listening end now, and it is reclaimed once
no request is pending. -/
def closeUntracked (l : Loop H) (h : HandleId) (onClose : H.Closure) :
    Except LoopError Unit × Loop H :=
  match l.handle? h with
  | .error e => (.error e, l)
  | .ok x =>
    if x.closing then (.error (.closing h), l)
    else
      let l := (l.endReading T h .stopped).endListening h
      let l := (l.ask (T.close h)).2
      let l := l.modifyHandle h ({ · with onClose := some onClose, state := .closing })
      (.ok (), (l.markClosing h).wake)

/-- Closes a handle, with samples. -/
def close (l : Loop H) (h : HandleId) (onClose : H.Closure) : Except LoopError Unit × Loop H :=
  l.tracked h .close (closeUntracked T · h onClose)

/-- Makes the run in progress return after its tick. -/
def stop (l : Loop H) : Loop H := { l with stopping := true }.wake

/-- The answer of an operation and the loop after it. -/
def issue (l : Loop H) : (o : Operation H.Closure) → o.Answer × Loop H
  | .newHandle kind => l.newHandle T kind
  | .on h event listener => l.on h event listener
  | .accept server client => l.accept T server client
  | .adopt h => l.adopt T h
  | .bind h address => l.bind T h address
  | .readStart h => l.readStart T h
  | .readStop h => l.readStop T h
  | .bufferWrite h offset data => l.bufferWrite h offset data
  | .keptWrite h offset data => l.keptWrite h offset data
  | .write h data callback => l.write T h data callback
  | .shutdown h callback => l.shutdown T h callback
  | .connect h address => l.connect T h address
  | .close h onClose => l.close T h onClose
  | .stop => ((), l.stop)
  | .forgetWake => ((), { l with woken := false })

end Reactor.Loop
