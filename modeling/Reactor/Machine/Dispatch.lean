import Reactor.Machine

/-!
# The items of a tick

What a tick does with one completion, with one handle to read from, and with one handle to
reclaim. Each leaves the machine with the tick on top of the stack, about to go on, or with a
handler to be entered above it.
-/

namespace Reactor.Machine

variable {H : Host} (T : Transport H.Net H.Script)

/-- The outcome of a request as its callback hears of it. -/
def outcomeAt (place : String) : Outcome → RequestOutcome
  | .ok () => .ok ()
  | .error status => .error ⟨status, place⟩

/-- Tells a request's outcome to its callback, on top of the tick that found it. A
future is settled at once. -/
def deliver (l : Loop H) (stack : List (Frame H)) (req : RequestId) (h : HandleId)
    (callback : Callback H.Closure) (outcome : RequestOutcome) : Machine H :=
  match callback with
  | .closure c =>
    { loop := l, stack := .delivering req h :: stack, control := .enter c (.completed h outcome) }
  | .promise =>
    { loop := { l with settled := (req, outcome) :: l.settled }.release h, stack,
      control := .advance }

/-- A shutdown's outcome in the state of its handle. -/
def settleShutdown (l : Loop H) (h : HandleId) (succeeded : Bool) : Loop H :=
  match l.handles.get? h with
  | some x =>
    if x.state = .shuttingDown then
      l.setState h (if succeeded then .shutDown else .connected)
    else l
  | none => l

/-- Whether a handle is in a state. -/
def hasState (l : Loop H) (h : HandleId) (state : StreamState) : Bool :=
  (l.handles.get? h).any (·.state = state)

/-- The completion of a request. It leaves the table before any handler hears of it, and what it is
follows from the table, not from the report. A request that is not there is passed over. -/
def complete (l : Loop H) (stack : List (Frame H)) (req : RequestId) (status : Outcome) :
    Machine H :=
  match l.requests.get? req with
  | none => { loop := l, stack, control := .advance }
  | some request =>
    let l := { l with requests := l.requests.remove req }
    match request with
    | .write h _ callback =>
      let outcome := outcomeAt "after_write" status
      deliver (l.meterAsync h .write outcome.isOk) stack req h callback outcome
    | .shutdown h callback =>
      let outcome := outcomeAt "after_shutdown" status
      let l := settleShutdown (l.meterAsync h .shutdown outcome.isOk) h outcome.isOk
      deliver l stack req h callback outcome
    | .connect h =>
      let outcome := outcomeAt "after_connect" status
      let l := l.meterAsync h .connect outcome.isOk
      if hasState l h .connecting then
        let stack := .connecting req h :: stack
        match outcome with
        | .ok () => { loop := l.setState h .connected, stack, control := .emit h .connect }
        | .error failure =>
          { loop := l.setState h .idle, stack, control := .emit h (.error failure) }
      else { loop := l.release h, stack, control := .advance }

/-- The report of a connection, which counts only while its handle listens. -/
def connection (l : Loop H) (stack : List (Frame H)) (server : HandleId) (status : Outcome) :
    Machine H :=
  if hasState l server .listening then
    let event := match status with
      | .ok () => .connection
      | .error status => .error ⟨status, "on_connection"⟩
    { loop := l.meterAsync server .listen status.isOk, stack, control := .emit server event }
  else { loop := l, stack, control := .advance }

/-- One completion. -/
def dispatch (l : Loop H) (stack : List (Frame H)) : Completion → Machine H
  | .connection server status => connection l stack server status
  | .write req status | .shutdown req status | .connect req status => complete l stack req status

/-- The buffer after a read put bytes at its start. -/
def fillBuffer (l : Loop H) (h : HandleId) (b : ReadBuffer) (bytes : List UInt8) : Loop H :=
  l.modifyHandle h ({ · with buffer := some (b.overwrite 0 bytes) })

/-- The loop with a handle's buffer lent out or taken back. -/
def expose (l : Loop H) (h : HandleId) (exposed : Bool) : Loop H :=
  l.modifyBuffer h ({ · with exposed })

/-- One read of a handle in a pass. A handle that is gone or does not read is passed over. A buffer
that is lent out breaks off the reads; what was read is lent out while listeners hear of it. The end
of the stream and an error end the read session. -/
def readOne (l : Loop H) (stack : List (Frame H)) (t : Tick) (passes : Nat) (rest : List HandleId)
    (productive : Bool) (h : HandleId) : Machine H :=
  let idle (l : Loop H) := ofTick stack { t with stage := .reads passes rest productive } l
  match l.handles.get? h with
  | none => idle l
  | some x =>
    if !x.isReading then idle l
    else
      let b := x.buffer.getD (.ofSize l.options.readBufferSize)
      if b.exposed then ofTick stack (t.record .bufferExposed).abandonReads l
      else
        let ((status, bytes), l) := l.ask (T.read t.waker h b.size)
        let l := fillBuffer l h b bytes
        let stack := .tick { t with stage := .reads passes rest true } :: stack
        match status with
        | .pending | .data 0 => idle l
        | .data n =>
          let view := (b.overwrite 0 bytes).view n
          { loop := expose (l.meterAsync h .read true) h true
            stack := .lending h view :: stack
            control := .emit h (.data view) }
        | .eof => { loop := l.endReading T h .ended, stack, control := .emit h .endOfStream }
        | .failed status =>
          let l := (l.meterAsync h .read false).endReading T h .ended
          { loop := l, stack, control := .emit h (.error ⟨status, "on_read"⟩) }

/-- The loop after a handle left the table. Its read buffer stays with whoever holds it. -/
def takeHandle (l : Loop H) (h : HandleId) (x : Handle H.Closure) : Loop H :=
  { l with handles := l.handles.remove h, kept := x.buffer.elim l.kept (l.kept.insert h) }

/-- One handle to reclaim: it leaves the table, and then its listeners and its last callback hear of
it. A handle that is gone is passed over. -/
def reclaimOne (l : Loop H) (stack : List (Frame H)) (h : HandleId) : Machine H :=
  match l.handles.get? h with
  | none => { loop := l, stack, control := .advance }
  | some x =>
    if !x.closing || x.refs ≠ 0 then
      { loop := { l with breach := some (.reclaimOfHeld h) }, stack, control := .advance }
    else
      { loop := (takeHandle l h x).meterAsync h .close true
        stack := .reclaiming h x.onClose :: stack
        control := .emit h .close }

end Reactor.Machine
