import Reactor.LoopError

/-!
# Events

What happens to a handle is told to its listeners as an event. A closure of the embedder is entered
on an occasion: an event of a handle, the completion of one of its requests, or the end of its life.
-/

namespace Reactor

/-- The name of an event, for which listeners are registered. -/
inductive EventName where
  | listening
  | connection
  | connect
  | data
  | endOfStream
  | error
  | close
  deriving DecidableEq, Repr

/-- Every name, in the order of a stream's life. -/
def EventName.all : List EventName :=
  [.listening, .connection, .connect, .data, .endOfStream, .error, .close]

/-- A name in words. -/
def EventName.describe : EventName → String
  | .listening => "listening"
  | .connection => "connection"
  | .connect => "connect"
  | .data => "data"
  | .endOfStream => "end"
  | .error => "error"
  | .close => "close"

/-- An event of a handle. -/
inductive Event where
  | listening
  | connection
  | connect
  /-- Bytes lent from the read buffer. The count that goes with them is always their number, and
  therefore left out. -/
  | data (view : List UInt8)
  | endOfStream
  | error (failure : Failure)
  | close
  deriving DecidableEq, Repr

/-- The name of an event. -/
def Event.name : Event → EventName
  | .listening => .listening
  | .connection => .connection
  | .connect => .connect
  | .data _ => .data
  | .endOfStream => .endOfStream
  | .error _ => .error
  | .close => .close

/-- The outcome of a request as its callback hears of it. -/
abbrev RequestOutcome := Except Failure Unit

/-- Why a closure is entered, and for which handle. -/
inductive Occasion where
  | event (h : HandleId) (e : Event)
  | completed (h : HandleId) (outcome : RequestOutcome)
  | closed (h : HandleId)

/-- The handle that an occasion belongs to. -/
def Occasion.handle : Occasion → HandleId
  | .event h _ | .completed h _ | .closed h => h

/-- A closure registered for an event of a handle. -/
structure Listener (κ : Type) where
  handle : HandleId
  event : EventName
  closure : κ
  deriving Repr

/-- What is done when a request completes: a closure is entered, or the
request's future is settled. -/
inductive Callback (κ : Type) where
  | closure (c : κ)
  | promise
  deriving Repr

/-- A request whose completion is awaited. Each holds a reference to its handle. -/
inductive Request (κ : Type) where
  | write (h : HandleId) (data : List UInt8) (callback : Callback κ)
  | shutdown (h : HandleId) (callback : Callback κ)
  | connect (h : HandleId)
  deriving Repr

/-- The handle of a request. -/
def Request.handle {κ : Type} : Request κ → HandleId
  | .write h _ _ | .shutdown h _ | .connect h => h

/-- A request's future: its outcome once it is there. -/
structure Future where
  request : RequestId
  /-- The place that a failure names when the loop is gone before the request completed. -/
  place : String
  deriving DecidableEq, Repr

end Reactor
