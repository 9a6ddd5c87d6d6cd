import Reactor.Echo
import Reactor.Executor
import Reactor.Json.Value
import Reactor.Registry
import Reactor.Transport.Injected
import Reactor.Transport.Memory

/-!
# Steps of a scenario

A scenario exercises a loop step by step. The handlers that it registers are described by steps of
the same kind, so that what happens inside a handler is written down as data.
-/

namespace Reactor.Scenario

/-- The handle that a step is about. -/
inductive Target where
  | number (h : HandleId)
  /-- The handle created last; the first one if none was. -/
  | last
  /-- The handle that the running handler belongs to. -/
  | own
  deriving DecidableEq, Repr

/-- What a scenario calls a handler by. -/
abbrev Tag := Json.Value

/-- What a handler of the scenario does when it is entered. -/
structure Reaction (σ : Type) where
  tag : Tag := .null
  steps : List σ := []
  /-- The text of the error that the handler ends with. -/
  failure : Option String := none
  /-- Whether a step's error ends the handler and becomes its own. -/
  passesErrors : Bool := false
  /-- How often the handler does anything. -/
  times : Option Nat := none
  /-- The bytes of the event without which the handler does nothing. -/
  only : Option (List UInt8) := none
  deriving Inhabited

/-- The number under which a future is kept. -/
abbrev Slot := Nat

/-- A step of a scenario. -/
inductive Step where
  | new (kind : HandleKind)
  | state (h : Target)
  | kind (h : Target)
  | isReading (h : Target)
  | refCount (h : Target)
  | pendingRequests (h : Target)
  | handleCount
  | alive
  | loopOptions
  | readBuffer (h : Target)
  | bufferWrite (h : Target) (offset : Nat) (data : List UInt8)
  | localAddress (h : Target)
  | on (h : Target) (event : EventName) (reaction : Reaction Step)
  /-- Registers a handler that only notes, for every event. -/
  | record (h : Target) (tag : Tag)
  | listenerCount (h : Target) (event : EventName)
  | listen (h : Target) (backlog : Option Nat) (reaction : Reaction Step)
  /-- Listens as the echo server. -/
  | listenEcho (h : Target) (backlog : Option Nat)
  /-- Looks at the bytes of the running event. -/
  | view
  | accept (server client : Target)
  | adopt (h : Target)
  | bind (h : Target) (address : SocketAddress)
  | readStart (h : Target)
  | readStop (h : Target)
  /-- Writes bytes, or those of the running event. -/
  | write (h : Target) (data : Option (List UInt8)) (reaction : Reaction Step)
  | shutdown (h : Target) (reaction : Reaction Step)
  | writeAsync (h : Target) (data : Option (List UInt8)) (slot : Slot)
  | shutdownAsync (h : Target) (slot : Slot)
  | pollFuture (slot : Slot)
  | dropFuture (slot : Slot)
  | writeQueueSize (h : Target)
  | connect (h : Target) (address : SocketAddress)
  | close (h : Target) (reaction : Reaction Step)
  | run (mode : RunMode)
  | tick
  | pollLoop
  /-- Polls the loop while the task is woken. -/
  | runLoop
  | woken
  | stop
  | dropLoop
  /-- Tells the far side what to do, on a handle. -/
  | script (h : Target) (s : Memory.Script)
  /-- Looks at what the transport keeps of a handle. -/
  | report (h : Target)
  /-- Injects an answer, on a handle. -/
  | inject (h : Target) (i : Injection)
  deriving Inhabited

/-- A script's instruction on another handle. -/
def scriptOn (h : HandleId) : Memory.Script → Memory.Script
  | .pushConnection _ => .pushConnection h
  | .pushConnectionError _ status => .pushConnectionError h status
  | .pushData _ data => .pushData h data
  | .pushEof _ => .pushEof h
  | .pushReadError _ status => .pushReadError h status
  | s => s

/-- An injection on another handle. -/
def injectionOn (h : HandleId) : Injection → Injection
  | .read _ status => .read h status
  | .completion (.connection _ outcome) => .completion (.connection h outcome)
  | i => i

/-- What a transport in memory shows of a handle. -/
structure Report where
  written : List UInt8 := []
  shut : Bool := false
  reading : Bool := false
  closed : Bool := false
  backlog : Option Nat := none
  connections : Nat := 0
  deriving DecidableEq, Repr

/-- The answer of a step. -/
inductive Answer where
  | ok
  | nothing
  | number (n : Nat)
  | flag (b : Bool)
  | state (s : StreamState)
  | kind (k : HandleKind)
  | options (o : Options)
  | address (a : SocketAddress)
  | buffer (size : Nat) (exposed : Bool)
  | view (bytes : List UInt8)
  | report (r : Report)
  /-- Whether the task is done with the loop. -/
  | ready (b : Bool)
  | polling (p : Polling)
  | refused (e : LoopError)
  /-- A future has failed. -/
  | failed (f : Failure)
  /-- A future is not settled. -/
  | pending
  /-- There is no such future. -/
  | noFuture
  /-- The loop is gone. -/
  | dropped

/-- What a handler was registered for. -/
inductive Role where
  | listener
  | connection
  | written
  | shut
  | closed
  deriving DecidableEq, Repr

/-- What a scenario writes into the journal. -/
inductive Note where
  | event (tag : Tag) (h : HandleId) (e : Event)
  | connection (tag : Tag) (server : HandleId)
  | completed (tag : Tag) (h : HandleId) (role : Role) (outcome : RequestOutcome)
  | closed (tag : Tag) (h : HandleId)
  /-- A running handler did a step. -/
  | did (step : Step) (answer : Answer)

/-- A handler of a scenario: a reaction with the number of its counter, or one
of the echo server's. -/
inductive Closure where
  | reaction (role : Role) (r : Reaction Step) (counter : Nat)
  | echo (c : Echo.Closure)

/-- What the handlers of a scenario share. -/
structure Shared where
  /-- How often each handler was entered and did not pass by. -/
  calls : Registry Nat := {}
  /-- The futures that are kept. -/
  futures : List (Slot × Future) := []
  /-- The answer of the scenario's own step. -/
  answer : Answer := .nothing

/-- The host of scenarios over a transport with the given states. -/
def host (σ : Type) : Host where
  Net := Injected σ
  Script := InjectedScript Memory.Script
  Shared := Shared
  Note := Note
  Closure := Closure

end Reactor.Scenario
