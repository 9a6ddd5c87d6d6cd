import Reactor.Event
import Reactor.Metrics
import Reactor.Transport

/-!
# Handlers as programs

A handler is a closure of the embedder. Entered on an occasion it runs a program: a tree of
calls on the loop, each followed by what is done with its answer. A program ends with no error
or with one; whoever entered the closure decides what an error means. Programs are data, so a
statement about every handler is one about every program, and what a handler does to the loop
is no more than its calls.
-/

namespace Reactor

/-- The types that an embedder brings along. -/
structure Host where
  /-- States of the transport. -/
  Net : Type
  /-- What the far side of the transport can be told. -/
  Script : Type
  /-- What the handlers share. -/
  Shared : Type
  /-- What a handler may note in the journal. -/
  Note : Type
  /-- The closures that are registered as handlers. -/
  Closure : Type

/-- How long a run of the loop goes on. -/
inductive RunMode where
  /-- Until nothing is alive, the loop is stopped, or a tick finds nothing to do. -/
  | default
  /-- For one tick. -/
  | once
  /-- For one tick, without waiting. -/
  | noWait
  deriving DecidableEq, Repr

/-- Every mode, in the order of their numbers. -/
def RunMode.all : List RunMode := [.default, .once, .noWait]

/-- The number that stands for a mode. -/
def RunMode.number : RunMode → Nat
  | .default => 0
  | .once => 1
  | .noWait => 2

/-- A question to the loop; asking changes nothing. -/
inductive Query where
  | state (h : HandleId)
  | kind (h : HandleId)
  | isReading (h : HandleId)
  | refCount (h : HandleId)
  | pendingRequests (h : HandleId)
  | handleCount
  /-- The number of handles ever created. -/
  | created
  | alive
  | options
  | readBuffer (h : HandleId)
  /-- The read buffer that was had of a handle before, which may be gone by now. -/
  | keptBuffer (h : HandleId)
  | localAddress (h : HandleId)
  | listenerCount (h : HandleId) (event : EventName)
  | writeQueueSize (h : HandleId)
  /-- Whether the task was woken. -/
  | woken
  /-- The outcome of a future, if it is settled. -/
  | future (f : Future)

/-- The type of a question's answer. -/
def Query.Answer : Query → Type
  | .state _ => Except LoopError StreamState
  | .kind _ => Except LoopError HandleKind
  | .isReading _ | .alive | .woken => Bool
  | .refCount _ => Option Nat
  | .pendingRequests _ | .handleCount | .created | .listenerCount _ _ => Nat
  | .options => Options
  | .readBuffer _ => Except LoopError (Option ReadBuffer)
  | .keptBuffer _ => Option ReadBuffer
  | .localAddress _ => Except LoopError SocketAddress
  | .writeQueueSize _ => Except LoopError Nat
  | .future _ => Option RequestOutcome

/-- An operation that runs no handler before it returns. -/
inductive Operation (κ : Type) where
  | newHandle (kind : HandleKind)
  | on (h : HandleId) (event : EventName) (listener : κ)
  | accept (server client : HandleId)
  | adopt (h : HandleId)
  | bind (h : HandleId) (address : SocketAddress)
  | readStart (h : HandleId)
  | readStop (h : HandleId)
  /-- Writes into the read buffer of a handle. -/
  | bufferWrite (h : HandleId) (offset : Nat) (data : List UInt8)
  /-- Writes into the read buffer that was had of a handle before, which may be gone by now. -/
  | keptWrite (h : HandleId) (offset : Nat) (data : List UInt8)
  | write (h : HandleId) (data : List UInt8) (callback : Callback κ)
  | shutdown (h : HandleId) (callback : Callback κ)
  | connect (h : HandleId) (address : SocketAddress)
  | close (h : HandleId) (onClose : κ)
  /-- Makes the run in progress return after its tick. -/
  | stop
  /-- Forgets that the task was woken. -/
  | forgetWake

/-- The type of an operation's answer. -/
def Operation.Answer {κ : Type} : Operation κ → Type
  | .newHandle _ => HandleId
  | .on .. | .accept .. | .adopt _ | .bind .. | .readStart _ | .readStop _ | .close .. =>
    Except LoopError Unit
  | .bufferWrite .. | .keptWrite .. => Except LoopError (Option Nat)
  | .write .. | .shutdown .. | .connect .. => Except LoopError RequestId
  | .stop | .forgetWake => Unit

/-- A call of a handler on the loop or on what surrounds it. -/
inductive Call (H : Host) where
  | ask (q : Query)
  | issue (o : Operation H.Closure)
  /-- Starts to accept connections; the handle's listeners hear of it before the call returns. -/
  | listen (h : HandleId) (backlog : Option Nat) (onConnection : H.Closure)
  /-- One iteration of the loop; the answer says whether anything was done. -/
  | tick (w : Waker)
  /-- Iterations of the loop; the answer says whether it is still alive. -/
  | run (mode : RunMode)
  /-- One iteration on behalf of a task; the answer says whether the task is done with the loop. -/
  | poll (w : Waker)
  /-- Tells the far side of the transport what to do. -/
  | script (s : H.Script)
  /-- Looks at the state of the transport. -/
  | survey
  | note (n : H.Note)
  | recall
  | update (f : H.Shared → H.Shared)

/-- The type of a call's answer. -/
def Call.Answer {H : Host} : Call H → Type
  | .ask q => q.Answer
  | .issue o => o.Answer
  | .listen .. => Except LoopError Unit
  | .tick _ | .run _ | .poll _ => Except LoopError Bool
  | .script _ | .note _ | .update _ => Unit
  | .survey => H.Net
  | .recall => H.Shared

/-- What a handler does: it ends, with or without an error, or calls and goes on with the answer. -/
inductive Program (H : Host) where
  | done (failure : Option ListenerError)
  | call (c : Call H) (next : c.Answer → Program H)

namespace Program

variable {H : Host}

/-- Does nothing. -/
def skip : Program H := .done none

/-- Fails with an error of an operation. -/
def refuse (e : LoopError) : Program H := .done (some (.operation e))

/-- Goes on with the value of a call that succeeded; an error of the call ends the program. -/
def orRefuse {α : Type} (next : α → Program H) : Except LoopError α → Program H
  | .ok a => next a
  | .error e => .refuse e

end Program

/-- What each closure does on each occasion. -/
abbrev Handlers (H : Host) := H.Closure → Occasion → Program H

end Reactor
