import Reactor.Loop.Operations
import Reactor.Tick

/-!
# The machine that runs a loop

Handlers run in the middle of the loop's own work and may call the loop again, ticks included. The
machine makes this explicit: the work that is suspended stands on a stack of frames, innermost
first, and every step takes the innermost work a little further. A reference that belongs to work in
progress is visible in its frame, and so is the part of a buffer that is lent out.
-/

namespace Reactor

/-- Work that is suspended until the work above it on the stack has returned. -/
inductive Frame (H : Host) where
  /-- An event is told to listeners, of which these are left. -/
  | emission (h : HandleId) (e : Event) (rest : List H.Closure)
  /-- The callback of a request runs; the request's reference is given back after it. -/
  | delivering (req : RequestId) (h : HandleId)
  /-- The outcome of a connect is told; the request's reference is given back after it. -/
  | connecting (req : RequestId) (h : HandleId)
  /-- The bytes at the start of a handle's read buffer are lent out. -/
  | lending (h : HandleId) (view : List UInt8)
  /-- The end of a handle is told to its listeners; its last callback follows. -/
  | reclaiming (h : HandleId) (onClose : Option H.Closure)
  /-- The last callback of a handle runs, after its listeners have returned this. -/
  | parting (h : HandleId) (failure : Option ListenerError)
  /-- A tick is in progress. -/
  | tick (t : Tick)
  /-- A handler waits for a call of `listen` to return. -/
  | listening (h : HandleId) (next : Except LoopError Unit → Program H)
  /-- A handler waits for a tick. -/
  | ticking (next : Except LoopError Bool → Program H)
  /-- A handler waits for a run of the loop. -/
  | running (mode : RunMode) (next : Except LoopError Bool → Program H)
  /-- A handler waits for an iteration on behalf of a task. -/
  | polling (w : Waker) (next : Except LoopError Bool → Program H)

/-- What the machine does next. -/
inductive Control (H : Host) where
  /-- Goes on with a program. -/
  | run (p : Program H)
  /-- Enters a handler. -/
  | enter (c : H.Closure) (o : Occasion)
  /-- Tells an event to the listeners that a handle has now. -/
  | emit (h : HandleId) (e : Event)
  /-- Returns to the work below, from a handler or from telling an event. -/
  | returned (failure : Option ListenerError)
  /-- Goes on with the tick on top of the stack. -/
  | advance
  /-- Returns from a tick. -/
  | ticked (result : Except LoopError Bool)

/-- A loop, the work that is suspended, innermost first, and what is done next. -/
structure Machine (H : Host) where
  loop : Loop H
  stack : List (Frame H) := []
  control : Control H

namespace Machine

variable {H : Host}

/-- A tick on top of the stack, about to go on. -/
def ofTick (stack : List (Frame H)) (t : Tick) (l : Loop H) : Machine H :=
  { loop := l, stack := .tick t :: stack, control := .advance }

/-- A tick at its start. -/
def beginTick (stack : List (Frame H)) (l : Loop H) (w : Waker) : Machine H :=
  let (t, l) := l.beginTick w
  ofTick stack t l

/-- A program that goes on. -/
def ofProgram (stack : List (Frame H)) (p : Program H) (l : Loop H) : Machine H :=
  { loop := l, stack, control := .run p }

/-- A program on a loop that nothing else is at work on. -/
def start (p : Program H) (l : Loop H) : Machine H := ofProgram [] p l

/-- Whether the machine rests: a program has ended and no work is suspended. -/
def atRest (m : Machine H) : Bool :=
  match m.control, m.stack with
  | .returned _, [] => true
  | _, _ => false

end Machine

end Reactor
