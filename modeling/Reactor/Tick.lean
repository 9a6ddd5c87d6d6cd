import Reactor.Loop

/-!
# Ticks

One iteration of a loop in three phases: results that were there when an operation was issued, then
what the transport reports and what can be read, then the handles that are due to be reclaimed. An
error of a listener does not interrupt a tick; the first one is its result. The value of a tick in
progress says what is left of the phase that it is in.
-/

namespace Reactor

/-- A phase of a tick. -/
inductive Phase where
  | pendingCallbacks
  | poll
  | closeCallbacks
  deriving DecidableEq, Repr

/-- Every phase, in order. -/
def Phase.all : List Phase := [.pendingCallbacks, .poll, .closeCallbacks]

/-- What is left of a tick before its next phase or the next part of it. -/
inductive Stage where
  /-- Results that were there when an operation was issued. -/
  | deferred (batch : List Completion)
  /-- What the transport has reported. -/
  | completions (batch : List Completion)
  /-- The handles that are left in this pass of reads, whether a read of the pass has found
  something, and how many passes may follow. -/
  | reads (passes : Nat) (rest : List HandleId) (productive : Bool)
  /-- Handles to reclaim. -/
  | reclaims (batch : List HandleId)

/-- The phase that a stage belongs to. -/
def Stage.phase : Stage → Phase
  | .deferred _ => .pendingCallbacks
  | .completions _ | .reads .. => .poll
  | .reclaims _ => .closeCallbacks

/-- A tick in progress. -/
structure Tick where
  waker : Waker
  stage : Stage
  /-- Whether anything was done. -/
  worked : Bool := false
  /-- The first error. -/
  error : Option LoopError := none

namespace Tick

/-- The tick after an error; the first one stays. -/
def record (t : Tick) (e : LoopError) : Tick := { t with error := some (t.error.getD e) }

/-- The tick after its reads were broken off. -/
def abandonReads (t : Tick) : Tick := { t with stage := .reads 0 [] false }

/-- The tick after a listener's result. A failed listener of a read breaks off
the reads of the tick. -/
def note (t : Tick) : Option ListenerError → Tick
  | none => t
  | some cause =>
    let t := t.record (.listener cause)
    match t.stage with
    | .reads .. => t.abandonReads
    | _ => t

/-- The result of a tick: its first error, or whether anything was done. -/
def result (t : Tick) : Except LoopError Bool :=
  match t.error with
  | some e => .error e
  | none => .ok t.worked

end Tick

namespace Loop

variable {H : Host}

/-- A tick at its start, and the loop after the results that are due were handed to it. -/
def beginTick (l : Loop H) (w : Waker) : Tick × Loop H :=
  ({ waker := w, stage := .deferred l.deferred, worked := !l.deferred.isEmpty },
    { l with deferred := [] })

/-- A tick that goes on with what the transport reports. -/
def beginCompletions (T : Transport H.Net H.Script) (l : Loop H) (t : Tick) : Tick × Loop H :=
  let (batch, l) := l.ask (T.collect t.waker)
  ({ t with stage := .completions batch, worked := t.worked || !batch.isEmpty }, l)

/-- A tick that goes on with a pass of reads over the handles that are there now. -/
def beginPass (l : Loop H) (t : Tick) (passes : Nat) : Tick :=
  { t with stage := .reads (passes - 1) l.handles.ids false }

/-- A tick that goes on with the handles that are due to be reclaimed. -/
def beginReclaims (l : Loop H) (t : Tick) : Tick × Loop H :=
  ({ t with stage := .reclaims l.closing, worked := t.worked || !l.closing.isEmpty },
    { l with closing := [] })

end Loop

end Reactor
