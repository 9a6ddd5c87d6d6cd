import Reactor.Host
import Reactor.Registry
import Reactor.SortedMap

/-!
# The state of a loop

The handles, the requests that wait for their completion, the listeners, the results that are due in
the next tick, and the handles that are due to be reclaimed. A reference keeps a closing handle from
being reclaimed; a read session, a listening server, and every request hold one each.
-/

namespace Reactor

/-- A breach of the counting of references, after which a loop does not go on. -/
inductive Breach where
  /-- A reference to a handle that is gone was given back. -/
  | releaseOfMissing (h : HandleId)
  /-- More references were given back than were taken. -/
  | releaseOfFree (h : HandleId)
  /-- A handle was reclaimed while it was in use. -/
  | reclaimOfHeld (h : HandleId)
  deriving DecidableEq, Repr

/-- A loop with the state of its transport and what surrounds it. -/
structure Loop (H : Host) where
  options : Options
  handles : Registry (Handle H.Closure) := {}
  requests : Registry (Request H.Closure) := {}
  /-- The listeners in the order of their registration. -/
  listeners : List (Listener H.Closure) := []
  net : H.Net
  /-- Results that were there when an operation was issued, due in the next tick. -/
  deferred : List Completion := []
  /-- Closing handles without references, due to be reclaimed. -/
  closing : List HandleId := []
  /-- The read buffers of handles that are gone; whoever holds one can still use it. -/
  kept : SortedMap HandleId ReadBuffer := .empty
  /-- Whether the run in progress is to return after its tick. -/
  stopping : Bool := false
  /-- Whom to wake when an operation makes work. -/
  waker : Waker := .idle
  /-- Whether the task was woken since it last forgot. -/
  woken : Bool := false
  /-- The outcomes of futures, newest first. -/
  settled : List (RequestId × RequestOutcome) := []
  shared : H.Shared
  /-- Samples and notes, newest first. -/
  journal : List (Entry H.Note) := []
  breach : Option Breach := none

namespace Loop

variable {H : Host}

/-- A handle, or the error of an operation on a handle that is not there. -/
def handle? (l : Loop H) (h : HandleId) : Except LoopError (Handle H.Closure) :=
  match l.handles.get? h with
  | some x => .ok x
  | none => .error (.badHandle h)

/-- The loop with a handle changed. -/
def modifyHandle (l : Loop H) (h : HandleId) (f : Handle H.Closure → Handle H.Closure) : Loop H :=
  { l with handles := l.handles.modify h f }

/-- The loop with a handle in another state. -/
def setState (l : Loop H) (h : HandleId) (state : StreamState) : Loop H :=
  l.modifyHandle h ({ · with state })

/-- The read buffer of a handle, which outlives the handle. -/
def buffer? (l : Loop H) (h : HandleId) : Option ReadBuffer :=
  match l.handles.get? h with
  | some x => x.buffer
  | none => l.kept.get? h

/-- The loop with the read buffer of a handle changed, if there is one. -/
def modifyBuffer (l : Loop H) (h : HandleId) (f : ReadBuffer → ReadBuffer) : Loop H :=
  { l.modifyHandle h fun x => { x with buffer := x.buffer.map f } with kept := l.kept.modify h f }

/-- The loop after a waker was used. -/
def wakeBy (l : Loop H) (w : Waker) : Loop H := { l with woken := l.woken || w = .task }

/-- The loop after its own waker was used, which is then gone. -/
def wake (l : Loop H) : Loop H := { l.wakeBy l.waker with waker := .idle }

/-- The answer of a primitive of the transport, and the loop after it. -/
def ask {α : Type} (l : Loop H) (primitive : H.Net → Reply H.Net α) : α × Loop H :=
  let reply := primitive l.net
  (reply.answer, { l with net := reply.net, woken := l.woken || reply.wakes })

/-- The loop after every collector was told of an operation's progress. -/
def meter (l : Loop H) (h : HandleId) (op : StreamOp) (progress : Progress) : Loop H :=
  let entries := l.options.collectors.map fun c => Entry.sample c ⟨h, op, progress⟩
  { l with journal := entries.reverse ++ l.journal }

/-- The loop after every collector was told of a result that arrived later. -/
def meterAsync (l : Loop H) (h : HandleId) (op : StreamOp) (succeeded : Bool) : Loop H :=
  l.meter h op (if succeeded then .completedAsync else .errorAsync)

/-- A call with samples of its start and of how it ended. -/
def tracked {α : Type} (l : Loop H) (h : HandleId) (op : StreamOp)
    (body : Loop H → Except LoopError α × Loop H) : Except LoopError α × Loop H :=
  match body (l.meter h op .dispatched) with
  | (.ok a, l) => (.ok a, l.meter h op .completed)
  | (.error e, l) => (.error e, l.meter h op .error)

/-- Takes a reference to a handle, unless it is closing. -/
def acquire (l : Loop H) (h : HandleId) : Except LoopError (Loop H) :=
  match l.handles.get? h with
  | none => .error (.badHandle h)
  | some x =>
    if x.closing then .error (.closing h)
    else .ok (l.modifyHandle h fun x => { x with refs := x.refs + 1 })

/-- Gives a reference back. The last one of a closing handle makes it due to be reclaimed. -/
def release (l : Loop H) (h : HandleId) : Loop H :=
  match l.handles.get? h with
  | none => { l with breach := some (.releaseOfMissing h) }
  | some x =>
    if x.refs = 0 then { l with breach := some (.releaseOfFree h) }
    else
      let l := l.modifyHandle h fun x => { x with refs := x.refs - 1 }
      if x.refs = 1 ∧ x.closing then { l with closing := l.closing ++ [h] } else l

/-- The closures registered for an event of a handle, in order. -/
def listenersOf (l : Loop H) (h : HandleId) (event : EventName) : List H.Closure :=
  l.listeners.filterMap fun x => if x.handle = h ∧ x.event = event then some x.closure else none

/-- The loop with one more listener. -/
def addListener (l : Loop H) (h : HandleId) (event : EventName) (closure : H.Closure) : Loop H :=
  { l with listeners := l.listeners ++ [⟨h, event, closure⟩] }

/-- The loop without the listeners of a handle. -/
def removeListeners (l : Loop H) (h : HandleId) : Loop H :=
  { l with listeners := l.listeners.filter (·.handle ≠ h) }

/-- The number of requests of a handle that wait for their completion. -/
def pendingRequests (l : Loop H) (h : HandleId) : Nat :=
  (l.requests.values.filter (·.handle = h)).length

/-- Whether anything is referenced, pending, or due. -/
def alive (l : Loop H) : Bool :=
  l.handles.values.any (0 < ·.refs) || !l.requests.isEmpty || !l.deferred.isEmpty ||
    !l.closing.isEmpty

/-- The answer to a question. -/
def answer (T : Transport H.Net H.Script) (l : Loop H) : (q : Query) → q.Answer
  | .state h => (l.handle? h).map (·.state)
  | .kind h => (l.handle? h).map (·.kind)
  | .isReading h => (l.handles.get? h).any (·.isReading)
  | .refCount h => (l.handles.get? h).map (·.refs)
  | .pendingRequests h => l.pendingRequests h
  | .handleCount => l.handles.size
  | .created => l.handles.next
  | .alive => l.alive
  | .options => l.options
  | .readBuffer h => (l.handle? h).map (·.buffer)
  | .keptBuffer h => l.buffer? h
  | .localAddress h =>
    match l.handle? h, T.localAddress h l.net with
    | .error e, _ => .error e
    | .ok _, .ok address => .ok address
    | .ok _, .error status => .error (.transport "local_addr" status)
  | .listenerCount h event => (l.listenersOf h event).length
  | .writeQueueSize h => (l.handle? h).map fun _ => T.queued h l.net
  | .woken => l.woken
  | .future f => l.settled.lookup f.request

end Loop

end Reactor
