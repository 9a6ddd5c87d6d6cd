import Reactor.Machine.Step
import Reactor.Scenario.Enter
import Reactor.Transport.Detached

/-!
# Sessions

A session keeps a loop between the steps of a scenario. Every step gives its answer, what was noted
while it was done, and the handles that are there after it.
-/

namespace Reactor.Scenario

/-- A handle as a session shows it. -/
structure HandleView where
  handle : HandleId
  state : StreamState
  refs : Nat
  reading : Bool
  pending : Nat
  deriving DecidableEq, Repr

/-- What a step has brought about. After the loop is gone there are no handles to show. -/
structure Outcome where
  answer : Answer
  log : List (Entry Note)
  handles : Option (List HandleView)

/-- A loop between two steps, or what is left of it. -/
structure Session (σ : Type) where
  backend : Backend σ
  loop : Loop (host σ)
  dropped : Bool := false

namespace Session

variable {σ : Type}

/-- A session with a new loop. -/
def start (backend : Backend σ) (options : Options) : Session σ :=
  { backend, loop := { options, net := { below := backend.start }, shared := {} } }

/-- The handles of the loop. -/
def handleViews (l : Loop (host σ)) : List HandleView :=
  l.handles.toList.map fun (h, x) =>
    { handle := h, state := x.state, refs := x.refs, reading := x.isReading,
      pending := l.pendingRequests h }

/-- The program of a session's own step. -/
def stepProgram (b : Backend σ) (step : Step) : Act σ :=
  step.program b {} fun a =>
  .call (.update fun (s : Shared) => { s with answer := a }) fun () => .skip

/-- A step on a loop that is there. -/
def performLive (fuel : Nat) (s : Session σ) (step : Step) : Outcome × Session σ :=
  let before : Machine (host σ) :=
    { loop := { s.loop with journal := [] }, control := .run (stepProgram s.backend step) }
  let after := before.run (Injected.transport s.backend.transport) (enter s.backend) fuel
  let dropped := match step with
    | .dropLoop => true
    | _ => false
  ({ answer := after.loop.shared.answer
     log := after.loop.journal.reverse
     handles := if dropped then none else some (handleViews after.loop) },
    { s with loop := after.loop, dropped })

/-- The outcome of a future when the loop is gone: a request that did not complete is canceled. -/
def lastOutcome (l : Loop (host σ)) (f : Future) : RequestOutcome :=
  (l.settled.lookup f.request).getD (.error ⟨.ecanceled, f.place⟩)

/-- A step on a loop that is gone: only futures answer. -/
def performDropped (s : Session σ) (step : Step) : Outcome × Session σ :=
  let bare (answer : Answer) : Outcome := { answer, log := [], handles := none }
  match step with
  | .pollFuture slot =>
    match s.loop.shared.futures.lookup slot with
    | none => (bare .noFuture, s)
    | some f =>
      let futures := s.loop.shared.futures.filter (·.1 ≠ slot)
      (bare (.ofOutcome (lastOutcome s.loop f)),
        { s with loop := { s.loop with shared := { s.loop.shared with futures } } })
  | _ => (bare .dropped, s)

/-- A step. -/
def perform (fuel : Nat) (s : Session σ) (step : Step) : Outcome × Session σ :=
  if s.dropped then s.performDropped step else s.performLive fuel step

/-- Steps in order. -/
def performAll (fuel : Nat) (s : Session σ) : List Step → List Outcome
  | [] => []
  | step :: steps =>
    let (outcome, s) := s.perform fuel step
    outcome :: performAll fuel s steps

end Session

/-- The transport in memory as a scenario uses it. -/
def memoryBackend : Backend Memory where
  transport := Memory.transport
  start := .initial
  report h m :=
    let e := m.endpoint h
    { written := e.written, shut := e.shut, reading := e.reading, closed := e.closed,
      backlog := e.backlog
      connections := e.waiting }

/-- The transport in memory without the optional primitives. -/
def basicBackend : Backend Memory := { memoryBackend with transport := Memory.transport.basic }

/-- The transport of sockets without a network. -/
def detachedBackend : Backend Detached where
  transport := Detached.transport Memory.Script
  start := {}
  report _ _ := {}

end Reactor.Scenario
