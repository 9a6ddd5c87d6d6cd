import Reactor.Scenario.Step

/-!
# What the steps of a scenario do

Every step is a program that ends in its answer, and a handler of a scenario is
the program of its steps.
-/

namespace Reactor.Scenario

/-- Where a step is done: the handle that the running handler belongs to, and
the bytes of its event. -/
structure Scene where
  own : HandleId := 0
  view : Option (List UInt8) := none

/-- The transport of a scenario: its primitives, its first state, and what it shows of a handle. -/
structure Backend (σ : Type) where
  transport : Transport σ Memory.Script
  start : σ
  report : HandleId → σ → Report

variable {σ : Type}

/-- A program of a scenario. -/
abbrev Act (σ : Type) := Program (host σ)

/-- The handle that a step is about. -/
def Target.resolve (scene : Scene) (t : Target) (k : HandleId → Act σ) : Act σ :=
  match t with
  | .number h => k h
  | .own => k scene.own
  | .last => .call (.ask .created) fun (n : Nat) => k (n - 1)

/-- The answer of an operation that may be refused. -/
def Answer.of {α : Type} (ofValue : α → Answer) : Except LoopError α → Answer
  | .ok a => ofValue a
  | .error e => .refused e

/-- The answer of an operation that returns nothing but may be refused. -/
def Answer.ofUnit : Except LoopError Unit → Answer := .of fun () => .ok

/-- The closure of a handler, with a counter of its own. -/
def withClosure (role : Role) (r : Reaction Step) (k : Closure → Act σ) : Act σ :=
  .call .recall fun (s : Shared) =>
  .call (.update fun (s : Shared) => { s with calls := s.calls.add 0 }) fun () =>
  k (.reaction role r s.calls.next)

/-- Keeps a future under a number. -/
def keepFuture (slot : Slot) (f : Future) (next : Act σ) : Act σ :=
  .call (.update fun (s : Shared) =>
    { s with futures := (slot, f) :: s.futures.filter (·.1 ≠ slot) })
    fun () => next

/-- Forgets the future under a number. -/
def forgetFuture (slot : Slot) (next : Act σ) : Act σ :=
  .call (.update fun (s : Shared) => { s with futures := s.futures.filter (·.1 ≠ slot) }) fun () =>
    next

/-- The answer of a request whose future is kept under a number. -/
def keepRequest (slot : Slot) (place : String) (k : Answer → Act σ) :
    Except LoopError RequestId → Act σ
  | .ok request => keepFuture slot ⟨request, place⟩ (k .ok)
  | .error e => k (.refused e)

/-- The outcome of a future as an answer. -/
def Answer.ofOutcome : RequestOutcome → Answer
  | .ok () => .ok
  | .error f => .failed f

/-- Registers a handler that only notes for every event, up to the first that is refused. -/
def recordAll (h : HandleId) (tag : Tag) (k : Answer → Act σ) : List EventName → Act σ
  | [] => k .ok
  | event :: events =>
    withClosure .listener { tag } fun c =>
    .call (.issue (.on h event c)) fun
      | .ok () => recordAll h tag k events
      | .error e => k (.refused e)

/-- How often a scenario polls a loop at most. -/
def maxPolls : Nat := 50

/-- The program of a step. -/
def Step.program (b : Backend σ) (scene : Scene) (step : Step) (k : Answer → Act σ) : Act σ :=
  match step with
  | .new x => .call (.issue (.newHandle x)) fun (h : HandleId) => k (.number h)
  | .state t => t.resolve scene fun h =>
    .call (.ask (.state h)) fun (a : Except LoopError StreamState) => k (.of .state a)
  | .kind t => t.resolve scene fun h =>
    .call (.ask (.kind h)) fun (a : Except LoopError HandleKind) => k (.of .kind a)
  | .isReading t => t.resolve scene fun h =>
    .call (.ask (.isReading h)) fun (a : Bool) => k (.flag a)
  | .refCount t => t.resolve scene fun h =>
    .call (.ask (.refCount h)) fun (a : Option Nat) => k (a.elim .nothing .number)
  | .pendingRequests t => t.resolve scene fun h =>
    .call (.ask (.pendingRequests h)) fun (n : Nat) => k (.number n)
  | .handleCount => .call (.ask .handleCount) fun (n : Nat) => k (.number n)
  | .alive => .call (.ask .alive) fun (a : Bool) => k (.flag a)
  | .loopOptions => .call (.ask .options) fun (o : Options) => k (.options o)
  | .readBuffer t => t.resolve scene fun h =>
    .call (.ask (.readBuffer h)) fun (a : Except LoopError (Option ReadBuffer)) =>
      k (.of (fun b => b.elim .nothing fun b => .buffer b.size b.exposed) a)
  | .bufferWrite t offset data => t.resolve scene fun h =>
    .call (.issue (.bufferWrite h offset data)) fun (a : Except LoopError (Option Nat)) =>
      k (.of (fun n => n.elim .nothing .number) a)
  | .localAddress t => t.resolve scene fun h =>
    .call (.ask (.localAddress h)) fun (a : Except LoopError SocketAddress) =>
      k (.of .address a)
  | .on t event r => t.resolve scene fun h =>
    withClosure .listener r fun c => .call (.issue (.on h event c)) fun a => k (.ofUnit a)
  | .record t tag => t.resolve scene fun h => recordAll h tag k EventName.all
  | .listenerCount t event => t.resolve scene fun h =>
    .call (.ask (.listenerCount h event)) fun (n : Nat) => k (.number n)
  | .listen t backlog r => t.resolve scene fun h =>
    withClosure .connection r fun c => .call (.listen h backlog c) fun a => k (.ofUnit a)
  | .listenEcho t backlog => t.resolve scene fun h =>
    .call (.listen h backlog (Closure.echo .onConnection)) fun a => k (.ofUnit a)
  | .view => k (scene.view.elim .nothing .view)
  | .accept server client => server.resolve scene fun server => client.resolve scene fun client =>
    .call (.issue (.accept server client)) fun a => k (.ofUnit a)
  | .adopt t => t.resolve scene fun h => .call (.issue (.adopt h)) fun a => k (.ofUnit a)
  | .bind t address => t.resolve scene fun h =>
    .call (.issue (.bind h address)) fun a => k (.ofUnit a)
  | .readStart t => t.resolve scene fun h => .call (.issue (.readStart h)) fun a => k (.ofUnit a)
  | .readStop t => t.resolve scene fun h => .call (.issue (.readStop h)) fun a => k (.ofUnit a)
  | .write t data r => t.resolve scene fun h =>
    withClosure .written r fun c =>
    .call (.issue (.write h (data.getD (scene.view.getD [])) (.closure c))) fun a =>
      k (.of .number a)
  | .shutdown t r => t.resolve scene fun h =>
    withClosure .shut r fun c =>
      .call (.issue (.shutdown h (.closure c))) fun a => k (.of .number a)
  | .writeAsync t data slot => t.resolve scene fun h =>
    .call (.issue (.write h (data.getD (scene.view.getD [])) .promise))
      (keepRequest slot "after_write" k)
  | .shutdownAsync t slot => t.resolve scene fun h =>
    .call (.issue (.shutdown h .promise)) (keepRequest slot "after_shutdown" k)
  | .pollFuture slot => .call .recall fun (s : Shared) =>
    match s.futures.lookup slot with
    | none => k .noFuture
    | some f => .call (.ask (.future f)) fun
      | none => k .pending
      | some outcome => forgetFuture slot (k (.ofOutcome outcome))
  | .dropFuture slot => .call .recall fun (s : Shared) =>
    forgetFuture slot (k (.flag (s.futures.lookup slot).isSome))
  | .writeQueueSize t => t.resolve scene fun h =>
    .call (.ask (.writeQueueSize h)) fun (a : Except LoopError Nat) => k (.of .number a)
  | .connect t address => t.resolve scene fun h =>
    .call (.issue (.connect h address)) fun a => k (.of .number a)
  | .close t r => t.resolve scene fun h =>
    withClosure .closed r fun c => .call (.issue (.close h c)) fun a => k (.ofUnit a)
  | .run mode => .call (.run mode) fun a => k (.of .flag a)
  | .tick => .call (.tick .task) fun a => k (.of .flag a)
  | .pollLoop => .call (.issue .forgetWake) fun _ =>
    .call (.poll .task) fun a => k (.of .ready a)
  | .runLoop => .pollWhileWoken (fun a => k (.of .polling a)) maxPolls 0
  | .woken => .call (.ask .woken) fun (a : Bool) => k (.flag a)
  | .stop => .call (.issue .stop) fun _ => k .ok
  | .dropLoop => k .ok
  | .script t s => t.resolve scene fun h => .call (.script (.below (scriptOn h s))) fun () => k .ok
  | .report t => t.resolve scene fun h =>
    .call .survey fun (net : Injected σ) => k (.report (b.report h net.below))
  | .inject t i => t.resolve scene fun h =>
    .call (.script (.inject (injectionOn h i))) fun () => k .ok

/-- The steps of a handler, in order. With `passesErrors` the first that is
refused ends the handler. -/
def stepsProgram (b : Backend σ) (scene : Scene) (r : Reaction Step) : List Step → Act σ
  | [] => .done (r.failure.map .text)
  | step :: steps =>
    step.program b scene fun a =>
    .call (.note (Note.did step a)) fun () =>
    match a, r.passesErrors with
    | .refused e, true => .refuse e
    | _, _ => stepsProgram b scene r steps

/-- What a handler notes when it is entered. -/
def headline (role : Role) (tag : Tag) : Occasion → Note
  | .event h e => if role = .connection then .connection tag h else .event tag h e
  | .completed h outcome => .completed tag h role outcome
  | .closed h => .closed tag h

/-- The bytes of an occasion; only data has any. -/
def bytesOf : Occasion → Option (List UInt8)
  | .event _ (.data view) => some view
  | _ => none

/-- What the handlers of a scenario do: they note that they were entered, and do their steps unless
they wait for other bytes or have done so often enough. -/
def enter (b : Backend σ) : Handlers (host σ)
  | .echo c, occasion => Echo.enter (H := host σ) Closure.echo c occasion
  | .reaction role r counter, occasion =>
    .call (.note (headline role r.tag occasion)) fun () =>
    let view := bytesOf occasion
    if r.only.any (· ≠ view.getD []) then .skip
    else
      .call .recall fun (s : Shared) =>
      .call (.update fun (s : Shared) =>
        { s with calls := s.calls.modify counter (· + 1) }) fun () =>
      if r.times.any (· ≤ (s.calls.get? counter).getD 0) then .skip
      else stepsProgram b { own := occasion.handle, view } r r.steps

end Reactor.Scenario
