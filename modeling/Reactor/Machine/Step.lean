import Reactor.Machine.Call
import Reactor.Machine.Dispatch

/-!
# The steps of the machine

One step takes the innermost work a little further: it runs a call, enters a handler, tells an event
to its next listener, takes the next item of a tick, or returns to the work below.
-/

namespace Reactor.Machine

variable {H : Host} (T : Transport H.Net H.Script) (enter : Handlers H)

/-- The next item of a tick, its next stage, or its end. -/
def advance (l : Loop H) (stack : List (Frame H)) (t : Tick) : Machine H :=
  match t.stage with
  | .deferred [] =>
    let (t, l) := l.beginCompletions T t
    ofTick stack t l
  | .deferred (c :: batch) => dispatch l (.tick { t with stage := .deferred batch } :: stack) c
  | .completions [] => ofTick stack (l.beginPass t l.options.maxReadPasses) l
  | .completions (c :: batch) =>
    dispatch l (.tick { t with stage := .completions batch } :: stack) c
  | .reads passes [] productive =>
    let t := { t with worked := t.worked || productive }
    if productive ∧ 0 < passes then ofTick stack (l.beginPass t passes) l
    else
      let (t, l) := l.beginReclaims t
      ofTick stack t l
  | .reads passes (h :: rest) productive => readOne T l stack t passes rest productive h
  | .reclaims [] => { loop := l, stack, control := .ticked t.result }
  | .reclaims (h :: batch) => reclaimOne l (.tick { t with stage := .reclaims batch } :: stack) h

/-- What the work on top of the stack does with the result of the work above it; nothing when that
work does not wait for such a result. -/
def return? (l : Loop H) (failure : Option ListenerError) : List (Frame H) → Option (Machine H)
  | .emission h e rest :: stack =>
    match failure, rest with
    | none, c :: rest =>
      some { loop := l, stack := .emission h e rest :: stack, control := .enter c (.event h e) }
    | failure, _ => some { loop := l, stack, control := .returned failure }
  | .delivering _ h :: stack => some { loop := l.release h, stack, control := .returned none }
  | .connecting _ h :: stack => some { loop := l.release h, stack, control := .returned failure }
  | .lending h _ :: stack => some { loop := expose l h false, stack, control := .returned failure }
  | .reclaiming h onClose :: stack =>
    let stack := .parting h failure :: stack
    match onClose with
    | some c => some { loop := l, stack, control := .enter c (.closed h) }
    | none => some { loop := l, stack, control := .returned none }
  | .parting h emitted :: stack =>
    some { loop := l.removeListeners h, stack, control := .returned emitted }
  | .tick t :: stack => some (ofTick stack (t.note failure) l)
  | .listening h next :: stack =>
    match failure with
    | none => some (ofProgram stack (next (.ok ())) (l.meter h .listen .completed))
    | some cause =>
      some (ofProgram stack (next (.error (.listener cause))) (l.meter h .listen .error))
  | _ => none

/-- What the work on top of the stack does with the result of a tick. A tick that failed ends a run
at once and leaves the request to stop as it is. -/
def afterTick? (l : Loop H) (result : Except LoopError Bool) : List (Frame H) → Option (Machine H)
  | .ticking next :: stack => some (ofProgram stack (next result) l)
  | .running mode next :: stack =>
    match result with
    | .error e => some (ofProgram stack (next (.error e)) l)
    | .ok worked =>
      let stopped := l.stopping
      let l := { l with stopping := false }
      if stopped || mode ≠ .default || !worked || !l.alive then
        some (ofProgram stack (next (.ok l.alive)) l)
      else some (beginTick (.running mode next :: stack) l .idle)
  | .polling w next :: stack =>
    match result with
    | .error e => some (ofProgram stack (next (.error e)) l)
    | .ok worked =>
      let stopped := l.stopping
      let l := { l with stopping := false }
      if stopped || !l.alive then some (ofProgram stack (next (.ok true)) l)
      else some (ofProgram stack (next (.ok false)) (if worked then l.wakeBy w else l))
  | _ => none

/-- One step. There is none when the machine is at rest, and none after a breach. -/
def step? (m : Machine H) : Option (Machine H) :=
  if m.loop.breach.isSome then none
  else
    match m.control with
    | .run (.done failure) => some { m with control := .returned failure }
    | .run (.call c next) => some (perform T m.loop m.stack c next)
    | .enter c o => some { m with control := .run (enter c o) }
    | .emit h e =>
      some
        { m with
          stack := .emission h e (m.loop.listenersOf h e.name) :: m.stack
          control := .returned none }
    | .returned failure => return? m.loop failure m.stack
    | .advance =>
      match m.stack with
      | .tick t :: stack => some (advance T m.loop stack t)
      | _ => none
    | .ticked result => afterTick? m.loop result m.stack

/-- At most so many steps, until the machine rests. -/
def run : (fuel : Nat) → Machine H → Machine H
  | 0, m => m
  | fuel + 1, m =>
    match m.step? T enter with
    | none => m
    | some m => run fuel m

end Reactor.Machine
