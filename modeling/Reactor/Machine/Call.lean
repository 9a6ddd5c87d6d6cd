import Reactor.Machine

/-!
# Calls of handlers

What a call does to the machine. Most calls are answered at once; one that tells an event or starts
a tick leaves the handler waiting on the stack.
-/

namespace Reactor.Machine

variable {H : Host} (T : Transport H.Net H.Script)

/-- A call of a handler. -/
def perform (l : Loop H) (stack : List (Frame H)) :
    (c : Call H) → (c.Answer → Program H) → Machine H
  | .ask q, next => ofProgram stack (next (l.answer T q)) l
  | .issue o, next =>
    let (answer, l) := l.issue T o
    ofProgram stack (next answer) l
  | .listen h backlog onConnection, next =>
    match (l.meter h .listen .dispatched).beginListen T h backlog onConnection with
    | (.error e, l) => ofProgram stack (next (.error e)) (l.meter h .listen .error)
    | (.ok (), l) =>
      { loop := l, stack := .listening h next :: stack, control := .emit h .listening }
  | .tick w, next => beginTick (.ticking next :: stack) l w
  | .run mode, next => beginTick (.running mode next :: stack) l .idle
  | .poll w, next => beginTick (.polling w next :: stack) { l with waker := w } w
  | .script s, next => ofProgram stack (next ()) (l.ask (T.perform s)).2
  | .survey, next => ofProgram stack (next l.net) l
  | .note n, next => ofProgram stack (next ()) { l with journal := .note n :: l.journal }
  | .recall, next => ofProgram stack (next l.shared) l
  | .update f, next => ofProgram stack (next ()) { l with shared := f l.shared }

end Reactor.Machine
