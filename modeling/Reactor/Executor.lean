import Reactor.Host

/-!
# Driving a loop from a task

A task polls the loop until it is done with it. Between two polls the task sleeps, unless it was
woken since the poll began.
-/

namespace Reactor

/-- How a task's polling of the loop ended. -/
structure Polling where
  /-- Whether the task is done with the loop. -/
  ready : Bool
  /-- How often the task has polled. -/
  polls : Nat
  deriving DecidableEq, Repr

/-- Polls the loop, and again as long as the task is not done but was woken, at
most `left` times more. -/
def Program.pollWhileWoken {H : Host} (next : Except LoopError Polling → Program H) :
    (left polls : Nat) → Program H
  | 0, polls => next (.ok ⟨false, polls⟩)
  | left + 1, polls =>
    .call (.issue .forgetWake) fun _ =>
    .call (.poll .task) fun
      | .error e => next (.error e)
      | .ok true => next (.ok ⟨true, polls + 1⟩)
      | .ok false =>
        .call (.ask .woken) fun (woken : Bool) =>
          if woken then pollWhileWoken next left (polls + 1) else next (.ok ⟨false, polls + 1⟩)

end Reactor
