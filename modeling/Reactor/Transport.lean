import Reactor.Address
import Reactor.LoopError

/-!
# Transports

The layer that moves the bytes. A loop tells it what to do through the primitives below; it answers
at once, or later with a completion, and it is asked for bytes one read at a time. A transport is a
state and the primitives on it, so a statement about every transport is one about every state
machine of this shape.
-/

namespace Reactor

/-- Whom to wake when there is something to do: nobody, or the task that polls the loop. -/
inductive Waker where
  | idle
  | task
  deriving DecidableEq, Repr

/-- A primitive's answer, the state after it, and whether it woke the task. -/
structure Reply (σ α : Type) where
  answer : α
  net : σ
  wakes : Bool := false

/-- The result of one attempt to read. -/
inductive ReadStatus where
  /-- Nothing is there yet. -/
  | pending
  /-- So many bytes are at the start of the buffer; none at all carries no meaning. -/
  | data (n : Nat)
  | eof
  | failed (status : Status)
  deriving DecidableEq, Repr

/-- The report that an operation has finished, or that a connection waits on a server. -/
inductive Completion where
  | connection (server : HandleId) (outcome : Outcome)
  | write (req : RequestId) (outcome : Outcome)
  | shutdown (req : RequestId) (outcome : Outcome)
  | connect (req : RequestId) (outcome : Outcome)

/-- The primitives of a transport with states `σ`, whose far side obeys scripts `τ`. -/
structure Transport (σ τ : Type) where
  /-- A handle was created. -/
  init : HandleId → HandleKind → σ → Reply σ Unit
  /-- Takes over a stream that is connected already. -/
  adopt : HandleId → σ → Reply σ Outcome
  bind : HandleId → SocketAddress → σ → Reply σ Outcome
  listen : HandleId → Nat → σ → Reply σ Outcome
  /-- Moves a waiting connection of the first handle to the second. -/
  accept : HandleId → HandleId → σ → Reply σ Outcome
  readStart : HandleId → σ → Reply σ Outcome
  readStop : HandleId → σ → Reply σ Outcome
  /-- One attempt to read into a buffer of the given size: the status, and the bytes to put at the
  start of the buffer. -/
  read : Waker → HandleId → Nat → σ → Reply σ (ReadStatus × List UInt8)
  /-- Queues bytes. An error is a refusal; otherwise a completion of the request follows. -/
  write : RequestId → HandleId → List UInt8 → σ → Reply σ Outcome
  shutdown : RequestId → HandleId → σ → Reply σ Outcome
  connect : RequestId → HandleId → SocketAddress → σ → Reply σ Outcome
  /-- The number of bytes that are queued but not sent. -/
  queued : HandleId → σ → Nat
  localAddress : HandleId → σ → Except Status SocketAddress
  /-- Lets go of what stands behind a handle. Its requests complete as canceled. -/
  close : HandleId → σ → Reply σ Unit
  /-- Hands over all that has finished. -/
  collect : Waker → σ → Reply σ (List Completion)
  /-- Something happens on the far side. -/
  perform : τ → σ → Reply σ Unit

namespace Transport

variable {σ τ : Type}

/-- A primitive that a transport does not have. -/
def unsupported (net : σ) : Reply σ Outcome := ⟨.error .enotsup, net, false⟩

/-- The transport without the primitives that are optional. -/
def basic (t : Transport σ τ) : Transport σ τ :=
  { t with
    adopt := fun _ => unsupported
    bind := fun _ _ => unsupported
    connect := fun _ _ _ => unsupported
    localAddress := fun _ _ => .error .enotsup }

end Transport

end Reactor
