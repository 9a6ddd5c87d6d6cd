import Reactor.ReadBuffer

/-!
# Stream handles

A handle stands for a stream: a server or a connection. Its state says what may be done with it.
Whether it is reading is kept apart, so that a half-closed stream can go on reading.
-/

namespace Reactor

/-- The number of a handle, given in the order of creation and never used twice. Numbers have no
bound here. A counter of 32 bits gives out the same ones to the first 2 ^ 32 handles, and starts
again after those; what is said of runs is meant of runs with no more handles than that. -/
abbrev HandleId := Nat

/-- The number of a request, given in the order of issue and never used twice. These numbers have no
bound either; a counter of 64 bits does not run out in practice. -/
abbrev RequestId := Nat

/-- The kind of a stream. -/
inductive HandleKind where
  | tcp
  | pipe
  | tty
  deriving DecidableEq, Repr

/-- The stage of its life that a stream is in. -/
inductive StreamState where
  | idle
  | listening
  | connecting
  | connected
  | shuttingDown
  | shutDown
  | closing
  deriving DecidableEq, Repr

namespace StreamState

/-- Every state, in the order of a stream's life. -/
def all : List StreamState :=
  [.idle, .listening, .connecting, .connected, .shuttingDown, .shutDown, .closing]

/-- A state in words. -/
def describe : StreamState → String
  | .idle => "idle"
  | .listening => "listening"
  | .connecting => "connecting"
  | .connected => "connected"
  | .shuttingDown => "shutting down"
  | .shutDown => "shut down"
  | .closing => "closing"

/-- Whether a read session may start. -/
def canRead : StreamState → Bool
  | .connected | .shuttingDown | .shutDown => true
  | _ => false

end StreamState

/-- Where a handle's reading stands. -/
inductive ReadState where
  | stopped
  /-- A read session is open; it holds a reference to the handle. -/
  | reading
  /-- The end of the stream or an error has ended the session. -/
  | ended
  deriving DecidableEq, Repr

/-- A stream handle. `κ` is the type of the closures that an embedder registers. -/
structure Handle (κ : Type) where
  kind : HandleKind
  state : StreamState := .idle
  read : ReadState := .stopped
  /-- Whether the handle holds the reference of a server that listens. -/
  listenRef : Bool := false
  buffer : Option ReadBuffer := none
  onClose : Option κ := none
  /-- The number of references held on the handle. -/
  refs : Nat := 0
  /-- Whether the handle is marked for reclaim once no reference is held. -/
  closing : Bool := false
  deriving Repr

namespace Handle

variable {κ : Type}

/-- Whether a read session is open. -/
def isReading (h : Handle κ) : Bool := h.read = .reading

end Handle

end Reactor
