import Reactor.Echo
import Reactor.Machine.Step
import Reactor.Transport.Memory

/-!
# An echo server in memory

The echo server alone on a transport in memory: no other handler is registered, and the far side of
the transport is the only one that acts on it from outside.
-/

namespace Reactor.Echo

/-- The host whose only handlers are those of the echo server. -/
def host (σ τ : Type) : Host where
  Net := σ
  Script := τ
  Shared := Unit
  Note := Empty
  Closure := Closure

/-- The handlers of the echo server, on their own. -/
def handlers (σ τ : Type) : Handlers (host σ τ) := enter (H := host σ τ) id

/-- An echo server on a transport in memory. -/
abbrev Server := Loop (host Memory Memory.Script)

namespace Server

/-- The handle that listens. -/
def listener : HandleId := 0

/-- A server with no handle yet. -/
def empty (options : Options) : Server := { options, net := .initial, shared := () }

/-- The server after a program has run. -/
def perform (fuel : Nat) (s : Server) (p : Program (host Memory Memory.Script)) : Server :=
  ((Machine.start p s).run Memory.transport (handlers _ _) fuel).loop

/-- Creates the handle that listens, gives it its address, and makes it listen. -/
def openProgram (address : SocketAddress) : Program (host Memory Memory.Script) :=
  .call (.issue (.newHandle .tcp)) fun (h : HandleId) =>
  .call (.issue (.bind h address)) <| .orRefuse fun () =>
  .call (.listen h none Closure.onConnection) <| .orRefuse fun () => .skip

/-- Something happens on the far side, and the loop runs until nothing is left to do. -/
def scriptProgram (s : Memory.Script) : Program (host Memory Memory.Script) :=
  .call (.script s) fun () => .call (.run .default) <| .orRefuse fun _ => .skip

/-- All that was written to a handle. -/
def written (s : Server) (h : HandleId) : List UInt8 := (s.net.endpoint h).written

end Server

end Reactor.Echo
