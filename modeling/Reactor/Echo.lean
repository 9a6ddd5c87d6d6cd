import Reactor.Host

/-!
# The echo server

For every connection a handle that reads; what arrives is written back, the end of the stream shuts
the writable side down, and the handle is closed after that or when something fails. No closure
carries data: the occasion names the handle that it is about.
-/

namespace Reactor.Echo

/-- The handlers of the server. -/
inductive Closure where
  | onConnection
  | onData
  | onEnd
  | onError
  | afterWrite
  | afterShutdown
  | afterClose
  deriving DecidableEq, Repr

variable {H : Host} (embed : Closure → H.Closure)

/-- Registers a handler and goes on if the handle is there. -/
def register (h : HandleId) (event : EventName) (c : Closure) (next : Program H) : Program H :=
  .call (.issue (.on h event (embed c))) (.orRefuse fun () => next)

/-- Takes a connection over into a new handle, registers the handlers, and starts to read. -/
def onConnection (server : HandleId) : Program H :=
  .call (.issue (.newHandle .tcp)) fun (client : HandleId) =>
  .call (.issue (.accept server client)) <| .orRefuse fun () =>
  register embed client .data .onData <|
  register embed client .endOfStream .onEnd <|
  register embed client .error .onError <|
  .call (.issue (.readStart client)) <| .orRefuse fun () => .skip

/-- Closes a connection, whatever that answers. -/
def closeQuietly (client : HandleId) : Program H :=
  .call (.issue (.close client (embed .afterClose))) fun _ => .skip

/-- What a handler does on an occasion; occasions that are not its own pass by. -/
def enter : Closure → Occasion → Program H
  | .onConnection, .event server _ => onConnection embed server
  | .onData, .event client (.data view) =>
    .call (.issue (.write client view (.closure (embed .afterWrite)))) <| .orRefuse fun _ => .skip
  | .onEnd, .event client _ =>
    .call (.issue (.shutdown client (.closure (embed .afterShutdown)))) <| .orRefuse fun _ => .skip
  | .onError, .event client _ =>
    .call (.issue (.close client (embed .afterClose))) <| .orRefuse fun () => .skip
  | .afterWrite, .completed client (.error _) => closeQuietly embed client
  | .afterShutdown, .completed client _ => closeQuietly embed client
  | _, _ => .skip

end Reactor.Echo
