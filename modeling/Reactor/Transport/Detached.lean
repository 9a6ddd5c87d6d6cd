import Reactor.Transport

/-!
# A transport of sockets without a network

What a transport of sockets answers as long as no socket is ever opened: it knows the handles of its
own kind, keeps their addresses, and can neither listen nor reach a peer. A connect stays pending
until its handle is closed.
-/

namespace Reactor

/-- What the transport keeps of a handle it knows. -/
structure Detached.Endpoint where
  handle : HandleId
  bound : Option SocketAddress := none
  connecting : Option RequestId := none
  deriving DecidableEq, Repr

/-- The state of the transport. -/
structure Detached where
  endpoints : List Detached.Endpoint := []
  finished : List Completion := []

namespace Detached

/-- What the transport keeps of a handle, if it knows it. -/
def find? (d : Detached) (h : HandleId) : Option Endpoint := d.endpoints.find? (·.handle = h)

/-- The state with what is kept of a handle changed. -/
def update (d : Detached) (h : HandleId) (f : Endpoint → Endpoint) : Detached :=
  { d with endpoints := d.endpoints.map fun e => if e.handle = h then f e else e }

/-- A reply that leaves the state as it is. -/
def reply (outcome : Outcome) (d : Detached) : Reply Detached Outcome := ⟨outcome, d, false⟩

/-- The reply of a primitive that needs a handle the transport knows. -/
def known (h : HandleId) (k : Endpoint → Detached → Reply Detached Outcome) (d : Detached) :
    Reply Detached Outcome :=
  match d.find? h with
  | none => reply (.error .ebadf) d
  | some e => k e d

/-- The reply of a primitive that needs a stream, which no handle has. -/
def needsStream (h : HandleId) : Detached → Reply Detached Outcome :=
  known h fun _ => reply (.error .enotconn)

/-- The completion of a connect that its handle's closing cancels. -/
def canceled (d : Detached) (h : HandleId) : List Completion :=
  ((d.find? h).bind (·.connecting)).toList.map (.connect · (.error .ecanceled))

/-- The transport. -/
def transport (τ : Type) : Transport Detached τ where
  init h kind d :=
    ⟨(), if kind = .tcp then { d with endpoints := d.endpoints ++ [{ handle := h }] } else d, false⟩
  adopt h := known h fun _ => reply (.ok ())
  bind h address :=
    known h fun _ d => reply (.ok ()) (d.update h ({ · with bound := some address }))
  listen h _ := known h fun _ => reply (.error .enotsup)
  accept server client := known client fun _ => known server fun _ => reply (.error .eagain)
  readStart := needsStream
  readStop h := known h fun _ => reply (.ok ())
  read _ h _ d := ⟨if (d.find? h).isSome then (.pending, []) else (.failed .ebadf, []), d, false⟩
  write _ h _ := needsStream h
  shutdown _ := needsStream
  connect req h _ := known h fun e d =>
    if e.connecting.isSome then reply (.error .einval) d
    else reply (.ok ()) (d.update h ({ · with connecting := some req }))
  queued _ _ := 0
  localAddress h d := if (d.find? h).isSome then .error .enotconn else .error .ebadf
  close h d :=
    ⟨(), { endpoints := d.endpoints.filter (·.handle ≠ h), finished := d.finished ++ d.canceled h },
      false⟩
  collect _ d := ⟨d.finished, { d with finished := [] }, false⟩
  perform _ d := ⟨(), d, false⟩

end Detached

end Reactor
