/-!
# Statuses of the transport

A transport reports what went wrong as a status: the negative error number of the operating system,
or one of two numbers of its own. The statuses in the catalogue have a name and a message; every
other one is unknown.
-/

namespace Reactor

/-- A status that reports an error. -/
structure Status where
  code : Int
  deriving DecidableEq, Repr, Inhabited

/-- What is known of a status: its name, its message, and the class an embedder raises for it. -/
structure StatusEntry where
  code : Int
  name : String
  message : String
  errorClass : String := "Error"

namespace Status

/-- Nothing can be done at the moment. -/
def eagain : Status := ⟨-11⟩

/-- The handle is not known. -/
def ebadf : Status := ⟨-9⟩

/-- The address is taken. -/
def eaddrinuse : Status := ⟨-98⟩

/-- The address cannot be had. -/
def eaddrnotavail : Status := ⟨-99⟩

/-- The peer refused the connection. -/
def econnrefused : Status := ⟨-111⟩

/-- The peer reset the connection. -/
def econnreset : Status := ⟨-104⟩

/-- The connection was given up. -/
def econnaborted : Status := ⟨-103⟩

/-- An argument is wrong. -/
def einval : Status := ⟨-22⟩

/-- Input or output failed. -/
def eio : Status := ⟨-5⟩

/-- There is no connection. -/
def enotconn : Status := ⟨-107⟩

/-- The operation does not exist here. -/
def enotsup : Status := ⟨-95⟩

/-- The operation was canceled. -/
def ecanceled : Status := ⟨-125⟩

/-- Nobody reads what is written. -/
def epipe : Status := ⟨-32⟩

/-- It took too long. -/
def etimedout : Status := ⟨-110⟩

/-- The stream has ended. -/
def eof : Status := ⟨-4095⟩

/-- It is not known what went wrong. -/
def unknown : Status := ⟨-4094⟩

/-- The statuses with a name of their own. -/
def catalogue : List StatusEntry := [
  ⟨eagain.code, "EAGAIN", "resource temporarily unavailable", "WouldBlock"⟩,
  ⟨ebadf.code, "EBADF", "bad file descriptor", "Error"⟩,
  ⟨eaddrinuse.code, "EADDRINUSE", "address already in use", "AddrInUse"⟩,
  ⟨eaddrnotavail.code, "EADDRNOTAVAIL", "address not available", "AddrNotAvailable"⟩,
  ⟨econnrefused.code, "ECONNREFUSED", "connection refused", "ConnectionRefused"⟩,
  ⟨econnreset.code, "ECONNRESET", "connection reset by peer", "ConnectionReset"⟩,
  ⟨econnaborted.code, "ECONNABORTED", "software caused connection abort", "ConnectionAborted"⟩,
  ⟨einval.code, "EINVAL", "invalid argument", "InvalidData"⟩,
  ⟨eio.code, "EIO", "i/o error", "Error"⟩,
  ⟨enotconn.code, "ENOTCONN", "socket is not connected", "NotConnected"⟩,
  ⟨enotsup.code, "ENOTSUP", "operation not supported on socket", "NotSupported"⟩,
  ⟨ecanceled.code, "ECANCELED", "operation canceled", "Interrupted"⟩,
  ⟨epipe.code, "EPIPE", "broken pipe", "BrokenPipe"⟩,
  ⟨etimedout.code, "ETIMEDOUT", "connection timed out", "TimedOut"⟩,
  ⟨eof.code, "EOF", "end of file", "UnexpectedEof"⟩]

/-- The entry of a status that the catalogue lacks. -/
def unknownEntry : StatusEntry := ⟨unknown.code, "UNKNOWN", "unknown error", "Error"⟩

/-- What is known of a status. -/
def entry (s : Status) : StatusEntry := (catalogue.find? (·.code = s.code)).getD unknownEntry

/-- The name of a status. -/
def name (s : Status) : String := s.entry.name

/-- The message of a status. -/
def message (s : Status) : String := s.entry.message

/-- The class an embedder raises for a status. -/
def errorClass (s : Status) : String := s.entry.errorClass

/-- Name and message of a status. -/
def display (s : Status) : String := s.name ++ ": " ++ s.message

/-- The status of a code. A code that is not negative reports no error, so it is unknown. -/
def ofCode (code : Int) : Status := if code < 0 then ⟨code⟩ else unknown

/-- The status of a name in the catalogue, or the unknown one under its name. -/
def ofName? (name : String) : Option Status :=
  ((unknownEntry :: catalogue).find? (·.name = name)).map fun e => ⟨e.code⟩

end Status

/-- The outcome of an action that returns nothing but may fail. -/
abbrev Outcome := Except Status Unit

/-- An error of the operating system: its number, or only its kind. -/
inductive SystemError where
  | number (errno : Int)
  | wouldBlock
  | addrInUse
  | addrNotAvailable
  | connectionRefused
  | connectionReset
  | connectionAborted
  | notConnected
  | brokenPipe
  | invalidInput
  | timedOut
  | unsupported
  | unexpectedEof
  | other
  deriving DecidableEq, Repr

/-- The status of a system error. A number is negated as it is; a kind without a
status is an i/o error. -/
def SystemError.status : SystemError → Status
  | .number errno => ⟨-errno⟩
  | .wouldBlock => .eagain
  | .addrInUse => .eaddrinuse
  | .addrNotAvailable => .eaddrnotavail
  | .connectionRefused => .econnrefused
  | .connectionReset => .econnreset
  | .connectionAborted => .econnaborted
  | .notConnected => .enotconn
  | .brokenPipe => .epipe
  | .invalidInput => .einval
  | .timedOut => .etimedout
  | .unsupported => .enotsup
  | .unexpectedEof => .eof
  | .other => .eio

end Reactor
