import Reactor.Status
import Reactor.Handle

/-!
# Errors of a loop

An operation that is misused, or that the transport refuses, returns a `LoopError` at once. What the
transport reports later arrives as a `Failure`, through an event or a callback. Listeners return
errors of their own, which a loop hands on.
-/

namespace Reactor

/-- A failure that was reported after its operation had returned, with the
place where it arrived. -/
structure Failure where
  status : Status
  place : String
  deriving DecidableEq, Repr

/-- A failure in words. -/
def Failure.display (f : Failure) : String :=
  f.status.name ++ ", " ++ f.status.message ++ " (" ++ f.place ++ ")"

mutual

/-- Why an operation of a loop was refused, or what a listener made of it. -/
inductive LoopError where
  | badHandle (h : HandleId)
  | invalidState (op : String) (state : StreamState)
  | alreadyReading
  | notReading
  | notWritable (op : String) (state : StreamState)
  | closing (h : HandleId)
  /-- The loop was entered while the buffer of a handle that is reading was lent out. -/
  | bufferExposed
  | listen (status : Status)
  | accept (status : Status)
  | bind (status : Status)
  | transport (op : String) (status : Status)
  /-- A listener has failed. -/
  | listener (cause : ListenerError)

/-- The error of a listener. -/
inductive ListenerError where
  | text (message : String)
  /-- An error with a message put in front of it. -/
  | context (message : String) (cause : ListenerError)
  /-- An operation's error that the listener passed on. -/
  | operation (error : LoopError)

end

mutual

/-- An error in words. -/
def LoopError.message : LoopError → String
  | .badHandle h => "Bad handle ID " ++ toString h
  | .invalidState op state => op ++ ": handle is " ++ state.describe
  | .alreadyReading => "read_start: stream is already reading"
  | .notReading => "read_stop: stream is not reading"
  | .notWritable op state => op ++ ": stream is not writable (" ++ state.describe ++ ")"
  | .closing h => "Handle " ++ toString h ++ " is closing"
  | .bufferExposed =>
    "Accidentally wrote incoming data into a readonly buffer. " ++
      "Did you re-enter the event loop from inside a data event listener?"
  | .listen status => "listen: " ++ status.display
  | .accept status => "accept: " ++ status.display
  | .bind status => "bind: " ++ status.display
  | .transport op status => op ++ ": " ++ status.display
  | .listener cause => cause.message

/-- A listener's error in words: of several, the outermost. -/
def ListenerError.message : ListenerError → String
  | .text message => message
  | .context message _ => message
  | .operation error => error.message

end

/-- The class an embedder raises for an error. -/
def LoopError.errorClass : LoopError → String
  | .badHandle _ => "BadResource"
  | .bufferExposed => "Busy"
  | .invalidState .. | .alreadyReading | .notReading | .notWritable .. | .closing _ => "TypeError"
  | .listen status | .accept status | .bind status | .transport _ status => status.errorClass
  | .listener _ => "Error"

mutual

/-- What lies behind an error, in words. A listener's error stands for itself, so what lies behind
it is asked for. -/
def LoopError.source? : LoopError → Option String
  | .listen status | .accept status | .bind status | .transport _ status => some status.display
  | .listener cause => cause.source?
  | .badHandle _ | .invalidState .. | .alreadyReading | .notReading | .notWritable .. | .closing _
  | .bufferExposed => none

/-- What lies behind a listener's error, in words. -/
def ListenerError.source? : ListenerError → Option String
  | .text _ => none
  | .context _ cause => some cause.message
  | .operation error => error.source?

end

end Reactor
