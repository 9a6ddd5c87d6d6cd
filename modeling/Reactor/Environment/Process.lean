import Reactor.Text.Quoted

/-!
# Variables of a process

A process offers to read its variables and to change them one at a time, but it does not survive a
change that is asked of it with a text that names no variable or can be no value. The updates here
check their arguments first: what does not fit is refused, and the process hears nothing of it.
-/

namespace Reactor

namespace Environment

/-- Whether a text can name a variable: it is not empty, and holds neither an
equals sign nor a NUL. -/
def isName (s : String) : Bool :=
  !s.toList.isEmpty && !s.toList.contains '=' && !s.toList.contains '\x00'

/-- Whether a text can be a value: it holds no NUL. -/
def isValue (s : String) : Bool := !s.toList.contains '\x00'

/-- Why an update is refused. -/
inductive Fault where
  | invalidName (name : String)
  | invalidValue (name : String)
  | malformed (assignment : String)
  deriving DecidableEq, Repr

/-- A fault in words. -/
def Fault.message : Fault → String
  | .invalidName name => "EINVAL: invalid environment variable name " ++ Text.quoted name
  | .invalidValue name => "EINVAL: value for " ++ Text.quoted name ++ " contains a NUL character"
  | .malformed assignment => "EINVAL: expected NAME=value, got " ++ Text.quoted assignment

/-- The class an embedder raises for a fault. -/
def Fault.errorClass (_ : Fault) : String := "InvalidData"

/-- An assignment split at its first equals sign. -/
def splitAssignment? (assignment : String) : Option (String × String) :=
  match assignment.toList.dropWhile (· ≠ '=') with
  | [] => none
  | _ :: value => some (String.ofList (assignment.toList.takeWhile (· ≠ '=')), String.ofList value)

end Environment

/-- What a process with states `σ` offers for its variables. A change that it does not
survive has no result. -/
structure Process (σ : Type) where
  /-- Every variable with its value, in the order of the process. -/
  entries : σ → List (String × String)
  value? : String → σ → Option String
  assign : String → String → σ → Option σ
  remove : String → σ → Option σ

namespace Process

open Environment

variable {σ : Type} (p : Process σ)

/-- The names that have a value. -/
def keys (s : σ) : List String := (p.entries s).map (·.1)

/-- The value of a name; a text that names no variable has none. -/
def get (name : String) (s : σ) : Option String := if isName name then p.value? name s else none

/-- Binds a name to a value. A value that is present stays unless it is to be overwritten. -/
def set (name value : String) (overwrite : Bool) (s : σ) : Option (Except Fault Unit × σ) :=
  if !isName name then some (.error (.invalidName name), s)
  else if !isValue value then some (.error (.invalidValue name), s)
  else if !overwrite && (p.value? name s).isSome then some (.ok (), s)
  else (p.assign name value s).map fun s => (.ok (), s)

/-- Binds the name before the first equals sign to what follows it. -/
def put (assignment : String) (s : σ) : Option (Except Fault Unit × σ) :=
  match splitAssignment? assignment with
  | none => some (.error (.malformed assignment), s)
  | some (name, value) => p.set name value true s

/-- Removes a name. -/
def unset (name : String) (s : σ) : Option (Except Fault Unit × σ) :=
  if !isName name then some (.error (.invalidName name), s)
  else (p.remove name s).map fun s => (.ok (), s)

end Process

end Reactor
