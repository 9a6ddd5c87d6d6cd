import Reactor.Options
import Reactor.Json.Head
import Reactor.Text.Quoted

/-!
# Why options are refused

A text of options is refused because it is no text of the format, or because a part of it does not
fit: a name that no option has, a name given twice, a value of the wrong kind or out of range.
-/

namespace Reactor.Options

open Reactor.Json (Flaw Head Number Scalar)

/-- What had to stand in a place. -/
inductive Wanted where
  | backlog
  | extent
  | options
  deriving DecidableEq, Repr

/-- What a field takes. -/
def Field.wanted : Field → Wanted
  | .defaultBacklog => .backlog
  | .readBufferSize | .maxReadPasses => .extent

/-- A part of the text that does not fit. -/
inductive Mismatch where
  | unknownField (name : String)
  | duplicateField (field : Field)
  | wrongType (found : Head) (wanted : Wanted)
  | wrongValue (value : Int) (wanted : Wanted)
  deriving DecidableEq, Repr

/-- Why a text of options is refused. -/
inductive Refusal where
  | text (flaw : Flaw)
  | data (mismatch : Mismatch)
  deriving DecidableEq, Repr

/-- A number in words. -/
def describeNumber : Number → String
  | .integer value => "integer `" ++ toString value ++ "`"
  | .floating negative size => "floating point `" ++ Json.floatingText negative size ++ "`"

/-- A scalar in words. -/
def describeScalar : Scalar → String
  | .null => "null"
  | .boolean value => "boolean `" ++ toString value ++ "`"
  | .number value => describeNumber value
  | .text value => "string " ++ Text.quoted value

/-- A value in words, as far as its beginning tells. -/
def describe : Head → String
  | .scalar value => describeScalar value
  | .sequence => "sequence"
  | .map => "map"

/-- What had to stand in a place, in words. -/
def Wanted.describe : Wanted → String
  | .backlog => "u32"
  | .extent => "a nonzero usize"
  | .options => "struct LoopOptions"

/-- A name between accents, as messages show it. -/
def accented (name : String) : String := "`" ++ name ++ "`"

/-- The message of a part that does not fit. -/
def Mismatch.message : Mismatch → String
  | .unknownField name =>
    "unknown field " ++ accented name ++ ", expected one of " ++
      String.intercalate ", " (Field.all.map fun f => accented f.name)
  | .duplicateField field => "duplicate field " ++ accented field.name
  | .wrongType found wanted =>
    "invalid type: " ++ describe found ++ ", expected " ++ wanted.describe
  | .wrongValue value wanted =>
    "invalid value: " ++ describeNumber (.integer value) ++ ", expected " ++ wanted.describe

end Reactor.Options
