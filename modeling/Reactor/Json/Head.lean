import Reactor.Json.Number
import Reactor.Json.Text

/-!
# Where a value begins

The beginning of a value tells what kind of value it is. A value without parts is read as a whole;
of a sequence or a map only the opening is taken, and its parts are left to whoever reads on.
-/

namespace Reactor.Json

/-- A value without parts. -/
inductive Scalar where
  | null
  | boolean (value : Bool)
  | number (value : Number)
  | text (value : String)
  deriving DecidableEq, Repr, Inhabited

/-- A value as far as its beginning tells. -/
inductive Head where
  | scalar (value : Scalar)
  | sequence
  | map
  deriving DecidableEq, Repr

/-- A word that stands for a scalar, read after its first letter. -/
def readKeyword (value : Scalar) (word cs : List Char) : Except Flaw (Head × List Char) :=
  (readWord word cs).map fun rest => (.scalar value, rest)

/-- The head of the value that stands next. -/
def readHead : List Char → Except Flaw (Head × List Char)
  | [] => .error .truncated
  | c :: rest =>
    if c = 'n' then readKeyword .null ['u', 'l', 'l'] rest
    else if c = 't' then readKeyword (.boolean true) ['r', 'u', 'e'] rest
    else if c = 'f' then readKeyword (.boolean false) ['a', 'l', 's', 'e'] rest
    else if c = '"' then (readText rest).map fun (s, rest) => (.scalar (.text s), rest)
    else if c = '[' then .ok (.sequence, rest)
    else if c = '\x7b' then .ok (.map, rest)
    else if c = '-' ∨ c.isDigit then
      (readNumber (c :: rest)).map fun (n, rest) => (.scalar (.number n), rest)
    else .error .malformed

end Reactor.Json
