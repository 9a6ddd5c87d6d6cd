/-!
# Reading a text of the data format

A reader takes the front off a list of characters and returns what it read with the rest.
It stops at the first character that rules the text out, and tells a text that ended early
from one that went wrong.
-/

namespace Reactor.Json

/-- Why a text could not be read. -/
inductive Flaw where
  /-- A character stands where none of its kind may stand. -/
  | malformed
  /-- The text ended where more had to follow. -/
  | truncated
  deriving DecidableEq, Repr

/-- The four characters that may stand between tokens. -/
def isBlank (c : Char) : Bool :=
  c == ' ' || c == '\n' || c == '\t' || c == '\r'

/-- The text after its leading blanks. -/
def skipBlank (cs : List Char) : List Char := cs.dropWhile isBlank

/-- The text after a fixed word. -/
def readWord : (word text : List Char) → Except Flaw (List Char)
  | [], rest => .ok rest
  | _ :: _, [] => .error .truncated
  | w :: word, c :: rest => if w = c then readWord word rest else .error .malformed

/-- The text after the colon between a name and its value. -/
def readColon (cs : List Char) : Except Flaw (List Char) :=
  match skipBlank cs with
  | [] => .error .truncated
  | ':' :: rest => .ok rest
  | _ => .error .malformed

end Reactor.Json
