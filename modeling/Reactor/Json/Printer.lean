import Reactor.Json.Value
import Reactor.Text.Quoted

/-!
# Values in print

A value is printed without blanks, the members of a map in their order. In a string the quote, the
backslash and the control characters are escaped, five of these by a letter, and all else stands as
it is. The printer adds to a text that is there already.
-/

namespace Reactor.Json

/-- How a character is printed inside a string. -/
def printChar (c : Char) : List Char :=
  if c = '"' then ['\\', '"']
  else if c = '\\' then ['\\', '\\']
  else if c = '\x08' then ['\\', 'b']
  else if c = '\x0c' then ['\\', 'f']
  else if c = '\n' then ['\\', 'n']
  else if c = '\r' then ['\\', 'r']
  else if c = '\t' then ['\\', 't']
  else if c.toNat < 0x10 then ['\\', 'u', '0', '0', '0'] ++ Text.hexDigits c.toNat
  else if c.toNat < 0x20 then ['\\', 'u', '0', '0'] ++ Text.hexDigits c.toNat
  else [c]

/-- A string in print. -/
def printText (s : String) : String := String.ofList ('"' :: s.toList.flatMap printChar ++ ['"'])

/-- A number in print. -/
def Number.print : Number → String
  | .integer value => toString value
  | .floating negative size => floatingText negative size

/-- A scalar in print. -/
def Scalar.print : Scalar → String
  | .null => "null"
  | .boolean value => toString value
  | .number value => value.print
  | .text value => printText value

mutual

/-- A text followed by a value in print. -/
def printOnto (before : String) : Value → String
  | .scalar value => before ++ value.print
  | .sequence items => printItems (before.push '[') true items
  | .map members => printMembers (before.push '\x7b') true members

/-- A text followed by the items that are left of a sequence, and its end. -/
def printItems (before : String) (isFirst : Bool) : List Value → String
  | [] => before.push ']'
  | item :: items =>
    printItems (printOnto (if isFirst then before else before.push ',') item) false items

/-- A text followed by the members that are left of a map, and its end. -/
def printMembers (before : String) (isFirst : Bool) : List (String × Value) → String
  | [] => before.push '\x7d'
  | (name, value) :: members =>
    let before := (if isFirst then before else before.push ',') ++ printText name
    printMembers (printOnto (before.push ':') value) false members

end

/-- A value in print. -/
def Value.print (value : Value) : String := printOnto "" value

end Reactor.Json
