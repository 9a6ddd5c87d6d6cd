import Reactor.Json.Blank
import Reactor.Text.Shortest

/-!
# Numbers of the data format

A number without a fraction or an exponent that fits a word of 64 bits, unsigned or signed, is an
integer. Every other number, and minus zero, is a floating value. Its coefficient is made of its
leading digits as long as they fit an unsigned word; the digits after them only count as places.
-/

namespace Reactor.Json

open Reactor.Text (Binary64)

/-- A number as it is understood. -/
inductive Number where
  | integer (value : Int)
  | floating (negative : Bool) (size : Binary64)
  deriving DecidableEq, Repr

/-- Integers from here on do not fit an unsigned word. -/
def wordLimit : Nat := 0x10000000000000000

/-- The value of a decimal digit. -/
def digitValue (c : Char) : Nat := c.toNat - '0'.toNat

/-- A coefficient extended by digits while it fits a word, with the number of digits taken. -/
def absorb : (coefficient taken : Nat) → (digits : List Char) → Nat × Nat
  | coefficient, taken, [] => (coefficient, taken)
  | coefficient, taken, d :: digits =>
    let next := coefficient * 10 + digitValue d
    if next < wordLimit then absorb next (taken + 1) digits else (coefficient, taken)

/-- The text split after its leading decimal digits. -/
def spanDigits (cs : List Char) : List Char × List Char :=
  (cs.takeWhile Char.isDigit, cs.dropWhile Char.isDigit)

/-- A floating value, or a flaw when it is too large to be one. -/
def floatingOf (negative : Bool) (coefficient : Nat) (power : Int) (rest : List Char) :
    Except Flaw (Number × List Char) :=
  match Binary64.ofDecimal? coefficient power with
  | some size => .ok (.floating negative size, rest)
  | none => .error .malformed

/-- The power that an exponent part adds, read after its letter. -/
def readExponent (cs : List Char) : Except Flaw (Int × List Char) :=
  let (negative, rest) := match cs with
    | '+' :: rest => (false, rest)
    | '-' :: rest => (true, rest)
    | rest => (false, rest)
  match spanDigits rest with
  | ([], []) => .error .truncated
  | ([], _) => .error .malformed
  | (digits, rest) =>
    let size : Int := digits.foldl (fun n d => n * 10 + digitValue d) 0
    .ok (if negative then -size else size, rest)

/-- The end of a floating number: an exponent part, or nothing. -/
def readScale (negative : Bool) (coefficient : Nat) (power : Int) :
    List Char → Except Flaw (Number × List Char)
  | 'e' :: rest | 'E' :: rest => do
    let (exponent, rest) ← readExponent rest
    floatingOf negative coefficient (power + exponent) rest
  | rest => floatingOf negative coefficient power rest

/-- A fraction, read after its point: at least one digit. -/
def readFraction (negative : Bool) (coefficient : Nat) (power : Int) (cs : List Char) :
    Except Flaw (Number × List Char) :=
  match spanDigits cs with
  | ([], []) => .error .truncated
  | ([], _) => .error .malformed
  | (digits, rest) =>
    let (coefficient, taken) := absorb coefficient 0 digits
    readScale negative coefficient (power - taken) rest

/-- An integer that fits a word; minus zero, and a negative one too large for a
signed word, are floating. -/
def integerOf (negative : Bool) (coefficient : Nat) (rest : List Char) :
    Except Flaw (Number × List Char) :=
  if !negative then .ok (.integer coefficient, rest)
  else if 0 < coefficient ∧ 2 * coefficient ≤ wordLimit then .ok (.integer (-coefficient), rest)
  else floatingOf true coefficient 0 rest

/-- What follows the digits of the whole part, `excess` of which did not go into the coefficient. -/
def readAfterWhole (negative : Bool) (coefficient excess : Nat) :
    List Char → Except Flaw (Number × List Char)
  | '.' :: rest => readFraction negative coefficient excess rest
  | 'e' :: rest => readScale negative coefficient excess ('e' :: rest)
  | 'E' :: rest => readScale negative coefficient excess ('E' :: rest)
  | rest =>
    if excess = 0 then integerOf negative coefficient rest
    else floatingOf negative coefficient excess rest

/-- A number, read after its sign. A leading zero stands alone. -/
def readUnsigned (negative : Bool) (cs : List Char) : Except Flaw (Number × List Char) :=
  match spanDigits cs with
  | ([], []) => .error .truncated
  | ([], _) => .error .malformed
  | (digits, rest) =>
    if digits.head? = some '0' ∧ 1 < digits.length then .error .malformed
    else
      let (coefficient, taken) := absorb 0 0 digits
      readAfterWhole negative coefficient (digits.length - taken) rest

/-- A number that starts with a digit or a minus sign. -/
def readNumber : List Char → Except Flaw (Number × List Char)
  | '-' :: rest => readUnsigned true rest
  | cs => readUnsigned false cs

/-- A floating value in print. -/
def floatingText (negative : Bool) (size : Binary64) : String :=
  if negative then "-" ++ size.text else size.text

end Reactor.Json
