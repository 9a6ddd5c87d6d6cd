import Reactor.Json.Blank

/-!
# Strings of the data format

A string stands between double quotes. A backslash starts an escape: one letter, or `u` with the
four digits of a unit of sixteen bits. A character beyond the first plane is written as two such
units, a leading and a trailing surrogate, and a surrogate that stands alone is refused. Control
characters must be escaped.
-/

namespace Reactor.Json

/-- The value of a digit in base sixteen, of either case. -/
def hexValue? (c : Char) : Option Nat :=
  if '0' ≤ c ∧ c ≤ '9' then some (c.toNat - '0'.toNat)
  else if 'a' ≤ c ∧ c ≤ 'f' then some (c.toNat - 'a'.toNat + 10)
  else if 'A' ≤ c ∧ c ≤ 'F' then some (c.toNat - 'A'.toNat + 10)
  else none

/-- The number of bytes that a text takes. -/
def byteCount (cs : List Char) : Nat := (String.ofList cs).utf8ByteSize

/-- Four digits in base sixteen. A text of fewer than four bytes has ended
early, whatever it holds. -/
def readUnit : List Char → Except Flaw (Nat × List Char)
  | a :: b :: c :: d :: rest =>
    match hexValue? a, hexValue? b, hexValue? c, hexValue? d with
    | some a, some b, some c, some d => .ok (a * 4096 + b * 256 + c * 16 + d, rest)
    | _, _, _, _ => .error .malformed
  | cs => if byteCount cs < 4 then .error .truncated else .error .malformed

/-- Whether a unit is the first half of a pair. -/
def isLeading (n : Nat) : Bool := 0xD800 ≤ n && n ≤ 0xDBFF

/-- Whether a unit is the second half of a pair. -/
def isTrailing (n : Nat) : Bool := 0xDC00 ≤ n && n ≤ 0xDFFF

/-- The character of a pair of units. -/
def pairChar (lead trail : Nat) : Char :=
  Char.ofNat ((lead - 0xD800) * 1024 + (trail - 0xDC00) + 0x10000)

/-- The second half of a pair, with the escape that introduces it. -/
def readTrailing (lead : Nat) : List Char → Except Flaw (Char × List Char)
  | [] | ['\\'] => .error .truncated
  | '\\' :: 'u' :: rest => do
    let (trail, rest) ← readUnit rest
    if isTrailing trail then .ok (pairChar lead trail, rest) else .error .malformed
  | _ => .error .malformed

/-- The character of an escape, read after its backslash. -/
def readEscape : List Char → Except Flaw (Char × List Char)
  | [] => .error .truncated
  | 'u' :: rest => do
    let (unit, rest) ← readUnit rest
    if isTrailing unit then .error .malformed
    else if isLeading unit then readTrailing unit rest
    else .ok (Char.ofNat unit, rest)
  | '"' :: rest => .ok ('"', rest)
  | '\\' :: rest => .ok ('\\', rest)
  | '/' :: rest => .ok ('/', rest)
  | 'b' :: rest => .ok ('\x08', rest)
  | 'f' :: rest => .ok ('\x0c', rest)
  | 'n' :: rest => .ok ('\n', rest)
  | 'r' :: rest => .ok ('\r', rest)
  | 't' :: rest => .ok ('\t', rest)
  | _ => .error .malformed

/-- Characters up to the closing quote. Every character takes at least one of the text, so `fuel`
may be the text's length. -/
def readChars : (fuel : Nat) → List Char → Except Flaw (List Char × List Char)
  | 0, _ | _, [] => .error .truncated
  | fuel + 1, c :: rest =>
    if c = '"' then .ok ([], rest)
    else if c = '\\' then do
      let (c, rest) ← readEscape rest
      let (cs, rest) ← readChars fuel rest
      .ok (c :: cs, rest)
    else if c.toNat < 0x20 then .error .malformed
    else do
      let (cs, rest) ← readChars fuel rest
      .ok (c :: cs, rest)

/-- A string, read after its opening quote. -/
def readText (cs : List Char) : Except Flaw (String × List Char) := do
  let (text, rest) ← readChars cs.length cs
  .ok (String.ofList text, rest)

end Reactor.Json
