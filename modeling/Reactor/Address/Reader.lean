import Reactor.Address

/-!
# Socket addresses from a text

Four decimal bytes without leading zeros, or eight groups in base sixteen between brackets with at
most one gap, the last two of which may be given as four decimal bytes; a scope may follow the
groups. The port ends the text. A reader of a part returns the part and the rest of the text.
-/

namespace Reactor.SocketAddress

/-- The value of a digit in a base. -/
def digit? (base : Nat) (c : Char) : Option Nat :=
  let value :=
    if '0' ≤ c ∧ c ≤ '9' then c.toNat - '0'.toNat
    else if 'a' ≤ c ∧ c ≤ 'z' then c.toNat - 'a'.toNat + 10
    else if 'A' ≤ c ∧ c ≤ 'Z' then c.toNat - 'A'.toNat + 10
    else base
  if value < base then some value else none

/-- The digits at the front of a text, and the rest. -/
def spanBase (base : Nat) (cs : List Char) : List Nat × List Char :=
  ((cs.takeWhile fun c => (digit? base c).isSome).filterMap (digit? base),
    cs.dropWhile fun c => (digit? base c).isSome)

/-- A number below `limit`: at least one digit and, if it is said, at most so many. -/
def readNumber (base limit : Nat) (maxDigits : Option Nat) (cs : List Char) :
    Option (Nat × List Char) :=
  match spanBase base cs with
  | ([], _) => none
  | (digits, rest) =>
    let value := digits.foldl (fun n d => n * base + d) 0
    if value < limit ∧ (maxDigits.all (digits.length ≤ ·)) then some (value, rest) else none

/-- One character. -/
def readChar (c : Char) : List Char → Option (List Char)
  | [] => none
  | d :: rest => if c = d then some rest else none

/-- A byte in decimal, without a leading zero. -/
def readByte (cs : List Char) : Option (Nat × List Char) := do
  let (value, rest) ← readNumber 10 256 (some 3) cs
  if cs.head? = some '0' ∧ cs.length - rest.length ≠ 1 then none else some (value, rest)

/-- An address of the fourth version. -/
def readIp4 (cs : List Char) : Option (Ip4 × List Char) := do
  let (a, cs) ← readByte cs
  let (b, cs) ← (readChar '.' cs).bind readByte
  let (c, cs) ← (readChar '.' cs).bind readByte
  let (d, cs) ← (readChar '.' cs).bind readByte
  some (⟨a, b, c, d⟩, cs)

/-- Groups at the front of a text. -/
structure Groups where
  groups : List Nat := []
  /-- Whether the last two were given as an address of the fourth version. -/
  endsInIp4 : Bool := false

/-- The text after the colon that must stand before every group but the first. -/
def afterColon (isFirst : Bool) (cs : List Char) : Option (List Char) :=
  if isFirst then some cs else readChar ':' cs

/-- Groups with colons between them, as many as there are but at most `limit`. -/
def readGroups (limit : Nat) (isFirst : Bool) (cs : List Char) : Groups × List Char :=
  match limit with
  | 0 => ({}, cs)
  | limit + 1 =>
    match if 0 < limit then (afterColon isFirst cs).bind readIp4 else none with
    | some (ip, rest) =>
      ({ groups := [ip.a * 256 + ip.b, ip.c * 256 + ip.d], endsInIp4 := true }, rest)
    | none =>
      match (afterColon isFirst cs).bind (readNumber 16 0x10000 (some 4)) with
      | none => ({}, cs)
      | some (group, rest) =>
        let (more, rest) := readGroups limit false rest
        ({ more with groups := group :: more.groups }, rest)

/-- An address of the sixth version: eight groups, or fewer with a gap that
stands for at least one. -/
def readIp6 (cs : List Char) : Option (Ip6 × List Char) :=
  let (head, rest) := readGroups 8 true cs
  if head.groups.length = 8 then some (⟨head.groups⟩, rest)
  else if head.endsInIp4 then none
  else do
    let rest ← (readChar ':' rest).bind (readChar ':')
    let (tail, rest) := readGroups (7 - head.groups.length) true rest
    let zeros := List.replicate (8 - head.groups.length - tail.groups.length) 0
    some (⟨head.groups ++ zeros ++ tail.groups⟩, rest)

/-- A port, read with its colon. -/
def readPort (cs : List Char) : Option (Nat × List Char) :=
  (readChar ':' cs).bind (readNumber 10 0x10000 none)

/-- A scope, read with its sign; nothing is read when there is none. -/
def readScope (cs : List Char) : Nat × List Char :=
  ((readChar '%' cs).bind (readNumber 10 0x100000000 none)).getD (0, cs)

/-- A socket's address of the fourth version. -/
def readV4 (cs : List Char) : Option (SocketAddress × List Char) := do
  let (ip, cs) ← readIp4 cs
  let (port, cs) ← readPort cs
  some (.v4 ip port, cs)

/-- A socket's address of the sixth version. -/
def readV6 (cs : List Char) : Option (SocketAddress × List Char) := do
  let cs ← readChar '[' cs
  let (ip, cs) ← readIp6 cs
  let (scope, cs) := readScope cs
  let cs ← readChar ']' cs
  let (port, cs) ← readPort cs
  some (.v6 ip scope port, cs)

/-- The address that a text is. -/
def parse? (text : String) : Option SocketAddress :=
  match (readV4 text.toList).orElse fun _ => readV6 text.toList with
  | some (address, []) => some address
  | _ => none

end Reactor.SocketAddress
