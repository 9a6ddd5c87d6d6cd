/-!
# Socket addresses

An address of the fourth or the sixth version with a port, and its text. In an address of the
sixth version the longest run of zero groups, if it has at least two, is left out; of two
equally long runs the first is. An address that embeds one of the fourth version in the
mapped form shows it as such.
-/

namespace Reactor

/-- An address of the fourth version: its four bytes. -/
structure Ip4 where
  a : Nat
  b : Nat
  c : Nat
  d : Nat
  deriving DecidableEq, Repr

/-- An address of the sixth version: its eight groups of sixteen bits. -/
structure Ip6 where
  groups : List Nat
  deriving DecidableEq, Repr

/-- An address of a socket. -/
inductive SocketAddress where
  | v4 (ip : Ip4) (port : Nat)
  | v6 (ip : Ip6) (scope : Nat) (port : Nat)
  deriving DecidableEq, Repr

/-- An address of the fourth version in print. -/
def Ip4.display (ip : Ip4) : String :=
  String.intercalate "." ([ip.a, ip.b, ip.c, ip.d].map toString)

namespace Ip6

/-- The address of the fourth version that is embedded in the mapped form. -/
def mapped? (ip : Ip6) : Option Ip4 :=
  match ip.groups with
  | [0, 0, 0, 0, 0, 0xFFFF, high, low] => some ⟨high / 256, high % 256, low / 256, low % 256⟩
  | _ => none

/-- A run of groups: where it starts and how many there are. -/
structure Run where
  start : Nat
  length : Nat
  deriving DecidableEq, Repr

/-- The longest run of zeros and, before it, the run that reaches up to the
groups still to be seen. -/
def zeroRun : (groups : List Nat) → (position : Nat) → (current longest : Run) → Run
  | [], _, _, longest => longest
  | 0 :: groups, position, current, longest =>
    let current := if current.length = 0 then ⟨position, 1⟩ else ⟨current.start, current.length + 1⟩
    zeroRun groups (position + 1) current
      (if longest.length < current.length then current else longest)
  | _ :: groups, position, _, longest => zeroRun groups (position + 1) ⟨0, 0⟩ longest

/-- Groups in print, between colons. -/
def groupsText (groups : List Nat) : String :=
  String.intercalate ":" (groups.map fun g => String.ofList (Nat.toDigits 16 g))

/-- An address of the sixth version in print. -/
def display (ip : Ip6) : String :=
  match ip.mapped? with
  | some ip => "::ffff:" ++ ip.display
  | none =>
    let run := zeroRun ip.groups 0 ⟨0, 0⟩ ⟨0, 0⟩
    if 1 < run.length then
      groupsText (ip.groups.take run.start) ++ "::" ++
        groupsText (ip.groups.drop (run.start + run.length))
    else groupsText ip.groups

end Ip6

/-- The address of a socket in print. A scope that is not zero follows the address. -/
def SocketAddress.display : SocketAddress → String
  | .v4 ip port => ip.display ++ ":" ++ toString port
  | .v6 ip scope port =>
    let scope := if scope = 0 then "" else "%" ++ toString scope
    "[" ++ ip.display ++ scope ++ "]:" ++ toString port

end Reactor
