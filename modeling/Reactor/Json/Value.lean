import Reactor.Json.Head
import Reactor.SortedMap

/-!
# Values of the data format

A value is a scalar, a sequence of values, or a map from names to values. The members of a map stand
in the order of their names, and of members with one name only the last is kept, so the order in
which a text gives them does not matter.
-/

namespace Reactor.Json

/-- A value. -/
inductive Value where
  | scalar (value : Scalar)
  | sequence (items : List Value)
  | map (members : List (String × Value))
  deriving Repr

namespace Value

/-- Where any value will do, it is null. -/
instance : Inhabited Value := ⟨.scalar .null⟩

/-- The value that says nothing. -/
@[match_pattern] abbrev null : Value := .scalar .null

/-- A truth value. -/
@[match_pattern] abbrev boolean (value : Bool) : Value := .scalar (.boolean value)

/-- A string. -/
@[match_pattern] abbrev text (value : String) : Value := .scalar (.text value)

/-- A number that is an integer. -/
@[match_pattern] abbrev integer (value : Int) : Value := .scalar (.number (.integer value))

/-- The value of a member of a map. -/
def member? (name : String) : Value → Option Value
  | .map members => members.lookup name
  | _ => none

end Value

mutual

/-- The value that stands next, after blanks. Every character that is read pays for two calls, so
`fuel` may exceed twice the text's length by one. -/
def readValue : (fuel : Nat) → List Char → Except Flaw (Value × List Char)
  | 0, _ => .error .truncated
  | fuel + 1, cs => do
    let (head, rest) ← readHead (skipBlank cs)
    match head with
    | .scalar s => .ok (.scalar s, rest)
    | .sequence =>
      match skipBlank rest with
      | ']' :: rest => .ok (.sequence [], rest)
      | rest => do
        let (items, rest) ← readItems fuel rest
        .ok (.sequence items, rest)
    | .map =>
      match skipBlank rest with
      | '\x7d' :: rest => .ok (.map [], rest)
      | rest => do
        let (members, rest) ← readMembers fuel [] rest
        .ok (.map members, rest)

/-- The items of a sequence from the next one up to its end. -/
def readItems : (fuel : Nat) → List Char → Except Flaw (List Value × List Char)
  | 0, _ => .error .truncated
  | fuel + 1, cs => do
    let (item, rest) ← readValue fuel cs
    match skipBlank rest with
    | ']' :: rest => .ok ([item], rest)
    | ',' :: rest => do
      let (items, rest) ← readItems fuel rest
      .ok (item :: items, rest)
    | [] => .error .truncated
    | _ => .error .malformed

/-- The members of a map from the next one up to its end, together with those read before. -/
def readMembers : (fuel : Nat) → List (String × Value) → List Char →
    Except Flaw (List (String × Value) × List Char)
  | 0, _, _ => .error .truncated
  | fuel + 1, members, cs =>
    match skipBlank cs with
    | [] => .error .truncated
    | '"' :: rest => do
      let (name, rest) ← readText rest
      let rest ← readColon rest
      let (value, rest) ← readValue fuel rest
      let members := SortedMap.setEntry name value members
      match skipBlank rest with
      | '\x7d' :: rest => .ok (members, rest)
      | ',' :: rest => readMembers fuel members rest
      | [] => .error .truncated
      | _ => .error .malformed
    | _ => .error .malformed

end

/-- The value that a text is; only blanks may follow it. -/
def Value.parse (text : String) : Except Flaw Value := do
  let cs := text.toList
  let (value, rest) ← readValue (2 * cs.length + 1) cs
  if (skipBlank rest).isEmpty then .ok value else .error .malformed

end Reactor.Json
