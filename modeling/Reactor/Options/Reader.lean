import Reactor.Options.Refusal

/-!
# Options from a text

The text is a map from names to integers, or a sequence of up to three integers. It is read from
left to right and the first fault decides: a name is judged when it has been read, before its value,
and a value as soon as its kind is known. What is not given keeps its default.
-/

namespace Reactor.Options

open Reactor.Json (Flaw readColon readHead readText skipBlank)

/-- The values read so far. -/
structure Draft where
  defaultBacklog : Option Backlog := none
  readBufferSize : Option Extent := none
  maxReadPasses : Option Extent := none
  deriving DecidableEq, Repr

namespace Draft

/-- Whether a field has been given. -/
def has (d : Draft) : Field → Bool
  | .defaultBacklog => d.defaultBacklog.isSome
  | .readBufferSize => d.readBufferSize.isSome
  | .maxReadPasses => d.maxReadPasses.isSome

/-- The draft with one more value, unless the value is out of range. -/
def set? (d : Draft) (f : Field) (n : Int) : Option Draft :=
  match f with
  | .defaultBacklog =>
    if h : 0 ≤ n ∧ n.toNat < 0x100000000 then
      some { d with defaultBacklog := some ⟨n.toNat, h.2⟩ }
    else none
  | .readBufferSize =>
    if h : 0 < n.toNat ∧ n.toNat < 0x10000000000000000 then
      some { d with readBufferSize := some ⟨n.toNat, h⟩ }
    else none
  | .maxReadPasses =>
    if h : 0 < n.toNat ∧ n.toNat < 0x10000000000000000 then
      some { d with maxReadPasses := some ⟨n.toNat, h⟩ }
    else none

/-- The options of a draft, with defaults for what was not given. -/
def options (d : Draft) : Options :=
  { standard with
    defaultBacklog := d.defaultBacklog.getD standard.defaultBacklog
    readBufferSize := d.readBufferSize.getD standard.readBufferSize
    maxReadPasses := d.maxReadPasses.getD standard.maxReadPasses }

end Draft

/-- The text's own fault as a reason to refuse it. -/
def ofRead {α : Type} : Except Flaw α → Except Refusal α
  | .ok a => .ok a
  | .error flaw => .error (.text flaw)

/-- The value of a field. -/
def readValue (d : Draft) (f : Field) (cs : List Char) : Except Refusal (Draft × List Char) := do
  let (head, rest) ← ofRead (readHead (skipBlank cs))
  match head with
  | .scalar (.number (.integer n)) =>
    match d.set? f n with
    | some d => .ok (d, rest)
    | none => .error (.data (.wrongValue n f.wanted))
  | found => .error (.data (.wrongType found f.wanted))

/-- A name and its value, read after the name's opening quote. -/
def readMember (d : Draft) (cs : List Char) : Except Refusal (Draft × List Char) := do
  let (name, rest) ← ofRead (readText cs)
  match Field.ofName? name with
  | none => .error (.data (.unknownField name))
  | some f =>
    if d.has f then .error (.data (.duplicateField f))
    else
      let rest ← ofRead (readColon rest)
      readValue d f rest

/-- The members of a map up to its end. Every member takes characters, so `fuel` may exceed the
text's length by one. -/
def readMembers (fuel : Nat) (isFirst : Bool) (d : Draft) (cs : List Char) :
    Except Refusal (Draft × List Char) :=
  match fuel, skipBlank cs with
  | 0, _ | _, [] => .error (.text .truncated)
  | _, '\x7d' :: rest => .ok (d, rest)
  | fuel + 1, c :: rest =>
    if isFirst then
      if c = '"' then do
        let (d, rest) ← readMember d rest
        readMembers fuel false d rest
      else .error (.text .malformed)
    else if c = ',' then
      match skipBlank rest with
      | [] => .error (.text .truncated)
      | '"' :: rest => do
        let (d, rest) ← readMember d rest
        readMembers fuel false d rest
      | _ => .error (.text .malformed)
    else .error (.text .malformed)

/-- The items of a sequence up to its end, for the fields that are left. -/
def readItems (fields : List Field) (isFirst : Bool) (d : Draft) (cs : List Char) :
    Except Refusal (Draft × List Char) :=
  match fields, skipBlank cs with
  | _, [] => .error (.text .truncated)
  | _, ']' :: rest => .ok (d, rest)
  | [], _ => .error (.text .malformed)
  | f :: fields, c :: rest =>
    if isFirst then do
      let (d, rest) ← readValue d f (c :: rest)
      readItems fields false d rest
    else if c = ',' then
      match skipBlank rest with
      | [] => .error (.text .truncated)
      | ']' :: _ => .error (.text .malformed)
      | rest => do
        let (d, rest) ← readValue d f rest
        readItems fields false d rest
    else .error (.text .malformed)

/-- The map or the sequence that the text starts with. -/
def readDraft (cs : List Char) : Except Refusal (Draft × List Char) :=
  match skipBlank cs with
  | '\x7b' :: rest => readMembers (rest.length + 1) true {} rest
  | '[' :: rest => readItems Field.all true {} rest
  | cs => do
    let (found, _) ← ofRead (readHead cs)
    .error (.data (.wrongType found .options))

/-- The options that a text gives; only blanks may follow the map or the sequence. -/
def parse (text : String) : Except Refusal Options := do
  let (d, rest) ← readDraft text.toList
  if (skipBlank rest).isEmpty then .ok d.options else .error (.text .malformed)

end Reactor.Options
