import Mathlib.Data.List.Forall2
import Reactor.Options.Reader
import Reactor.Proofs.Json.Literals

/-!
# Documents of options

A document is a list of members, each a key with a literal. Members are judged from left to right,
against those before them: the key must be that of a field and a new one, and then the literal must
be one that the field takes. The reader comes to the same verdict on every text that the document
may be written as.
-/

namespace Reactor.Options

open Reactor.Json

/-! ## Documents and their verdicts -/

/-- A member of a document. -/
structure Member where
  key : String
  value : Literal
  deriving DecidableEq, Repr

/-- The ways to write a member, with blanks around its parts. -/
inductive Member.Writes (m : Member) : List Char → Prop where
  | member {b₁ b₂ b₃ b₄ us vs} (before : AllBlank b₁) (key : WritesText m.key.toList us)
    (between : AllBlank b₂) (next : AllBlank b₃) (value : m.value.Writes vs) (last : AllBlank b₄) :
    Writes m (b₁ ++ '"' :: (us ++ '"' :: (b₂ ++ ':' :: (b₃ ++ (vs ++ b₄)))))

/-- The ways to write a document: its members, separated by commas, within braces. -/
inductive WritesDocument (members : List Member) : String → Prop where
  | document {b₁ texts b₂ b₃} (before : AllBlank b₁)
    (parts : List.Forall₂ Member.Writes members texts) (last : AllBlank b₂) (after : AllBlank b₃) :
    WritesDocument members
      (String.ofList (b₁ ++ '\x7b' :: ([','].intercalate texts ++ (b₂ ++ '\x7d' :: b₃))))

/-- The values that a field takes. -/
def Field.Admits : Field → Nat → Prop
  | .defaultBacklog, n => n < 0x100000000
  | .readBufferSize, n | .maxReadPasses, n => 0 < n ∧ n < 0x10000000000000000

/-- Whether a field takes a value can be decided. -/
instance : (f : Field) → DecidablePred f.Admits
  | .defaultBacklog, n => inferInstanceAs (Decidable (n < 0x100000000))
  | .readBufferSize, n | .maxReadPasses, n =>
    inferInstanceAs (Decidable (0 < n ∧ n < 0x10000000000000000))

/-- A member that gives a field a value that it takes. -/
structure Member.Gives (m : Member) (f : Field) (n : Nat) : Prop where
  key : m.key = f.name
  value : m.value = .integer false n
  admits : f.Admits n

/-- A document as options are documented: no key stands twice, and every member
gives a field a value. -/
structure Documented (members : List Member) : Prop where
  distinct : (members.map (·.key)).Nodup
  gives : ∀ m ∈ members, ∃ f n, m.Gives f n

/-- What is wrong with a member after those before it. The key comes first,
whatever the value is. -/
inductive Member.Fault (m : Member) (earlier : List Member) : Mismatch → Prop where
  | unknown (stranger : ∀ f : Field, m.key ≠ f.name) : Fault m earlier (.unknownField m.key)
  | duplicate {f} (known : m.key = Field.name f) (again : m.key ∈ earlier.map (·.key)) :
      Fault m earlier (.duplicateField f)
  | kind {f s} (known : m.key = Field.name f) (new : m.key ∉ earlier.map (·.key))
    (means : m.value.Means s) (other : ∀ i, s ≠ .number (.integer i)) :
    Fault m earlier (.wrongType (.scalar s) f.wanted)
  | range {f i} (known : m.key = Field.name f) (new : m.key ∉ earlier.map (·.key))
    (means : m.value.Means (.number (.integer i))) (outside : ∀ n, f.Admits n → i ≠ n) :
    Fault m earlier (.wrongValue i f.wanted)

/-- The value of a field in a draft. -/
def Draft.get? (d : Draft) : Field → Option Nat
  | .defaultBacklog => d.defaultBacklog.map (·.val)
  | .readBufferSize => d.readBufferSize.map (·.val)
  | .maxReadPasses => d.maxReadPasses.map (·.val)

/-- A draft holds what members give. -/
def Draft.Holds (d : Draft) (members : List Member) : Prop :=
  ∀ f n, d.get? f = some n ↔ ⟨f.name, .integer false n⟩ ∈ members

/-- The verdict on members: a draft of what they give, or what is wrong with the leftmost
one that is at fault. -/
inductive Verdict (members : List Member) (rest : List Char) :
    Except Refusal (Draft × List Char) → Prop where
  | accepted {d} (documented : Documented members) (holds : d.Holds members) :
      Verdict members rest (.ok (d, rest))
  | refused {before m after x} (split : members = before ++ m :: after)
    (documented : Documented before) (fault : Member.Fault m before x) :
    Verdict members rest (.error (.data x))

/-! ## Fields and drafts -/

variable {d : Draft} {f : Field} {i : Int} {n : Nat} {m : Member} {earlier members : List Member}
  {text rest : List Char}

/-- No two fields have the same name. -/
theorem Field.name_inj {f g : Field} (same : f.name = g.name) : f = g := by
  revert same
  cases f <;> cases g <;> decide

/-- A field is found by its name. -/
theorem Field.ofName?_name (f : Field) : Field.ofName? f.name = some f := by
  cases f <;> decide

/-- By any other name no field is found. -/
theorem Field.ofName?_eq_none {name : String} (stranger : ∀ f : Field, name ≠ f.name) :
    Field.ofName? name = none := by
  simp only [ofName?, List.find?_eq_none, decide_eq_true_eq]
  exact fun f _ same => stranger f same.symm

namespace Draft

/-- A field has been given when the draft has a value for it. -/
theorem has_eq (d : Draft) (f : Field) : d.has f = (d.get? f).isSome := by
  cases f <;> simp [has, get?]

/-- A draft takes a value that its field takes, and the other fields stay. -/
theorem set?_of_admits (d : Draft) (admits : f.Admits n) :
    ∃ d', d.set? f n = some d' ∧ ∀ g, d'.get? g = if g = f then some n else d.get? g := by
  cases f with
  | defaultBacklog =>
    refine ⟨_, dif_pos ⟨Int.natCast_nonneg n, admits⟩, fun g => ?_⟩
    cases g <;> simp [get?]
  | readBufferSize | maxReadPasses =>
    refine ⟨_, dif_pos admits, fun g => ?_⟩
    cases g <;> simp [get?]

/-- A draft refuses a value that its field does not take. -/
theorem set?_eq_none (d : Draft) (outside : ∀ n, f.Admits n → i ≠ n) : d.set? f i = none := by
  cases f with
  | defaultBacklog =>
    refine dif_neg fun inside => outside i.toNat inside.2 ?_
    omega
  | readBufferSize | maxReadPasses =>
    refine dif_neg fun inside => outside i.toNat inside ?_
    have := inside.1
    omega

/-- The empty draft holds what no members give. -/
theorem holds_nil : Holds {} [] := fun f n => by cases f <;> simp [get?]

/-- A field is in a draft if its name is the key of a member. -/
theorem Holds.has_iff (holds : d.Holds earlier) (documented : Documented earlier) (f : Field) :
    d.has f = true ↔ f.name ∈ earlier.map (·.key) := by
  rw [has_eq, Option.isSome_iff_exists, List.mem_map]
  constructor
  · rintro ⟨n, got⟩
    exact ⟨_, (holds f n).1 got, rfl⟩
  · rintro ⟨⟨key, value⟩, here, same⟩
    obtain ⟨g, n, rfl, rfl, -⟩ := documented.gives _ here
    obtain rfl := Field.name_inj same
    exact ⟨n, (holds g n).2 here⟩

/-- A draft with one more value holds one more member. -/
theorem Holds.snoc {d' : Draft} (holds : d.Holds earlier) (gives : m.Gives f n)
    (new : m.key ∉ earlier.map (·.key))
    (after : ∀ g, d'.get? g = if g = f then some n else d.get? g) :
    d'.Holds (earlier ++ [m]) := by
  obtain ⟨key, value⟩ := m
  obtain ⟨rfl, rfl, -⟩ := gives
  intro g k
  rw [after, List.mem_append, List.mem_singleton, Member.mk.injEq, Literal.integer.injEq]
  by_cases same : g = f
  · subst same
    have absent : ⟨g.name, .integer false k⟩ ∉ earlier :=
      fun here => new (List.mem_map.2 ⟨_, here, rfl⟩)
    simp [absent, eq_comm]
  · have other : g.name ≠ f.name := fun names => same (Field.name_inj names)
    simp [same, other, holds g k]

end Draft

/-- A document without members is documented. -/
theorem documented_nil : Documented [] := ⟨List.nodup_nil, List.forall_mem_nil _⟩

/-- A document that is documented stays so with one more member that gives a field a
value, if its key is new. -/
theorem Documented.snoc (documented : Documented earlier) (gives : m.Gives f n)
    (new : m.key ∉ earlier.map (·.key)) :
    Documented (earlier ++ [m]) where
  distinct := by
    rw [List.map_append, List.nodup_append]
    refine ⟨documented.distinct, List.pairwise_singleton .., ?_⟩
    rintro k here _ last rfl
    obtain rfl : k = m.key := by simpa using last
    exact new here
  gives k here := by
    rcases List.mem_append.1 here with here | here
    · exact documented.gives k here
    · obtain rfl := List.mem_singleton.1 here
      exact ⟨f, n, gives⟩

/-- A literal that means a natural number is that number without a minus sign. -/
theorem eq_of_means {v : Literal} (means : v.Means (.number (.integer n))) :
    v = .integer false n := by
  cases means with
  | @integer negative size _ number =>
    generalize whole : Number.integer (n : Int) = x at number
    cases number with
    | natural => cases whole; rfl
    | negated some =>
      have minus : (n : Int) = -size := by simpa using whole
      omega
    | floating => cases whole

end Reactor.Options
