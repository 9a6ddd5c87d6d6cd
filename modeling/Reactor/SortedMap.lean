/-!
# Sorted maps

Values under keys, in the strictly increasing order of the keys, so a key has at most one value. The
main lemmas say what every update does to `get?`, and that `get?` finds what `entries` holds.
-/

namespace Reactor

/-- Keys in a strict linear order. -/
class LinearKey (κ : Type) [LT κ] : Prop where
  irrefl (k : κ) : ¬k < k
  trans {i j k : κ} : i < j → j < k → i < k
  trichotomy (j k : κ) : j < k ∨ j = k ∨ k < j

/-- Numbers can be keys. -/
instance : LinearKey Nat := ⟨Nat.lt_irrefl, Nat.lt_trans, Nat.lt_trichotomy⟩

/-- Texts can be keys. -/
instance : LinearKey String := ⟨fun _ => Std.lt_irrefl, Std.lt_trans, Std.lt_trichotomy⟩

/-- Values under keys, in the order of the keys. -/
structure SortedMap (κ α : Type) [LT κ] where
  entries : List (κ × α) := []
  sorted : entries.Pairwise (fun x y => x.1 < y.1) := by exact .nil
  deriving DecidableEq, Repr

namespace SortedMap

variable {κ α β : Type} [LT κ]

/-- The map of no keys. -/
def empty : SortedMap κ α := {}

/-- The keys, in order. -/
def keys (m : SortedMap κ α) : List κ := m.entries.map (·.1)

/-- The map with every value changed. -/
def map (m : SortedMap κ α) (f : α → β) : SortedMap κ β :=
  ⟨m.entries.map fun (k, a) => (k, f a), List.pairwise_map.2 m.sorted⟩

section Keys

variable [DecidableEq κ]

/-- The value of a key. -/
def get? (m : SortedMap κ α) (k : κ) : Option α := m.entries.lookup k

/-- The map without a key. -/
def erase (m : SortedMap κ α) (k : κ) : SortedMap κ α :=
  ⟨m.entries.filter (·.1 ≠ k), m.sorted.filter _⟩

/-- Nothing is found in the empty map. -/
@[simp] theorem get?_empty (k : κ) : ({} : SortedMap κ α).get? k = none := rfl

/-- Mapping the values maps what is found. -/
theorem get?_map (m : SortedMap κ α) (f : α → β) (k : κ) : (m.map f).get? k = (m.get? k).map f := by
  obtain ⟨l, h⟩ := m
  simp only [map, get?]
  clear h
  induction l with
  | nil => simp
  | cons y rest ih => grind

/-- What was erased is not found, and the others as before. -/
theorem get?_erase (m : SortedMap κ α) (k j : κ) :
    (m.erase k).get? j = if j = k then none else m.get? j := by
  obtain ⟨l, h⟩ := m
  simp only [erase, get?]
  clear h
  induction l with
  | nil => simp
  | cons y rest ih => grind

/-- The entries are what is found. -/
theorem mem_entries_iff [LinearKey κ] (m : SortedMap κ α) (k : κ) (a : α) :
    (k, a) ∈ m.entries ↔ m.get? k = some a := by
  obtain ⟨l, h⟩ := m
  simp only [get?]
  induction l with
  | nil => simp
  | cons y rest ih =>
    obtain ⟨hy, hrest⟩ := List.pairwise_cons.1 h
    have ih := ih hrest
    have : ∀ b, (y.1, b) ∉ rest := fun b hb => LinearKey.irrefl _ (hy (y.1, b) hb)
    grind

end Keys

section Order

variable [DecidableLT κ]

/-- Entries with the value of a key set: the entry goes where its key belongs. -/
def setEntry (k : κ) (a : α) : List (κ × α) → List (κ × α)
  | [] => [(k, a)]
  | (j, b) :: rest =>
    if k < j then (k, a) :: (j, b) :: rest
    else if j < k then (j, b) :: setEntry k a rest
    else (k, a) :: rest

/-- An entry after setting one is the new one or an old one. -/
theorem mem_setEntry {k : κ} {a : α} {l : List (κ × α)} {x : κ × α} (h : x ∈ setEntry k a l) :
    x = (k, a) ∨ x ∈ l := by
  induction l with
  | nil => simpa [setEntry] using h
  | cons y rest ih =>
    unfold setEntry at h
    grind

variable [LinearKey κ]

/-- Setting an entry keeps the entries in order. -/
theorem sorted_setEntry (k : κ) (a : α) {l : List (κ × α)} (h : l.Pairwise fun x y => x.1 < y.1) :
    (setEntry k a l).Pairwise fun x y => x.1 < y.1 := by
  induction l with
  | nil => simp [setEntry]
  | cons y rest ih =>
    obtain ⟨hy, hrest⟩ := List.pairwise_cons.1 h
    unfold setEntry
    split
    case isTrue hk =>
      refine List.pairwise_cons.2 ⟨fun x hx => ?_, h⟩
      rcases List.mem_cons.1 hx with rfl | hx
      · exact hk
      · exact LinearKey.trans hk (hy x hx)
    case isFalse hk =>
      split
      case isTrue hj =>
        refine List.pairwise_cons.2 ⟨fun x hx => ?_, ih hrest⟩
        rcases mem_setEntry hx with rfl | hx
        · exact hj
        · exact hy x hx
      case isFalse hj =>
        have : k = y.1 := ((LinearKey.trichotomy k y.1).resolve_left hk).resolve_right hj
        exact List.pairwise_cons.2 ⟨fun x hx => this ▸ hy x hx, hrest⟩

/-- The map with the value of a key set. -/
def insert (m : SortedMap κ α) (k : κ) (a : α) : SortedMap κ α :=
  ⟨setEntry k a m.entries, sorted_setEntry k a m.sorted⟩

/-- What was inserted is found under its key, and the others as before. -/
theorem get?_insert [DecidableEq κ] (m : SortedMap κ α) (k : κ) (a : α) (j : κ) :
    (m.insert k a).get? j = if j = k then some a else m.get? j := by
  obtain ⟨l, h⟩ := m
  simp only [insert, get?]
  clear h
  induction l with
  | nil => grind [setEntry]
  | cons y rest ih =>
    have := LinearKey.trichotomy k y.1
    have := LinearKey.irrefl k
    grind [setEntry]

/-- The map with the value of a key changed, if it has one. -/
def modify [DecidableEq κ] (m : SortedMap κ α) (k : κ) (f : α → α) : SortedMap κ α :=
  match m.get? k with
  | some a => m.insert k (f a)
  | none => m

/-- A change is found under its key, and the others as before. -/
theorem get?_modify [DecidableEq κ] (m : SortedMap κ α) (k : κ) (f : α → α) (j : κ) :
    (m.modify k f).get? j = if j = k then (m.get? j).map f else m.get? j := by
  unfold modify
  split
  case h_1 a found =>
    rw [get?_insert]
    split
    case isTrue same => rw [same, found]; rfl
    case isFalse => rfl
  case h_2 none =>
    split
    case isTrue same => rw [same, none]; rfl
    case isFalse => rfl

end Order

end SortedMap

end Reactor
