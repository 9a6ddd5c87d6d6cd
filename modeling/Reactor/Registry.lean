import Std.Data.TreeMap

/-!
# Registries

Entries numbered in the order in which they were added. Removing an entry leaves its number used up,
so a number never stands for two entries. The main lemmas say what every update does to `get?`, and
that `toList` holds what `get?` finds, in the order of the numbers.
-/

namespace Reactor

/-- Entries by number; a number whose entry was removed holds nothing. -/
structure Registry (α : Type) where
  /-- The number that the next entry will get. -/
  next : Nat := 0
  entries : Std.TreeMap Nat α := {}
  lt_next : ∀ i ∈ entries, i < next := by simp
  deriving Repr

namespace Registry

variable {α : Type}

/-- The entry of a number. -/
def get? (r : Registry α) (i : Nat) : Option α := r.entries[i]?

/-- The registry with one more entry, under the next number. -/
def add (r : Registry α) (a : α) : Registry α where
  next := r.next + 1
  entries := r.entries.insert r.next a
  lt_next i h := by
    rcases Std.TreeMap.mem_insert.1 h with h | h
    · have := Nat.compare_eq_eq.1 h
      omega
    · have := r.lt_next i h
      omega

/-- The registry with the entry of a number changed, if there is one. -/
def modify (r : Registry α) (i : Nat) (f : α → α) : Registry α where
  next := r.next
  entries := r.entries.modify i f
  lt_next j h := r.lt_next j (Std.TreeMap.mem_modify.1 h)

/-- The registry without the entry of a number. -/
def remove (r : Registry α) (i : Nat) : Registry α where
  next := r.next
  entries := r.entries.erase i
  lt_next j h := r.lt_next j (Std.TreeMap.mem_erase.1 h).2

/-- The entries with their numbers, in the order of the numbers. -/
def toList (r : Registry α) : List (Nat × α) := r.entries.toList

/-- The numbers that have an entry, in order. -/
def ids (r : Registry α) : List Nat := r.entries.keys

/-- The entries in the order of their numbers. -/
def values (r : Registry α) : List α := r.toList.map (·.2)

/-- The number of entries. -/
def size (r : Registry α) : Nat := r.entries.size

/-- Whether there is no entry. -/
def isEmpty (r : Registry α) : Bool := r.entries.isEmpty

/-- Adding an entry uses up a number. -/
@[simp] theorem next_add (r : Registry α) (a : α) : (r.add a).next = r.next + 1 := rfl

/-- Changing an entry uses up no number. -/
@[simp] theorem next_modify (r : Registry α) (i : Nat) (f : α → α) :
    (r.modify i f).next = r.next := rfl

/-- Removing an entry gives its number to no other. -/
@[simp] theorem next_remove (r : Registry α) (i : Nat) : (r.remove i).next = r.next := rfl

/-- Nothing is found under a number that was not given yet. -/
theorem get?_eq_none_of_next_le (r : Registry α) {i : Nat} (h : r.next ≤ i) : r.get? i = none := by
  refine Std.TreeMap.getElem?_eq_none fun hi => ?_
  have := r.lt_next i hi
  omega

/-- A new entry is found under the next number, and the others where they were. -/
theorem get?_add (r : Registry α) (a : α) (i : Nat) :
    (r.add a).get? i = if i = r.next then some a else r.get? i := by
  simp only [get?, add, Std.TreeMap.getElem?_insert, Nat.compare_eq_eq]
  by_cases h : i = r.next
  · rw [if_pos h, if_pos h.symm]
  · rw [if_neg h, if_neg (Ne.symm h)]

/-- A change is found in its entry, and in no other. -/
theorem get?_modify (r : Registry α) (i : Nat) (f : α → α) (j : Nat) :
    (r.modify i f).get? j = if i = j then (r.get? j).map f else r.get? j := by
  simp only [get?, modify, Std.TreeMap.getElem?_modify, Nat.compare_eq_eq]
  split
  case isTrue h => rw [h]
  case isFalse h => rfl

/-- An entry that was removed is not found, and the others where they were. -/
theorem get?_remove (r : Registry α) (i j : Nat) :
    (r.remove i).get? j = if i = j then none else r.get? j := by
  simp only [get?, remove, Std.TreeMap.getElem?_erase, Nat.compare_eq_eq]

/-- What is listed is what is found. -/
theorem mem_toList_iff (r : Registry α) (i : Nat) (a : α) : (i, a) ∈ r.toList ↔ r.get? i = some a :=
  Std.TreeMap.mem_toList_iff_getElem?_eq_some

/-- The numbers are those of the entries listed. -/
theorem ids_eq (r : Registry α) : r.ids = r.toList.map (·.1) :=
  Std.TreeMap.map_fst_toList_eq_keys.symm

/-- The entries are listed in the order of their numbers. -/
theorem toList_sorted (r : Registry α) : r.toList.Pairwise fun x y => x.1 < y.1 :=
  Std.TreeMap.ordered_keys_toList.imp Nat.compare_eq_lt.1

end Registry

end Reactor
