import Reactor.Registry

/-!
# Counting the entries of a registry

The entries with their numbers, up to order: one more entry adds one pair and a removal takes one
away. Hence how many entries have a property grows and shrinks by what the entry itself contributes.
-/

namespace Reactor.Registry

variable {α : Type}

/-- Nothing is found in an empty registry. -/
@[simp] theorem get?_empty {next : Nat}
    (bound : ∀ i ∈ ({} : Std.TreeMap Nat α), i < next) (i : Nat) :
    (mk next {} bound : Registry α).get? i = none := rfl

/-- Nothing is found under the next number. -/
theorem get?_next (r : Registry α) : r.get? r.next = none :=
  r.get?_eq_none_of_next_le (Nat.le_refl _)

/-- What is found has a number below the next. -/
theorem lt_next_of_get? {r : Registry α} {i : Nat} {a : α} (h : r.get? i = some a) :
    i < r.next := by
  refine Nat.lt_of_not_le fun hi => ?_
  rw [r.get?_eq_none_of_next_le hi] at h
  cases h

/-- What is found after a removal was found before, under another number. -/
theorem get?_of_remove {r : Registry α} {i j : Nat} {a : α} (found : (r.remove i).get? j = some a) :
    i ≠ j ∧ r.get? j = some a := by
  rw [get?_remove] at found
  split at found
  case isTrue => cases found
  case isFalse other => exact ⟨other, found⟩

/-- A change that leaves the entry of its number as it is leaves the registry as it is. -/
theorem modify_eq_self {r : Registry α} {i : Nat} {f : α → α}
    (same : ∀ a, r.get? i = some a → f a = a) :
    r.modify i f = r := by
  have tree (t : Std.DTreeMap.Internal.Impl Nat fun _ => α)
      (same : ∀ a, Std.DTreeMap.Internal.Impl.Const.get? t i = some a → f a = a) :
      Std.DTreeMap.Internal.Impl.Const.modify i f t = t := by
    induction t with
    | leaf => rfl
    | inner size key a left right ihl ihr =>
      simp only [Std.DTreeMap.Internal.Impl.Const.get?] at same
      unfold Std.DTreeMap.Internal.Impl.Const.modify
      split at same
      case h_1 less => simp only [less, ihl same]
      case h_2 greater => simp only [greater, ihr same]
      case h_3 equal =>
        simp only [equal]
        rw [same a rfl, Nat.compare_eq_eq.1 equal]
  obtain ⟨next, ⟨⟨entries, wf⟩⟩, lt_next⟩ := r
  simp only [modify, Std.TreeMap.modify, Std.DTreeMap.Const.modify, tree entries same]

/-- A registry in which nothing is found is empty. -/
theorem isEmpty_of_get? {r : Registry α} (nothing : ∀ i, r.get? i = none) :
    r.isEmpty = true ∧ r.size = 0 := by
  have empty : r.entries.isEmpty = true :=
    Std.TreeMap.isEmpty_iff_forall_not_mem.2 fun i there => by
      obtain ⟨a, found⟩ := Option.isSome_iff_exists.1 (Std.TreeMap.mem_iff_isSome_getElem?.1 there)
      cases (nothing i).symm.trans found
  rw [Std.TreeMap.isEmpty_eq_size_eq_zero] at empty
  exact ⟨Std.TreeMap.isEmpty_eq_size_eq_zero.trans empty, beq_iff_eq.1 empty⟩

/-- No entry is listed twice. -/
theorem nodup_toList (r : Registry α) : r.toList.Nodup := by
  refine r.toList_sorted.imp fun {x y} h heq => ?_
  rw [heq] at h
  exact Nat.lt_irrefl _ h

/-- The numbers of the entries are those under which something is found. -/
theorem mem_ids_iff (r : Registry α) (i : Nat) : i ∈ r.ids ↔ (r.get? i).isSome := by
  simp only [ids_eq, List.mem_map, Prod.exists, mem_toList_iff, exists_and_right, exists_eq_right,
    Option.isSome_iff_exists]

/-- The numbers are listed in order. -/
theorem ids_sorted (r : Registry α) : r.ids.Pairwise (· < ·) := by
  rw [ids_eq]
  exact List.pairwise_map.2 r.toList_sorted

/-- No number is listed twice. -/
theorem nodup_ids (r : Registry α) : r.ids.Nodup := r.ids_sorted.imp fun less => Nat.ne_of_lt less

/-- Where something is found under the same numbers, the numbers are the same. -/
theorem ids_congr {r s : Registry α} (same : ∀ i, (s.get? i).isSome = (r.get? i).isSome) :
    s.ids = r.ids :=
  List.Perm.eq_of_pairwise (fun _ _ _ _ less more => (Nat.lt_asymm less more).elim) s.ids_sorted
    r.ids_sorted <|
    (List.perm_ext_iff_of_nodup s.nodup_ids r.nodup_ids).2 fun i => by
      rw [mem_ids_iff, mem_ids_iff, same]

/-- The values are the entries that are found. -/
theorem mem_values_iff (r : Registry α) (a : α) : a ∈ r.values ↔ ∃ i, r.get? i = some a := by
  simp only [values, List.mem_map, Prod.exists, mem_toList_iff, exists_eq_right]

/-- Adding an entry adds it to the list, and nothing else. -/
theorem toList_add_perm (r : Registry α) (a : α) :
    (r.add a).toList.Perm ((r.next, a) :: r.toList) := by
  have hnew : (r.next, a) ∉ r.toList := by rw [mem_toList_iff, get?_next]; simp
  refine (List.perm_ext_iff_of_nodup (nodup_toList _) (List.nodup_cons.2 ⟨hnew, nodup_toList _⟩)).2
    ?_
  rintro ⟨i, b⟩
  rw [mem_toList_iff, get?_add, List.mem_cons, mem_toList_iff]
  by_cases hi : i = r.next
  · subst hi
    simp [get?_next, eq_comm]
  · simp [hi]

/-- Removing an entry takes it from the list, and nothing else. -/
theorem toList_remove_perm {r : Registry α} {i : Nat} {a : α} (h : r.get? i = some a) :
    r.toList.Perm ((i, a) :: (r.remove i).toList) := by
  have hgone : (i, a) ∉ (r.remove i).toList := by rw [mem_toList_iff, get?_remove, if_pos rfl]; simp
  refine (List.perm_ext_iff_of_nodup (nodup_toList _) (List.nodup_cons.2 ⟨hgone, nodup_toList _⟩)).2
    ?_
  rintro ⟨j, b⟩
  rw [mem_toList_iff, List.mem_cons, mem_toList_iff, get?_remove]
  by_cases hj : i = j
  · subst hj
    simp [h, eq_comm]
  · simp [hj, Ne.symm hj]

/-- There are as many entries as numbers. -/
theorem size_eq_length_ids (r : Registry α) : r.size = r.ids.length := Std.TreeMap.length_keys.symm

/-- A removal takes one entry away. -/
theorem size_remove {r : Registry α} {i : Nat} {a : α} (h : r.get? i = some a) :
    (r.remove i).size + 1 = r.size := by
  rw [size_eq_length_ids, size_eq_length_ids, ids_eq, ids_eq,
    ((toList_remove_perm h).map (·.1)).length_eq]
  rfl

/-- One more entry counts if it has the property. -/
theorem countP_values_add (r : Registry α) (a : α) (p : α → Bool) :
    (r.add a).values.countP p = r.values.countP p + if p a then 1 else 0 := by
  rw [values, ((r.toList_add_perm a).map (·.2)).countP_eq, List.map_cons, List.countP_cons, values]

/-- An entry that is removed no longer counts. -/
theorem countP_values_remove {r : Registry α} {i : Nat} {a : α} (h : r.get? i = some a)
    (p : α → Bool) :
    r.values.countP p = (r.remove i).values.countP p + if p a then 1 else 0 := by
  rw [values, ((toList_remove_perm h).map (·.2)).countP_eq, List.map_cons, List.countP_cons, values]

end Reactor.Registry
