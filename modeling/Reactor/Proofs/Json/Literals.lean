import Mathlib.Data.List.TakeWhile
import Mathlib.Tactic.Ring
import Reactor.Json.Head
import Reactor.Proofs.Json.Spelling
import Reactor.Proofs.Text.Binary64

/-!
# Literals

A literal is null, a truth value, a string or an integer. An integer is read as such when it fits a
word; minus zero and the integers beyond are read as floating values, of which there is one for
every integer of up to 300 digits. So every literal is read, up to where it ends.
-/

namespace Reactor.Json

open Reactor.Text (Binary64)

/-! ## What is written and what it means -/

/-- A natural number in decimal digits, without needless zeros in front. -/
structure Numeral (n : Nat) (cs : List Char) : Prop where
  digits : ∀ c ∈ cs, c.isDigit = true
  nonempty : cs ≠ []
  lead : cs.head? = some '0' → cs.length ≤ 1
  value : Nat.ofDigitChars 10 cs 0 = n

/-- A literal. -/
inductive Literal where
  | null
  | boolean (value : Bool)
  | text (value : String)
  | integer (negative : Bool) (size : Nat)
  deriving DecidableEq, Repr

/-- The ways to write a literal, with up to 300 digits for an integer. -/
inductive Literal.Writes : Literal → List Char → Prop where
  | null : Writes .null ['n', 'u', 'l', 'l']
  | yes : Writes (.boolean true) ['t', 'r', 'u', 'e']
  | no : Writes (.boolean false) ['f', 'a', 'l', 's', 'e']
  | text {s us} (inner : WritesText s.toList us) : Writes (.text s) ('"' :: us ++ ['"'])
  | natural {n cs} (numeral : Numeral n cs) (short : cs.length ≤ 300) : Writes (.integer false n) cs
  | negated {n cs} (numeral : Numeral n cs) (short : cs.length ≤ 300) :
      Writes (.integer true n) ('-' :: cs)

/-- The least number of places that a number has to lose to fit a word. -/
structure Excess (n places : Nat) : Prop where
  fits : n / Nat.pow 10 places < wordLimit
  least : ∀ j < places, wordLimit ≤ n / Nat.pow 10 j

/-- The number that an integer with or without a minus sign is. -/
inductive IsNumber : Bool → Nat → Number → Prop where
  | natural {n} (word : n < wordLimit) : IsNumber false n (.integer n)
  | negated {n} (some : 0 < n) (half : 2 * n ≤ wordLimit) : IsNumber true n (.integer (-n))
  | floating {negative n places size}
    (beyond : if negative then n = 0 ∨ wordLimit < 2 * n else wordLimit ≤ n)
    (excess : Excess n places)
    (rounded : Binary64.ofDecimal? (n / Nat.pow 10 places) places = some size) :
    IsNumber negative n (.floating negative size)

/-- The scalar that a literal is. -/
inductive Literal.Means : Literal → Scalar → Prop where
  | null : Means .null .null
  | boolean {b} : Means (.boolean b) (.boolean b)
  | text {s} : Means (.text s) (.text s)
  | integer {negative n x} (number : IsNumber negative n x) :
      Means (.integer negative n) (.number x)

/-- What follows a number does not go on with it. -/
def EndsNumber (rest : List Char) : Prop :=
  ∀ c, rest.head? = some c → c.isDigit = false ∧ c ≠ '.' ∧ c ≠ 'e' ∧ c ≠ 'E'

variable {n k c t : Nat} {cs us rest : List Char} {negative : Bool}

/-! ## Numerals -/

/-- A number written in `k` decimal digits is less than `10 ^ k`. -/
theorem ofDigitChars_lt (digits : ∀ c ∈ cs, c.isDigit = true) :
    Nat.ofDigitChars 10 cs 0 < 10 ^ cs.length := by
  induction cs with
  | nil => exact Nat.one_pos
  | cons d ds ih =>
    have digit : d.toNat - '0'.toNat ≤ 9 := by
      have bounds := Char.isDigit_iff_toNat.1 (digits d (List.mem_cons_self ..))
      have zero : '0'.toNat = 48 := rfl
      have nine : '9'.toNat = 57 := rfl
      omega
    have ih := ih fun c hc => digits c (List.mem_cons_of_mem _ hc)
    rw [Nat.ofDigitChars_cons, Nat.ofDigitChars_eq_ofDigitChars_zero, List.length_cons, pow_succ]
    calc 10 ^ ds.length * (10 * 0 + (d.toNat - '0'.toNat)) + Nat.ofDigitChars 10 ds 0
        < 10 ^ ds.length * (10 * 0 + (d.toNat - '0'.toNat)) + 10 ^ ds.length :=
          Nat.add_lt_add_left ih _
      _ = 10 ^ ds.length * (d.toNat - '0'.toNat + 1) := by ring
      _ ≤ 10 ^ ds.length * 10 := Nat.mul_le_mul_left _ (by omega)

/-- The decimal digits of a natural number are a numeral of it. -/
theorem numeral_toDigits (n : Nat) : Numeral n (Nat.toDigits 10 n) where
  digits c hc := Nat.isDigit_of_mem_toDigits (by norm_num) (by norm_num) hc
  nonempty := Nat.toDigits_ne_nil
  lead zero := by
    induction n using Nat.strong_induction_on with
    | _ n ih =>
      rcases Nat.lt_or_ge n 10 with small | large
      · rw [Nat.toDigits_of_lt_base small]
        rfl
      · -- the first digit is that of a tenth of the number, which is not zero
        exfalso
        have value : Nat.ofDigitChars 10 (Nat.toDigits 10 (n / 10)) 0 = n / 10 :=
          Nat.ofDigitChars_ten_toDigits
        have ih := ih (n / 10) (Nat.div_lt_self (by omega) (by norm_num))
        rw [Nat.toDigits_of_base_le (by norm_num) large] at zero
        rcases digits : Nat.toDigits 10 (n / 10) with _ | ⟨d, _ | ⟨e, ds⟩⟩
        · exact Nat.toDigits_ne_nil digits
        · rw [digits] at zero value
          obtain rfl : d = '0' := by simpa using zero
          have value : 0 = n / 10 := value
          omega
        · rw [digits] at zero ih
          simpa using ih (by simpa using zero)
  value := Nat.ofDigitChars_ten_toDigits

/-- The digits before the end of a number are all that is taken as digits. -/
theorem spanDigits_append (digits : ∀ c ∈ cs, c.isDigit = true) (ends : EndsNumber rest) :
    spanDigits (cs ++ rest) = (cs, rest) := by
  have stops : rest.takeWhile Char.isDigit = [] ∧ rest.dropWhile Char.isDigit = rest := by
    cases rest with
    | nil => exact ⟨rfl, rfl⟩
    | cons c rest =>
      have stop := (ends c rfl).1
      exact ⟨List.takeWhile_cons_of_neg (by simp [stop]),
        List.dropWhile_cons_of_neg (by simp [stop])⟩
  rw [spanDigits, List.takeWhile_append_of_pos digits, List.dropWhile_append_of_pos digits,
    stops.1, stops.2, List.append_nil]

/-- The digits that fit a word are taken, and of the others the first is one too many. -/
theorem absorb_split (word : c < wordLimit) (t : Nat) (cs : List Char) :
    ∃ taken left, cs = taken ++ left ∧ absorb c t cs =
      (Nat.ofDigitChars 10 taken c, t + taken.length) ∧
      Nat.ofDigitChars 10 taken c < wordLimit ∧
      ∀ d ∈ left.head?, wordLimit ≤ Nat.ofDigitChars 10 (taken ++ [d]) c := by
  induction cs generalizing c t with
  | nil => exact ⟨[], [], rfl, rfl, word, by simp⟩
  | cons d ds ih =>
    have next : c * 10 + digitValue d = Nat.ofDigitChars 10 [d] c := by
      rw [Nat.ofDigitChars_cons, Nat.ofDigitChars_nil, Nat.mul_comm]
      rfl
    by_cases fits : c * 10 + digitValue d < wordLimit
    · obtain ⟨taken, left, rfl, absorbed, below, beyond⟩ := ih fits (t + 1)
      have step (rest : List Char) :
          Nat.ofDigitChars 10 (d :: rest) c = Nat.ofDigitChars 10 rest (c * 10 + digitValue d) := by
        rw [next, ← Nat.ofDigitChars_append]
        rfl
      refine ⟨d :: taken, left, rfl, ?_, by rwa [step], fun e he => ?_⟩
      · simp only [absorb, fits, if_true, absorbed, step, List.length_cons, Prod.mk.injEq, true_and]
        omega
      · rw [List.cons_append, step]
        exact beyond e he
    · refine ⟨[], d :: ds, rfl, by simp [absorb, fits], word, fun e he => ?_⟩
      obtain rfl : d = e := by simpa using he
      rw [List.nil_append, ← next]
      exact Nat.le_of_not_lt fits

/-- The coefficient of a numeral is the number without the places that are too many for a word. -/
theorem absorb_numeral (numeral : Numeral n cs) :
    ∃ k ≤ cs.length, Excess n k ∧ absorb 0 0 cs = (n / Nat.pow 10 k, cs.length - k) := by
  obtain ⟨taken, left, rfl, absorbed, below, beyond⟩ := absorb_split (c := 0) (by decide) 0 cs
  obtain ⟨digits, -, -, value⟩ := numeral
  have cut (a b : List Char) (digits : ∀ c ∈ b, c.isDigit = true) :
      Nat.ofDigitChars 10 (a ++ b) 0 / Nat.pow 10 b.length = Nat.ofDigitChars 10 a 0 := by
    rw [Nat.ofDigitChars_append, Nat.ofDigitChars_eq_ofDigitChars_zero, Nat.pow_eq,
      Nat.mul_add_div (by positivity), Nat.div_eq_of_lt (ofDigitChars_lt digits), Nat.add_zero]
  have leftDigits : ∀ c ∈ left, c.isDigit = true :=
      fun c hc => digits c (List.mem_append_right _ hc)
  have coefficient : n / Nat.pow 10 left.length = Nat.ofDigitChars 10 taken 0 := by
    rw [← value, cut taken left leftDigits]
  refine ⟨left.length, by simp, ⟨by rwa [coefficient], fun j few => ?_⟩, ?_⟩
  · cases left with
    | nil => cases few
    | cons d left =>
      have tail : Nat.ofDigitChars 10 (taken ++ [d]) 0 = n / Nat.pow 10 left.length := by
        rw [← value, List.append_cons taken d left, cut]
        exact fun c hc => leftDigits c (List.mem_cons_of_mem _ hc)
      have places : j ≤ left.length := Nat.le_of_lt_succ few
      calc wordLimit
          ≤ n / Nat.pow 10 left.length := tail ▸ beyond d rfl
        _ ≤ n / Nat.pow 10 j :=
          Nat.div_le_div_left (Nat.pow_le_pow_right (by norm_num) places)
            (Nat.pow_pos (by norm_num))
  · rw [absorbed, coefficient]
    simp

/-- A word holds all numbers of 18 digits, so a number does not lose more places
than it has beyond these. -/
theorem Excess.places_le {m : Nat} (excess : Excess n k) (numeral : Numeral n cs)
    (short : cs.length ≤ m + 18) : k ≤ m := by
  by_contra many
  have beyond : wordLimit ≤ n / 10 ^ m := excess.least m (by omega)
  have small : n < 10 ^ m * 10 ^ 18 := by
    rw [← numeral.value, ← pow_add]
    exact (ofDigitChars_lt numeral.digits).trans_le (Nat.pow_le_pow_right (by norm_num) short)
  exact absurd (beyond.trans_lt (Nat.div_lt_of_lt_mul small)) (by decide)

/-- The digits of a numeral are taken all, and what they leave of it is kept. -/
theorem readUnsigned_numeral (numeral : Numeral n cs) (places : k ≤ cs.length)
    (absorbed : absorb 0 0 cs = (n / Nat.pow 10 k, cs.length - k)) (negative : Bool)
    (ends : EndsNumber rest) :
    readUnsigned negative (cs ++ rest) = readAfterWhole negative (n / Nat.pow 10 k) k rest := by
  have lead : ¬(cs.head? = some '0' ∧ 1 < cs.length) :=
    fun zero => absurd (numeral.lead zero.1) (by omega)
  unfold readUnsigned
  rw [spanDigits_append numeral.digits ends]
  split
  case h_1 none => exact absurd (Prod.mk.inj none).1 numeral.nonempty
  case h_2 none => exact absurd (Prod.mk.inj none).1 numeral.nonempty
  case h_3 same =>
    obtain ⟨rfl, rfl⟩ := Prod.mk.inj same
    rw [if_neg lead]
    simp only [absorbed, Nat.sub_sub_self places]

/-- Where a number ends neither a fraction nor an exponent follows. -/
theorem readAfterWhole_of_ends (ends : EndsNumber rest) (negative : Bool) (n k : Nat) :
    readAfterWhole negative n k rest =
      if k = 0 then integerOf negative n rest else floatingOf negative n k rest := by
  unfold readAfterWhole
  split
  case h_1 => exact absurd rfl (ends _ rfl).2.1
  case h_2 => exact absurd rfl (ends _ rfl).2.2.1
  case h_3 => exact absurd rfl (ends _ rfl).2.2.2
  case h_4 => split <;> rfl

/-- A numeral is read up to its end. -/
theorem readUnsigned_append (numeral : Numeral n cs) (short : cs.length ≤ 300) (negative : Bool)
    (ends : EndsNumber rest) :
    ∃ x, IsNumber negative n x ∧ readUnsigned negative (cs ++ rest) = .ok (x, rest) := by
  obtain ⟨k, places, excess, absorbed⟩ := absorb_numeral numeral
  obtain ⟨size, rounded⟩ := Binary64.exists_ofDecimal? excess.fits (excess.places_le numeral short)
  have floats (beyond : if negative then n = 0 ∨ wordLimit < 2 * n else wordLimit ≤ n) :
      ∃ x, IsNumber negative n x ∧ floatingOf negative (n / Nat.pow 10 k) k rest = .ok (x, rest) :=
    ⟨_, .floating beyond excess rounded, by rw [floatingOf, rounded]⟩
  rw [readUnsigned_numeral numeral places absorbed negative ends, readAfterWhole_of_ends ends]
  split
  case isFalse more =>
    -- a number that loses a place does not fit a word
    have beyond : wordLimit ≤ n := by simpa using excess.least 0 (Nat.pos_of_ne_zero more)
    refine floats ?_
    split
    case isTrue => exact .inr (by unfold wordLimit at beyond ⊢; omega)
    case isFalse => exact beyond
  case isTrue none =>
    subst none
    have whole : n / Nat.pow 10 0 = n := by rw [Nat.pow_eq, pow_zero, Nat.div_one]
    have fits := excess.fits
    rw [whole] at fits floats ⊢
    cases negative with
    | false => exact ⟨_, .natural fits, rfl⟩
    | true =>
      unfold integerOf
      simp only [Bool.not_true, Bool.false_eq_true, if_false]
      split
      case isTrue half => exact ⟨_, .negated half.1 half.2, rfl⟩
      case isFalse beyond => exact floats (by simp only [if_true]; omega)

/-! ## Literals -/

/-- A numeral of at most 300 digits that ends there is read as its number. -/
theorem readNumber_natural (numeral : Numeral n cs) (short : cs.length ≤ 300)
    (ends : EndsNumber rest) :
    ∃ x, IsNumber false n x ∧ readNumber (cs ++ rest) = .ok (x, rest) := by
  obtain ⟨x, number, read⟩ := readUnsigned_append numeral short false ends
  refine ⟨x, number, ?_⟩
  rw [← read]
  cases cs with
  | nil => exact absurd rfl numeral.nonempty
  | cons d ds =>
    have digit := numeral.digits d (List.mem_cons_self ..)
    unfold readNumber
    split
    case h_1 same =>
      obtain ⟨rfl, -⟩ := List.cons.inj same
      cases digit
    case h_2 => rfl

/-- A number is taken for a number at its first character. -/
theorem readHead_number {x : Number} {d : Char} (first : d = '-' ∨ d.isDigit = true)
    (read : readNumber (d :: us) = .ok (x, rest)) :
    readHead (d :: us) = .ok (.scalar (.number x), rest) := by
  have not (e : Char) (he : e ≠ '-' ∧ e.isDigit = false) : d ≠ e := by
    rintro rfl
    rcases first with minus | digit
    · exact he.1 minus
    · exact absurd digit (by simp [he.2])
  simp only [readHead, not 'n' (by decide), not 't' (by decide), not 'f' (by decide),
    not '"' (by decide), not '[' (by decide), not '\x7b' (by decide), first, if_false,
    if_true, read]
  rfl

/-- A literal is read up to its end. -/
theorem readHead_append {v : Literal} (writes : v.Writes us) (ends : EndsNumber rest) :
    ∃ s, v.Means s ∧ readHead (us ++ rest) = .ok (.scalar s, rest) := by
  cases writes with
  | null => exact ⟨_, .null, rfl⟩
  | yes | no => exact ⟨_, .boolean, rfl⟩
  | @text s us inner =>
    refine ⟨_, .text, ?_⟩
    have read := readText_append inner rest
    simp only [List.cons_append, List.append_assoc, List.nil_append, readHead, read]
    rfl
  | natural numeral short =>
    obtain ⟨x, number, read⟩ := readNumber_natural numeral short ends
    refine ⟨_, .integer number, ?_⟩
    cases us with
    | nil => exact absurd rfl numeral.nonempty
    | cons d ds => exact readHead_number (.inr (numeral.digits d (List.mem_cons_self ..))) read
  | negated numeral short =>
    obtain ⟨x, number, read⟩ := readUnsigned_append numeral short true ends
    exact ⟨_, .integer number, readHead_number (.inl rfl) read⟩

/-- A literal starts with no blank. -/
theorem Literal.Writes.head {v : Literal} (writes : v.Writes us) :
    ∃ d ds, us = d :: ds ∧ isBlank d = false := by
  cases writes with
  | null | yes | no | text | negated => exact ⟨_, _, rfl, by decide⟩
  | natural numeral =>
    cases us with
    | nil => exact absurd rfl numeral.nonempty
    | cons d ds =>
      refine ⟨d, ds, rfl, ?_⟩
      have digit := numeral.digits d (List.mem_cons_self ..)
      simp only [isBlank, Bool.or_eq_false_iff, beq_eq_false_iff_ne]
      refine ⟨⟨⟨?_, ?_⟩, ?_⟩, ?_⟩ <;>
      · rintro rfl
        cases digit

end Reactor.Json
