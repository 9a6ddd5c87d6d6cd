import Reactor.Json.Text

/-!
# How texts are written

Between tokens any blanks may stand, and a character of a string may be written as it is, by a
letter, by its number, or as a pair of numbers. What is read of a string is what was written,
however it was written.
-/

namespace Reactor.Json

/-! ## The ways to write -/

/-- A run of blanks, which may be none. -/
def AllBlank (ws : List Char) : Prop := ∀ c ∈ ws, isBlank c = true

/-- Whether a text is all blanks can be decided. -/
instance : DecidablePred AllBlank := fun ws => List.decidableBAll _ ws

/-- A number of sixteen bits in four digits of base sixteen. -/
inductive WritesUnit : Nat → List Char → Prop where
  | digits {a b c d w x y z} (first : hexValue? a = some w) (second : hexValue? b = some x)
    (third : hexValue? c = some y) (fourth : hexValue? d = some z) :
    WritesUnit (w * 4096 + x * 256 + y * 16 + z) [a, b, c, d]

/-- The letters that stand for a character after a backslash. -/
def escapeLetters : List (Char × Char) :=
  [('"', '"'), ('\\', '\\'), ('/', '/'), ('b', '\x08'), ('f', '\x0c'), ('n', '\n'), ('r', '\r'),
    ('t', '\t')]

/-- The ways to write a character of a string. -/
inductive WritesChar : Char → List Char → Prop where
  | plain {c} (visible : 0x20 ≤ c.toNat) (quote : c ≠ '"') (backslash : c ≠ '\\') : WritesChar c [c]
  | letter {l c} (listed : (l, c) ∈ escapeLetters) : WritesChar c ['\\', l]
  | unit {c us} (unit : WritesUnit c.toNat us) : WritesChar c ('\\' :: 'u' :: us)
  | pair {c lead trail us vs} (first : WritesUnit lead us) (second : WritesUnit trail vs)
    (leading : isLeading lead = true) (trailing : isTrailing trail = true)
    (value : c.toNat = 0x10000 + (lead - 0xD800) * 0x400 + (trail - 0xDC00)) :
    WritesChar c ('\\' :: 'u' :: us ++ '\\' :: 'u' :: vs)

/-- The ways to write the characters of a string. -/
inductive WritesText : List Char → List Char → Prop where
  | nil : WritesText [] []
  | cons {c cs u us} (first : WritesChar c u) (others : WritesText cs us) :
      WritesText (c :: cs) (u ++ us)

/-- Characters that may be written as they are. -/
def AllPlain (cs : List Char) : Prop := ∀ c ∈ cs, 0x20 ≤ c.toNat ∧ c ≠ '"' ∧ c ≠ '\\'

/-- Whether a text holds only plain characters can be decided. -/
instance : DecidablePred AllPlain := fun cs => List.decidableBAll _ cs

variable {c : Char} {cs ds us vs ws : List Char} {n : Nat}

/-! ## Blanks -/

/-- The empty text is all blanks. -/
theorem AllBlank.nil : AllBlank [] := List.forall_mem_nil _

/-- Blanks in front are skipped. -/
theorem skipBlank_append (blank : AllBlank ws) (cs : List Char) :
    skipBlank (ws ++ cs) = skipBlank cs :=
  List.dropWhile_append_of_pos blank

/-- Where no blank is in front nothing is skipped. -/
theorem skipBlank_cons (solid : isBlank c = false) (cs : List Char) :
    skipBlank (c :: cs) = c :: cs :=
  List.dropWhile_cons_of_neg (by simp [solid])

/-- Blanks before a token are skipped. -/
theorem skipBlank_token (blank : AllBlank ws) (solid : isBlank c = false) (cs : List Char) :
    skipBlank (ws ++ c :: cs) = c :: cs := by
  rw [skipBlank_append blank, skipBlank_cons solid]

/-- A colon after blanks is read together with them. -/
theorem readColon_token (blank : AllBlank ws) (cs : List Char) :
    readColon (ws ++ ':' :: cs) = .ok cs := by
  unfold readColon
  rw [skipBlank_token blank (by decide)]
  rfl

/-! ## Strings -/

/-- Spellings of two texts, one after the other, spell the two texts one after the other. -/
theorem WritesText.append (first : WritesText cs us) (second : WritesText ds vs) :
    WritesText (cs ++ ds) (us ++ vs) := by
  induction first with
  | nil => exact second
  | cons char _ ih =>
    rw [List.cons_append, List.append_assoc]
    exact .cons char ih

/-- Characters that need no escape stand for themselves. -/
theorem writesText_self (plain : AllPlain cs) : WritesText cs cs := by
  induction cs with
  | nil => exact .nil
  | cons c cs ih =>
    obtain ⟨visible, quote, backslash⟩ := plain c (List.mem_cons_self ..)
    exact .cons (.plain visible quote backslash)
      (ih fun c hc => plain c (List.mem_cons_of_mem _ hc))

/-- The four digits of a unit are read as the unit, and what follows is left. -/
theorem readUnit_append (writes : WritesUnit n us) (rest : List Char) :
    readUnit (us ++ rest) = .ok (n, rest) := by
  cases writes with
  | digits first second third fourth => simp [readUnit, first, second, third, fourth]

/-- No character is half of a pair. -/
theorem not_surrogate (c : Char) : isTrailing c.toNat = false ∧ isLeading c.toNat = false := by
  have valid : c.toNat < 0xD800 ∨ 0xDFFF < c.toNat ∧ c.toNat < 0x110000 := c.valid
  simp only [isTrailing, isLeading, Bool.and_eq_false_iff, decide_eq_false_iff_not]
  omega

/-- A character is read first, however it is written. -/
theorem readChars_cons (writes : WritesChar c us) (fuel : Nat) (rest : List Char) :
    readChars (fuel + 1) (us ++ rest) = (readChars fuel rest).map fun (cs, rest) =>
      (c :: cs, rest) := by
  have onward (read : Except Flaw (List Char × List Char)) :
      (do let (cs, rest) ← read; Except.ok (c :: cs, rest)) = read.map fun (cs, rest) =>
        (c :: cs, rest) := by
    cases read <;> rfl
  cases writes with
  | plain visible quote backslash =>
    have visible : ¬c.toNat < 0x20 := Nat.not_lt.2 visible
    simp only [List.singleton_append, readChars, quote, backslash, visible, if_false]
    exact onward _
  | @letter l _ listed =>
    have read : readEscape (l :: rest) = .ok (c, rest) := by
      simp only [escapeLetters, List.mem_cons, Prod.mk.injEq, List.not_mem_nil, or_false] at listed
      obtain ⟨rfl, rfl⟩ | ⟨rfl, rfl⟩ | ⟨rfl, rfl⟩ | ⟨rfl, rfl⟩ | ⟨rfl, rfl⟩ | ⟨rfl, rfl⟩
          | ⟨rfl, rfl⟩ | ⟨rfl, rfl⟩ := listed <;>
        rfl
    simp only [List.cons_append, List.nil_append, readChars, read]
    exact onward _
  | @unit _ us unit =>
    have read : readEscape ('u' :: (us ++ rest)) = .ok (c, rest) := by
      obtain ⟨trailing, leading⟩ := not_surrogate c
      simp only [readEscape, readUnit_append unit]
      simp [bind, Except.bind, trailing, leading]
    simp only [List.cons_append, readChars, read]
    exact onward _
  | @pair _ lead trail us vs first second leading trailing value =>
    have paired : pairChar lead trail = c := by
      have sum : (lead - 0xD800) * 1024 + (trail - 0xDC00) + 0x10000 = c.toNat := by omega
      rw [pairChar, sum, Char.ofNat_toNat]
    have read : readEscape ('u' :: (us ++ '\\' :: 'u' :: (vs ++ rest))) = .ok (c, rest) := by
      have notTrailing : isTrailing lead = false := by
        simp only [isLeading, isTrailing, Bool.and_eq_true, decide_eq_true_eq,
          Bool.and_eq_false_iff, decide_eq_false_iff_not] at leading ⊢
        omega
      simp only [readEscape, readUnit_append first]
      simp [bind, Except.bind, leading, notTrailing, readTrailing, readUnit_append second,
        trailing, paired]
    simp only [List.cons_append, List.append_assoc, readChars, read]
    exact onward _

/-- No character is spelled by nothing. -/
theorem WritesChar.length_pos (writes : WritesChar c us) : 0 < us.length := by
  cases writes <;> exact Nat.succ_pos _

/-- Characters are read up to the closing quote. -/
theorem readChars_append (writes : WritesText cs us) {fuel : Nat} (enough : us.length < fuel)
    (rest : List Char) :
    readChars fuel (us ++ '"' :: rest) = .ok (cs, rest) := by
  induction writes generalizing fuel with
  | nil =>
    cases fuel with
    | zero => cases enough
    | succ fuel => rfl
  | @cons c cs u us first others ih =>
    cases fuel with
    | zero => cases enough
    | succ fuel =>
      have some := first.length_pos
      rw [List.length_append] at enough
      rw [List.append_assoc, readChars_cons first, ih (by omega)]
      rfl

/-- A string is read as it was written. -/
theorem readText_append {s : String} (writes : WritesText s.toList us) (rest : List Char) :
    readText (us ++ '"' :: rest) = .ok (s, rest) := by
  rw [readText, readChars_append writes (by simp)]
  simp [bind, Except.bind, String.ofList_toList]

end Reactor.Json
