import Reactor.Proofs.Options.Documents

/-!
# Reading documents of options

Of a text that a document is written as, the reader takes one member after the other. As long as no
member is at fault its draft holds what the members so far give, and with the first one that is at
fault it stops. The last statement is that it comes to the verdict on the document.
-/

namespace Reactor.Options

open Reactor.Json

variable {d : Draft} {f : Field} {m : Member} {earlier members : List Member}
  {ws us text rest : List Char} {texts : List (List Char)}

/-- The verdict on a member after those before it. -/
inductive Member.Judged (m : Member) (earlier : List Member) (rest : List Char) :
    Except Refusal (Draft × List Char) → Prop where
  | fits {d f n} (new : m.key ∉ earlier.map (·.key)) (gives : m.Gives f n)
      (holds : d.Holds (earlier ++ [m])) :
    Judged m earlier rest (.ok (d, rest))
  | fault {x} (fault : m.Fault earlier x) : Judged m earlier rest (.error (.data x))

/-! ## Members -/

/-- The value of a field that has none yet is judged by what it means. -/
theorem readValue_judged (holds : d.Holds earlier) (known : m.key = f.name)
    (new : m.key ∉ earlier.map (·.key)) (blank : AllBlank ws) (writes : m.value.Writes us)
    (ends : EndsNumber rest) :
    m.Judged earlier rest (readValue d f (ws ++ (us ++ rest))) := by
  obtain ⟨s, means, read⟩ := readHead_append writes ends
  have start : skipBlank (ws ++ (us ++ rest)) = us ++ rest := by
    obtain ⟨c, cs, rfl, solid⟩ := writes.head
    exact skipBlank_token blank solid _
  simp only [readValue, start, read]
  by_cases whole : ∃ i, s = .number (.integer i)
  · obtain ⟨i, rfl⟩ := whole
    by_cases inside : ∃ n : Nat, f.Admits n ∧ i = n
    · obtain ⟨n, admits, rfl⟩ := inside
      obtain ⟨d', set, after⟩ := d.set?_of_admits admits
      have gives : m.Gives f n := ⟨known, eq_of_means means, admits⟩
      simp only [ofRead, bind, Except.bind, set]
      exact .fits new gives (holds.snoc gives new after)
    · have outside : ∀ n : Nat, f.Admits n → i ≠ n := fun n admits same => inside ⟨n, admits, same⟩
      simp only [ofRead, bind, Except.bind, d.set?_eq_none outside]
      exact .fault (.range known new means outside)
  · have other : ∀ i, s ≠ .number (.integer i) := fun i same => whole ⟨i, same⟩
    simp only [ofRead, bind, Except.bind]
    split
    case h_1 i same => exact absurd (Head.scalar.inj same) (other i)
    case h_2 => exact .fault (.kind known new means other)

/-- A member is judged, its key before its value. -/
theorem readMember_judged (holds : d.Holds earlier) (documented : Documented earlier)
    {b₂ b₃ vs : List Char} (key : WritesText m.key.toList us) (between : AllBlank b₂)
    (next : AllBlank b₃) (value : m.value.Writes vs) (ends : EndsNumber rest) :
    m.Judged earlier rest (readMember d (us ++ '"' :: (b₂ ++ ':' :: (b₃ ++ (vs ++ rest))))) := by
  simp only [readMember, readText_append key, ofRead, bind, Except.bind]
  by_cases known : ∃ f : Field, m.key = f.name
  · obtain ⟨f, known⟩ := known
    simp only [known, Field.ofName?_name]
    have has := holds.has_iff documented f
    rw [← known] at has
    split
    case isTrue again => exact .fault (.duplicate known (has.1 again))
    case isFalse new =>
      simp only [readColon_token between]
      exact readValue_judged holds known (fun here => new (has.2 here)) next value ends
  · have stranger : ∀ f : Field, m.key ≠ f.name := fun f same => known ⟨f, same⟩
    simp only [Field.ofName?_eq_none stranger]
    exact .fault (.unknown stranger)

/-- A member stands behind its opening quote, and is judged from there; what follows it may have
blanks in front. -/
theorem Member.Writes.judged (writes : m.Writes text) : ∃ inner b₄, AllBlank b₄ ∧
    (∀ rest, skipBlank (text ++ rest) = '"' :: (inner ++ rest)) ∧
    ∀ {d earlier rest}, d.Holds earlier → Documented earlier → EndsNumber (b₄ ++ rest) →
      m.Judged earlier (b₄ ++ rest) (readMember d (inner ++ rest)) := by
  cases writes with
  | @member b₁ b₂ b₃ b₄ us vs before key between next value last =>
    refine ⟨us ++ '"' :: (b₂ ++ ':' :: (b₃ ++ (vs ++ b₄))), b₄, last, fun rest => ?_,
      fun holds documented ends => ?_⟩
    · rw [List.append_assoc, List.cons_append, skipBlank_token before (by decide)]
    · have judged := readMember_judged holds documented key between next value ends
      simpa using judged

/-! ## One member after the other -/

/-- At a closing brace the reader has the draft. -/
theorem readMembers_close {cs : List Char} (close : skipBlank cs = '\x7d' :: rest) (fuel : Nat)
    (isFirst : Bool) (d : Draft) :
    readMembers (fuel + 1) isFirst d cs = .ok (d, rest) := by
  rw [readMembers.eq_def, close]
  rfl

/-- At the first quote a member is read, and then the others. -/
theorem readMembers_first {cs : List Char} (quote : skipBlank cs = '"' :: rest) (fuel : Nat)
    (d : Draft) :
    readMembers (fuel + 1) true d cs = (readMember d rest).bind fun (d, rest) =>
      readMembers fuel false d rest := by
  rw [readMembers.eq_def, quote]
  rfl

/-- After a comma another member is read, and then the others. -/
theorem readMembers_next {cs inner : List Char} (comma : skipBlank cs = ',' :: rest)
    (quote : skipBlank rest = '"' :: inner) (fuel : Nat) (d : Draft) :
    readMembers (fuel + 1) false d cs = (readMember d inner).bind fun (d, rest) =>
      readMembers fuel false d rest := by
  rw [readMembers.eq_def, comma]
  -- The comma settles all but what follows it.
  conv_lhs => whnf
  rw [quote]
  rfl

/-- Members after a member that was judged are judged if it fits; if not, it is the leftmost one
that is at fault. -/
theorem Member.Judged.verdict {read : Except Refusal (Draft × List Char)}
    {go : Draft × List Char → Except Refusal (Draft × List Char)} {later : List Member}
    {after : List Char} (judged : m.Judged earlier rest read) (documented : Documented earlier)
    (onward : ∀ d, d.Holds (earlier ++ [m]) → Documented (earlier ++ [m]) →
      Verdict ((earlier ++ [m]) ++ later) after (go (d, rest))) :
    Verdict (earlier ++ m :: later) after (read.bind go) := by
  cases judged with
  | fits new gives holds =>
    rw [List.append_cons]
    exact onward _ holds (documented.snoc gives new)
  | fault fault => exact .refused rfl documented fault

/-- The text of the members after the first one, with what separates and ends them. -/
def tail (texts : List (List Char)) (b after : List Char) : List Char :=
  texts.flatMap (',' :: ·) ++ (b ++ '\x7d' :: after)

/-- What follows a member ends a number. -/
theorem endsNumber_tail {b₄ b after : List Char} (last : AllBlank b₄) (blank : AllBlank b) :
    EndsNumber (b₄ ++ tail texts b after) := by
  have ends {w : List Char} (blank : AllBlank w) {c : Char} (stop : c = ',' ∨ c = '\x7d')
      (cs : List Char) :
      EndsNumber (w ++ c :: cs) := by
    intro e head
    cases w with
    | nil =>
      obtain rfl : c = e := by simpa using head
      rcases stop with rfl | rfl <;> decide
    | cons x w =>
      obtain rfl : x = e := by simpa using head
      have here := blank x (List.mem_cons_self ..)
      simp only [isBlank, Bool.or_eq_true, beq_iff_eq] at here
      obtain ((rfl | rfl) | rfl) | rfl := here <;> decide
  cases texts with
  | nil =>
    rw [tail, List.flatMap_nil, List.nil_append, ← List.append_assoc]
    refine ends (fun c hc => ?_) (.inr rfl) _
    exact (List.mem_append.1 hc).elim (last c) (blank c)
  | cons text texts => exact ends last (.inl rfl) _

/-- The members after the first one are judged, as many as there is fuel for. -/
theorem readMembers_tail {b after : List Char} (blank : AllBlank b)
    (parts : List.Forall₂ Member.Writes members texts) (holds : d.Holds earlier)
    (documented : Documented earlier) (leading : AllBlank ws) {fuel : Nat}
    (enough : members.length < fuel) :
    Verdict (earlier ++ members) after (readMembers fuel false d (ws ++ tail texts b after)) := by
  obtain ⟨fuel, rfl⟩ := Nat.exists_eq_add_of_lt (Nat.zero_lt_of_lt enough)
  rw [Nat.zero_add] at enough ⊢
  induction parts generalizing d earlier ws fuel with
  | nil =>
    have close : skipBlank (ws ++ tail [] b after) = '\x7d' :: after := by
      rw [skipBlank_append leading]
      exact skipBlank_token blank (by decide) _
    rw [readMembers_close close, List.append_nil]
    exact .accepted documented holds
  | @cons m text members texts writes parts ih =>
    obtain ⟨inner, b₄, last, quote, judged⟩ := writes.judged
    have comma : skipBlank (ws ++ tail (text :: texts) b after) =
        ',' :: (text ++ tail texts b after) := by
      rw [tail, List.flatMap_cons, List.append_assoc]
      exact skipBlank_token leading (by decide) _
    rw [readMembers_next comma (quote _)]
    refine (judged holds documented (endsNumber_tail last blank)).verdict documented
      fun d holds documented => ?_
    cases fuel with
    | zero => simp at enough
    | succ fuel => exact ih holds documented last fuel (by simpa using enough)

/-- Texts with commas between them are the first one and each other after a comma. -/
theorem intercalate_cons (text : List Char) (texts : List (List Char)) :
    [','].intercalate (text :: texts) = text ++ texts.flatMap (',' :: ·) := by
  induction texts generalizing text with
  | nil => simp [List.intercalate]
  | cons next texts ih =>
    have ih := ih next
    simp only [List.intercalate] at ih ⊢
    simp [ih]

/-- The members of a document are judged, whatever stands after them. -/
theorem readMembers_document {b after : List Char} (blank : AllBlank b)
    (parts : List.Forall₂ Member.Writes members texts) {fuel : Nat}
    (enough : members.length < fuel) :
    Verdict members after (readMembers fuel true {}
      ([','].intercalate texts ++ (b ++ '\x7d' :: after))) := by
  obtain ⟨fuel, rfl⟩ := Nat.exists_eq_add_of_lt (Nat.zero_lt_of_lt enough)
  rw [Nat.zero_add] at enough ⊢
  cases parts with
  | nil =>
    have close : skipBlank ([','].intercalate [] ++ (b ++ '\x7d' :: after)) = '\x7d' :: after :=
      skipBlank_token blank (by decide) _
    rw [readMembers_close close]
    exact .accepted documented_nil Draft.holds_nil
  | @cons m text members texts writes parts =>
    obtain ⟨inner, b₄, last, quote, judged⟩ := writes.judged
    rw [intercalate_cons, List.append_assoc, readMembers_first (quote _)]
    refine (judged Draft.holds_nil documented_nil (endsNumber_tail last blank)).verdict
      documented_nil fun d holds documented => ?_
    exact readMembers_tail blank parts holds documented last (by simpa using enough)

/-- Each text after a comma takes up a place at least. -/
theorem length_le_flatMap (texts : List (List Char)) :
    texts.length ≤ (texts.flatMap (',' :: ·)).length := by
  induction texts with
  | nil => exact Nat.le_refl 0
  | cons text texts ih =>
    simp only [List.flatMap_cons, List.length_append, List.length_cons]
    omega

/-- There are not more members than characters. -/
theorem length_le_of_writes (parts : List.Forall₂ Member.Writes members texts) :
    members.length ≤ ([','].intercalate texts).length := by
  cases parts with
  | nil => exact Nat.le_refl 0
  | @cons m text members texts writes parts =>
    have some : 0 < text.length := by
      cases writes
      simp only [List.length_append, List.length_cons]
      omega
    have others := length_le_flatMap texts
    rw [intercalate_cons, List.length_append, List.length_cons, parts.length_eq]
    omega

/-! ## Documents -/

/-- The reader's answer to a text of a document is the verdict on the document. -/
inductive Answer (members : List Member) : Except Refusal Options → Prop where
  | accepted {d : Draft} (documented : Documented members) (holds : d.Holds members) :
      Answer members (.ok d.options)
  | refused {before m after x} (split : members = before ++ m :: after)
    (documented : Documented before) (fault : Member.Fault m before x) :
    Answer members (.error (.data x))

/-- The reader's answer to every text of a document is the verdict on it. -/
theorem answer_parse {text : String} (writes : WritesDocument members text) :
    Answer members (parse text) := by
  cases writes with
  | @document b₁ texts b₂ b₃ before parts last after =>
    have length := length_le_of_writes parts
    have draft : readDraft (b₁ ++ '\x7b' :: ([','].intercalate texts ++ (b₂ ++ '\x7d' :: b₃))) =
        readMembers (([','].intercalate texts ++ (b₂ ++ '\x7d' :: b₃)).length + 1) true {}
          ([','].intercalate texts ++ (b₂ ++ '\x7d' :: b₃)) := by
      rw [readDraft, skipBlank_token before (by decide)]
      rfl
    have ended : skipBlank b₃ = [] := by
      have gone := skipBlank_append after []
      rwa [List.append_nil] at gone
    have enough : members.length <
        ([','].intercalate texts ++ (b₂ ++ '\x7d' :: b₃)).length + 1 := by
      rw [List.length_append]
      omega
    have verdict : Verdict members b₃ _ := readMembers_document last parts enough
    rw [parse, String.toList_ofList, draft]
    generalize readMembers _ true {} _ = read at verdict
    cases verdict with
    | accepted documented holds =>
      simp only [bind, Except.bind, ended]
      exact .accepted documented holds
    | refused split documented fault => exact .refused split documented fault

end Reactor.Options
