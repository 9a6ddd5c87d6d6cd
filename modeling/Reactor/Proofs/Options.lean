import Mathlib.Data.List.Perm.Basic
import Reactor.Proofs.Options.Reading

/-!
# Options are read as they are documented

Of the objects that can be written the reader takes those that are documented, and no other: it is
the members that count, not their order or the blanks between them, and what is rendered reads back.
Of any other object it reports the leftmost member that is at fault.
-/

namespace Reactor.Options

open Reactor.Json

variable {d : Draft} {f : Field} {n : Nat} {m : Member} {o o' : Options}
  {members earlier : List Member} {text : String}

/-! ## What is documented -/

/-- An integer without a minus sign whose value a field takes is read as that value. -/
theorem eq_of_means_of_admits {s : Scalar} (means : Literal.Means (.integer false n) s)
    (admits : f.Admits n) :
    s = .number (.integer n) := by
  have word : n < wordLimit := by
    unfold wordLimit
    cases f <;> simp only [Field.Admits] at admits <;> omega
  cases means with
  | integer number =>
    cases number with
    | natural => rfl
    | floating beyond => exact absurd word (Nat.not_lt.2 beyond)

/-- A member that gives a field of its own a value is not at fault. -/
theorem Member.Gives.not_fault (gives : m.Gives f n) (new : m.key ∉ earlier.map (·.key))
    (x : Mismatch) : ¬m.Fault earlier x := by
  obtain ⟨key, value, admits⟩ := gives
  intro fault
  cases fault with
  | unknown stranger => exact stranger f key
  | duplicate _ again => exact new again
  | kind _ _ means other =>
    rw [value] at means
    exact other n (eq_of_means_of_admits means admits)
  | @range g i known _ means outside =>
    rw [value] at means
    obtain rfl := Field.name_inj (known.symm.trans key)
    exact outside n admits (by simpa using eq_of_means_of_admits means admits)

/-- No member of a document that is documented is at fault. -/
theorem Documented.not_fault {before after : List Member}
    (documented : Documented (before ++ m :: after)) (x : Mismatch) :
    ¬m.Fault before x := by
  obtain ⟨f, n, gives⟩ := documented.gives m (by simp)
  have distinct := documented.distinct
  rw [List.map_append, List.map_cons, List.nodup_append] at distinct
  exact gives.not_fault (fun here => distinct.2.2 _ here _ (List.mem_cons_self ..) rfl) x

/-- The order of the members does not matter to whether a document is documented. -/
theorem Documented.perm {members' : List Member} (documented : Documented members)
    (same : members'.Perm members) :
    Documented members' where
  distinct := (same.map _).nodup_iff.2 documented.distinct
  gives m here := documented.gives m (same.mem_iff.1 here)

/-! ## What is read -/

/-- Options are the same when their collectors and all their fields are. -/
theorem eq_of_get (collectors : o.collectors = o'.collectors) (get : ∀ f, o.get f = o'.get f) :
    o = o' := by
  obtain ⟨backlog, size, passes, _⟩ := o
  obtain ⟨backlog', size', passes', _⟩ := o'
  obtain rfl : backlog = backlog' := Subtype.ext (get .defaultBacklog)
  obtain rfl : size = size' := Subtype.ext (get .readBufferSize)
  obtain rfl : passes = passes' := Subtype.ext (get .maxReadPasses)
  obtain rfl := collectors
  rfl

/-- A draft gives the fields that it holds, and the defaults of the others. -/
theorem Draft.get_options (d : Draft) (f : Field) :
    d.options.get f = (d.get? f).getD (standard.get f) := by
  obtain ⟨backlog, size, passes⟩ := d
  cases f with
  | defaultBacklog => cases backlog <;> rfl
  | readBufferSize => cases size <;> rfl
  | maxReadPasses => cases passes <;> rfl

/-- The options that members give, with defaults for the fields that they leave out. -/
structure Given (members : List Member) (o : Options) : Prop where
  collectors : o.collectors = []
  given : ∀ m ∈ members, ∀ f n, m.Gives f n → o.get f = n
  default : ∀ f : Field, f.name ∉ members.map (·.key) → o.get f = standard.get f

/-- The options of a draft are those that the members give which it holds. -/
theorem Draft.Holds.given (holds : d.Holds members) : Given members d.options where
  collectors := rfl
  given m here f n gives := by
    obtain ⟨key, value⟩ := m
    obtain ⟨rfl, rfl, -⟩ := gives
    rw [get_options, (holds f n).2 here]
    rfl
  default f left := by
    have none : d.get? f = none := Option.eq_none_iff_forall_ne_some.2 fun n got =>
      left (List.mem_map.2 ⟨_, (holds f n).1 got, rfl⟩)
    rw [get_options, none]
    rfl

/-- Members give one value to each field. -/
theorem Given.unique (documented : Documented members) (given : Given members o)
    (given' : Given members o') : o = o' := by
  refine eq_of_get (given.collectors.trans given'.collectors.symm) fun f => ?_
  by_cases here : f.name ∈ members.map (·.key)
  · obtain ⟨m, member, key⟩ := List.mem_map.1 here
    obtain ⟨g, n, gives⟩ := documented.gives m member
    obtain rfl := Field.name_inj (gives.key.symm.trans key)
    rw [given.given m member g n gives, given'.given m member g n gives]
  · rw [given.default f here, given'.default f here]

/-- The order of the members does not matter to what they give. -/
theorem Given.perm {members' : List Member} (given : Given members o)
    (same : members'.Perm members) : Given members' o where
  collectors := given.collectors
  given m here := given.given m (same.mem_iff.1 here)
  default f left := given.default f fun here => left ((same.map _).mem_iff.2 here)

/-- A document that is documented is read as what its members give. -/
theorem parse_eq_ok_iff (writes : WritesDocument members text) :
    parse text = .ok o ↔ Documented members ∧ Given members o := by
  have answer := answer_parse writes
  generalize parse text = read at answer
  cases answer with
  | accepted documented holds =>
    rw [Except.ok.injEq]
    exact ⟨fun same => ⟨documented, same ▸ holds.given⟩,
      fun given => holds.given.unique documented given.2⟩
  | refused split documented fault =>
    refine ⟨(nomatch ·), fun ⟨all, _⟩ => ?_⟩
    subst split
    exact absurd fault (all.not_fault _)

/-- A document that is documented is read. -/
theorem exists_parse (writes : WritesDocument members text) (documented : Documented members) :
    ∃ o, parse text = .ok o := by
  have answer := answer_parse writes
  generalize parse text = read at answer
  cases answer with
  | accepted => exact ⟨_, rfl⟩
  | refused split _ fault =>
    subst split
    exact absurd fault (documented.not_fault _)

/-- Of a document that is not documented the leftmost member at fault is reported. -/
theorem exists_fault (writes : WritesDocument members text) (undocumented : ¬Documented members) :
    ∃ before m after x, members = before ++ m :: after ∧ Documented before ∧ m.Fault before x ∧
      parse text = .error (.data x) := by
  have answer := answer_parse writes
  generalize parse text = read at answer
  cases answer with
  | accepted documented => exact absurd documented undocumented
  | refused split documented fault => exact ⟨_, _, _, _, split, documented, fault, rfl⟩

/-! ## What is rendered -/

/-- The members that options are rendered as. -/
def toMembers (o : Options) : List Member :=
  Field.all.map fun f => ⟨f.name, .integer false (o.get f)⟩

/-- Every field of some options is in its range. -/
theorem admits_get (o : Options) (f : Field) : f.Admits (o.get f) := by
  cases f with
  | defaultBacklog => exact o.defaultBacklog.2
  | readBufferSize => exact o.readBufferSize.2
  | maxReadPasses => exact o.maxReadPasses.2

/-- Options are rendered as members that are documented. -/
theorem documented_toMembers (o : Options) : Documented o.toMembers where
  distinct := by
    have keys : o.toMembers.map (·.key) = Field.all.map Field.name := by simp [toMembers]
    rw [keys]
    decide
  gives m here := by
    obtain ⟨f, -, rfl⟩ := List.mem_map.1 here
    exact ⟨f, o.get f, rfl, rfl, admits_get o f⟩

/-- The members that options are rendered as give the options back, but for the collectors. -/
theorem given_toMembers (o : Options) : Given o.toMembers { o with collectors := [] } where
  collectors := rfl
  given m here f n gives := by
    obtain ⟨g, -, rfl⟩ := List.mem_map.1 here
    obtain ⟨key, value, -⟩ := gives
    obtain rfl := Field.name_inj key
    cases g <;> exact (Literal.integer.inj value).2
  default f left := by
    refine absurd (List.mem_map.2 ⟨_, List.mem_map.2 ⟨f, ?_, rfl⟩, rfl⟩) left
    cases f <;> decide

/-- Options are rendered as an object of their members, without blanks. -/
theorem writesDocument_render (o : Options) : WritesDocument o.toMembers (render o) := by
  have writes (f : Field) : Member.Writes ⟨f.name, .integer false (o.get f)⟩
      ('"' :: (f.name.toList ++ '"' :: ':' :: Nat.toDigits 10 (o.get f))) := by
    have name : WritesText f.name.toList f.name.toList := writesText_self (by cases f <;> decide)
    have short : (Nat.toDigits 10 (o.get f)).length ≤ 20 := by
      rw [Nat.length_toDigits_le_iff (by norm_num) (by norm_num)]
      have admits := admits_get o f
      cases f <;> simp only [Field.Admits] at admits <;> omega
    have member :=
      Member.Writes.member (m := ⟨f.name, .integer false (o.get f)⟩) .nil name .nil .nil
        (.natural (numeral_toDigits _) (short.trans (by norm_num))) .nil
    simpa using member
  have parts : List.Forall₂ Member.Writes o.toMembers
      (Field.all.map fun f => '"' :: (f.name.toList ++ '"' :: ':' :: Nat.toDigits 10 (o.get f))) :=
    .cons (writes _) (.cons (writes _) (.cons (writes _) .nil))
  have text : render o = String.ofList ([] ++ '\x7b' ::
      ([','].intercalate (Field.all.map fun f =>
        '"' :: (f.name.toList ++ '"' :: ':' :: Nat.toDigits 10 (o.get f))) ++
        ([] ++ '\x7d' :: []))) := by
    rw [← String.toList_inj, String.toList_ofList]
    simp [render, Field.all]
  exact text ▸ .document .nil parts .nil .nil

/-- Every text of a document is read as options if no key stands twice, every key is that of a
field, and every value is an integer without a minus sign in the range of its field. The
options have then these values, the other fields their defaults, so that members in another
order and with other blanks are read as the same; and what options are rendered as is read as
these options. Otherwise the leftmost member at fault is reported, and its key if that is
unknown or stands twice. -/
theorem options_are_read_as_documented (writes : WritesDocument members text) :
    ((∃ o, parse text = .ok o) ↔ Documented members) ∧ (∀ o, parse text = .ok o → Given members o) ∧
      (∀ o members' text', parse text = .ok o → members'.Perm members →
        WritesDocument members' text' → parse text' = .ok o) ∧
      (∀ o, WritesDocument o.toMembers (render o) ∧
        parse (render o) = .ok { o with collectors := [] }) ∧
      (¬Documented members → ∃ before m after x,
        members = before ++ m :: after ∧ Documented before ∧ m.Fault before x ∧
        parse text = .error (.data x)) := by
  refine ⟨⟨?_, exists_parse writes⟩, fun o read => ((parse_eq_ok_iff writes).1 read).2, ?_,
    fun o => ?_, exists_fault writes⟩
  · rintro ⟨o, read⟩
    exact ((parse_eq_ok_iff writes).1 read).1
  · intro o members' text' read same writes'
    obtain ⟨documented, given⟩ := (parse_eq_ok_iff writes).1 read
    exact (parse_eq_ok_iff writes').2 ⟨documented.perm same, given.perm same⟩
  · have writes := writesDocument_render o
    exact ⟨writes, (parse_eq_ok_iff writes).2 ⟨documented_toMembers o, given_toMembers o⟩⟩

/-- A document of two members. -/
def pair : List Member :=
  [⟨"maxReadPasses", .integer false 7⟩, ⟨"defaultBacklog", .integer false 0⟩]

/-- A text of the document with blanks, and with a character of a key by its number. -/
def pairText : String := "\x7b \"maxReadPasses\":7,\n\"default\\u0042acklog\" :0\x7d\t"

/-- The text writes the document. -/
theorem writesDocument_pair : WritesDocument pair pairText := by
  have first : Member.Writes ⟨"maxReadPasses", .integer false 7⟩
      ([' '] ++ '"' :: ("maxReadPasses".toList ++ '"' :: ([] ++ ':' :: ([] ++ (['7'] ++ []))))) :=
    .member (by decide) (writesText_self (by decide)) .nil .nil
      (.natural (numeral_toDigits 7) (by decide)) .nil
  have unit : WritesUnit 'B'.toNat ['0', '0', '4', '2'] :=
    .digits (w := 0) (x := 0) (y := 4) (z := 2) rfl rfl rfl rfl
  have letter : WritesText ['B'] ['\\', 'u', '0', '0', '4', '2'] := .cons (.unit unit) .nil
  have before : WritesText "default".toList "default".toList := writesText_self (by decide)
  have after : WritesText "acklog".toList "acklog".toList := writesText_self (by decide)
  have name : WritesText "defaultBacklog".toList
      ("default".toList ++ (['\\', 'u', '0', '0', '4', '2'] ++ "acklog".toList)) :=
    before.append (letter.append after)
  have second : Member.Writes ⟨"defaultBacklog", .integer false 0⟩
      (['\n'] ++ '"' ::
        (("default".toList ++ (['\\', 'u', '0', '0', '4', '2'] ++ "acklog".toList)) ++ '"' ::
        ([' '] ++ ':' :: ([] ++ (['0'] ++ []))))) :=
    .member (by decide) name (by decide) .nil (.natural (numeral_toDigits 0) (by decide)) .nil
  have document :=
    WritesDocument.document .nil (.cons first (.cons second .nil)) .nil
      (show AllBlank ['\t'] by decide)
  exact document

/-- The document is documented. -/
theorem documented_pair : Documented pair where
  distinct := by decide
  gives m here := by
    obtain rfl | rfl : m = ⟨"maxReadPasses", .integer false 7⟩ ∨
        m = ⟨"defaultBacklog", .integer false 0⟩ := by
      simpa [pair] using here
    · exact ⟨.maxReadPasses, 7, rfl, rfl, by decide⟩
    · exact ⟨.defaultBacklog, 0, rfl, rfl, by decide⟩

/-- The two members are read, and the third field has its default. -/
theorem options_are_read_as_documented_for_pair :
    WritesDocument pair pairText ∧
      ∃ o, parse pairText = .ok o ∧ o.get .maxReadPasses = 7 ∧ o.get .defaultBacklog = 0 ∧
      o.get .readBufferSize = 65536 := by
  obtain ⟨accepts, gives, -⟩ := options_are_read_as_documented writesDocument_pair
  obtain ⟨o, read⟩ := accepts.2 documented_pair
  have given := gives o read
  refine ⟨writesDocument_pair, o, read, ?_, ?_, given.default .readBufferSize (by decide)⟩
  · exact given.given _ (.head _) .maxReadPasses 7 ⟨rfl, rfl, by decide⟩
  · exact given.given _ (.tail _ (.head _)) .defaultBacklog 0 ⟨rfl, rfl, by decide⟩

end Reactor.Options
