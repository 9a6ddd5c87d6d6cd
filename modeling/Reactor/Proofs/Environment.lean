import Mathlib.Data.List.TakeWhile
import Mathlib.Logic.Function.Basic
import Reactor.Environment

/-!
# The variables of a process are a finite map

On a process whose variables are a finite map, updates with any texts for arguments change just what
they say, or are refused and change nothing, and the process survives them all. An assignment in one
text is an update with the name before its first equals sign and the value after it.
-/

namespace Reactor

open Environment

variable {σ : Type}

/-! ## Updates and what they do -/

namespace Environment

/-- The assignment of a value to a name: the equals sign between them is the first one. -/
structure Assigns (assignment name value : String) : Prop where
  text : assignment = name ++ "=" ++ value
  first : '=' ∉ name.toList

/-- An update of the variables. -/
inductive Update where
  | set (name value : String) (overwrite : Bool)
  | put (assignment : String)
  | unset (name : String)

/-- What an update with arguments that fit makes of a map. -/
inductive Update.Effect : Update → (String → Option String) → (String → Option String) → Prop where
  | set {name value overwrite m} (named : isName name) (valued : isValue value) :
    Effect (.set name value overwrite) m
      (if overwrite || (m name).isNone then Function.update m name (some value) else m)
  | put {assignment name value m m'} (assigns : Assigns assignment name value)
    (effect : Effect (.set name value true) m m') : Effect (.put assignment) m m'
  | unset {name m} (named : isName name) : Effect (.unset name) m (Function.update m name none)

/-- Why the arguments of an update do not fit. The name is judged before the value. -/
inductive Update.Unfit : Update → Fault → Prop where
  | name {name value overwrite} (bad : ¬isName name) :
      Unfit (.set name value overwrite) (.invalidName name)
  | value {name value overwrite} (named : isName name) (bad : ¬isValue value) :
    Unfit (.set name value overwrite) (.invalidValue name)
  | put {assignment name value fault} (assigns : Assigns assignment name value)
    (unfit : Unfit (.set name value true) fault) : Unfit (.put assignment) fault
  | malformed {assignment} (whole : '=' ∉ assignment.toList) :
      Unfit (.put assignment) (.malformed assignment)
  | unset {name} (bad : ¬isName name) : Unfit (.unset name) (.invalidName name)

end Environment

namespace Process

/-- The variables of a process are a finite map, which `view` shows of its states: names have the
values of the map, and a change that is asked for with a name and a value changes the map. With
other texts the process does not survive a change, and nothing is known of what it tells of them. -/
structure Models (p : Process σ) (view : σ → Environment) : Prop where
  entries : ∀ s, (p.entries s).Perm (view s).bindings.entries
  value? : ∀ name s, isName name → p.value? name s = (view s).lookup name
  assign : ∀ name value s (named : isName name) (valued : isValue value),
    ∃ s', p.assign name value s = some s' ∧ view s' = (view s).insert name value named valued
  assign_ends : ∀ name value s, ¬(isName name ∧ isValue value) → p.assign name value s = none
  remove : ∀ name s, isName name → ∃ s', p.remove name s = some s' ∧ view s' = (view s).erase name
  remove_ends : ∀ name s, ¬isName name → p.remove name s = none

/-- An update of the variables of a process. -/
def update (p : Process σ) : Update → σ → Option (Except Fault Unit × σ)
  | .set name value overwrite => p.set name value overwrite
  | .put assignment => p.put assignment
  | .unset name => p.unset name

/-- Updates one after the other, with their answers in order. -/
def updates (p : Process σ) : List Update → σ → Option (List (Except Fault Unit) × σ)
  | [], s => some ([], s)
  | u :: rest, s => (p.update u s).bind fun (answer, s) =>
    (p.updates rest s).map fun (answers, s) => (answer :: answers, s)

/-- The answer to an update, and the state after it: either the update is refused, since its
arguments do not fit, and nothing has changed, or the map has changed as the update says. -/
inductive Answers (view : σ → Environment) (u : Update) (s : σ) : Except Fault Unit → σ → Prop where
  | refused {fault} (unfit : u.Unfit fault) : Answers view u s (.error fault) s
  | done {s'} (effect : u.Effect (view s).lookup (view s').lookup) : Answers view u s (.ok ()) s'

/-- The answers to updates one after the other, and the state after them. -/
inductive AnswersAll (view : σ → Environment) :
    List Update → σ → List (Except Fault Unit) → σ → Prop where
  | nil {s} : AnswersAll view [] s [] s
  | cons {u rest s answer s₁ answers s₂} (first : Answers view u s answer s₁)
    (others : AnswersAll view rest s₁ answers s₂) :
    AnswersAll view (u :: rest) s (answer :: answers) s₂

end Process

variable {p : Process σ} {view : σ → Environment} {name value assignment : String}

/-! ## Names, values and assignments -/

namespace Environment

/-- A name is not empty and has neither an equals sign nor a null character. -/
theorem isName_iff : isName name ↔ name ≠ "" ∧ '=' ∉ name.toList ∧ '\x00' ∉ name.toList := by
  simp [isName, and_assoc]

/-- A value has no null character. -/
theorem isValue_iff : isValue value ↔ '\x00' ∉ value.toList := by simp [isValue]

/-- An assignment splits at its first equals sign. -/
theorem splitAssignment?_of_assigns (assigns : Assigns assignment name value) :
    splitAssignment? assignment = some (name, value) := by
  obtain ⟨rfl, first⟩ := assigns
  have before : ∀ c ∈ name.toList, decide (c ≠ '=') = true := fun c hc => by
    rw [decide_eq_true_iff]
    rintro rfl
    exact first hc
  simp only [splitAssignment?, String.toList_append, List.append_assoc]
  rw [List.dropWhile_append_of_pos before, List.takeWhile_append_of_pos before]
  simp

/-- What an assignment was split into makes it up again. -/
theorem assigns_of_splitAssignment? (split : splitAssignment? assignment = some (name, value)) :
    Assigns assignment name value := by
  unfold splitAssignment? at split
  split at split
  case h_1 => cases split
  case h_2 c rest after =>
    cases split
    have halves := List.takeWhile_append_dropWhile (p := (· ≠ '=')) (l := assignment.toList)
    obtain rfl : c = '=' := by
      have stopped := List.head?_dropWhile_not (· ≠ '=') assignment.toList
      rw [after] at stopped
      simpa using stopped
    refine ⟨?_, fun here => ?_⟩
    · rw [after] at halves
      rw [← String.toList_inj, String.toList_append, String.toList_append]
      simpa using halves.symm
    · rw [String.toList_ofList] at here
      simpa using List.all_eq_true.1 List.all_takeWhile _ here

/-- A text that does not split has no equals sign. -/
theorem not_mem_of_splitAssignment? (split : splitAssignment? assignment = none) :
    '=' ∉ assignment.toList := by
  unfold splitAssignment? at split
  split at split
  case h_1 none =>
    intro here
    simpa using List.dropWhile_eq_nil_iff.1 none _ here
  case h_2 => cases split

/-- Setting a variable has an effect only if its name is a name and its value a value. -/
theorem Update.Effect.fits {overwrite : Bool} {m m' : String → Option String}
    (effect : (Update.set name value overwrite).Effect m m') : isName name ∧ isValue value := by
  cases effect with
  | set named valued => exact ⟨named, valued⟩

/-- Setting a variable updates the environment as a map. -/
theorem lookup_insert_eq (env : Environment) (named : isName name) (valued : isValue value) :
    (env.insert name value named valued).lookup = Function.update env.lookup name (some value) :=
  funext fun k => by rw [lookup_insert, Function.update_apply]

/-- Taking a variable out updates the environment as a map. -/
theorem lookup_erase_eq (env : Environment) :
    (env.erase name).lookup = Function.update env.lookup name none :=
  funext fun k => by rw [lookup_erase, Function.update_apply]

end Environment

/-! ## Processes with a finite map of variables -/

namespace Process

/-- An assignment is answered as the update that it stands for. -/
theorem Answers.put {s s' : σ} {answer : Except Fault Unit}
    (assigns : Assigns assignment name value)
    (answers : Answers view (.set name value true) s answer s') :
    Answers view (.put assignment) s answer s' := by
  cases answers with
  | refused unfit => exact .refused (.put assigns unfit)
  | done effect => exact .done (.put assigns effect)

/-- Putting an assignment is setting its name to its value. -/
theorem put_of_assigns (p : Process σ) (s : σ) (assigns : Assigns assignment name value) :
    p.put assignment s = p.set name value true s := by
  simp only [put, splitAssignment?_of_assigns assigns]

namespace Models

/-- A value is bound to a name, unless the arguments do not fit. -/
theorem set (models : p.Models view) (name value : String) (overwrite : Bool) (s : σ) :
    ∃ answer s', p.set name value overwrite s = some (answer, s') ∧
      Answers view (.set name value overwrite) s answer s' := by
  unfold Process.set
  split
  case isTrue bad => exact ⟨_, s, rfl, .refused (.name (by simpa using bad))⟩
  case isFalse named =>
    have named : isName name := by simpa using named
    split
    case isTrue bad => exact ⟨_, s, rfl, .refused (.value named (by simpa using bad))⟩
    case isFalse valued =>
      have valued : isValue value := by simpa using valued
      have effect : (Update.set name value overwrite).Effect (view s).lookup _ := .set named valued
      rw [models.value? name s named]
      split
      case isTrue keeps =>
        -- the value that is there stays
        rw [if_neg (by revert keeps; cases overwrite <;> cases (view s).lookup name <;> simp)]
          at effect
        exact ⟨_, s, rfl, .done effect⟩
      case isFalse binds =>
        obtain ⟨s', assigned, after⟩ := models.assign name value s named valued
        rw [if_pos (by revert binds; cases overwrite <;> cases (view s).lookup name <;> simp),
          ← lookup_insert_eq _ named valued, ← after] at effect
        exact ⟨_, s', by rw [assigned]; rfl, .done effect⟩

/-- A text is taken as an assignment, if it is one. -/
theorem put (models : p.Models view) (assignment : String) (s : σ) :
    ∃ answer s', p.put assignment s = some (answer, s') ∧
      Answers view (.put assignment) s answer s' := by
  cases split : splitAssignment? assignment with
  | none =>
    have whole := not_mem_of_splitAssignment? split
    exact ⟨.error (.malformed assignment), s, by simp only [Process.put, split],
      .refused (.malformed whole)⟩
  | some pair =>
    have assigns := assigns_of_splitAssignment? split
    obtain ⟨answer, s', set, answers⟩ := models.set pair.1 pair.2 true s
    exact ⟨answer, s', (put_of_assigns p s assigns).trans set, answers.put assigns⟩

/-- A name is removed, unless the argument does not fit. -/
theorem unset (models : p.Models view) (name : String) (s : σ) :
    ∃ answer s', p.unset name s = some (answer, s') ∧ Answers view (.unset name) s answer s' := by
  unfold Process.unset
  split
  case isTrue bad => exact ⟨_, s, rfl, .refused (.unset (by simpa using bad))⟩
  case isFalse named =>
    have named : isName name := by simpa using named
    obtain ⟨s', removed, after⟩ := models.remove name s named
    have effect := Update.Effect.unset (m := (view s).lookup) named
    rw [← lookup_erase_eq, ← after] at effect
    exact ⟨_, s', by rw [removed]; rfl, .done effect⟩

/-- Every update is answered. -/
theorem update (models : p.Models view) (u : Update) (s : σ) :
    ∃ answer s', p.update u s = some (answer, s') ∧ Answers view u s answer s' := by
  cases u with
  | set name value overwrite => exact models.set name value overwrite s
  | put assignment => exact models.put assignment s
  | unset name => exact models.unset name s

/-- All of any updates are answered, one after the other. -/
theorem updates (models : p.Models view) (us : List Update) (s : σ) :
    ∃ answers s', p.updates us s = some (answers, s') ∧ AnswersAll view us s answers s' := by
  induction us generalizing s with
  | nil => exact ⟨[], s, rfl, .nil⟩
  | cons u rest ih =>
    obtain ⟨answer, s₁, updated, first⟩ := models.update u s
    obtain ⟨answers, s₂, later, all⟩ := ih s₁
    exact ⟨answer :: answers, s₂, by simp [Process.updates, updated, later], .cons first all⟩

/-- An assignment goes through if it has an equals sign, and what stands before the first one and
after it can be a name and a value. -/
theorem put_ok_iff (models : p.Models view) (assignment : String) (s : σ) :
    (∃ s', p.put assignment s = some (.ok (), s')) ↔
      ∃ name value, Assigns assignment name value ∧ name ≠ "" ∧ '\x00' ∉ name.toList ∧
        '\x00' ∉ value.toList := by
  constructor
  · rintro ⟨s', ok⟩
    obtain ⟨answer, s'', put, answers⟩ := models.put assignment s
    cases ok.symm.trans put
    cases answers with
    | done effect =>
      cases effect with
      | put assigns effect =>
        obtain ⟨named, valued⟩ := effect.fits
        obtain ⟨some, -, clean⟩ := isName_iff.1 named
        exact ⟨_, _, assigns, some, clean, isValue_iff.1 valued⟩
  · rintro ⟨name, value, assigns, some, clean, valued⟩
    have named := isName_iff.2 ⟨some, assigns.first, clean⟩
    obtain ⟨answer, s', set, answers⟩ := models.set name value true s
    cases answers with
    | refused unfit =>
      cases unfit with
      | name bad => exact absurd named bad
      | value _ bad => exact absurd (isValue_iff.2 valued) bad
    | done => exact ⟨s', (put_of_assigns p s assigns).trans set⟩

/-- Getting a variable looks its name up if it is one, and finds nothing otherwise. -/
theorem get_eq (models : p.Models view) (name : String) (s : σ) :
    p.get name s = if isName name then (view s).lookup name else none := by
  unfold get
  split
  case isTrue named => rw [models.value? name s named]
  case isFalse => rfl

/-- The keys are the names that have a value. -/
theorem mem_keys_iff (models : p.Models view) (name : String) (s : σ) :
    name ∈ p.keys s ↔ ((view s).lookup name).isSome := by
  rw [keys, ((models.entries s).map _).mem_iff, List.mem_map, Option.isSome_iff_exists]
  constructor
  · rintro ⟨⟨name, value⟩, here, rfl⟩
    exact ⟨value, (SortedMap.mem_entries_iff ..).1 here⟩
  · rintro ⟨value, bound⟩
    exact ⟨(name, value), (SortedMap.mem_entries_iff ..).2 bound, rfl⟩

/-- No key is there twice. -/
theorem nodup_keys (models : p.Models view) (s : σ) : (p.keys s).Nodup := by
  rw [keys, ((models.entries s).map _).nodup_iff, List.Nodup, List.pairwise_map]
  refine (view s).bindings.sorted.imp fun less same => ?_
  rw [same] at less
  exact LinearKey.irrefl _ less

end Models

end Process

/-- On a process whose variables are a finite map, updates with any arguments are all answered,
so the process survives them: each is refused for arguments that do not fit, and nothing has
changed then, or it does to the map what it says. An assignment goes through if what stands
before its first equals sign and after it can be a name and a value, and is the update with these
two. A name has the value that the map has for it, other texts have none, and the names that have
a value are those of the map. -/
theorem variables_are_finite_map (models : p.Models view) (s : σ) :
    (∀ us, ∃ answers s', p.updates us s = some (answers, s') ∧
      Process.AnswersAll view us s answers s') ∧
      (∀ assignment, ((∃ s', p.put assignment s = some (.ok (), s')) ↔
          ∃ name value, Assigns assignment name value ∧ name ≠ "" ∧ '\x00' ∉ name.toList ∧
            '\x00' ∉ value.toList) ∧
        ∀ name value, Assigns assignment name value →
          p.put assignment s = p.set name value true s) ∧
      (∀ name, p.get name s = if isName name then (view s).lookup name else none) ∧
      (p.keys s).Nodup ∧ ∀ name, name ∈ p.keys s ↔ ((view s).lookup name).isSome :=
  ⟨fun us => models.updates us s,
    fun assignment => ⟨models.put_ok_iff assignment s, fun _ _ => Process.put_of_assigns p s⟩,
    fun name => models.get_eq name s, models.nodup_keys s, fun name => models.mem_keys_iff name s⟩

namespace Environment

/-- The environment is its own model. -/
theorem process_models : process.Models id where
  entries _ := .refl _
  value? _ _ _ := rfl
  assign name value env named valued :=
    ⟨env.insert name value named valued, dif_pos ⟨named, valued⟩, rfl⟩
  assign_ends _ _ _ unfit := dif_neg unfit
  remove name env named := ⟨env.erase name, if_pos named, rfl⟩
  remove_ends _ _ unfit := if_neg unfit

/-- Updates with and without faults. -/
def mixed : List Update :=
  [.put "A=b=c", .set "A" "x" false, .set "A" "x\x00" false, .put "=x", .put "A", .set "B" "" false,
    .unset "A="]

end Environment

/-- Of some updates on no variables three go through, and the first binds two of the three parts of
its text as one. -/
theorem variables_are_finite_map_for_mixed :
    process.Models id ∧ ∃ answers env, process.updates mixed {} = some (answers, env) ∧
      Process.AnswersAll id mixed {} answers env ∧
      answers = [.ok (), .ok (), .error (.invalidValue "A"),
        .error (.invalidName ""), .error (.malformed "A"), .ok (), .error (.invalidName "A=")] ∧
      process.get "A" env = some "b=c" ∧ process.keys env = ["A", "B"] := by
  obtain ⟨answers, env, updated, all⟩ := (variables_are_finite_map process_models {}).1 mixed
  have shown : (process.updates mixed {}).map (fun x =>
      (x.1, process.get "A" x.2, process.keys x.2)) =
      some ([.ok (), .ok (), .error (.invalidValue "A"), .error (.invalidName ""),
        .error (.malformed "A"), .ok (), .error (.invalidName "A=")], some "b=c", ["A", "B"]) := by
          rfl
  rw [updated] at shown
  simp only [Option.map_some, Option.some.injEq, Prod.mk.injEq] at shown
  exact ⟨process_models, answers, env, updated, all, shown⟩

end Reactor
