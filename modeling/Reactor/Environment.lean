import Reactor.Environment.Process
import Reactor.SortedMap

/-!
# Environments

The variables of a process as a finite map from names to values, kept in the order of the names. The
map is a process of its own, and its updates are those of a process: an update that is refused
changes nothing, and none is one that a process does not survive.
-/

namespace Reactor

/-- A finite map from names to values, in the order of the names. -/
structure Environment where
  bindings : SortedMap String String := {}
  valid : ∀ x ∈ bindings.entries, Environment.isName x.1 ∧ Environment.isValue x.2 := by
    exact List.forall_mem_nil _
  deriving DecidableEq, Repr

namespace Environment

/-- The value that a text is bound to. -/
def lookup (env : Environment) (name : String) : Option String := env.bindings.get? name

/-- The map with a name bound to a value. -/
def insert (env : Environment) (name value : String) (hn : isName name) (hv : isValue value) :
    Environment where
  bindings := env.bindings.insert name value
  valid x hx := by
    rcases SortedMap.mem_setEntry hx with rfl | hx
    · exact ⟨hn, hv⟩
    · exact env.valid x hx

/-- The map without a name. -/
def erase (env : Environment) (name : String) : Environment where
  bindings := env.bindings.erase name
  valid x hx := env.valid x (List.mem_filter.1 hx).1

/-- A variable that is set has its value, and the others keep theirs. -/
theorem lookup_insert (env : Environment) (name value : String) (hn : isName name)
    (hv : isValue value) (k : String) :
    (env.insert name value hn hv).lookup k = if k = name then some value else env.lookup k :=
  SortedMap.get?_insert ..

/-- A name that is taken out has no value, and the others keep theirs. -/
theorem lookup_erase (env : Environment) (name k : String) :
    (env.erase name).lookup k = if k = name then none else env.lookup k :=
  SortedMap.get?_erase ..

/-- A process that keeps its variables in such a map. -/
def process : Process Environment where
  entries env := env.bindings.entries
  value? name env := env.lookup name
  assign name value env :=
    if h : isName name ∧ isValue value then some (env.insert name value h.1 h.2) else none
  remove name env := if isName name then some (env.erase name) else none

/-- In this process setting a variable does not fail, whatever its name and its value are. -/
theorem isSome_set (env : Environment) (name value : String) (overwrite : Bool) :
    (process.set name value overwrite env).isSome := by
  unfold Process.set
  split
  case isTrue => rfl
  case isFalse named =>
    split
    case isTrue => rfl
    case isFalse valued =>
      split
      case isTrue => rfl
      case isFalse => simp_all [process]

/-- In this process putting an assignment does not fail, whatever its text is. -/
theorem isSome_put (env : Environment) (assignment : String) :
    (process.put assignment env).isSome := by
  unfold Process.put
  split
  case h_1 => rfl
  case h_2 => exact isSome_set ..

/-- In this process unsetting a variable does not fail, whatever its name is. -/
theorem isSome_unset (env : Environment) (name : String) : (process.unset name env).isSome := by
  unfold Process.unset
  split
  case isTrue => rfl
  case isFalse => simp_all [process]

/-- The map after an update, or why it was refused. -/
def settle : Except Fault Unit × Environment → Except Fault Environment
  | (.ok (), env) => .ok env
  | (.error fault, _) => .error fault

/-- The value of a name; a text that names no variable has none. -/
def get (env : Environment) (name : String) : Option String := process.get name env

/-- The names that have a value, in order. -/
def keys (env : Environment) : List String := process.keys env

/-- Binds a name to a value. A value that is present stays unless it is to be overwritten. -/
def set (env : Environment) (name value : String) (overwrite : Bool) : Except Fault Environment :=
  settle ((process.set name value overwrite env).get (env.isSome_set name value overwrite))

/-- Binds the name before the first equals sign to what follows it. -/
def put (env : Environment) (assignment : String) : Except Fault Environment :=
  settle ((process.put assignment env).get (env.isSome_put assignment))

/-- Removes a name. -/
def unset (env : Environment) (name : String) : Except Fault Environment :=
  settle ((process.unset name env).get (env.isSome_unset name))

end Environment

end Reactor
