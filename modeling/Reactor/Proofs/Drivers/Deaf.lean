import Reactor.Proofs.Drivers.Hush

/-!
# Programs that do not listen for wake-ups

Whether the task was woken is the business of the one that polls, and whom the transport would wake
is seen by nobody. A deaf program acts on neither: it asks whether the task was woken only where all
who could drive the loop agree on the answer, after it has made the task forget and as long as no
more than polls in vain have come between.
-/

namespace Reactor

variable {S N C : Type}

namespace Call

/-- Whether, after a call with this answer, all agree on whether the task was woken, if they agreed
before. A poll that leaves the loop pending has woken the task or was in vain. -/
def agrees {H : Host} (agreed : Bool) : (c : Call H) → c.Answer → Bool
  | .ask _, _ | .survey, _ | .note _, _ | .recall, _ | .update _, _ => agreed
  | .issue .forgetWake, _ => true
  | .poll .task, .ok false => agreed
  | _, _ => false

/-- What comes after a call does not depend on wake-ups on which not all agree, nor on whom the
transport would wake. -/
def Hides (agreed : Bool) :
    (c : Call (Memory.host S N C)) → (c.Answer → Program (Memory.host S N C)) → Prop
  | .ask .woken, next => agreed = true ∨ ∀ a b, next a = next b
  | .survey, next => ∀ m m', Memory.hush m = Memory.hush m' → next m = next m'
  | _, _ => True

end Call

namespace Program

/-- A program that does not listen for wake-ups, as long as all who drive the loop
agree on them or need not. -/
def Deaf (agreed : Bool) : Program (Memory.host S N C) → Prop
  | .done _ => True
  | .call c next => c.Hides agreed next ∧ ∀ a, (next a).Deaf (c.agrees agreed a)

/-- Agreeing on more does no harm. -/
theorem Deaf.mono {p : Program (Memory.host S N C)} {agreed agreed' : Bool} (deaf : p.Deaf agreed)
    (more : agreed = true → agreed' = true) : p.Deaf agreed' := by
  induction p generalizing agreed agreed' with
  | done => trivial
  | call c next ih =>
    obtain ⟨hides, rest⟩ := deaf
    refine ⟨?_, fun a => ih a (rest a) ?_⟩
    · cases c with
      | ask q =>
        cases q with
        | woken => exact hides.imp_left more
        | _ => trivial
      | survey => exact hides
      | _ => trivial
    · cases c with
      | issue o =>
        cases o with
        | forgetWake => exact id
        | _ => exact id
      | poll w =>
        cases w with
        | idle => exact id
        | task =>
          cases a with
          | error => exact id
          | ok done =>
            cases done with
            | false => exact more
            | true => exact id
      | ask | survey | note | update => exact more
      | «recall» => exact more
      | _ => exact id

/-- A program that listens for nothing even if nothing is agreed on listens for nothing. -/
theorem Deaf.of_false {p : Program (Memory.host S N C)} (deaf : p.Deaf false) (agreed : Bool) :
    p.Deaf agreed :=
  deaf.mono fun never => absurd never Bool.false_ne_true

/-- No operation lets a program listen. -/
theorem deaf_issue {o : Operation C} {next : (Call.issue (H := Memory.host S N C) o).Answer →
    Program (Memory.host S N C)}
    (rest : ∀ a, (next a).Deaf false) (agreed : Bool) :
    (Program.call (.issue o) next).Deaf agreed :=
  ⟨trivial, fun a => (rest a).of_false _⟩

/-- A program that ends on a refusal listens for nothing if what it goes on with does not. -/
theorem deaf_orRefuse {α : Type} {next : α → Program (Memory.host S N C)} {agreed : Bool}
    (rest : ∀ a, (next a).Deaf agreed) (answer : Except LoopError α) :
    (orRefuse next answer).Deaf agreed := by
  cases answer with
  | error => trivial
  | ok a => exact rest a

end Program

end Reactor
