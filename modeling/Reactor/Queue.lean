/-!
# Queues

Things in the order in which they came. What came last is stored first, so that one more thing is
added without a walk over those that are there; `toList` is the order of arrival, and the lemmas say
what every operation does to it.
-/

namespace Reactor

/-- Things in the order in which they came. -/
structure Queue (α : Type) where
  newestFirst : List α := []
  deriving DecidableEq, Repr

namespace Queue

variable {α : Type}

/-- The things in the order in which they came. -/
def toList (q : Queue α) : List α := q.newestFirst.reverse

/-- Whether nothing has come. -/
def isEmpty (q : Queue α) : Bool := q.newestFirst.isEmpty

/-- The queue after one more thing came. -/
def push (q : Queue α) (a : α) : Queue α := ⟨a :: q.newestFirst⟩

/-- The queue after some things came, in this order. -/
def append (q : Queue α) (as : List α) : Queue α := ⟨as.reverseAux q.newestFirst⟩

/-- The empty queue lists nothing. -/
@[simp] theorem toList_empty : ({} : Queue α).toList = [] := rfl

/-- What is pushed is listed last. -/
@[simp] theorem toList_push (q : Queue α) (a : α) : (q.push a).toList = q.toList ++ [a] := by
  simp [push, toList]

/-- What is appended is listed last, in its order. -/
@[simp] theorem toList_append (q : Queue α) (as : List α) :
    (q.append as).toList = q.toList ++ as := by
  simp [append, toList, List.reverseAux_eq]

/-- A queue is empty when it lists nothing. -/
theorem isEmpty_eq (q : Queue α) : q.isEmpty = q.toList.isEmpty := by
  simp [isEmpty, toList]

end Queue

end Reactor
