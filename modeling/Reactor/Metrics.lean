import Reactor.Handle
import Reactor.Options

/-!
# Metrics

Collectors are told of the progress of operations: when one was called, how the call ended, and how
its result arrived later. Two optional collectors are merged into the list of those that are there.
-/

namespace Reactor

/-- The operation that a sample is about. -/
inductive StreamOp where
  | listen
  | accept
  | readStart
  | readStop
  | read
  | write
  | shutdown
  | connect
  | close
  deriving DecidableEq, Repr

/-- How far an operation has come. -/
inductive Progress where
  /-- The operation was called. -/
  | dispatched
  /-- The call returned. -/
  | completed
  /-- A result arrived later. -/
  | completedAsync
  /-- The call returned an error. -/
  | error
  /-- An error arrived later. -/
  | errorAsync
  deriving DecidableEq, Repr

/-- One observation of a handle's operation. -/
structure Sample where
  handle : HandleId
  op : StreamOp
  progress : Progress
  deriving DecidableEq, Repr

/-- The collectors that are there, in order. -/
def mergeCollectors (first second : Option Collector) : List Collector :=
  first.toList ++ second.toList

/-- Of two collectors that are there, the first is told first. -/
@[simp]
theorem mergeCollectors_some_some (a b : Collector) :
    mergeCollectors (some a) (some b) = [a, b] := rfl

/-- Without a second collector the first is told alone. -/
@[simp]
theorem mergeCollectors_some_none (a : Collector) : mergeCollectors (some a) none = [a] := rfl

/-- Without a first collector the second is told alone. -/
@[simp]
theorem mergeCollectors_none_some (b : Collector) : mergeCollectors none (some b) = [b] := rfl

/-- Without collectors nobody is told. -/
@[simp]
theorem mergeCollectors_none_none : mergeCollectors none none = [] := rfl

/-- An entry of a loop's journal: a sample as a collector got it, or a note of a handler. -/
inductive Entry (ν : Type) where
  | sample (collector : Collector) (s : Sample)
  | note (n : ν)
  deriving Repr

end Reactor
