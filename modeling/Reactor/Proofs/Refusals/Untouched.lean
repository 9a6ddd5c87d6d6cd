import Reactor.Proofs.Loop.Effects
import Reactor.Proofs.References

/-!
# What a refused call leaves alone

A call is refused by the state of its handles or by the transport. Whatever it did before it was
refused it has undone: the loop is as it was, up to a read buffer that may be there now, and the
transport has at most been asked for what it did not do.
-/

namespace Reactor

variable {H : Host} {T : Transport H.Net H.Script}

/-- A handle without its read buffer. -/
def Handle.unbuffered {κ : Type} (x : Handle κ) : Handle κ := { x with buffer := none }

/-- The second state of a transport is what the first becomes when it refuses
what a call asks of it. -/
inductive Transport.Refuses {σ τ : Type} (T : Transport σ τ) (net : σ) : σ → Prop where
  | adopt {h status} (asked : (T.adopt h net).answer = .error status) :
      Refuses T net (T.adopt h net).net
  | bind {h address status} (asked : (T.bind h address net).answer = .error status) :
    Refuses T net (T.bind h address net).net
  | listen {h backlog status} (asked : (T.listen h backlog net).answer = .error status) :
    Refuses T net (T.listen h backlog net).net
  | accept {server client status} (asked : (T.accept server client net).answer = .error status) :
    Refuses T net (T.accept server client net).net
  | readStart {h status} (asked : (T.readStart h net).answer = .error status) :
      Refuses T net (T.readStart h net).net
  | connect {req h address status} (asked : (T.connect req h address net).answer = .error status) :
    Refuses T net (T.connect req h address net).net

/-- A transport in memory that refuses keeps all that belongs to its handles. A fault that waited is
forgotten, and no connection is taken. -/
theorem Memory.endpoint_of_refuses {m m' : Memory} (refuses : Memory.transport.Refuses m m')
    (h : HandleId) :
    m'.endpoint h = m.endpoint h := by
  cases refuses with
  | adopt => rfl
  | bind asked | readStart asked => cases asked
  | @listen k backlog status asked =>
    change (Memory.listen k backlog m).answer = _ at asked
    change (Memory.listen k backlog m).net.endpoint h = _
    unfold Memory.listen at asked ⊢
    split
    case h_1 => rfl
    case h_2 fault =>
      rw [fault] at asked
      cases asked
  | @accept server client status asked =>
    change (Memory.accept server m).answer = _ at asked
    change (Memory.accept server m).net.endpoint h = _
    unfold Memory.accept at asked ⊢
    split
    case isTrue => rfl
    case isFalse waits =>
      rw [if_neg waits] at asked
      cases asked
  | @connect req k address status asked =>
    change (Memory.connect req k address m).answer = _ at asked
    unfold Memory.connect Memory.finish at asked
    split at asked <;> cases asked

namespace Loop

variable {l l' l₀ l₁ : Loop H} {h : HandleId} {e : LoopError} {held due : List HandleId}

/-- The second loop differs from the first in read buffers, in samples, in wakers, and in what the
transport makes of a request that it refuses. -/
structure Untouched (T : Transport H.Net H.Script) (l l' : Loop H) : Prop where
  options : l'.options = l.options
  next : l'.handles.next = l.handles.next
  handles : ∀ h, (l'.handles.get? h).map Handle.unbuffered =
    (l.handles.get? h).map Handle.unbuffered
  requests : l'.requests = l.requests
  listeners : l'.listeners = l.listeners
  deferred : l'.deferred = l.deferred
  closing : l'.closing = l.closing
  settled : l'.settled = l.settled
  breach : l'.breach = l.breach
  net : l'.net = l.net ∨ T.Refuses l.net l'.net

namespace Untouched

/-- A loop is untouched where nothing happens. -/
theorem refl (l : Loop H) : l.Untouched T l :=
  ⟨rfl, rfl, fun _ => rfl, rfl, rfl, rfl, rfl, rfl, rfl, .inl rfl⟩

/-- Loops that agree may take the places of both. -/
theorem agrees (untouched : l₀.Untouched T l₁) (before : l₀.Agrees l) (after : l'.Agrees l₁) :
    l.Untouched T l' where
  options := (after.options.trans untouched.options).trans before.options
  next := (after.next.trans untouched.next).trans before.next
  handles h := by rw [after.handles, untouched.handles, before.handles]
  requests := (after.requests.trans untouched.requests).trans before.requests
  listeners := (after.listeners.trans untouched.listeners).trans before.listeners
  deferred := (after.deferred.trans untouched.deferred).trans before.deferred
  closing := (after.closing.trans untouched.closing).trans before.closing
  settled := (after.settled.trans untouched.settled).trans before.settled
  breach := (after.breach.trans untouched.breach).trans before.breach
  net := by
    rw [after.net, ← before.net]
    exact untouched.net

/-- A transport that is asked and refuses changes its own state only. -/
theorem ask (primitive : H.Net → Reply H.Net Outcome)
    (refuses : T.Refuses l.net (primitive l.net).net) :
    l.Untouched T (l.ask primitive).2 :=
  { refl (T := T) l with net := .inr refuses }

/-- A handle may get a read buffer before. -/
theorem ensureBuffer (h : HandleId) (untouched : (l.ensureBuffer h).Untouched T l') :
    l.Untouched T l' :=
  { untouched with
    handles := fun k => by
      rw [untouched.handles, Loop.ensureBuffer, get?_modifyHandle]
      split
      case isTrue =>
        rw [Option.map_map]
        rfl
      case isFalse => rfl }

end Untouched

/-- An effect with an error leaves the loop as it was. -/
theorem Effect.untouched {o : Operation H.Closure} {a : o.Answer} (effect : Effect T l o a l')
    (failed : o.failure? a = some e) : l.Untouched T l' := by
  cases effect with
  | refused => exact .refl l
  | refuseAccept _ _ _ _ asked => exact .ask _ (.accept asked)
  | refuseAdopt _ _ asked => exact .ask _ (.adopt asked)
  | refuseBind _ _ asked => exact .ask _ (.bind asked)
  | markedReadStart => exact .ensureBuffer _ (.refl _)
  | refuseReadStart _ _ _ _ asked => exact .ensureBuffer _ (.ask _ (.readStart asked))
  | refuseConnect _ _ _ asked => exact .ask _ (.connect asked)
  | _ => cases failed

/-- An operation that is refused leaves the loop as it was. -/
theorem untouched_issue {o : Operation H.Closure} (failed : o.failure? (l.issue T o).1 = some e) :
    l.Untouched T (l.issue T o).2 := by
  obtain ⟨l₀, l₁, before, effect, after⟩ := issues_issue T l o
  exact (effect.untouched failed).agrees before after

/-- A call of `listen` that is refused leaves the loop as it was. The reference that it takes after
the transport has listened is never refused, as a handle that is idle does not close. -/
theorem untouched_beginListen {backlog : Option Nat} {c : H.Closure} (b : l.Balanced held due)
    (begun : l.beginListen T h backlog c = (.error e, l')) : l.Untouched T l' := by
  unfold beginListen at begun
  split at begun
  case h_1 =>
    obtain rfl := congrArg Prod.snd begun
    exact .refl l
  case h_2 x found =>
    have found := handle?_eq_ok found
    split at begun
    case isTrue =>
      obtain rfl := congrArg Prod.snd begun
      exact .refl l
    case isFalse idle =>
      have idle : x.state = .idle := by simpa using idle
      split at begun
      case h_1 asked =>
        obtain rfl := congrArg Prod.snd asked
        obtain rfl := congrArg Prod.snd begun
        exact .ask _ (.listen (congrArg Prod.fst asked))
      case h_2 asked =>
        obtain rfl := congrArg Prod.snd asked
        split at begun
        case h_1 refused =>
          have marked := (acquire_eq_error (l := (l.ask _).2) found refused).2
          rw [b.unmarked found (by simp [idle])] at marked
          cases marked
        case h_2 => cases begun

end Loop

namespace Machine

variable {enter : Handlers H} {x y : Machine H} {e : LoopError} {p : Program H}

/-- The error that the next step answers to a call, and the program that goes on with it, if the
call is refused. -/
def refusal? (T : Transport H.Net H.Script) (m : Machine H) : Option (LoopError × Program H) :=
  match m.control with
  | .run (.call (.issue o) next) =>
    (o.failure? (m.loop.issue T o).1).map (·, next (m.loop.issue T o).1)
  | .run (.call (.listen h backlog c) next) =>
    (errorOf ((m.loop.meter h .listen .dispatched).beginListen T h backlog c).1).map fun e =>
      (e, next (.error e))
  | _ => none

/-- A refused call leaves the loop and the suspended work as they were, and its
program goes on at once. -/
theorem Rule.untouched (rule : Rule T enter x y) (b : x.Balanced)
    (refused : x.refusal? T = some (e, p)) :
    x.loop.Untouched T y.loop ∧ y.stack = x.stack ∧ y.control = .run p := by
  cases rule with
  | issue =>
    obtain ⟨e', failed, same⟩ := Option.map_eq_some_iff.1 refused
    cases same
    exact ⟨Loop.untouched_issue failed, rfl, rfl⟩
  | refuseListen begun =>
    simp only [refusal?, begun, errorOf, Option.map_some, Option.some.injEq,
      Prod.mk.injEq] at refused
    obtain ⟨rfl, rfl⟩ := refused
    have untouched := Loop.untouched_beginListen (Loop.Balanced.meter b _ _ _) begun
    exact ⟨untouched.agrees ((Loop.Agrees.refl _).meter _ _ _) ((Loop.Agrees.refl _).meter _ _ _),
      rfl, rfl⟩
  | beginListen begun =>
    simp only [refusal?, begun, errorOf, Option.map_none] at refused
    cases refused
  | _ => cases refused

end Machine

end Reactor
