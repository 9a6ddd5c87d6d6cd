import Reactor.Proofs.Machine.Run

/-!
# Handlers that come to an end

Between two items of a tick a machine is where handlers are at work or where they are not. Whatever
handlers do, a property of the machines where they are not at work need be said of these only, with
all that was told to handlers so far: from each such machine every way leads, through handlers, to
another one. One lemma for each step inside handlers takes such a statement back over the step.
-/

namespace Reactor

/-- What handlers learn: an event, or the outcome of a request. -/
inductive News where
  | told (h : HandleId) (e : Event)
  | answered (h : HandleId) (outcome : RequestOutcome)

variable {H : Host} {T : Transport H.Net H.Script} {enter : Handlers H}

namespace Machine

/-- What handlers learn at a machine. -/
def news? (m : Machine H) : Option News :=
  match m.control with
  | .emit h e => some (.told h e)
  | .enter _ (.completed h outcome) => some (.answered h outcome)
  | _ => none

/-- The news after a machine. -/
def heed (news : List News) (m : Machine H) : List News :=
  match m.news? with
  | some n => news ++ [n]
  | none => news

/-- To heed the news of some machines and then that of the last is to heed all in order. -/
theorem heed_filterMap (past : List (Machine H)) (m : Machine H) :
    heed (past.filterMap news?) m = (past ++ [m]).filterMap news? := by
  unfold heed
  cases learnt : m.news? <;> simp [learnt]

/-- Whether a handler is at work, or about to be entered or left. -/
def inside (m : Machine H) : Bool :=
  match m.control with
  | .advance | .ticked _ => false
  | _ => !m.stack.isEmpty

/-- With nothing suspended no handler is at work. -/
theorem inside_of_nil {m : Machine H} (none : m.stack = []) : m.inside = false := by
  obtain ⟨l, stack, control⟩ := m
  obtain rfl : stack = [] := none
  cases control <;> rfl

/-- A machine at which something holds after the news so far, or inside handlers, where whatever the
next step does leads to such a machine. What is known of machines may be used on the way. -/
inductive Leads (T : Transport H.Net H.Script) (enter : Handlers H) (known : Machine H → Prop)
    (good : List News → Machine H → Prop) : List News → Machine H → Prop where
  | here {news m} (arrived : good news m) : Leads T enter known good news m
  | on {news m} (inside : m.inside = true)
    (next : known m → ∀ y, Rule T enter m y → Leads T enter known good (heed news m) y) :
    Leads T enter known good news m

namespace Leads

variable {known : Machine H → Prop} {good : List News → Machine H → Prop} {news : List News}
  {m : Machine H}

/-- Outside of handlers it has come to such a machine. -/
theorem arrived (leads : Leads T enter known good news m) (outside : m.inside = false) :
    good news m := by
  cases leads with
  | here arrived => exact arrived
  | on inside =>
    rw [outside] at inside
    cases inside

/-! ## Steps inside handlers -/

variable {l : Loop H} {f : Frame H} {rest : List (Frame H)} {h : HandleId} {e : Event}
  {c : H.Closure} {failure : Option ListenerError}

/-- A program that is done leads where its result does. -/
theorem finish (leads : Leads T enter known good news ⟨l, f :: rest, .returned failure⟩) :
    Leads T enter known good news ⟨l, f :: rest, .run (.done failure)⟩ := by
  refine .on rfl fun _ y rule => ?_
  cases rule
  exact leads

/-- An operation is issued, on a machine of which something is known. -/
theorem issue {o : Operation H.Closure} {next : o.Answer → Program H}
    (leads : known ⟨l, f :: rest, .run (.call (.issue o) next)⟩ → ∃ a l', l.issue T o = (a, l') ∧
      Leads T enter known good news ⟨l', f :: rest, .run (next a)⟩) :
    Leads T enter known good news ⟨l, f :: rest, .run (.call (.issue o) next)⟩ := by
  refine .on rfl fun here y rule => ?_
  cases rule
  obtain ⟨a, l', issued, leads⟩ := leads here
  rw [issued]
  exact leads

/-- A handler is entered. -/
theorem begin {o : Occasion}
    (leads : Leads T enter known good (heed news ⟨l, f :: rest, .enter c o⟩) ⟨l, f :: rest,
      .run (enter c o)⟩) :
    Leads T enter known good news ⟨l, f :: rest, .enter c o⟩ := by
  refine .on rfl fun _ y rule => ?_
  cases rule
  exact leads

/-- An event is told of a handle without listeners for it. -/
theorem tellNobody (none : l.listenersOf h e.name = [])
    (leads : Leads T enter known good (news ++ [.told h e]) ⟨l, f :: rest, .returned .none⟩) :
    Leads T enter known good news ⟨l, f :: rest, .emit h e⟩ := by
  refine .on rfl fun _ y rule => ?_
  cases rule
  rw [none]
  refine .on rfl fun _ y rule => ?_
  cases rule
  exact leads

/-- An event is told to the one listener for it, which returns without an error. -/
theorem tellOne (one : l.listenersOf h e.name = [c])
    (leads : Leads T enter known good (news ++ [.told h e]) ⟨l, .emission h e [] :: f :: rest,
      .run (enter c (.event h e))⟩) :
    Leads T enter known good news ⟨l, f :: rest, .emit h e⟩ := by
  refine .on rfl fun _ y rule => ?_
  cases rule
  rw [one]
  refine .on rfl fun _ y rule => ?_
  cases rule with
  | nextListener => exact .begin leads
  | endEmission last => cases last rfl

/-- The end of an emission leads where the work below it does. -/
theorem endEmission (leads : Leads T enter known good news ⟨l, f :: rest, .returned failure⟩) :
    Leads T enter known good news ⟨l, .emission h e [] :: f :: rest, .returned failure⟩ := by
  refine .on rfl fun _ y rule => ?_
  cases rule
  exact leads

/-- The end of a callback leads where the work below it does once the reference is given back. -/
theorem endDelivery {req : RequestId}
    (leads : Leads T enter known good news ⟨l.release h, rest, .returned none⟩) :
    Leads T enter known good news ⟨l, .delivering req h :: rest, .returned failure⟩ := by
  refine .on rfl fun _ y rule => ?_
  cases rule
  exact leads

/-- The end of a loan leads where the work below it does once the buffer is taken back. -/
theorem endLoan {view : List UInt8}
    (leads : Leads T enter known good news ⟨expose l h false, rest, .returned failure⟩) :
    Leads T enter known good news ⟨l, .lending h view :: rest, .returned failure⟩ := by
  refine .on rfl fun _ y rule => ?_
  cases rule
  exact leads

/-- After the close event the way leads through the last callback. -/
theorem beginParting
    (leads : Leads T enter known good news ⟨l, .parting h failure :: rest,
      .run (enter c (.closed h))⟩) :
    Leads T enter known good news ⟨l, .reclaiming h (some c) :: rest, .returned failure⟩ := by
  refine .on rfl fun _ y rule => ?_
  cases rule
  exact .begin leads

/-- Without a last callback the way goes on right after the close event. -/
theorem skipParting (leads : Leads T enter known good news ⟨l, .parting h failure :: rest,
    .returned none⟩) :
    Leads T enter known good news ⟨l, .reclaiming h none :: rest, .returned failure⟩ := by
  refine .on rfl fun _ y rule => ?_
  cases rule
  exact leads

/-- The end of the last callback leads where the work below it does once the listeners are gone. -/
theorem endParting {emitted : Option ListenerError}
    (leads : Leads T enter known good news ⟨l.removeListeners h, rest, .returned emitted⟩) :
    Leads T enter known good news ⟨l, .parting h emitted :: rest, .returned failure⟩ := by
  refine .on rfl fun _ y rule => ?_
  cases rule
  exact leads

/-- A handler that has not failed leaves its tick as it is. -/
theorem resume {t : Tick} (leads : Leads T enter known good news (ofTick rest t l)) :
    Leads T enter known good news ⟨l, .tick t :: rest, .returned none⟩ := by
  refine .on rfl fun _ y rule => ?_
  cases rule
  exact leads

end Leads

/-- What leads on from every machine where it holds leads on all along a run whose
machines are of some kind. -/
theorem Run.leads (known kind : Machine H → Prop) (good : List News → Machine H → Prop)
    {x m : Machine H} {past : List (Machine H)} (run : Run T enter x past m)
    (knows : ∀ before y, Run T enter x before y → known y) (all : ∀ y ∈ past, kind y)
    (start : good [] x) (next : ∀ before y z,
    Run T enter x before y → good (before.filterMap news?) y → kind y → Next T enter y z →
      Leads T enter known good (heed (before.filterMap news?) y) z) :
    Leads T enter known good (past.filterMap news?) m := by
  induction run with
  | refl => exact .here start
  | @snoc before y z first taken ih =>
    rw [← heed_filterMap]
    cases ih fun w hw => all w (List.mem_append_left _ hw) with
    | here arrived => exact next before y z first arrived (all y (by simp)) taken
    | on inside leads =>
      cases taken with
      | step taken => exact leads (knows before y first) z (rule_of_step? taken).2
      | resume p rest =>
        rw [inside_of_nil (atRest_iff.1 rest).2] at inside
        cases inside

end Machine

end Reactor
