import Reactor.Proofs.Machine.Rules

/-!
# Runs of the machine

A run records the machines that were left behind, oldest first. Between two programs of the embedder
the machine is at rest, and the embedder may go on with any program. What holds at the start and is
kept by every rule holds of every machine of a run, and a run can be cut at each of its machines.
-/

namespace Reactor

variable {H : Host}

/-- A loop on which nothing has happened yet. -/
def Loop.fresh (options : Options) (net : H.Net) (shared : H.Shared) : Loop H :=
  { options, net, shared }

namespace Machine

variable (T : Transport H.Net H.Script) (enter : Handlers H)

/-- What comes after a machine: its step, or, when it rests, any program of the embedder. -/
inductive Next (m : Machine H) : Machine H → Prop where
  | step {m'} (taken : m.step? T enter = some m') : Next m m'
  | resume (p : Program H) (rest : m.atRest = true) : Next m (start p m.loop)

/-- A way from one machine to another, with the machines left behind. -/
inductive Run (m : Machine H) : List (Machine H) → Machine H → Prop where
  | refl : Run m [] m
  | snoc {past m₁ m₂} : Run m past m₁ → Next T enter m₁ m₂ → Run m (past ++ [m₁]) m₂

/-- A machine that some embedder can bring about on a new loop, with the machines left behind. -/
def Reached (past : List (Machine H)) (m : Machine H) : Prop :=
  ∃ options net shared p, Run T enter (start p (.fresh options net shared)) past m

variable {T enter}

/-- A machine is at rest when it has returned and nothing is suspended. -/
theorem atRest_iff {m : Machine H} :
    m.atRest = true ↔ (∃ failure, m.control = .returned failure) ∧ m.stack = [] := by
  obtain ⟨l, stack, control⟩ := m
  cases control <;> cases stack <;> simp [atRest]

/-- The executable machine takes one step and goes on. -/
theorem run_succ {m m₁ : Machine H} (taken : m.step? T enter = some m₁) (fuel : Nat) :
    m.run T enter (fuel + 1) = m₁.run T enter fuel := by
  simp [run, taken]

/-- Where it takes no step the executable machine stays. -/
theorem run_of_none {m : Machine H} (none : m.step? T enter = none) (fuel : Nat) :
    m.run T enter fuel = m := by
  cases fuel with
  | zero => rw [run]
  | succ fuel => simp [run, none]

variable (T enter) in
/-- So many steps of the executable machine, and then so many more. -/
theorem run_add (m : Machine H) (fuel more : Nat) :
    m.run T enter (fuel + more) = (m.run T enter fuel).run T enter more := by
  induction fuel generalizing m with
  | zero => rw [Nat.zero_add, run]
  | succ fuel ih =>
    cases taken : m.step? T enter with
    | none => rw [run_of_none taken, run_of_none taken, run_of_none taken]
    | some m₁ => rw [Nat.succ_add, run_succ taken, run_succ taken, ih]

namespace Run

variable {m x y m' : Machine H} {past before after : List (Machine H)}

/-- A run that goes on from the end of another continues it. -/
theorem trans {past later : List (Machine H)} (first : Run T enter m past x)
    (second : Run T enter x later m') :
    Run T enter m (past ++ later) m' := by
  induction second with
  | refl => simpa using first
  | snoc _ next ih => simpa using ih.snoc next

/-- A run can be cut at every machine that it left behind. -/
theorem cut (run : Run T enter m (before ++ x :: after) m') :
    Run T enter m before x ∧ Run T enter x (x :: after) m' := by
  generalize hpast : before ++ x :: after = past at run
  induction run generalizing after with
  | refl => simp at hpast
  | @snoc past m₁ m₂ first next ih =>
    rcases List.eq_nil_or_concat after with rfl | ⟨rest, y, rfl⟩
    · obtain ⟨rfl, hx⟩ := List.append_inj' hpast rfl
      obtain rfl : x = m₁ := by simpa using hx
      exact ⟨first, .snoc .refl next⟩
    · have hpast : (before ++ x :: rest) ++ [y] = past ++ [m₁] := by simpa using hpast
      obtain ⟨hrest, hy⟩ := List.append_inj' hpast rfl
      obtain rfl : y = m₁ := by simpa using hy
      exact ⟨(ih hrest).1, by simpa using (ih hrest).2.snoc next⟩

/-- Of two machines that follow each other in a run, the second is what comes after the first. -/
theorem next (run : Run T enter m (before ++ x :: y :: after) m') : Next T enter x y := by
  have run : Run T enter m ((before ++ [x]) ++ y :: after) m' := by simpa using run
  have hcut : Run T enter m (before ++ [x]) y := run.cut.1
  generalize hpast : before ++ [x] = past at hcut
  cases hcut with
  | refl => simp at hpast
  | snoc _ next =>
    obtain ⟨-, hx⟩ := List.append_inj' hpast rfl
    obtain rfl : x = _ := by simpa using hx
    exact next

/-- The last machine of a run comes after the last one that was left behind. -/
theorem next_last (run : Run T enter m (before ++ [x]) m') : Next T enter x m' := by
  generalize hpast : before ++ [x] = past at run
  cases run with
  | refl => simp at hpast
  | snoc _ next =>
    obtain ⟨-, hx⟩ := List.append_inj' hpast rfl
    obtain rfl : x = _ := by simpa using hx
    exact next

/-- A run up to the first of two machines that follow each other in it, and what follows. -/
theorem pair (run : Run T enter m past m') (split : past ++ [m'] = before ++ x :: y :: after) :
    Run T enter m before x ∧ Next T enter x y := by
  rcases List.eq_nil_or_concat after with rfl | ⟨after, z, rfl⟩
  · have last : past ++ [m'] = (before ++ [x]) ++ [y] := by simpa using split
    obtain ⟨rfl, hy⟩ := List.append_inj' last rfl
    obtain rfl : m' = y := by simpa using hy
    exact ⟨run.cut.1, run.next_last⟩
  · have last : past ++ [m'] = (before ++ x :: y :: after) ++ [z] := by simpa using split
    obtain ⟨rfl, -⟩ := List.append_inj' last rfl
    exact ⟨run.cut.1, run.next⟩

/-- A run that has left nothing behind has not begun. -/
theorem eq_of_nil (run : Run T enter m [] m') : m = m' := by
  generalize hnone : [] = none at run
  cases run with
  | refl => rfl
  | snoc => simp at hnone

/-- A run that has left a machine behind first went on to what comes after that machine. -/
theorem uncons {past : List (Machine H)} (run : Run T enter m (x :: past) m') :
    m = x ∧ ∃ y, Next T enter x y ∧ Run T enter y past m' := by
  generalize hall : x :: past = all at run
  induction run generalizing past with
  | refl => cases hall
  | @snoc before m₁ m₂ first next ih =>
    cases before with
    | nil =>
      obtain ⟨rfl, rfl⟩ := List.cons.inj hall
      obtain rfl := first.eq_of_nil
      exact ⟨rfl, m₂, next, .refl⟩
    | cons z before =>
      obtain ⟨rfl, rfl⟩ := List.cons.inj hall
      obtain ⟨rfl, y, hy, rest⟩ := ih rfl
      exact ⟨rfl, y, hy, rest.snoc next⟩

/-- The first machine of a run is the one that it starts at. -/
theorem head_eq {past rest : List (Machine H)} (run : Run T enter m past m')
    (split : past ++ [m'] = x :: rest) :
    m = x := by
  cases past with
  | nil =>
    obtain ⟨rfl, -⟩ := List.cons.inj split
    exact run.eq_of_nil
  | cons z past =>
    obtain ⟨rfl, -⟩ := List.cons.inj split
    exact run.uncons.1

/-- What is kept from each machine of a run to the next holds at its end if
it holds at its start. -/
theorem keeps {P : Machine H → Prop} {past : List (Machine H)} (run : Run T enter m past m')
    (next : ∀ x y, P x → Next T enter x y → P y) (hm : P m) : P m' := by
  induction run with
  | refl => exact hm
  | snoc _ hnext ih => exact next _ _ ih hnext

variable (T enter) in
/-- The executable machine follows a run, and leaves behind what it comes to with less fuel. -/
theorem exists_of_run (m : Machine H) (fuel : Nat) :
    ∃ past, Run T enter m past (m.run T enter fuel) ∧
      ∀ x ∈ past, ∃ k < fuel, x = m.run T enter k := by
  induction fuel generalizing m with
  | zero => exact ⟨[], .refl, by simp⟩
  | succ fuel ih =>
    cases taken : m.step? T enter with
    | none =>
      rw [run_of_none taken]
      exact ⟨[], .refl, by simp⟩
    | some m₁ =>
      obtain ⟨past, rest, behind⟩ := ih m₁
      rw [run_succ taken]
      refine ⟨[m] ++ past, (Run.refl.snoc (.step taken)).trans rest, fun x hx => ?_⟩
      rcases List.mem_cons.1 hx with rfl | hx
      · exact ⟨0, Nat.zero_lt_succ _, rfl⟩
      · obtain ⟨k, less, rfl⟩ := behind x hx
        exact ⟨k + 1, Nat.succ_lt_succ less, (run_succ taken k).symm⟩

/-- What the executable machine has come to takes one more step. -/
theorem run_succ_of_step {T : Transport H.Net H.Script} {enter : Handlers H} {m y : Machine H}
    {fuel : Nat} (taken : (m.run T enter fuel).step? T enter = some y) :
    m.run T enter (fuel + 1) = y := by
  induction fuel generalizing m with
  | zero => exact run_succ taken 0
  | succ fuel ih =>
    cases first : m.step? T enter with
    | none =>
      rw [run_of_none first, first] at taken
      cases taken
    | some m₁ =>
      rw [run_succ first] at taken ⊢
      exact ih taken

end Run

/-- An invariant of all machines: it holds at every start, each rule keeps it, and so
does each new program. -/
theorem Reached.invariant {P : Machine H → Prop} {past : List (Machine H)} {m : Machine H}
    (reached : Reached T enter past m)
    (fresh : ∀ options net shared p, P (start p (.fresh options net shared)))
    (rule : ∀ x y, P x → Rule T enter x y → P y)
    (resume : ∀ x p, P x → x.stack = [] → P (start p x.loop)) :
    P m := by
  obtain ⟨options, net, shared, p, run⟩ := reached
  refine run.keeps (fun x y hx next => ?_) (fresh options net shared p)
  cases next with
  | step taken => exact rule _ _ hx (rule_of_step? taken).2
  | resume p rest => exact resume _ _ hx (atRest_iff.1 rest).2

/-- A property of a machine and of its past holds of every reached one if it holds at every start
and passes from each machine to what comes after it. -/
theorem Reached.history {P : List (Machine H) → Machine H → Prop} {past : List (Machine H)}
    {m : Machine H} (reached : Reached T enter past m)
    (fresh : ∀ options net shared p, P [] (start p (.fresh options net shared)))
    (next : ∀ past x y, Reached T enter past x → P past x → Next T enter x y →
      P (past ++ [x]) y) : P past m := by
  obtain ⟨options, net, shared, p, run⟩ := reached
  induction run with
  | refl => exact fresh options net shared p
  | snoc first taken ih => exact next _ _ _ ⟨options, net, shared, p, first⟩ ih taken

/-- The machines that a run left behind were reached. -/
theorem Reached.cut {before after : List (Machine H)} {x m : Machine H}
    (reached : Reached T enter (before ++ x :: after) m) :
    Reached T enter before x ∧ Run T enter x (x :: after) m := by
  obtain ⟨options, net, shared, p, run⟩ := reached
  exact ⟨⟨options, net, shared, p, run.cut.1⟩, run.cut.2⟩

end Machine

end Reactor
