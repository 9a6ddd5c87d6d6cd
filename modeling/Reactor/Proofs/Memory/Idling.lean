import Reactor.Proofs.Memory.Drained

/-!
# A tick that has done nothing leaves nothing to do

So a run that returns while its loop is alive has read all that there was to read, and a task that
polls the loop has been woken or has nothing to read. An empty chunk is the exception: what stands
behind it stays where it is.
-/

namespace Reactor

variable {S N C : Type} {enter : Handlers (Memory.host S N C)}

namespace Machine

/-- What follows, at a machine, from nothing having been done. -/
structure LeavesNothing (enter : Handlers (Memory.host S N C)) (m : Machine (Memory.host S N C)) :
    Prop where
  /-- When a tick returns that nothing was done, nothing is left to do. -/
  drained : m.control = .ticked (.ok false) → m.loop.Drained
  /-- A second tick with no call in between tells nothing and returns the same. In between no more
  changes than what drivers keep for themselves: whether to stop, and whom to wake. -/
  again : m.control = .ticked (.ok false) → ∀ l base w, l.unmarked = m.loop.unmarked →
    ∃ l', l'.Drained ∧ Silent enter (beginTick base l w) ⟨l', base, .ticked (.ok false)⟩
  /-- A run that returns while the loop is alive, and was not to stop, leaves nothing to do. -/
  run : ∀ next base worked y, m.stack = .running .default next :: base →
    m.control = .ticked (.ok worked) → m.loop.stopping = false → m.loop.alive = true →
    m.step? Memory.transport enter = some y → y.stack = base →
    y.control = .run (next (.ok true)) ∧ y.loop.Drained
  /-- An iteration for a task, after which the loop is alive and not to stop, is not the last one:
  it has woken the task, or leaves nothing to do. -/
  poll : ∀ w next base worked y,
    m.stack = .polling w next :: base → m.control = .ticked (.ok worked) →
    m.loop.stopping = false → m.loop.alive = true → m.step? Memory.transport enter = some y →
    y.control = .run (next (.ok false)) ∧ (y.loop = m.loop.wakeBy w ∨ y.loop.Drained)

end Machine

open Machine

/-- When no work was done, nothing is left to do: whatever an embedder, its handlers and a script
do, as long as no script pushes an empty chunk. -/
theorem no_work_leaves_nothing {options : Options} {shared : S} {p : Program (Memory.host S N C)}
    {past : List (Machine (Memory.host S N C))} {m : Machine (Memory.host S N C)}
    (run : Run Memory.transport enter (start p (.fresh options Memory.initial shared)) past m)
    (solid : ∀ i ∈ past, ∀ h, i.script? ≠ some (.pushData h [])) : LeavesNothing enter m := by
  have accounts := run.accounts solid
  have reached : Reached Memory.transport enter past m := ⟨options, Memory.initial, shared, p, run⟩
  have sound := (Balanced.of_reached reached).sound
  constructor
  case drained => exact accounts.drained
  case again =>
    intro idle l base w same
    exact silent_tick ((accounts.drained idle).unmarked same)
      ((congrArg Loop.breach same :).trans sound) base w
  case run =>
    intro next base worked y stack control unstopped alive taken ends
    obtain ⟨l, _, _⟩ := m
    obtain rfl : _ = _ := stack
    obtain rfl : _ = _ := control
    cases (rule_of_step? taken).2 with
    | endRun stop =>
      have lives : Loop.alive { l with stopping := false } = true := alive
      have unstopped : l.stopping = false := unstopped
      have idle : worked = false := by simpa [unstopped, lives] using stop
      subst idle
      exact ⟨by rw [lives], (accounts.drained rfl).unmarked rfl⟩
    | runAgain =>
      have lengths := congrArg List.length ends
      simp only [beginTick, ofTick, List.length_cons] at lengths
      omega
  case poll =>
    intro w next base worked y stack control unstopped alive taken
    obtain ⟨l, _, _⟩ := m
    obtain rfl : _ = _ := stack
    obtain rfl : _ = _ := control
    cases (rule_of_step? taken).2 with
    | endPoll stop =>
      have alive : Loop.alive { l with stopping := false } = true := alive
      have unstopped : l.stopping = false := unstopped
      simp [unstopped, alive] at stop
    | pausePoll =>
      refine ⟨rfl, ?_⟩
      cases worked with
      | true =>
        have same : ({ l with stopping := false } : Loop (Memory.host S N C)) = l := by
          rw [show false = l.stopping from unstopped.symm]
        exact .inl (congrArg (Loop.wakeBy · w) same)
      | false => exact .inr ((accounts.drained rfl).unmarked rfl)

/-! ## A client that reads all there is, and one that is misled by an empty chunk -/

namespace Client

open Memory (Script)

/-- A client that reads what scripts have pushed, in a run. -/
def draining (scripts : List Script) : Program (Echo.host Memory Script) :=
  .call (.issue (.newHandle .tcp)) fun (h : HandleId) =>
  .call (.issue (.connect h (.v4 ⟨127, 0, 0, 1⟩ 80))) fun _ =>
  .call (.tick .idle) fun _ =>
  .call (.issue (.readStart h)) fun _ =>
  scripts.foldr (fun s next => .call (.script s) fun _ => next) <|
  .call (.run .default) fun _ =>
  .call (.tick .idle) fun _ => .skip

/-- The client so many steps after its start, when the scripts are these. -/
def drained (scripts : List Script) (steps : Nat) : Machine (Echo.host Memory Script) :=
  (Machine.start (draining scripts) (.fresh .standard Memory.initial ())).run Memory.transport
    (Echo.handlers _ _) steps

end Client

/-- The client that is pushed one byte has read it when its run returns; nothing is left, and
nothing comes of its second tick. -/
theorem no_work_leaves_nothing_for_client :
    ∃ past, Run Memory.transport (Echo.handlers _ _)
      (Machine.start (Client.draining [.pushData 0 [120]])
        (.fresh .standard Memory.initial ())) past (Client.drained [.pushData 0 [120]] 34) ∧
      (Client.drained [.pushData 0 [120]] 20).control = .emit 0 (.data [120]) ∧
      (Client.drained [.pushData 0 [120]] 34).loop.Drained ∧
      ∃ l', l'.Drained ∧ Silent (Echo.handlers _ _) (Client.drained [.pushData 0 [120]] 36)
        ⟨l', [.ticking fun _ => .skip], .ticked (.ok false)⟩ := by
  obtain ⟨past, run, behind⟩ := Run.exists_of_run Memory.transport (Echo.handlers _ _)
    (Machine.start (Client.draining [.pushData 0 [120]]) (.fresh .standard Memory.initial ())) 34
  have scripts : (List.range 34).all (fun k =>
      decide ((Client.drained [.pushData 0 [120]] k).script? = none ∨
      (Client.drained [.pushData 0 [120]] k).script? = some (.pushData 0 [120]))) = true := by rfl
  have leaves :=
    no_work_leaves_nothing (m := Client.drained [.pushData 0 [120]] 34) run fun i hi h push => by
      obtain ⟨k, less, rfl⟩ := behind i hi
      have one := of_decide_eq_true (List.all_eq_true.1 scripts k (List.mem_range.2 less))
      rw [Client.drained, push] at one
      simp at one
  have idle : (Client.drained [.pushData 0 [120]] 34).control = .ticked (.ok false) := by rfl
  have again :=
    leaves.again idle (Client.drained [.pushData 0 [120]] 35).loop [.ticking fun _ => .skip]
      .idle (by rfl)
  exact ⟨past, run, by rfl, leaves.drained idle, again⟩

/-- An empty chunk hides what stands behind it: the run of the client returns while the loop is
alive, though nobody stopped it, with a byte left to read; a second tick tells the byte. -/
theorem empty_chunk_hides_data :
    (Client.drained [.pushData 0 [], .pushData 0 [120]] 23).control = .ticked (.ok false) ∧
      (Client.drained [.pushData 0 [], .pushData 0 [120]] 23).loop.stopping = false ∧
      (Client.drained [.pushData 0 [], .pushData 0 [120]] 23).loop.alive = true ∧
      (Client.drained [.pushData 0 [], .pushData 0 [120]] 24).stack = [] ∧
      ((Client.drained [.pushData 0 [], .pushData 0 [120]] 24).loop.answer Memory.transport
        (.isReading 0) : Bool) = true ∧
      ((Client.drained [.pushData 0 [], .pushData 0 [120]] 24).loop.net.endpoint 0).incoming =
        [.data [120]] ∧
      (Client.drained [.pushData 0 [], .pushData 0 [120]] 28).control = .emit 0 (.data [120]) ∧
      (Client.drained [.pushData 0 [], .pushData 0 [120]] 36).control = .ticked (.ok true) := by
  exact ⟨by rfl, by rfl, by rfl, by rfl, by rfl, by rfl, by rfl, by rfl⟩

end Reactor
