import Reactor.Executor
import Reactor.Proofs.Drivers.Rounds

/-!
# Polls of a loop from a task

A task that polls a loop again whenever it was woken goes through the ticks that follow
one another: a tick that is to be followed by another wakes it, and one that found
nothing to do leaves it asleep.
-/

namespace Reactor

variable {S N C : Type} {enter : Handlers (Memory.host S N C)}

/-- What a task is left with by so many polls. -/
def Verdict.ofPoll (polls : Nat) : Verdict → Except LoopError Polling
  | .failed e => .error e
  | .finished => .ok ⟨true, polls⟩
  | .idle => .ok ⟨false, polls⟩

/-- The loop when a task has forgotten that it was woken and is to be woken by the loop. -/
def Loop.polled {H : Host} (l : Loop H) : Loop H := { l with woken := false, waker := .task }

/-- The loop when its task was woken. -/
def Loop.roused {H : Host} (l : Loop H) : Loop H := { l with woken := true }

namespace Program

variable {H : Host} (next : Except LoopError Polling → Program H) (left polls : Nat)

/-- What a task does that was woken during a poll or was not. -/
def afterPending (woken : Bool) : Program H :=
  if woken then pollWhileWoken next left (polls + 1) else next (.ok ⟨false, polls + 1⟩)

/-- What a task does with the answer of a poll. -/
def afterPoll : Except LoopError Bool → Program H
  | .error e => next (.error e)
  | .ok true => next (.ok ⟨true, polls + 1⟩)
  | .ok false => .call (.ask .woken) (afterPending next left polls)

/-- Polling as long as the task is woken forgets the wake-up, polls, and looks at the answer. -/
theorem pollWhileWoken_succ :
    pollWhileWoken next (left + 1) polls =
      .call (.issue .forgetWake) fun _ => .call (.poll .task) (afterPoll next left polls) := by
  rw [pollWhileWoken]
  congr 1
  funext _
  congr 1
  funext a
  match a with
  | .error _ | .ok true | .ok false => rfl

end Program

namespace Machine

variable {l k : Loop (Memory.host S N C)} {trace : List (Machine (Memory.host S N C))} {n : Nat}
  {v : Verdict}

/-- After a tick a poll returns; it wakes the task if another tick is to follow. -/
theorem step?_polling {H : Host} (T : Transport H.Net H.Script) (enter : Handlers H) {l : Loop H}
    (sound : l.breach = none) (next : Except LoopError Bool → Program H) (base : List (Frame H))
    (result : Except LoopError Bool) :
    step? T enter ⟨l, .polling .task next :: base, .ticked result⟩ =
      some (match l.verdict? result with
        | some (.failed e) => ofProgram base (next (.error e)) (l.settle result)
        | some .finished => ofProgram base (next (.ok true)) (l.settle result)
        | some .idle => ofProgram base (next (.ok false)) (l.settle result)
        | none => ofProgram base (next (.ok false)) (l.settle result).roused) := by
  simp only [step?, sound, Option.isSome_none, Bool.false_eq_true, if_false]
  cases result with
  | error e => rfl
  | ok worked =>
    have alive : ({ l with stopping := false } : Loop H).alive = l.alive := rfl
    simp only [afterTick?, Loop.verdict?, Loop.settle, alive]
    cases l.stopping <;> cases l.alive <;> cases worked <;> simp [Loop.wakeBy, Loop.roused]

/-- A poll begins with a tick. -/
theorem steps_pollWhileWoken (sound : k.breach = none)
    (next : Except LoopError Polling → Program (Memory.host S N C))
    (base : List (Frame (Memory.host S N C))) (left polls : Nat) :
    ∃ past, Steps Memory.transport enter
      (ofProgram base (.pollWhileWoken next (left + 1) polls) k) past
      (beginTick (.polling .task (.afterPoll next left polls) :: base) k.polled .task) ∧
        past.filterMap (above? base) = [] := by
  have forgets : step? Memory.transport enter
      (ofProgram base (.pollWhileWoken next (left + 1) polls) k) =
      some (ofProgram base (.call (.poll .task) (.afterPoll next left polls))
        { k with woken := false }) := by
    simp [Program.pollWhileWoken_succ, step?, ofProgram, sound, perform, Loop.issue]
  have begins : step? Memory.transport enter
      (ofProgram base (.call (.poll .task) (.afterPoll next left polls))
      { k with woken := false }) =
      some (beginTick (.polling .task (.afterPoll next left polls) :: base) k.polled .task) := by
    simp [step?, ofProgram, sound, perform, Loop.polled]
  exact ⟨_, (Steps.single forgets).snoc begins, by simp [above?_ofProgram]⟩

/-- A poll goes through a tick. -/
theorem Round.poll {later : List (Machine (Memory.host S N C))} {result : Except LoopError Bool}
    {l' : Loop (Memory.host S N C)} (round : Round enter k.polled .task later result l')
    (next : Except LoopError Polling → Program (Memory.host S N C))
    (base : List (Frame (Memory.host S N C))) (left polls : Nat) :
    ∃ past, Steps Memory.transport enter
      (ofProgram base (.pollWhileWoken next (left + 1) polls) k) past ⟨l',
        .polling .task (.afterPoll next left polls) :: base, .ticked result⟩ ∧
        past.filterMap (above? base) ++ [hush ⟨l', [], .ticked result⟩] = later := by
  obtain ⟨calls, begun, unseen⟩ := steps_pollWhileWoken (k := k) round.sound.1 next base left polls
  obtain ⟨past, steps, seen⟩ := round.on (.polling .task (.afterPoll next left polls)) base
  exact ⟨calls ++ past, begun.trans steps,
    by rw [List.filterMap_append, unseen, List.nil_append, seen]⟩

/-- A task comes to the poll of the tick that follows. -/
theorem Rounds.poll (handlers : ∀ c o, (enter c o).Deaf false) (rounds : Rounds enter l n trace k) :
    ∃ k', k.hush = k'.hush ∧ ∀ left base next, ∃ past,
      Steps Memory.transport enter (ofProgram base (.pollWhileWoken next (left + n) 0) l) past
        (ofProgram base (.pollWhileWoken next left n) k') ∧
          past.filterMap (above? base) = trace := by
  induction rounds with
  | outset same => exact ⟨l, same, fun left base next => ⟨[], .refl, rfl⟩⟩
  | @more n _ _ _ _ _ _ result _ round goes same ih =>
    obtain ⟨k', same', way⟩ := ih
    obtain ⟨l', round', settled⟩ :=
      round.congr handlers (same'.trans rfl : _ = k'.polled.hush) .task
    refine ⟨(l'.settle result).roused, same.trans (Loop.settle_of_hush settled result),
      fun left base next => ?_⟩
    obtain ⟨past, steps, seen⟩ := way (left + 1) base next
    rw [Nat.add_right_comm] at steps
    obtain ⟨later, steps', seen'⟩ := round'.poll next base left n
    have returned :=
      step?_polling Memory.transport enter round'.sound.2 (.afterPoll next left n) base result
    rw [← Loop.verdict?_of_hush settled, goes] at returned
    have again : step? Memory.transport enter
        (ofProgram base (.afterPoll next left n (.ok false)) (l'.settle result).roused) =
        some (ofProgram base (.pollWhileWoken next left (n + 1)) (l'.settle result).roused) := by
      simp [step?, ofProgram, round'.sound_settle, perform, Program.afterPoll, Program.afterPending,
        Loop.answer, Loop.roused]
    refine ⟨past ++ (later ++ [_] ++ [_]), steps.trans ((steps'.snoc returned).snoc again), ?_⟩
    simp [seen, ← seen', above?_cons, above?_ofProgram]

/-- A task is left with what the last tick means, asleep if nothing was there to do. -/
theorem Ends.poll (handlers : ∀ c o, (enter c o).Deaf false) (ends : Ends enter l n trace v k) :
    ∃ l', k.hush = l'.hush ∧ (v = .idle → l'.woken = false) ∧ ∀ left, n ≤ left →
      Returns enter (Program.pollWhileWoken · left 0) l trace (v.ofPoll n) l' := by
  cases ends with
  | @last n _ _ _ l₁ _ result _ before round verdict =>
    obtain ⟨k', same, way⟩ := before.poll handlers
    obtain ⟨l', round', settled⟩ := round.congr handlers (same.trans rfl : _ = k'.polled.hush) .task
    have asleep (idle : v = .idle) : (l'.settle result).woken = false := by
      obtain ⟨rfl, -, -⟩ := Loop.verdict?_eq_idle.1 (idle ▸ verdict)
      exact round'.quiet
    refine ⟨l'.settle result, Loop.settle_of_hush settled result, asleep,
      fun left enough base next => ?_⟩
    obtain ⟨rest, rfl⟩ := Nat.exists_eq_add_of_le' enough
    obtain ⟨past, steps, seen⟩ := way (rest + 1) base next
    rw [Nat.add_right_comm] at steps
    obtain ⟨later, steps', seen'⟩ := round'.poll next base rest n
    have returned :=
      step?_polling Memory.transport enter round'.sound.2 (.afterPoll next rest n) base result
    rw [← Loop.verdict?_of_hush settled, verdict] at returned
    cases v with
    | failed e | finished =>
      exact ⟨past ++ (later ++ [_]), steps.trans (steps'.snoc returned),
        by simp [seen, ← seen', above?_cons]⟩
    | idle =>
      have rests : step? Memory.transport enter
          (ofProgram base (.afterPoll next rest n (.ok false)) (l'.settle result)) =
          some (ofProgram base (next (.ok ⟨false, n + 1⟩)) (l'.settle result)) := by
        simp [step?, ofProgram, round'.sound_settle, perform, Program.afterPoll,
          Program.afterPending, Loop.answer, asleep rfl]
      refine ⟨past ++ (later ++ [_] ++ [_]), steps.trans ((steps'.snoc returned).snoc rests), ?_⟩
      simp [seen, ← seen', above?_cons, above?_ofProgram]

/-- What has begun under rounds begins under polls, given enough of them. -/
theorem Begun.poll (handlers : ∀ c o, (enter c o).Deaf false) (begun : Begun enter l trace) :
    ∃ n, ∀ left, n ≤ left → Begins enter (Program.pollWhileWoken · left 0) l trace := by
  cases begun with
  | outset => exact ⟨0, fun left _ base next => ⟨[], _, .refl, by simp [above?_ofProgram]⟩⟩
  | @inside n _ inner k w m before sound steps =>
    obtain ⟨k', same, way⟩ := before.poll handlers
    obtain ⟨inner', m', steps', gone, here⟩ :=
      steps_beginTick handlers (same.trans rfl : _ = k'.polled.hush) .task steps
    refine ⟨n + 1, fun left enough base next => ?_⟩
    obtain ⟨rest, rfl⟩ := Nat.exists_eq_add_of_le' enough
    obtain ⟨past, steps, seen⟩ := way (rest + 1) base next
    rw [Nat.add_right_comm] at steps
    have sound' : k'.breach = none := by rw [← Loop.breach_of_hush same, sound]
    obtain ⟨calls, called, unseen⟩ := steps_pollWhileWoken sound' next base rest n
    refine ⟨past ++ (calls ++ inner'.map (on (.polling .task (.afterPoll next rest n) :: base))),
      m'.on (.polling .task (.afterPoll next rest n) :: base),
      steps.trans (called.trans (steps'.on _)), ?_⟩
    rw [List.append_assoc, List.append_assoc, List.filterMap_append, seen, List.filterMap_append,
      unseen, List.nil_append, filterMap_above?_concat, filterMap_above?_on, gone, above?_on, here,
      Option.toList_some]

/-- Where a task stands that polls a loop at most so many times, when that is all there is and
nothing is done after it. -/
inductive Polls (enter : Handlers (Memory.host S N C)) (l : Loop (Memory.host S N C))
    (ending : Except LoopError Polling → Option ListenerError) (total : Nat) :
    List (Machine (Memory.host S N C)) → Machine (Memory.host S N C) → Prop where
  | ready {n left : Nat} {trace : List (Machine (Memory.host S N C))} {k : Loop (Memory.host S N C)}
    (count : n + left = total) (rounds : Rounds enter l n trace k) :
    Polls enter l ending total trace
      (ofProgram [] (.pollWhileWoken (fun a => .done (ending a)) left n) k)
  | calls {n left : Nat} {trace : List (Machine (Memory.host S N C))} {k : Loop (Memory.host S N C)}
    (count : n + left + 1 = total) (rounds : Rounds enter l n trace k) (asleep : k.woken = false) :
    Polls enter l ending total trace
      (ofProgram [] (.call (.poll .task) (.afterPoll (fun a => .done (ending a)) left n)) k)
  | inside {n left : Nat} {trace past : List (Machine (Memory.host S N C))}
    {k : Loop (Memory.host S N C)} {m : Machine (Memory.host S N C)} (count : n + left + 1 = total)
    (before : Rounds enter l n trace k) (sound : k.breach = none) (asleep : k.woken = false)
    (steps : Steps Memory.transport enter (beginTick [] k .task) past m) :
    Polls enter l ending total (trace ++ past.map hush)
      (m.on [.polling .task (.afterPoll (fun a => .done (ending a)) left n)])
  | asks {n left : Nat} {trace : List (Machine (Memory.host S N C))} {k : Loop (Memory.host S N C)}
    (count : n + left + 1 = total)
    (heard : Rounds enter l (n + 1) trace k ∧ k.woken = true ∨ Ends enter l (n + 1) trace .idle k ∧
      k.woken = false) :
    Polls enter l ending total trace
      (ofProgram [] (.call (.ask .woken) (.afterPending (fun a => .done (ending a)) left n)) k)
  | returned {n : Nat} {trace : List (Machine (Memory.host S N C))} {v : Verdict}
    {k : Loop (Memory.host S N C)} (ends : Ends enter l n trace v k)
    (asleep : v = .idle → k.woken = false) :
    Polls enter l ending total trace (ofProgram [] (.done (ending (v.ofPoll n))) k)
  | gone {trace : List (Machine (Memory.host S N C))} {k : Loop (Memory.host S N C)}
    {failure : Option ListenerError} (begun : Begun enter l trace) :
    Polls enter l ending total trace ⟨k, [], .returned failure⟩

variable {ending : Except LoopError Polling → Option ListenerError} {total : Nat}
  {x y : Machine (Memory.host S N C)}

/-- Polling goes on as polling for one more step. -/
theorem Polls.step (polls : Polls enter l ending total trace x)
    (taken : x.step? Memory.transport enter = some y) :
    Polls enter l ending total (trace ++ (above? [] x).toList) y := by
  cases polls with
  | @ready n left trace k count rounds =>
    rw [above?_ofProgram, Option.toList_none, List.append_nil]
    cases left with
    | zero =>
      obtain ⟨-, rule⟩ := rule_of_step? taken
      cases rule
      exact .gone rounds.begun
    | succ left =>
      rw [Program.pollWhileWoken_succ] at taken
      obtain rfl := eq_perform_of_step? taken
      exact .calls count (rounds.congr rfl) rfl
  | @calls n left trace k count rounds asleep =>
    obtain ⟨sound, -⟩ := rule_of_step? taken
    obtain rfl := eq_perform_of_step? taken
    rw [above?_ofProgram, Option.toList_none, List.append_nil]
    have rounds : Rounds enter l n trace { k with waker := .task } := rounds.congr rfl
    have begins : Polls enter l ending total _ (perform Memory.transport k [] (.poll .task) _) :=
      .inside count rounds sound asleep .refl
    simpa using begins
  | @inside n left trace past k m count before sound asleep steps =>
    rw [above?_on]
    obtain ⟨m', taken', rfl⟩ | ⟨l₁, result, rfl⟩ := step?_of_on rfl taken
    · simpa using Polls.inside count before sound asleep (steps.snoc taken')
    · have round :
          Round enter k .task (past.map hush ++ [hush ⟨l₁, [], .ticked result⟩]) result l₁ :=
        ⟨past, steps, rfl⟩
      have gone :=
        step?_polling Memory.transport enter round.sound.2
          (.afterPoll (fun a => .done (ending a)) left n) [] result
      obtain rfl := Option.some.inj (taken.symm.trans gone)
      simp only [Option.toList_some, List.append_assoc]
      cases verdict : l₁.verdict? result with
      | none => exact .asks count (.inl ⟨.more before round verdict rfl, rfl⟩)
      | some v =>
        have ends := Ends.last before round verdict
        cases v with
        | failed e => exact .returned ends (by simp)
        | finished => exact .returned ends (by simp)
        | idle =>
          refine .asks count (.inr ⟨ends, ?_⟩)
          obtain ⟨rfl, -, -⟩ := Loop.verdict?_eq_idle.1 verdict
          exact round.quiet.trans asleep
  | @asks n left trace k count heard =>
    obtain rfl := eq_perform_of_step? taken
    rw [above?_ofProgram, Option.toList_none, List.append_nil]
    obtain ⟨rounds, woken⟩ | ⟨ends, asleep⟩ := heard
    · have again : Polls enter l ending total trace
          (ofProgram [] (.pollWhileWoken (fun a => .done (ending a)) left (n + 1)) k) :=
        .ready (by omega) rounds
      simpa [perform, Loop.answer, Program.afterPending, woken] using again
    · have ended : Polls enter l ending total trace
          (ofProgram [] (.done (ending (Verdict.idle.ofPoll (n + 1)))) k) :=
        .returned ends fun _ => asleep
      simpa [perform, Loop.answer, Program.afterPending, asleep, Verdict.ofPoll] using ended
  | returned ends =>
    obtain ⟨-, rule⟩ := rule_of_step? taken
    cases rule
    simpa [above?_ofProgram] using Polls.gone ends.begun
  | gone => simp [step?, return?] at taken

/-- Every way of such a task. -/
theorem Steps.polls {past : List (Machine (Memory.host S N C))}
    (steps : Steps Memory.transport enter
    (ofProgram [] (.pollWhileWoken (fun a => .done (ending a)) total 0) l) past x) :
    Polls enter l ending total (past.filterMap (above? [])) x := by
  induction steps with
  | refl => exact .ready (Nat.zero_add total) (.outset rfl)
  | snoc _ taken ih =>
    rw [filterMap_above?_concat]
    exact ih.step taken

/-- What polls has only gone through machines that the rounds have begun with. -/
theorem Polls.begun (polls : Polls enter l ending total trace x) :
    Begun enter l (trace ++ (above? [] x).toList) := by
  cases polls with
  | ready _ rounds | calls _ rounds => simpa [above?_ofProgram] using rounds.begun
  | inside _ before sound _ steps =>
    rw [above?_on]
    simpa using Begun.inside before sound steps
  | asks _ heard =>
    obtain ⟨rounds, -⟩ | ⟨ends, -⟩ := heard
    · simpa [above?_ofProgram] using rounds.begun
    · simpa [above?_ofProgram] using ends.begun
  | returned ends => simpa [above?_ofProgram] using ends.begun
  | gone begun => simpa [above?_base] using begun

/-- A task that has stopped to poll has come to the end of ticks that follow one another. -/
theorem Returns.ends_of_poll {a : Except LoopError Bool}
    (returns : ∀ left, n ≤ left →
      Returns enter (Program.pollWhileWoken · left 0) l trace (a.map (⟨·, n⟩)) k) :
    ∃ polls v, Ends enter l polls trace v k ∧ (v = .idle → k.woken = false) ∧
      a.map (⟨·, n⟩) = v.ofPoll polls := by
  obtain ⟨ending, tells⟩ := exists_ending (a.map (Polling.mk · n))
  obtain ⟨past, steps, seen⟩ := returns (n + 1) (Nat.le_succ n) [] fun b => .done (ending b)
  have stands := steps.polls
  rw [seen, (tells _).2 rfl] at stands
  generalize here : ofProgram [] (.done none) k = y at stands
  cases stands with
  | @ready polls left _ _ count =>
    -- a task that may poll no more has polled once more than it says
    cases left with
    | zero =>
      obtain ⟨-, told⟩ : k = _ ∧ none = ending (.ok ⟨false, polls⟩) := by
        simpa [ofProgram, Program.pollWhileWoken] using here
      cases a with
      | error => cases (tells _).1 told.symm
      | ok ready =>
        have same := (tells _).1 told.symm
        simp only [Except.map, Except.ok.injEq, Polling.mk.injEq] at same
        omega
    | succ => simp [ofProgram, Program.pollWhileWoken] at here
  | calls | asks => simp [ofProgram] at here
  | inside => simp [on, ofProgram] at here
  | @returned polls _ v k' ends asleep =>
    obtain ⟨rfl, told⟩ : k = k' ∧ none = ending (v.ofPoll polls) := by simpa [ofProgram] using here
    exact ⟨polls, v, ends, asleep, ((tells _).1 told.symm).symm⟩
  | gone => cases here

/-- What begins under polls has begun under rounds. -/
theorem Begins.begun_of_poll {left : Nat}
    (begins : Begins enter (Program.pollWhileWoken · left 0) l trace) :
    Begun enter l trace := by
  obtain ⟨past, m, steps, rfl⟩ := begins [] fun _ => .done none
  rw [filterMap_above?_concat]
  exact steps.polls.begun

end Machine

end Reactor
