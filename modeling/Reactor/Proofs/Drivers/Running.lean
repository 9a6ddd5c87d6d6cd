import Reactor.Proofs.Drivers.Rounds

/-!
# Runs of a loop tick after tick

A run of the loop goes through the ticks that follow one another, and returns
what the last of them means.
-/

namespace Reactor

variable {S N C : Type} {enter : Handlers (Memory.host S N C)}

/-- What a run returns that leaves a loop alive or not. -/
def Verdict.ofRun (alive : Bool) : Verdict → Except LoopError Bool
  | .failed e => .error e
  | .finished | .idle => .ok alive

namespace Machine

variable {l k : Loop (Memory.host S N C)} {trace : List (Machine (Memory.host S N C))} {n : Nat}
  {v : Verdict}

/-- After a tick a run begins the next one, or returns. -/
theorem step?_running {H : Host} (T : Transport H.Net H.Script) (enter : Handlers H) {l : Loop H}
    (sound : l.breach = none) (next : Except LoopError Bool → Program H) (base : List (Frame H))
    (result : Except LoopError Bool) :
    step? T enter ⟨l, .running .default next :: base, .ticked result⟩ =
      some (match l.verdict? result with
        | some v => ofProgram base (next (v.ofRun (l.settle result).alive)) (l.settle result)
        | none => beginTick (.running .default next :: base) (l.settle result) .idle) := by
  simp only [step?, sound, Option.isSome_none, Bool.false_eq_true, if_false]
  cases result with
  | error e => rfl
  | ok worked =>
    have alive : ({ l with stopping := false } : Loop H).alive = l.alive := rfl
    simp only [afterTick?, Loop.verdict?, Loop.settle, alive]
    cases l.stopping <;> cases l.alive <;> cases worked <;> rfl

/-- A run comes to the tick that follows. -/
theorem Rounds.run (handlers : ∀ c o, (enter c o).Deaf false) (rounds : Rounds enter l n trace k)
    (sound : l.breach = none) :
    ∃ k', k.hush = k'.hush ∧ ∀ base next, ∃ past,
      Steps Memory.transport enter (ofProgram base (.call (.run .default) next) l) past
        (beginTick (.running .default next :: base) k' .idle) ∧
          past.filterMap (above? base) = trace := by
  induction rounds with
  | outset same =>
    refine ⟨l, same, fun base next => ⟨[_], .single ?_, ?_⟩⟩
    · simp [step?, ofProgram, sound, perform]
    · simp [above?_ofProgram]
  | @more _ _ _ _ _ _ _ result _ round goes same ih =>
    obtain ⟨k', same', way⟩ := ih
    obtain ⟨l', round', left⟩ := round.congr handlers same' .idle
    refine ⟨l'.settle result, same.trans (Loop.settle_of_hush left result), fun base next => ?_⟩
    obtain ⟨past, steps, seen⟩ := way base next
    obtain ⟨later, steps', seen'⟩ := round'.on (.running .default next) base
    have taken := step?_running Memory.transport enter round'.sound.2 next base result
    rw [← Loop.verdict?_of_hush left, goes] at taken
    refine ⟨past ++ (later ++ [_]), steps.trans (steps'.snoc taken), ?_⟩
    rw [List.filterMap_append, seen, filterMap_above?_concat, above?_cons,
      Option.toList_some, seen']

/-- A run returns what the last tick means. -/
theorem Ends.run (handlers : ∀ c o, (enter c o).Deaf false) (ends : Ends enter l n trace v k) :
    ∃ l', k.hush = l'.hush ∧
      Returns enter (fun next => .call (.run .default) next) l trace (v.ofRun k.alive) l' := by
  cases ends with
  | @last _ _ _ _ l₁ _ result _ before round verdict =>
    obtain ⟨k', same, way⟩ := before.run handlers (before.sound round.sound.1)
    obtain ⟨l', round', left⟩ := round.congr handlers same .idle
    have settled := Loop.settle_of_hush left result
    refine ⟨l'.settle result, settled, fun base next => ?_⟩
    obtain ⟨past, steps, seen⟩ := way base next
    obtain ⟨later, steps', seen'⟩ := round'.on (.running .default next) base
    have taken := step?_running Memory.transport enter round'.sound.2 next base result
    rw [← Loop.verdict?_of_hush left, verdict, ← Loop.alive_of_hush settled] at taken
    refine ⟨past ++ (later ++ [_]), steps.trans (steps'.snoc taken), ?_⟩
    rw [List.filterMap_append, seen, filterMap_above?_concat, above?_cons,
      Option.toList_some, seen']

/-- What has begun under rounds begins under a run. -/
theorem Begun.run (handlers : ∀ c o, (enter c o).Deaf false) (begun : Begun enter l trace) :
    Begins enter (fun next => .call (.run .default) next) l trace := by
  cases begun with
  | outset => exact fun base next => ⟨[], _, .refl, by simp [above?_ofProgram]⟩
  | @inside _ _ inner k w m before sound steps =>
    obtain ⟨k', same, way⟩ := before.run handlers (before.sound sound)
    obtain ⟨inner', m', steps', gone, here⟩ := steps_beginTick handlers same .idle steps
    intro base next
    obtain ⟨past, steps, seen⟩ := way base next
    refine ⟨past ++ inner'.map (on (.running .default next :: base)),
      m'.on (.running .default next :: base), steps.trans (steps'.on _), ?_⟩
    rw [List.append_assoc, List.filterMap_append, seen, filterMap_above?_concat,
      filterMap_above?_on, gone, above?_on, here, Option.toList_some]

/-- Where a run of a loop stands that is all there is, and after which nothing is done. -/
inductive Running (enter : Handlers (Memory.host S N C)) (l : Loop (Memory.host S N C))
    (ending : Except LoopError Bool → Option ListenerError) :
    List (Machine (Memory.host S N C)) → Machine (Memory.host S N C) → Prop where
  | outset : Running enter l ending []
    (ofProgram [] (.call (.run .default) fun a => .done (ending a)) l)
  | inside {n : Nat} {trace past : List (Machine (Memory.host S N C))}
    {k : Loop (Memory.host S N C)} {m : Machine (Memory.host S N C)}
    (before : Rounds enter l n trace k) (sound : k.breach = none)
    (steps : Steps Memory.transport enter (beginTick [] k .idle) past m) :
    Running enter l ending (trace ++ past.map hush)
      (m.on [.running .default fun a => .done (ending a)])
  | returned {n : Nat} {trace : List (Machine (Memory.host S N C))} {v : Verdict}
    {k : Loop (Memory.host S N C)} (ends : Ends enter l n trace v k) :
    Running enter l ending trace (ofProgram [] (.done (ending (v.ofRun k.alive))) k)
  | gone {trace : List (Machine (Memory.host S N C))} {k : Loop (Memory.host S N C)}
    {failure : Option ListenerError} (begun : Begun enter l trace) :
    Running enter l ending trace ⟨k, [], .returned failure⟩

variable {ending : Except LoopError Bool → Option ListenerError} {x y : Machine (Memory.host S N C)}

/-- A run goes on as a run for one more step. -/
theorem Running.step (running : Running enter l ending trace x)
    (taken : x.step? Memory.transport enter = some y) :
    Running enter l ending (trace ++ (above? [] x).toList) y := by
  cases running with
  | outset =>
    obtain ⟨sound, -⟩ := rule_of_step? taken
    obtain rfl := eq_perform_of_step? taken
    exact .inside (.outset rfl) sound .refl
  | @inside n trace past k m before sound steps =>
    rw [above?_on]
    obtain ⟨m', taken', rfl⟩ | ⟨l₁, result, rfl⟩ := step?_of_on rfl taken
    · simpa using Running.inside before sound (steps.snoc taken')
    · have round :
          Round enter k .idle (past.map hush ++ [hush ⟨l₁, [], .ticked result⟩]) result l₁ :=
        ⟨past, steps, rfl⟩
      have gone :=
        step?_running Memory.transport enter round.sound.2 (fun a => .done (ending a)) [] result
      obtain rfl := Option.some.inj (taken.symm.trans gone)
      simp only [Option.toList_some, List.append_assoc]
      cases verdict : l₁.verdict? result with
      | none =>
        have again : Running enter l ending _
            (beginTick [.running .default fun a => .done (ending a)] (l₁.settle result) .idle) :=
          .inside (.more before round verdict rfl) round.sound_settle .refl
        simpa using again
      | some v => exact .returned (.last before round verdict)
  | returned ends =>
    obtain ⟨-, rule⟩ := rule_of_step? taken
    cases rule
    simpa [above?_ofProgram] using Running.gone ends.begun
  | gone => simp [step?, return?] at taken

/-- Every way of such a run. -/
theorem Steps.running {past : List (Machine (Memory.host S N C))}
    (steps : Steps Memory.transport enter
    (ofProgram [] (.call (.run .default) fun a => .done (ending a)) l) past x) :
    Running enter l ending (past.filterMap (above? [])) x := by
  induction steps with
  | refl => exact .outset
  | snoc _ taken ih =>
    rw [filterMap_above?_concat]
    exact ih.step taken

/-- What runs has only gone through machines that the rounds have begun with. -/
theorem Running.begun (running : Running enter l ending trace x) :
    Begun enter l (trace ++ (above? [] x).toList) := by
  cases running with
  | outset => simpa [above?_ofProgram] using Begun.outset
  | inside before sound steps =>
    rw [above?_on]
    simpa using Begun.inside before sound steps
  | returned ends => simpa [above?_ofProgram] using ends.begun
  | gone begun => simpa [above?_base] using begun

/-- A run that returns has come to the end of ticks that follow one another. -/
theorem Returns.ends_of_run {a : Except LoopError Bool}
    (returns : Returns enter (fun next => .call (.run .default) next) l trace a k) :
    ∃ n v, Ends enter l n trace v k ∧ a = v.ofRun k.alive := by
  obtain ⟨ending, tells⟩ := exists_ending a
  obtain ⟨past, steps, seen⟩ := returns [] fun b => .done (ending b)
  have stands := steps.running
  rw [seen, (tells a).2 rfl] at stands
  generalize here : ofProgram [] (.done none) k = y at stands
  cases stands with
  | outset => cases here
  | inside => simp [on, ofProgram] at here
  | @returned n trace v k' ends =>
    obtain ⟨rfl, told⟩ : k = k' ∧ none = ending (v.ofRun k'.alive) := by
      simpa [ofProgram] using here
    exact ⟨n, v, ends, ((tells _).1 told.symm).symm⟩
  | gone => cases here

/-- What begins under a run has begun under rounds. -/
theorem Begins.begun_of_run
    (begins : Begins enter (fun next => .call (.run .default) next) l trace) :
    Begun enter l trace := by
  obtain ⟨past, m, steps, rfl⟩ := begins [] fun _ => .done none
  rw [filterMap_above?_concat]
  exact steps.running.begun

end Machine

end Reactor
