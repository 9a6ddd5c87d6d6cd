import Reactor.Proofs.Closing.Parting
import Reactor.Proofs.Machine.Progress
import Reactor.Proofs.Memory.Leftovers

/-!
# One tick reclaims every closed handle

A close leaves every request of its handle finished or due. So a tick outside of handlers comes upon
all of them before it reads, finds the handle without references when it begins to reclaim, and does
not return before it has reclaimed it, whatever handlers do on the way.
-/

namespace Reactor

variable {S N C : Type} {enter : Handlers (Memory.host S N C)}

namespace Machine

variable {x y m m' : Machine (Memory.host S N C)} {past during : List (Machine (Memory.host S N C))}
  {h : HandleId} {req : RequestId} {r : Request C} {s : Stage} {f : Frame (Memory.host S N C)}
  {closing : HandleId → Prop}

/-! ## One step -/

/-- A request of a handle that is closing or gone was pending before. -/
theorem older (traffic : Traffic Memory.transport x y) (turn : Turn Memory.transport x y)
    (retired : x.loop.Retired r.handle) (pending : y.loop.requests.get? req = some r) :
    x.loop.requests.get? req = some r := by
  have below := Registry.lt_next_of_get? pending
  refine traffic.waited ?_ pending
  cases traffic with
  | issue _ _ requests =>
    -- The request that is issued is not one of the handle: its requests would become more.
    have fewer := (turn.fades retired).2.2
    rw [Loop.pendingRequests_add requests] at fewer
    rw [requests] at below pending
    apply Nat.lt_of_le_of_ne (Nat.le_of_lt_succ below)
    intro new
    rw [Registry.get?_add, if_pos new] at pending
    cases pending
    rw [if_pos rfl] at fewer
    exact Nat.not_succ_le_self _ fewer
  | skip _ _ _ drops =>
    obtain ⟨t, c, stage, rest, -, -, rfl⟩ := drops
    exact below
  | quiet _ _ requests | tell _ _ _ _ requests | settle _ _ _ _ requests
      | connected _ _ _ _ requests =>
    rwa [requests] at below

/-- What a tick in this stage has still to do for a handle that is closing or gone: to reclaim it,
if it is there, or before that to take the completions of its requests. -/
def Attends (m : Machine (Memory.host S N C)) (h : HandleId) : Stage → Prop
  | .reclaims batch => m.loop.handles.get? h = none ∨ h ∈ batch
  | s => ∀ req r, m.loop.requests.get? req = some r → r.handle = h → m.Ahead req s

/-- What happens above a tick leaves to it what it has still to do. -/
theorem Attends.step (attends : x.Attends h s) (retired : x.loop.Retired h) (b : x.Balanced)
    (rule : Rule Memory.transport enter x y) : y.Attends h s := by
  have turn := turn_of_rule b rule
  have goes (ahead : ∀ req r, x.loop.requests.get? req = some r → r.handle = h → x.Ahead req s)
      (req : RequestId) (r : Request C) (pending : y.loop.requests.get? req = some r)
        (same : r.handle = h) : y.Ahead req s := by
    subst same
    have before := ahead req r (older (traffic_of_rule rule) turn retired pending) rfl
    exact before.gathers (rule.gathers (by simp [pending]))
  cases s with
  | deferred | completions | reads => exact goes attends
  | reclaims batch => exact attends.imp_left fun gone => (turn.gone ⟨retired.1, gone⟩).2

/-- A tick that takes a completion still attends to a handle. -/
theorem Attends.pop? {s' : Stage} {d : Completion} (attends : x.Attends h s)
    (here : s.pop? = some (d, s')) :
    x.Attends h s' := by
  obtain ⟨batch, ⟨rfl, rfl⟩ | ⟨rfl, rfl⟩⟩ := Stage.eq_of_pop? here
  · exact attends
  · exact attends

/-- A tick that notes a failure still attends to a handle. -/
theorem Attends.note {t : Tick} (attends : x.Attends h t.stage) (failure : Option ListenerError) :
    x.Attends h (t.note failure).stage := by
  obtain same | ⟨_, _, _, before, after⟩ := t.stage_note failure
  · rwa [same]
  · rw [before] at attends
    rw [after]
    exact attends

/-- Work that waits for a tick holds no reference, has nothing to reclaim, and
has taken no completion. -/
theorem idle_of_awaits (waits : f.awaits = true) : f.held = [] ∧ f.due = [] ∧ f.batch = [] := by
  cases f with
  | ticking | running | polling => exact ⟨rfl, rfl, rfl⟩
  | _ => cases waits

/-- A closing handle without requests is due when nothing is at work but a tick
that has ended its reads. -/
theorem due_of_attends {t : Tick} {passes : Nat} {productive : Bool} (b : x.Balanced)
    (stack : x.stack = [.tick t, f]) (waits : f.awaits = true)
    (here : t.stage = .reads passes [] productive) (retired : x.loop.Retired h)
    (attends : x.Attends h (.reads passes [] productive)) :
    x.loop.handles.get? h = none ∨ h ∈ x.loop.closing := by
  cases found : x.loop.handles.get? h with
  | none => exact .inl rfl
  | some z =>
    have marked := retired.2 z found
    obtain ⟨unheld, undue, -⟩ := idle_of_awaits waits
    have held : x.stack.flatMap Frame.held = [] := by
      rw [stack, List.flatMap_cons, List.flatMap_cons, List.flatMap_nil, unheld]
      rfl
    have none_due : x.stack.flatMap Frame.due = [] := by
      rw [stack, List.flatMap_cons, List.flatMap_cons, List.flatMap_nil, undue, Frame.due, here]
      rfl
    have unrequested : x.loop.pendingRequests h = 0 := by
      apply Nat.eq_zero_of_not_pos
      intro pos
      obtain ⟨req, r, pending, same⟩ := (x.loop.pendingRequests_pos_iff h).1 pos
      exact attends req r pending same
    have free : z.refs = 0 := by
      rw [b.refs found, (b.coherent found).ownRefs_eq_zero marked, unrequested, held]
      rfl
    have once := b.dueOnce h
    rw [none_due, List.append_nil, found, Option.any_some, Handle.reclaimable, marked, free] at once
    exact .inr (List.count_pos_iff.1 (Nat.lt_of_lt_of_eq Nat.zero_lt_one once.symm))

/-! ## A tick outside of handlers -/

/-- A tick outside of handlers is in progress, and some handles that are closing or gone are left to
it; or it has just ended, and all of these are gone. -/
inductive Clears (closing : HandleId → Prop) (f : Frame (Memory.host S N C))
    (m : Machine (Memory.host S N C)) : Prop where
  | ticking (above : List (Frame (Memory.host S N C))) (t : Tick)
    (stack : m.stack = above ++ [.tick t, f])
    (left : ∀ h, closing h → m.loop.Retired h ∧ m.Attends h t.stage)
  | ended {result} (stack : m.stack = [f]) (control : m.control = .ticked result)
      (gone : ∀ h, closing h → m.Gone h)

/-- What the tick itself does next leaves no closing handle behind. -/
theorem Clears.top {t : Tick} (b : x.Balanced) (waits : f.awaits = true)
    (stack : x.stack = [.tick t, f])
    (left : ∀ h, closing h → x.loop.Retired h ∧ x.Attends h t.stage)
    (rule : Rule Memory.transport enter x y) :
    y.Clears closing f := by
  have turn := turn_of_rule b rule
  have retired (h : HandleId) (marked : closing h) : y.loop.Retired h :=
    (turn.fades (left h marked).1).1
  have goes (pushed : List (Frame (Memory.host S N C))) (t' : Tick)
      (after : y.stack = pushed ++ [.tick t', f])
        (same : ∀ h, x.Attends h t.stage → x.Attends h t'.stage) : y.Clears closing f := by
    refine .ticking pushed t' after fun h marked => ⟨retired h marked, ?_⟩
    exact (same h (left h marked).2).step (left h marked).1 b rule
  have attends {s : Stage} (here : t.stage = s) {h : HandleId} (marked : closing h) :
      x.Attends h s := by
    rw [← here]
    exact (left h marked).2
  have due {passes : Nat} {productive : Bool} (here : t.stage = .reads passes [] productive)
      (h : HandleId) (marked : closing h) :=
        due_of_attends b stack waits here (left h marked).1 (attends here marked)
  have was {h : HandleId} (marked : closing h) {req : RequestId} {r : Request C}
      (pending : y.loop.requests.get? req = some r) (same : r.handle = h) :
      x.loop.requests.get? req = some r :=
    older (traffic_of_rule rule) turn (same ▸ (left h marked).1) pending
  have gathers {req : RequestId} {r : Request C} (pending : y.loop.requests.get? req = some r) :
      x.Gathers req y :=
    rule.gathers (by simp [pending])
  have sound := (b.rule rule).sound
  obtain ⟨l, _, control⟩ := x
  obtain rfl : _ = _ := stack
  cases rule with
  | finish | ask | issue | refuseListen | script | survey | note | recallShared | update | enter =>
    exact goes [] t rfl fun _ => id
  | beginListen | emit => exact goes [_] t rfl fun _ => id
  | tick | runLoop | poll => exact goes [_, _] t rfl fun _ => id
  | noteResult => exact goes [] _ rfl fun _ attends => attends.note _
  | collect here =>
    -- All that had finished is in the batch now.
    refine .ticking [] _ rfl fun h marked => ⟨retired h marked, fun req r pending same => ?_⟩
    have ahead := attends here marked req r (was marked pending same) same
    exact Nat.lt_of_lt_of_le ahead
      (Nat.le_trans (gathers pending).2 (Nat.le_of_eq (Nat.zero_add _)))
  | firstPass here =>
    -- A request that is still pending would be named in the batch, which is empty.
    refine .ticking [] _ rfl fun h marked => ⟨retired h marked, fun req r pending same => ?_⟩
    have ahead := attends here marked req r (was marked pending same) same
    have empty : [.tick t, f].flatMap Frame.batch = [] := by
      rw [List.flatMap_cons, List.flatMap_cons, List.flatMap_nil, (idle_of_awaits waits).2.2,
        Frame.batch, here]
      rfl
    rw [Ahead, batchedFor, batches, empty] at ahead
    exact (Nat.lt_irrefl 0 ahead).elim
  | beginReclaims here =>
    exact .ticking [] _ rfl fun h marked => ⟨retired h marked, due here h marked⟩
  | endTick here =>
    refine .ended rfl rfl fun h marked => ⟨(retired h marked).1, ?_⟩
    exact (attends here marked).resolve_right (by simp)
  | skipReport here | dropConnect here | connection here | dropConnection here =>
    exact goes [] _ rfl fun _ attends => attends.pop? here
  | completeWrite here | completeShutdown here =>
    obtain ⟨pushed, after⟩ := suffix_deliver _ _ _ _ _ _
    exact goes pushed _ after.symm fun _ attends => attends.pop? here
  | completeConnect here | failConnect here =>
    exact goes [_] _ rfl fun _ attends => attends.pop? here
  | nextPass here | skipRead here | refuseRead here | readNothing here | readEof here
      | readFailed here =>
    exact goes [] _ rfl fun _ attends => by rw [here] at attends; exact attends
  | readData here => exact goes [_] _ rfl fun _ attends => by rw [here] at attends; exact attends
  | @skipReclaim l _ _ k batch here gone =>
    refine .ticking [] _ rfl fun h marked => ⟨retired h marked, ?_⟩
    obtain none | there := attends here marked
    · exact .inl none
    · rcases List.mem_cons.1 there with rfl | there
      · exact .inl gone
      · exact .inr there
  | breach => cases sound
  | @reclaim l _ _ k batch z here found =>
    refine .ticking [_] _ rfl fun h marked => ⟨retired h marked, ?_⟩
    have handles : (l.handles.remove k).get? h = if k = h then none else l.handles.get? h :=
      Registry.get?_remove _ _ _
    obtain none | there := attends here marked
    · refine .inl (handles.trans ?_)
      rw [none, ite_self]
    · rcases List.mem_cons.1 there with rfl | there
      · exact .inl (handles.trans (if_pos rfl))
      · exact .inr there

/-- A tick goes on until it has ended. -/
theorem Clears.step (b : x.Balanced) (waits : f.awaits = true) (clears : x.Clears closing f)
    (busy : x.stack ≠ [f]) (rule : Rule Memory.transport enter x y) : y.Clears closing f := by
  cases clears with
  | ended stack => exact (busy stack).elim
  | ticking above t stack left =>
    cases above with
    | nil => exact .top b waits stack left rule
    | cons g above =>
      obtain ⟨pushed, after⟩ := rule.suffix_stack
      apply Clears.ticking (pushed ++ above) t (by simp [← after, stack])
      intro h marked
      obtain ⟨retired, attends⟩ := left h marked
      exact ⟨((turn_of_rule b rule).fades retired).1, attends.step retired b rule⟩

/-- While handles are left to a tick something is suspended. -/
theorem Clears.stack_ne_nil (clears : x.Clears closing f) : x.stack ≠ [] := by
  cases clears with
  | ticking above t stack => simp [stack]
  | ended stack => simp [stack]

/-- A tick outside of handlers goes on until it has ended, whatever runs above it. -/
theorem Run.clears (run : Run Memory.transport enter m during m') (b : m.Balanced)
    (waits : f.awaits = true) (clears : m.Clears closing f) (busy : ∀ z ∈ during, z.stack ≠ [f]) :
    m'.Clears closing f := by
  induction run with
  | refl => exact clears
  | @snoc during x y first next ih =>
    have before := ih fun z hz => busy z (List.mem_append_left _ hz)
    cases next with
    | step taken =>
      have balanced := first.keeps (P := Balanced) (fun _ _ b next => b.next next) b
      exact before.step balanced waits (busy x (by simp)) (rule_of_step? taken).2
    | resume p rest => exact (before.stack_ne_nil (atRest_iff.1 rest).2).elim

/-- Work below a tick outside of handlers waits for it. -/
theorem Reached.awaits (reached : Reached Memory.transport enter past m) {t : Tick}
    (stack : m.stack = [.tick t, f]) (control : m.control = .advance) : f.awaits = true := by
  have fits := reached.fitted
  rw [Machine.fitted, control, stack] at fits
  have below : Frame.fitted true [f] = true :=
    (Bool.and_eq_true_iff.1 (Bool.and_eq_true_iff.1 fits).2).2
  exact eq_of_beq (Bool.and_eq_true_iff.1 below).1

/-- Work that waits for a tick is on top of the stack only when the tick has a result. -/
theorem Reached.ticked (reached : Reached Memory.transport enter past m) (stack : m.stack = [f])
    (waits : f.awaits = true) :
    ∃ result, m.control = .ticked result := by
  have fits := reached.fitted
  obtain ⟨l, _, control⟩ := m
  obtain rfl : _ = _ := stack
  cases control with
  | ticked result => exact ⟨result, rfl⟩
  | run | enter | emit | returned | advance => simp [Machine.fitted, Frame.fitted, waits] at fits

/-- At the start of a tick the completions of a closing handle's requests have
finished, or were due. -/
theorem attends_of_begin {l : Loop (Memory.host S N C)} {w : Waker} (begins : m = beginTick [f] l w)
    (coupled : m.Coupled) (tidy : m.loop.Tidy) (retired : m.loop.Retired h) :
    m.Attends h (.deferred l.deferred) := by
  intro req r pending same
  have closed : (m.loop.net.endpoint h).closed = true := (coupled.mirrors h).closed.2 retired
  have once := coupled.once pending
  rw [same, tidy.1 h closed req, Loop.underway, namings_append, namings_append] at once
  have none_due : m.loop.deferred = [] := by rw [begins]; rfl
  rw [none_due, namings_nil] at once
  have counted : m.finishedFor req + m.batchedFor req = 1 := by
    rw [finishedFor, batchedFor]
    omega
  exact Nat.lt_of_lt_of_eq Nat.zero_lt_one counted.symm

/-- A loop without handles has no requests, and nothing keeps it alive. -/
theorem dead_of_gone (b : m.Balanced) (coupled : m.Coupled) (tidy : m.loop.Tidy)
    (nothing : ∀ h, m.loop.handles.get? h = none) :
    m.loop.handles.size = 0 ∧ m.loop.requests.isEmpty = true ∧ m.loop.alive = false := by
  have unrequested (req : RequestId) : m.loop.requests.get? req = none := by
    apply Option.eq_none_iff_forall_not_mem.2
    intro r pending
    exact b.handle_ne (nothing r.handle) pending rfl
  have no_requests := (Registry.isEmpty_of_get? unrequested).1
  have undeferred : m.loop.deferred = [] := by
    apply List.eq_nil_iff_forall_not_mem.2
    intro d hd
    obtain ⟨⟨req, status⟩, report⟩ := Option.isSome_iff_exists.1 (tidy.2 d hd)
    have names : d.names req = true := by simp [Completion.names, report]
    obtain ⟨r, pending⟩ :=
      (coupled.fits (List.mem_append_left _ (List.mem_append_right _ hd))).pending names
    rw [unrequested] at pending
    cases pending
  have undue : m.loop.closing = [] := by
    apply List.eq_nil_iff_forall_not_mem.2
    intro h hh
    have once := b.dueOnce h
    rw [nothing, List.count_append] at once
    have counted := List.count_pos_iff.2 hh
    simp only [Option.any_none, Bool.false_eq_true, if_false] at once
    omega
  have unreferenced : m.loop.handles.values.any (0 < ·.refs) = false := by
    apply List.any_eq_false.2
    intro x hx
    obtain ⟨h, found⟩ := (m.loop.handles.mem_values_iff x).1 hx
    rw [nothing] at found
    cases found
  refine ⟨(Registry.isEmpty_of_get? nothing).2, no_requests, ?_⟩
  rw [Loop.alive, unreferenced, no_requests, undeferred, undue]
  rfl

/-! ## The whole tick -/

/-- A tick goes from one machine to another: it is over when the work that waits for it is on top of
the stack, alone, and not before. -/
structure Ticks (enter : Handlers (Memory.host S N C)) (f : Frame (Memory.host S N C))
    (m : Machine (Memory.host S N C)) (during : List (Machine (Memory.host S N C)))
    (m' : Machine (Memory.host S N C)) : Prop where
  run : Run Memory.transport enter m during m'
  busy : ∀ z ∈ during, z.stack ≠ [f]
  returned : m'.stack = [f]

/-- What a tick has done with a handle that was closing at its start. -/
structure Reclaimed (past : List (Machine (Memory.host S N C))) (m : Machine (Memory.host S N C))
    (during : List (Machine (Memory.host S N C))) (m' : Machine (Memory.host S N C))
    (h : HandleId) : Prop where
  /-- The handle is gone, and so is the work at its end. -/
  ended : m'.Over h
  /-- No request of it is pending, and none of its callbacks runs. -/
  idle : m'.loop.pendingRequests h = 0 ∧ m'.dispatching h = 0
  /-- Each request of it that was pending was answered in the tick. -/
  answered : ∀ req r, m.loop.requests.get? req = some r → r.handle = h →
    ∃ waiting d y later status,
      during ++ [m'] = waiting ++ d :: y :: later ∧
        Answered Memory.transport req r status waiting d y later
  /-- The last callback, as its close was given it, was entered in the tick. -/
  parted : ∃ i ∈ past,
    ∃ c, i.closed? Memory.transport = some (h, c) ∧ ∃ z ∈ during, z.control = .enter c (.closed h)
  /-- Since the beginning a last callback of it was entered once. -/
  once : (past ++ during ++ [m']).countP (Machine.parts h) = 1

/-- A tick that returns with a closing handle gone has done all that there was
to do for the handle. -/
theorem Ticks.reclaimed (ticks : Ticks enter f m during m')
    (reached : Reached Memory.transport enter past m)
    (after : Reached Memory.transport enter (past ++ during) m') (waits : f.awaits = true)
    (begun : m.stack ≠ [f]) {x : Handle C} (found : m.loop.handles.get? h = some x)
    (marked : x.closing = true) (gone : m'.Gone h) :
    Reclaimed past m during m' h := by
  obtain ⟨result, control⟩ := after.ticked ticks.returned waits
  have b := Balanced.of_reached after
  have start : m ∈ during := by
    cases during with
    | nil => exact (begun (ticks.run.eq_of_nil ▸ ticks.returned)).elim
    | cons z rest => exact ticks.run.uncons.1 ▸ List.mem_cons_self
  have ordinary : f.ending? = none := by
    cases f with
    | reclaiming | parting => cases waits
    | _ => rfl
  have ended : m'.Over h := by
    refine ⟨gone, fun g hg => ?_⟩
    rw [ticks.returned] at hg
    rw [List.mem_singleton.1 hg, ordinary]
    simp
  have accounted : ¬ m'.Outstanding h := by
    rintro (there | entering)
    · rw [gone.2] at there
      cases there
    · rw [partings, ticks.returned, countP_reclaiming_of_all (by simp [ordinary])] at entering
      exact Nat.lt_irrefl 0 entering
  obtain ⟨parted, once⟩ :=
    after.parted reached start found marked accounted (by simp [Machine.parts, parting?, control])
  refine ⟨ended, ⟨?_, ?_⟩, fun req r pending same => ?_, parted, once⟩
  · apply Nat.eq_zero_of_not_pos
    intro pos
    obtain ⟨req, r, pending, same⟩ := (m'.loop.pendingRequests_pos_iff h).1 pos
    exact b.handle_ne gone.2 pending same
  · rw [dispatching, ticks.returned, List.flatMap_singleton, (idle_of_awaits waits).1]
    rfl
  · obtain ⟨-, still⟩ | answered := ticks.run.answered (reached.waits pending)
    · exact (b.handle_ne gone.2 (still m' (by simp)).waiting same).elim
    · exact answered

/-- What comes of a tick that starts outside of handlers. -/
structure Reclaims (enter : Handlers (Memory.host S N C))
    (past : List (Machine (Memory.host S N C))) (m : Machine (Memory.host S N C))
    (f : Frame (Memory.host S N C)) : Prop where
  /-- As long as it has not returned, it goes on. -/
  proceeds : ∀ during x, Run Memory.transport enter m during x → (∀ z ∈ during, z.stack ≠ [f]) →
    x.stack ≠ [f] → ∃ y, x.step? Memory.transport enter = some y
  /-- It returns with a result, an error or not. -/
  returns : ∀ during m', Ticks enter f m during m' → ∃ result, m'.control = .ticked result
  /-- Each handle that was closing at its start is reclaimed when it returns. -/
  closing : ∀ during m', Ticks enter f m during m' →
    ∀ h x, m.loop.handles.get? h = some x → x.state = .closing →
    Reclaimed past m during m' h
  /-- If all handles were closing, and no handle was created, then nothing is left. -/
  empties : ∀ during m', Ticks enter f m during m' →
    (∀ h x, m.loop.handles.get? h = some x → x.state = .closing) →
    m'.loop.handles.next = m.loop.handles.next →
    m'.loop.handles.size = 0 ∧ m'.loop.requests.isEmpty = true ∧ m'.loop.alive = false

end Machine

open Machine

/-- One tick reclaims every closed handle: whatever an embedder, its handlers and a script do, a
tick that starts outside of handlers, for a call of `tick`, `run` or `poll` that waits for it alone,
does not return before the handles that were closing at its start have been told of their end, once,
after all of their requests. -/
theorem tick_reclaims_closed {options : Options} {shared : S} {p : Program (Memory.host S N C)}
    {past : List (Machine (Memory.host S N C))} {m : Machine (Memory.host S N C)}
    {f : Frame (Memory.host S N C)} {l : Loop (Memory.host S N C)} {w : Waker}
    (run : Run Memory.transport enter (start p (.fresh options Memory.initial shared)) past m)
    (begins : m = beginTick [f] l w) : Reclaims enter past m f := by
  have reached : Reached Memory.transport enter past m := ⟨options, Memory.initial, shared, p, run⟩
  have balanced := Balanced.of_reached reached
  have coupled := Coupled.of_run run
  have tidy := tidy_of_run run
  have stack : m.stack = [.tick ⟨w, .deferred l.deferred, !l.deferred.isEmpty, none⟩, f] := by
    rw [begins]; rfl
  have waits : f.awaits = true := reached.awaits stack (by rw [begins]; rfl)
  -- The handles that a tick is to reclaim are all that are closing or gone at its start.
  have starts : m.Clears m.loop.Retired f :=
    .ticking [] _ stack fun h retired => ⟨retired, attends_of_begin begins coupled tidy retired⟩
  have clears {during x} (run : Run Memory.transport enter m during x)
      (busy : ∀ z ∈ during, z.stack ≠ [f]) :
      x.Clears m.loop.Retired f := run.clears balanced waits starts busy
  have gone {during m'} (ticks : Ticks enter f m during m') (h : HandleId)
      (retired : m.loop.Retired h) : m'.Gone h := by
    cases clears ticks.run ticks.busy with
    | ticking above t stack =>
      rw [ticks.returned] at stack
      have lengths := congrArg List.length stack
      simp at lengths
    | ended _ _ gone => exact gone h retired
  have goes {during x} (run' : Run Memory.transport enter m during x) :
      Reached Memory.transport enter (past ++ during) x :=
    ⟨options, Memory.initial, shared, p, run.trans run'⟩
  have marked {h x} (found : m.loop.handles.get? h = some x) (state : x.state = .closing) :
      m.loop.Retired h := by
    refine ⟨Registry.lt_next_of_get? found, fun y hy => ?_⟩
    obtain rfl := Option.some.inj (found.symm.trans hy)
    exact (balanced.coherent found).1.1 state
  constructor
  case proceeds =>
    intro during x run' busy ahead
    obtain rests | goes_on := (goes run').proceeds
    · exact ((clears run' busy).stack_ne_nil (atRest_iff.1 rests).2).elim
    · exact goes_on
  case returns =>
    intro during m' ticks
    exact (goes ticks.run).ticked ticks.returned waits
  case closing =>
    intro during m' ticks h x found state
    have begun : m.stack ≠ [f] := by simp [stack]
    exact ticks.reclaimed reached (goes ticks.run) waits begun found
      ((balanced.coherent found).1.1 state)
      (gone ticks h (marked found state))
  case empties =>
    intro during m' ticks all same
    have nothing (h : HandleId) : m'.loop.handles.get? h = none := by
      by_cases known : h < m.loop.handles.next
      · refine (gone ticks h ⟨known, fun x found => ?_⟩).2
        exact (balanced.coherent found).1.1 (all h x found)
      · exact Registry.get?_eq_none_of_next_le _ (by rw [same]; exact Nat.le_of_not_lt known)
    have run' := run.trans ticks.run
    exact dead_of_gone (.of_reached (goes ticks.run)) (.of_run run') (tidy_of_run run') nothing

/-! ## A client that closes what is held back -/

namespace Client

open Memory (Script)

/-- A client that closes its stream while a write and a shutdown of it are held back. -/
def leaving : Program (Echo.host Memory Script) :=
  .call (.issue (.newHandle .tcp)) fun (h : HandleId) =>
  .call (.issue (.connect h (.v4 ⟨127, 0, 0, 1⟩ 80))) fun _ =>
  .call (.tick .idle) fun _ =>
  .call (.script .holdWrites) fun _ =>
  .call (.issue (.write h [1] (.closure Echo.Closure.afterWrite))) fun _ =>
  .call (.issue (.shutdown h .promise)) fun _ =>
  .call (.issue (.close h Echo.Closure.afterClose)) fun _ =>
  .call (.tick .idle) fun _ => .skip

/-- The client at the call of the tick that follows the close. -/
def closed : Machine (Echo.host Memory Script) :=
  (Machine.start leaving (.fresh .standard Memory.initial ())).run Memory.transport
    (Echo.handlers _ _) 18

/-- The client so many steps after it has started that tick. -/
def reclaiming (steps : Nat) : Machine (Echo.host Memory Script) :=
  (Machine.beginTick [.ticking fun _ => .skip] closed.loop .idle).run Memory.transport
    (Echo.handlers _ _) steps

end Client

/-- At the start of the tick the client's handle is closing and two requests of it are pending; when
the tick has returned, nothing is left. -/
theorem tick_reclaims_closed_for_client :
    (Client.reclaiming 0).loop.pendingRequests 0 = 2 ∧
      ∃ past during, Ticks (Echo.handlers _ _) (.ticking fun _ => .skip)
        (Client.reclaiming 0) during (Client.reclaiming 20) ∧
        Reclaimed past (Client.reclaiming 0) during (Client.reclaiming 20) 0 ∧
        (Client.reclaiming 20).loop.handles.size = 0 ∧
        (Client.reclaiming 20).loop.requests.isEmpty = true ∧
        (Client.reclaiming 20).loop.alive = false := by
  obtain ⟨past, run, -⟩ := Run.exists_of_run Memory.transport (Echo.handlers _ _)
    (Machine.start Client.leaving (.fresh .standard Memory.initial ())) 18
  have calls : Client.closed.step? Memory.transport (Echo.handlers _ _) =
      some (Client.reclaiming 0) := by rfl
  have begun := run.snoc (.step calls)
  obtain ⟨during, ticks, behind⟩ :=
    Run.exists_of_run Memory.transport (Echo.handlers _ _) (Client.reclaiming 0) 20
  have busy : (List.range 20).all (fun k => 2 ≤ (Client.reclaiming k).stack.length) = true := by rfl
  have whole : Ticks (Echo.handlers _ _) (.ticking fun _ => .skip)
      (Client.reclaiming 0) during (Client.reclaiming 20) := by
    refine ⟨ticks, fun z hz alone => ?_, by rfl⟩
    obtain ⟨k, less, rfl⟩ := behind z hz
    have above := List.all_eq_true.1 busy k (List.mem_range.2 less)
    rw [show (Client.reclaiming k).stack = [_] from alone] at above
    cases above
  have reclaims := tick_reclaims_closed begun rfl
  have there : ((Client.reclaiming 0).loop.handles.get? 0).any (·.state = .closing) = true := by rfl
  obtain ⟨x, found, state⟩ := (Option.any_eq_true _ _).1 there
  have closing (h : HandleId) (y : Handle Echo.Closure)
      (hy : (Client.reclaiming 0).loop.handles.get? h = some y) :
      y.state = .closing := by
    have known : h < 1 := Registry.lt_next_of_get? hy
    obtain rfl : h = 0 := Nat.lt_one_iff.1 known
    obtain rfl := Option.some.inj (found.symm.trans hy)
    exact of_decide_eq_true state
  exact ⟨by rfl, _, during, whole,
    reclaims.closing during _ whole 0 x found (of_decide_eq_true state),
    reclaims.empties during _ whole closing (by rfl)⟩

end Reactor
