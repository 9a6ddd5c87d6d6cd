import Reactor.Proofs.Forgiving.Counterparts
import Reactor.Proofs.Machine.Progress
import Reactor.Proofs.Memory.Lines
import Reactor.Proofs.Memory.Outcomes

/-!
# One tick at a time keeps the lines

As long as no handler starts a tick inside a tick, there is one batch at a time. Then the requests
of a handle stay in line over every step of a machine, and a tick takes the first of them.
-/

namespace Reactor

section

variable {H : Host}

/-- The completions that a stage has from the transport. -/
def Stage.reports : Stage → List Completion
  | .completions batch => batch
  | _ => []

/-- The completions of a stage that were due without the transport. -/
def Stage.deferrals : Stage → List Completion
  | .deferred batch => batch
  | _ => []

/-- The completions from the transport that suspended work is still to take. -/
def Frame.reports : Frame H → List Completion
  | .tick t => t.stage.reports
  | _ => []

/-- The completions that were due without the transport and that suspended work is still to take. -/
def Frame.deferrals : Frame H → List Completion
  | .tick t => t.stage.deferrals
  | _ => []

/-- A listener's result leaves what a tick is still to take. -/
theorem Tick.reports_note (t : Tick) (failure : Option ListenerError) :
    (t.note failure).stage.reports = t.stage.reports ∧
      (t.note failure).stage.deferrals = t.stage.deferrals := by
  obtain same | ⟨_, _, _, before, after⟩ := t.stage_note failure
  · simp [same]
  · simp [before, after, Stage.reports, Stage.deferrals]

namespace Machine

/-! ## One tick at a time -/

/-- How many ticks are in progress. -/
def depth (m : Machine H) : Nat := m.stack.countP Frame.isTick

/-- Whether every callback of a request on a stack runs for a tick directly below it. -/
def seated : List (Frame H) → Bool
  | [] => true
  | .delivering .. :: below => below.head?.any Frame.isTick && seated below
  | _ :: below => seated below

/-- One tick is in progress at most, and none when a tick is about to return. -/
structure Lone (m : Machine H) : Prop where
  one : m.depth ≤ 1
  none : ∀ result, m.control = .ticked result → m.depth = 0
  placed : seated m.stack = true

/-- Nothing is entered below a tick that is the only one. -/
theorem not_mem_of_seated {stack : List (Frame H)} (seats : seated stack = true)
    (none : stack.countP Frame.isTick = 0) (req : RequestId) (h : HandleId) :
    .delivering req h ∉ stack := by
  induction stack with
  | nil => simp
  | cons f below ih =>
    rw [List.countP_cons, Nat.add_eq_zero_iff] at none
    intro there
    rcases List.mem_cons.1 there with rfl | there
    · cases below with
      | nil => cases seats
      | cons g below =>
        have tick : g.isTick = true := by
          simp only [seated, List.head?_cons, Option.any_some, Bool.and_eq_true] at seats
          exact seats.1
        simp [tick] at none
    · refine ih ?_ none.1 there
      cases f <;> simp_all [seated]

variable {T : Transport H.Net H.Script} {enter : Handlers H} {x y m : Machine H}

/-- When there is one tick at a time, no callback of a request is entered inside another. -/
theorem Lone.alone (lone : m.Lone) {d : Delivery H.Closure} (told : m.delivered? = some d)
    (req : RequestId) (h : HandleId) :
    .delivering req h ∉ m.stack.tail := by
  obtain ⟨one, -, placed⟩ := lone
  unfold delivered? at told
  split at told
  case h_1 _ _ _ below _ stack =>
    rw [depth, stack] at one
    rw [stack] at placed ⊢
    simp only [seated, Bool.and_eq_true] at placed
    obtain ⟨under, placed⟩ := placed
    cases below with
    | nil => cases under
    | cons f below =>
      have tick : f.isTick = true := under
      rw [List.countP_cons_of_neg (by simp [Frame.isTick]), List.countP_cons_of_pos tick] at one
      have none : below.countP Frame.isTick = 0 := by omega
      intro there
      rcases List.mem_cons.1 there with rfl | there
      · cases tick
      · refine not_mem_of_seated ?_ none req h there
        cases f <;> simp_all [seated, Frame.isTick]
  case h_2 => cases told

/-- There is one tick at a time, unless a handler starts one inside another. -/
theorem Lone.rule (lone : x.Lone) (calm : x.reenters = true → x.depth = 0)
    (rule : Rule T enter x y) : y.Lone := by
  obtain ⟨one, none, seats⟩ := lone
  cases rule with
  | tick | runLoop | poll =>
    have none := calm rfl
    refine ⟨?_, fun _ => ?_, seats⟩
    · simpa [depth, beginTick, ofTick, List.countP_cons, Frame.isTick] using none
    · simp [beginTick, ofTick]
  | runAgain =>
    have none := none _ rfl
    refine ⟨?_, fun _ => ?_, seats⟩
    · simpa [depth, beginTick, ofTick, List.countP_cons, Frame.isTick] using none
    · simp [beginTick, ofTick]
  | ticked | runFailed | endRun | pollFailed | endPoll | pausePoll =>
    have none := none _ rfl
    refine ⟨?_, fun _ => by simp, by simpa [seated] using seats⟩
    simp_all [depth, Frame.isTick]
  | @endTick l stack t =>
    have none : stack.countP Frame.isTick = 0 := by
      simpa [depth, List.countP_cons, Frame.isTick] using one
    exact ⟨by simp [depth, none], fun _ _ => by simp [depth, none], by simpa [seated] using seats⟩
  | @completeWrite _ _ _ _ _ _ _ _ _ callback | @completeShutdown _ _ _ _ _ _ _ _ callback =>
    cases callback <;>
      exact ⟨by simpa [deliver, depth, List.countP_cons, Frame.isTick] using one,
        fun _ => by simp [deliver], by simpa [deliver, seated, Frame.isTick] using seats⟩
  | finish | ask | issue | refuseListen | beginListen | script | survey | note | recallShared
    | update | enter | emit | nextListener | endEmission | endDelivery | endConnect | endLoan
    | beginParting | skipParting | endParting | noteResult | endListen | failListen | collect
    | firstPass | nextPass | beginReclaims | skipReport | completeConnect | failConnect
    | dropConnect | connection | dropConnection | skipRead | refuseRead | readNothing | readData
    | readEof | readFailed | skipReclaim | breach | reclaim =>
    refine ⟨?_, fun _ => by simp [ofTick], ?_⟩
    · simpa [depth, ofTick, List.countP_cons, Frame.isTick] using one
    · simp_all [seated, ofTick]

/-- The completions from the transport that ticks are still to take. -/
def reports (m : Machine H) : List Completion := m.stack.flatMap Frame.reports

/-- The completions that were due without the transport. -/
def deferrals (m : Machine H) : List Completion :=
  m.loop.deferred ++ m.stack.flatMap Frame.deferrals

end Machine

end

/-- What names a pending write, and fits, is the completion of a write. -/
theorem Completion.Fits.write_of_names {κ : Type} {requests : Registry (Request κ)} {d : Completion}
    {req : RequestId} {h : HandleId} {data : List UInt8} {callback : Callback κ}
    (fits : d.Fits requests) (names : d.names req = true)
    (pending : requests.get? req = some (.write h data callback)) :
    ∃ outcome, d = .write req outcome := by
  cases d with
  | connection => cases names
  | write req' outcome =>
    obtain rfl : req' = req := by simpa [Completion.names, Completion.report?] using names
    exact ⟨outcome, rfl⟩
  | shutdown req' =>
    obtain rfl : req' = req := by simpa [Completion.names, Completion.report?] using names
    obtain ⟨_, _, other⟩ := fits
    cases pending.symm.trans other
  | connect req' =>
    obtain rfl : req' = req := by simpa [Completion.names, Completion.report?] using names
    obtain ⟨_, other⟩ := fits
    cases pending.symm.trans other

variable {S N C : Type} {enter : Handlers (Memory.host S N C)}

namespace Machine

variable {x y m : Machine (Memory.host S N C)} {past : List (Machine (Memory.host S N C))}
  {h : HandleId}

/-! ## The lines of a machine -/

/-- The requests of a handle in the order of their turns. -/
def line (m : Machine (Memory.host S N C)) (h : HandleId) : List RequestId :=
  m.loop.line m.reports h

/-- What suspended work is still to take came from the transport, or was due without it. -/
theorem mem_batch_iff {H : Host} (f : Frame H) (d : Completion) :
    d ∈ f.batch ↔ d ∈ f.reports ∨ d ∈ f.deferrals := by
  cases f with
  | tick t =>
    obtain ⟨_, stage, _, _⟩ := t
    cases stage <;> simp [Frame.batch, Stage.batch, Frame.reports, Stage.reports, Frame.deferrals,
      Stage.deferrals]
  | _ => simp [Frame.batch, Frame.reports, Frame.deferrals]

/-- The completions from the transport are among those in the batches. -/
theorem mem_batches_of_reports {d : Completion} (hd : d ∈ m.reports) : d ∈ m.batches := by
  obtain ⟨f, hf, hd⟩ := List.mem_flatMap.1 hd
  exact List.mem_flatMap.2 ⟨f, hf, (mem_batch_iff f d).2 (.inl hd)⟩

/-- What is under way has finished, or came from the transport, or was due without it. -/
theorem mem_underway_iff {d : Completion} :
    d ∈ m.loop.underway m.batches ↔
      d ∈ m.reports ++ m.loop.net.finished.toList ∨ d ∈ m.deferrals := by
  have batched : d ∈ m.batches ↔ d ∈ m.reports ∨ d ∈ m.stack.flatMap Frame.deferrals := by
    simp only [batches, reports, List.mem_flatMap, mem_batch_iff]
    grind
  simp only [Loop.underway, deferrals, List.mem_append, batched]
  tauto

/-- What a tick takes is the first of what it has from the transport, or was due without it. -/
theorem reports_of_pop? (l : Loop (Memory.host S N C)) (stack : List (Frame (Memory.host S N C)))
    {t : Tick} {d : Completion} {stage : Stage} (here : t.stage.pop? = some (d, stage)) :
    reports ⟨l, .tick t :: stack, .advance⟩ =
      d :: (Frame.tick { t with stage } :: stack).flatMap Frame.reports ∨
      d ∈ deferrals ⟨l, .tick t :: stack, .advance⟩ ∧
        reports ⟨l, .tick t :: stack, .advance⟩ =
          (Frame.tick { t with stage } :: stack).flatMap Frame.reports := by
  obtain ⟨batch, ⟨stage', rfl⟩ | ⟨stage', rfl⟩⟩ := Stage.eq_of_pop? here
  · refine .inr ⟨List.mem_append_right _ ?_, ?_⟩
    · simp [Frame.deferrals, Stage.deferrals, stage']
    · simp [reports, Frame.reports, Stage.reports, stage']
  · exact .inl (by simp [reports, Frame.reports, Stage.reports, stage'])

/-- Telling an outcome adds no completion from the transport. -/
theorem reports_deliver {l : Loop (Memory.host S N C)} {stack : List (Frame (Memory.host S N C))}
    {req : RequestId} {callback : Callback C} (outcome : RequestOutcome) :
    (deliver l stack req h callback outcome).reports = stack.flatMap Frame.reports := by
  cases callback <;> rfl

/-- A tick takes a completion, and the request that it names leaves the table. -/
theorem line_of_take {l : Loop (Memory.host S N C)} {stack : List (Frame (Memory.host S N C))}
    {t : Tick} {d : Completion} {stage : Stage} (here : t.stage.pop? = some (d, stage))
    (reports : y.reports = (Frame.tick { t with stage } :: stack).flatMap Frame.reports)
    (net : y.loop.net = l.net)
    (requests : y.loop.requests = l.requests ∨ ∃ req, y.loop.requests = l.requests.remove req) :
    (y.line h).Sublist (line ⟨l, .tick t :: stack, .advance⟩ h) := by
  have fewer : (y.line h).Sublist ((l.lineup y.reports h).filterMap (·.turn? l.requests h)) := by
    rw [line, Loop.line, Loop.lineup, net, ← Loop.lineup]
    obtain same | ⟨req, removed⟩ := requests
    · rw [same]
    · simp only [removed, Completion.turn?_remove, ← List.filter_filterMap]
      exact List.filter_sublist
  refine fewer.trans (List.Sublist.filterMap _ ?_)
  obtain first | ⟨-, same⟩ := reports_of_pop? l stack here
  · rw [Loop.lineup, Loop.lineup, first, reports]
    simp
  · rw [same, reports]

/-- What each rule does to the lines: some may leave, and the next request comes last. -/
theorem Rule.line (c : x.Coupled) (withheld : x.loop.Withheld) (lone : x.Lone)
    (rule : Rule Memory.transport enter x y) :
    (y.line h).Sublist (x.line h ++ [x.loop.requests.next]) := by
  have within {d : Completion} (hd : d ∈ x.reports) : d ∈ x.batches := mem_batches_of_reports hd
  have quiet (requests : y.loop.requests = x.loop.requests)
      (finished : y.loop.net.finished = x.loop.net.finished)
      (held : ∀ k, (y.loop.net.endpoint k).held = (x.loop.net.endpoint k).held ∧
        (y.loop.net.endpoint k).heldShutdown = (x.loop.net.endpoint k).heldShutdown)
      (same : y.reports = x.reports) : (y.line h).Sublist (x.line h ++ [x.loop.requests.next]) := by
    rw [Machine.line, same]
    exact Loop.LinesUp.of_quiet requests finished held h
  have still (requests : y.loop.requests = x.loop.requests) (net : y.loop.net = x.loop.net)
      (same : y.reports = x.reports) :
      (y.line h).Sublist (x.line h ++ [x.loop.requests.next]) :=
    quiet requests (by rw [net]) (fun k => by simp [net]) same
  have taken (fewer : (y.line h).Sublist (x.line h)) :
      (y.line h).Sublist (x.line h ++ [x.loop.requests.next]) :=
    fewer.trans (List.sublist_append_left _ _)
  cases rule with
  | finish | ask | survey | recallShared | enter | emit | nextListener | endEmission | beginParting
    | skipParting | ticked | runFailed | pollFailed | note | update | endParting | endRun | endPoll
    | endLoan | endListen | failListen | tick | runLoop | poll | runAgain => exact still rfl rfl rfl
  | issue => exact Loop.linesUp_issue c (fun _ => within) withheld _ h
  | script => exact Loop.linesUp_perform c _ h
  | refuseListen begun =>
    obtain rfl | rfl := Loop.effect_of_refused_beginListen begun
    · exact still rfl rfl rfl
    · obtain ⟨finished, like⟩ := Memory.listen_like _ _ _
      exact quiet rfl finished (fun k => ⟨(like k).held, (like k).heldShutdown⟩) rfl
  | beginListen begun =>
    obtain ⟨_, -, -, -, -, agrees⟩ := Loop.effect_of_beginListen begun
    obtain ⟨finished, like⟩ := Memory.listen_like _ _ _
    refine quiet agrees.requests ?_ (fun k => ?_) rfl
    · rw [agrees.net]
      exact finished
    · rw [agrees.net]
      exact ⟨(like k).held, (like k).heldShutdown⟩
  | endDelivery | endConnect => exact still (by simp) (by simp) rfl
  | pausePoll => exact still (by split <;> rfl) (by split <;> rfl) rfl
  | noteResult => exact still rfl rfl (by simp [reports, ofTick, Frame.reports, Tick.reports_note])
  | @collect l stack t here =>
    -- The batch is empty, and so is that of every other tick, for there is none.
    have none : stack.countP Frame.isTick = 0 := by
      simpa [depth, List.countP_cons, Frame.isTick] using lone.one
    have alone : stack.flatMap Frame.reports = [] := by
      refine List.flatMap_eq_nil_iff.2 fun f hf => ?_
      have other := List.countP_eq_zero.1 none f hf
      cases f <;> first | rfl | exact (other rfl).elim
    have before : reports ⟨l, .tick t :: stack, .advance⟩ = [] := by
      simp [reports, Frame.reports, here, Stage.reports, alone]
    have after : reports (ofTick stack (l.beginCompletions Memory.transport t).1
        (l.beginCompletions Memory.transport t).2) = l.net.finished.toList := by
      rw [← List.append_nil l.net.finished.toList, ← alone]
      rfl
    refine taken (List.Sublist.filterMap _ ?_)
    rw [before, after]
    have same : l.net.finished.toList ++ [] ++ Memory.releaseHeld (l.net.endpoint h) (.ok ()) =
        l.lineup [] h := by
      simp [Loop.lineup]
    exact same ▸ .refl _
  | firstPass here | nextPass here | beginReclaims here | endTick here | skipRead here
    | refuseRead here | skipReclaim here | breach here | reclaim here =>
    refine still rfl rfl ?_
    simp [reports, ofTick, Frame.reports, Stage.reports, here, Loop.beginPass,
      Loop.beginReclaims, Tick.record, Tick.abandonReads]
  | skipReport here | connection here | dropConnection here =>
    exact taken (line_of_take here rfl rfl (.inl rfl))
  | completeConnect here | failConnect here =>
    exact taken (line_of_take here rfl rfl (.inr ⟨_, rfl⟩))
  | dropConnect here =>
    exact taken (line_of_take here rfl (by simp) (.inr ⟨_, (Loop.release_frame _ _).2.2.1⟩))
  | completeWrite here =>
    obtain ⟨net, requests, -⟩ := deliver_frame
    exact taken (line_of_take here (reports_deliver _) net (.inr ⟨_, requests⟩))
  | completeShutdown here =>
    obtain ⟨net, requests, -⟩ := deliver_frame
    exact taken (line_of_take here (reports_deliver _) (net.trans (by simp))
      (.inr ⟨_, requests.trans (settleShutdown_frame _ _ _).2.2.1⟩))
  | readNothing here _ _ _ read | readData here _ _ _ read =>
    obtain rfl := congrArg Prod.snd read
    obtain ⟨finished, like⟩ := Memory.read_like _ _ _ _
    exact quiet rfl finished (fun k => ⟨(like k).held, (like k).heldShutdown⟩)
      (by simp [reports, ofTick, Frame.reports, Stage.reports, here])
  | readEof here _ _ _ read | readFailed here _ _ _ read =>
    obtain rfl := congrArg Prod.snd read
    obtain ⟨finished, like⟩ := Memory.read_like _ _ _ _
    refine quiet (by simp) ((Loop.finished_endReading _ _ _).trans finished) (fun k => ?_)
      (by simp [reports, Frame.reports, Stage.reports, here])
    exact ⟨(Loop.held_endReading _ _ k _).1.trans (like k).held,
      (Loop.held_endReading _ _ k _).2.trans (like k).heldShutdown⟩

/-! ## What is due without the transport -/

variable {d : Completion}

/-- A tick that takes a completion defers none. -/
theorem deferrals_of_pop? {stack : List (Frame (Memory.host S N C))} {t : Tick} {stage : Stage}
    {c : Completion} (here : t.stage.pop? = some (c, stage))
    (there : d ∈ (Frame.tick { t with stage } :: stack).flatMap Frame.deferrals) :
    d ∈ (Frame.tick t :: stack).flatMap Frame.deferrals := by
  obtain ⟨batch, ⟨stage', rfl⟩ | ⟨stage', rfl⟩⟩ := Stage.eq_of_pop? here
  · simp only [List.flatMap_cons, Frame.deferrals, Stage.deferrals, stage', List.mem_append,
      List.mem_cons] at there ⊢
    tauto
  · simpa [Frame.deferrals, Stage.deferrals, stage'] using there

/-- What is due without the transport was due before, or is the refusal of the write
that the step issues. -/
theorem Rule.deferrals (rule : Rule Memory.transport enter x y) (hd : d ∈ y.deferrals) :
    d ∈ x.deferrals ∨ ∃ h data callback status,
      x.issued? Memory.transport = some (x.loop.requests.next, .write h data callback) ∧
      (Memory.write x.loop.requests.next h data x.loop.net).answer = .error status ∧
      d = .write x.loop.requests.next (.error status) := by
  have same (deferred : y.loop.deferred = x.loop.deferred)
      (frames : y.stack.flatMap Frame.deferrals = x.stack.flatMap Frame.deferrals) :
      d ∈ x.deferrals := by
    rwa [Machine.deferrals, deferred, frames] at hd
  have taken {l : Loop (Memory.host S N C)} {stack : List (Frame (Memory.host S N C))} {t : Tick}
      {stage : Stage} {c : Completion} (here : t.stage.pop? = some (c, stage))
      (deferred : y.loop.deferred = l.deferred)
      (frames : y.stack.flatMap Frame.deferrals =
        (Frame.tick { t with stage } :: stack).flatMap Frame.deferrals) :
      d ∈ Machine.deferrals ⟨l, .tick t :: stack, .advance⟩ := by
    rw [Machine.deferrals, deferred, frames] at hd
    rcases List.mem_append.1 hd with hd | hd
    · exact List.mem_append_left _ hd
    · exact List.mem_append_right _ (deferrals_of_pop? here hd)
  cases rule with
  | finish | ask | survey | recallShared | enter | emit | nextListener | endEmission | beginParting
    | skipParting | ticked | runFailed | pollFailed | note | update | endParting | endRun | endPoll
    | endLoan | endListen | failListen | script | tick | runLoop | poll | runAgain => exact .inl hd
  | @issue l stack o next =>
    obtain same' | ⟨h, data, callback, status, issued, answer, added⟩ := Loop.refusals_issue l o
    · exact .inl (same same' rfl)
    · have hd : d ∈ (l.issue Memory.transport o).2.deferred ++ stack.flatMap Frame.deferrals := hd
      rw [added, List.append_assoc] at hd
      rcases List.mem_append.1 hd with hd | hd
      · exact .inl (List.mem_append_left _ hd)
      · rcases List.mem_append.1 hd with hd | hd
        · exact .inr ⟨h, data, callback, status, issued, answer, List.mem_singleton.1 hd⟩
        · exact .inl (List.mem_append_right _ hd)
  | refuseListen begun =>
    obtain rfl | rfl := Loop.effect_of_refused_beginListen begun
    · exact .inl hd
    · exact .inl hd
  | beginListen begun =>
    obtain ⟨_, -, -, -, -, agrees⟩ := Loop.effect_of_beginListen begun
    exact .inl (same agrees.deferred rfl)
  | endDelivery | endConnect => exact .inl (same (by simp) rfl)
  | pausePoll => exact .inl (same (by split <;> rfl) rfl)
  | noteResult => exact .inl (same rfl (by simp [ofTick, Frame.deferrals, Tick.reports_note]))
  | collect here | firstPass here | nextPass here | beginReclaims here | endTick here
    | skipRead here | refuseRead here | skipReclaim here | breach here | reclaim here =>
    refine .inl (same rfl ?_)
    simp [ofTick, Frame.deferrals, Stage.deferrals, here, Loop.beginCompletions,
      Loop.beginPass, Loop.beginReclaims, Tick.record, Tick.abandonReads]
  | skipReport here | connection here | dropConnection here | completeConnect here
      | failConnect here =>
    exact .inl (taken here rfl rfl)
  | dropConnect here => exact .inl (taken here (by simp) rfl)
  | @completeWrite _ _ _ _ _ _ _ _ _ callback here =>
    exact .inl (taken here (deferred_deliver _ _ _ _ _ _) (by cases callback <;> rfl))
  | @completeShutdown _ _ _ _ _ _ _ _ callback here =>
    exact .inl (taken here ((deferred_deliver _ _ _ _ _ _).trans (by simp))
      (by cases callback <;> rfl))
  | readNothing here _ _ _ read | readData here _ _ _ read =>
    obtain rfl := congrArg Prod.snd read
    exact .inl (same rfl (by simp [ofTick, Frame.deferrals, Stage.deferrals, here]))
  | readEof here _ _ _ read | readFailed here _ _ _ read =>
    obtain rfl := congrArg Prod.snd read
    exact .inl (same (by simp) (by simp [Frame.deferrals, Stage.deferrals, here]))

/-! ## Who is in line -/

variable {req : RequestId}

/-- A write that is pending is in line, unless it is due without the transport. -/
theorem Coupled.mem_line (c : m.Coupled) {data : List UInt8} {callback : Callback C}
    (pending : m.loop.requests.get? req = some (.write h data callback))
    (transported : ∀ d ∈ m.deferrals, d.names req = false) : req ∈ m.line h := by
  refine List.mem_filterMap.2 ?_
  have turned (outcome : Outcome) :
      (Completion.write req outcome).turn? m.loop.requests h = some req :=
    (Completion.turn?_of_pending pending outcome).1
  by_cases held : (m.loop.net.endpoint h).holds req = 0
  · have once : 0 + namings (m.loop.underway m.batches) req = 1 := held ▸ c.once pending
    obtain ⟨d, hd, names⟩ :=
      List.countP_pos_iff.1 (Nat.lt_of_lt_of_eq Nat.zero_lt_one (Nat.zero_add _ ▸ once).symm)
    obtain here | due := mem_underway_iff.1 hd
    · obtain ⟨outcome, rfl⟩ := (c.fits hd).write_of_names names pending
      exact ⟨_, List.mem_append_left _ here, turned outcome⟩
    · rw [transported d due] at names
      cases names
  · have released : namings (Memory.releaseHeld (m.loop.net.endpoint h) (.ok ())) req ≠ 0 := by
      rwa [Memory.namings_releaseHeld]
    obtain ⟨d, hd, names⟩ := List.countP_pos_iff.1 (Nat.pos_of_ne_zero released)
    obtain ⟨outcome, rfl⟩ := (Loop.Coupled.fits_of_released c hd).write_of_names names pending
    exact ⟨_, List.mem_append_right _ hd, turned outcome⟩

/-- What a tick takes fits the request that it names. -/
theorem Coupled.fits_reported (c : m.Coupled) {status : Outcome}
    (reported : m.reported? = some (req, status)) :
    ∃ t rest d stage, m.stack = .tick t :: rest ∧ m.control = .advance ∧
      t.stage.pop? = some (d, stage) ∧ d.report? = some (req, status) ∧ d.names req = true ∧
      d.Fits m.loop.requests := by
  unfold reported? at reported
  split at reported
  case h_1 t rest control stack =>
    obtain ⟨⟨d, stage⟩, here, report⟩ := Option.bind_eq_some_iff.1 reported
    refine ⟨t, rest, d, stage, stack, control, here, report,
      by simp [Completion.names, report], c.fits ?_⟩
    refine List.mem_append_right _ (List.mem_flatMap.2 ⟨.tick t, stack ▸ List.mem_cons_self, ?_⟩)
    rw [Frame.batch, Stage.batch_of_pop? here]
    exact List.mem_cons_self
  case h_2 => cases reported

/-- What a tick takes is the first in line of the handle on which it has a turn, unless it was due
without the transport. -/
theorem Coupled.first (c : m.Coupled) {status : Outcome}
    (reported : m.reported? = some (req, status))
    (transported : ∀ d ∈ m.deferrals, d.names req = false) :
    ∃ d : Completion, d.report? = some (req, status) ∧ d.names req = true ∧ d.Fits m.loop.requests ∧
      ∀ h, d.turn? m.loop.requests h = some req → ∃ rest, m.line h = req :: rest := by
  obtain ⟨t, below, d, stage, stack, control, here, report, names, fits⟩ := c.fits_reported reported
  refine ⟨d, report, names, fits, fun h turn => ?_⟩
  obtain ⟨l, _, _⟩ := m
  obtain rfl : _ = _ := stack
  obtain rfl : _ = _ := control
  obtain first | ⟨due, -⟩ := reports_of_pop? l below here
  · rw [line, Loop.line, Loop.lineup, first]
    exact ⟨_, by rw [List.cons_append, List.cons_append, List.filterMap_cons, turn]⟩
  · rw [transported d due] at names
    cases names

end Machine

end Reactor
