import Reactor.Proofs.Completion
import Reactor.Proofs.Memory.Steps

/-!
# What a tick takes from a transport in memory

Completions move one way: from the transport to the batch of a tick, and out of the batch when the
request that they name leaves the table. So a request whose completion is there when a program
starts a tick has left the table when the tick returns.
-/

namespace Reactor

variable {S N C : Type}

namespace Loop

variable {l l' : Loop (Memory.host S N C)} {h : HandleId}

/-- The end of a read session finishes nothing. -/
theorem finished_endReading (l : Loop (Memory.host S N C)) (h : HandleId) (next : ReadState) :
    (l.endReading Memory.transport h next).net.finished = l.net.finished := by
  unfold endReading
  split
  case h_1 => rfl
  case h_2 x found =>
    simp only
    split
    case isTrue => simp [Memory.transport, Memory.setReading]
    case isFalse => rfl

/-- Of a handle that is closed the transport lets go once its reading has ended. -/
theorem net_retire (l : Loop (Memory.host S N C)) (h : HandleId) (onClose : C) :
    (l.retire Memory.transport h onClose).net =
      (Memory.close h (l.endReading Memory.transport h .stopped).net).net := by
  simp only [retire, markClosing_frame, modifyHandle_frame, ask_frame, endListening_frame]
  rfl

/-- An operation finishes requests only, and takes back nothing that has finished. -/
theorem Effect.finished {o : Operation (Memory.host S N C).Closure} {a : o.Answer}
    (effect : Effect Memory.transport l o a l') :
    ∃ done, l'.net.finished.toList = l.net.finished.toList ++ done ∧
      ∀ d ∈ done, d.report?.isSome = true := by
  have same {m m' : Memory} (heq : m'.finished = m.finished) :
      ∃ done, m'.finished.toList = m.finished.toList ++ done ∧
        ∀ d ∈ done, d.report?.isSome = true :=
    ⟨[], by rw [heq, List.append_nil], by simp⟩
  cases effect with
  | refused | newHandle | on | refuseAdopt | adopt | refuseBind | bind | markedReadStart
    | refuseReadStart | readStart | noBuffer | bufferWrite | noKept | keptWrite => exact same rfl
  | refuseAccept | accept => exact same (Memory.accept_like _ _).1
  | readStop => exact same (finished_endReading _ _ _)
  | @write h x data =>
    obtain ⟨_, _, finished, _⟩ | ⟨_, finished, _⟩ | ⟨outcome, _, finished, _⟩ :=
      Memory.write_cases l.requests.next h data l.net
    · exact same finished
    · exact same finished
    · exact ⟨_, finished, by simp [Completion.report?]⟩
  | @shutdown h =>
    obtain ⟨-, -, ⟨status, finished, -⟩ | ⟨finished, -⟩ | ⟨finished, -⟩⟩ :=
      Memory.shutdown_cases l.requests.next h l.net
    · exact ⟨_, finished, by simp [Completion.report?]⟩
    · exact ⟨_, finished, by simp [Completion.report?]⟩
    · exact ⟨[], finished.trans (List.append_nil _).symm, by simp⟩
  | @refuseConnect h x address =>
    obtain ⟨outcome, -, finished, -⟩ := Memory.connect_cases l.requests.next h address l.net
    exact ⟨_, finished, by simp [Completion.report?]⟩
  | @connect h x address =>
    obtain ⟨outcome, -, finished, -⟩ := Memory.connect_cases l.requests.next h address l.net
    exact ⟨_, finished, by simp [Completion.report?]⟩
  | @close h x onClose =>
    rw [net_retire, (Memory.close_eq h _).1, finished_endReading]
    refine ⟨_, rfl, fun d hd => ?_⟩
    obtain ⟨p, -, rfl⟩ | ⟨req, -, rfl⟩ := Memory.mem_releaseHeld.1 hd <;> rfl
  | stop same' | forgetWake same' => exact same (by rw [same'.net])

/-- All that an operation finishes names a request. -/
theorem finished_issue (l : Loop (Memory.host S N C)) (o : Operation (Memory.host S N C).Closure) :
    ∃ done, (l.issue Memory.transport o).2.net.finished.toList = l.net.finished.toList ++ done ∧
      ∀ d ∈ done, d.report?.isSome = true := by
  obtain ⟨l₀, l₁, before, effect, after⟩ := issues_issue Memory.transport l o
  rw [← before.net, after.net]
  exact effect.finished

end Loop

namespace Machine

variable {enter : Handlers (Memory.host S N C)} {l : Loop (Memory.host S N C)}
  {stack : List (Frame (Memory.host S N C))} {x y : Machine (Memory.host S N C)} {req : RequestId}

/-- What a callback is told changes neither the transport nor the batches. -/
theorem deliver_frame {req' : RequestId} {h : HandleId} {callback : Callback C}
    {outcome : RequestOutcome} :
    (deliver l stack req' h callback outcome).loop.net = l.net ∧
      (deliver l stack req' h callback outcome).loop.requests = l.requests ∧
      (deliver l stack req' h callback outcome).batches = stack.flatMap Frame.batch := by
  cases callback with
  | closure => exact ⟨rfl, rfl, rfl⟩
  | promise => exact ⟨by simp [deliver], by simp [deliver], rfl⟩

/-- How often a request is named by what the transport has finished. -/
def finishedFor (m : Machine (Memory.host S N C)) (req : RequestId) : Nat :=
  namings m.loop.net.finished.toList req

/-- How often a request is named in the batches of ticks. -/
def batchedFor (m : Machine (Memory.host S N C)) (req : RequestId) : Nat := namings m.batches req

/-- No completion that names a request leaves the batches, and none gets back to the transport or is
lost on the way. -/
def Gathers (req : RequestId) (x y : Machine (Memory.host S N C)) : Prop :=
  x.batchedFor req ≤ y.batchedFor req ∧ x.finishedFor req + x.batchedFor req ≤
    y.finishedFor req + y.batchedFor req

/-- The transport finishes more, and the batches stay as they are. -/
theorem gathers_of_finished (batches : y.batches = x.batches)
    (finished : x.loop.net.finished.toList <+: y.loop.net.finished.toList) : x.Gathers req y := by
  have more : x.finishedFor req ≤ y.finishedFor req := finished.sublist.countP_le
  rw [Gathers, batchedFor, batchedFor, batches]
  exact ⟨Nat.le_refl _, Nat.add_le_add_right more _⟩

/-- Nothing of this moves. -/
theorem gathers_of_eq (batches : y.batches = x.batches)
    (finished : y.loop.net.finished = x.loop.net.finished) :
    x.Gathers req y :=
  gathers_of_finished batches (by simp [finished])

/-- A tick takes a completion whose request, if it has one, is not in the table afterwards. -/
theorem gathers_of_take {t : Tick} {d : Completion} {stage : Stage}
    (here : t.stage.pop? = some (d, stage)) (before : x.stack = .tick t :: stack)
    (after : y.batches = (Frame.tick { t with stage } :: stack).flatMap Frame.batch)
    (net : y.loop.net = x.loop.net)
    (left : ∀ req' status, d.report? = some (req', status) → y.loop.requests.get? req' = none)
    (pending : y.loop.requests.get? req ≠ none) : x.Gathers req y := by
  have other : d.names req = false := by
    refine Bool.eq_false_iff.2 fun names => pending ?_
    obtain ⟨⟨req', status⟩, report, named⟩ := (Option.any_eq_true _ _).1 names
    rw [← of_decide_eq_true named]
    exact left req' status report
  have batches : y.batchedFor req = x.batchedFor req := by
    rw [batchedFor, after, batchedFor, Machine.batches, before]
    simp [Frame.batch, Stage.batch_of_pop? here, namings_cons, other]
  rw [Gathers, batches, finishedFor, finishedFor, net]
  exact ⟨Nat.le_refl _, Nat.le_refl _⟩

/-- As long as a request is pending, the completions that name it gather in the batches of ticks. -/
theorem Rule.gathers (rule : Rule Memory.transport enter x y)
    (pending : y.loop.requests.get? req ≠ none) :
    x.Gathers req y := by
  have removed {requests : Registry (Request C)} {d : Completion} {req' : RequestId}
      {status : Outcome} (report : d.report? = some (req', status)) (req'' : RequestId)
      (status' : Outcome) (report' : d.report? = some (req'', status')) :
      (requests.remove req').get? req'' = none := by
    cases report.symm.trans report'
    rw [Registry.get?_remove, if_pos rfl]
  cases rule with
  | finish | ask | survey | recallShared | note | update | enter | emit | nextListener | endEmission
    | beginParting | skipParting | endLoan | endParting | ticked | runFailed | pollFailed | endRun
    | endPoll | endListen | failListen =>
    exact gathers_of_eq rfl rfl
  | @issue l stack o =>
    obtain ⟨done, finished, -⟩ := Loop.finished_issue l o
    exact gathers_of_finished rfl ⟨done, finished.symm⟩
  | refuseListen begun =>
    obtain rfl | rfl := Loop.effect_of_refused_beginListen begun
    · exact gathers_of_eq rfl rfl
    · exact gathers_of_eq rfl (Memory.listen_like _ _ _).1
  | beginListen begun =>
    obtain ⟨_, -, -, -, -, agrees⟩ := Loop.effect_of_beginListen begun
    refine gathers_of_eq rfl ?_
    rw [agrees.net]
    exact (Memory.listen_like _ _ _).1
  | @tick l stack | @runLoop l stack | @poll l stack | @runAgain l stack =>
    have more : namings (stack.flatMap Frame.batch) req ≤
        namings (l.deferred ++ stack.flatMap Frame.batch) req := by
      rw [namings_append]
      exact Nat.le_add_left _ _
    exact ⟨more, Nat.add_le_add_left more _⟩
  | @script l stack s =>
    obtain ⟨-, finished, -⟩ | ⟨done, finished, -⟩ := Memory.perform_cases s l.net
    · exact gathers_of_finished rfl ⟨_, finished.symm⟩
    · exact gathers_of_finished rfl ⟨_, finished.symm⟩
  | endDelivery | endConnect => exact gathers_of_eq rfl (by simp)
  | pausePoll => exact gathers_of_eq rfl (by split <;> rfl)
  | noteResult => exact gathers_of_eq (by simp [batches, ofTick, Frame.batch, Tick.batch_note]) rfl
  | @collect l stack t here =>
    have before : batchedFor ⟨l, .tick t :: stack, .advance⟩ req =
        namings (stack.flatMap Frame.batch) req := by
      simp [batchedFor, batches, Frame.batch, here, Stage.batch]
    have after : batchedFor (ofTick stack (l.beginCompletions Memory.transport t).1
        (l.beginCompletions Memory.transport t).2) req =
        namings l.net.finished.toList req + namings (stack.flatMap Frame.batch) req :=
          namings_append _ _ _
    have left : finishedFor (ofTick stack (l.beginCompletions Memory.transport t).1
        (l.beginCompletions Memory.transport t).2) req = 0 := rfl
    rw [Gathers, before, after, left, finishedFor]
    exact ⟨Nat.le_add_left _ _, Nat.le_of_eq (Nat.zero_add _).symm⟩
  | firstPass here | nextPass here | beginReclaims here | endTick here | skipRead here
    | refuseRead here | skipReclaim here | breach here | reclaim here =>
    exact gathers_of_eq
      (by simp [batches, Frame.batch, Stage.batch, here, ofTick, Loop.beginPass, Loop.beginReclaims,
      Tick.record, Tick.abandonReads]) rfl
  | skipReport here report gone =>
    refine gathers_of_take here rfl rfl rfl (fun req' status report' => ?_) pending
    cases report.symm.trans report'
    exact gone
  | connection here | dropConnection here =>
    exact gathers_of_take here rfl rfl rfl (fun _ _ report => by cases report) pending
  | completeWrite here report =>
    obtain ⟨net, requests, batches⟩ := deliver_frame
    refine gathers_of_take here rfl batches net (fun req' status report' => ?_) pending
    rw [requests]
    exact removed report req' status report'
  | completeShutdown here report =>
    obtain ⟨net, requests, batches⟩ := deliver_frame
    refine gathers_of_take here rfl batches (net.trans (by simp))
      (fun req' status report' => ?_) pending
    rw [requests, (settleShutdown_frame _ _ _).2.2.1]
    exact removed report req' status report'
  | completeConnect here report | failConnect here report =>
    exact gathers_of_take here rfl rfl rfl (removed report) pending
  | dropConnect here report =>
    refine gathers_of_take here rfl rfl (by simp) (fun req' status report' => ?_) pending
    rw [(Loop.release_frame _ _).2.2.1]
    exact removed report req' status report'
  | readNothing here _ _ _ read =>
    obtain rfl := congrArg Prod.snd read
    refine gathers_of_eq ?_ (Memory.read_like _ _ _ _).1
    simp [batches, Frame.batch, Stage.batch, here, ofTick]
  | readData here _ _ _ read =>
    obtain rfl := congrArg Prod.snd read
    refine gathers_of_eq ?_ (Memory.read_like _ _ _ _).1
    simp [batches, Frame.batch, Stage.batch, here]
  | readEof here _ _ _ read =>
    obtain rfl := congrArg Prod.snd read
    refine gathers_of_eq ?_ ((Loop.finished_endReading _ _ _).trans (Memory.read_like _ _ _ _).1)
    simp [batches, Frame.batch, Stage.batch, here]
  | readFailed here _ _ _ read =>
    obtain rfl := congrArg Prod.snd read
    refine gathers_of_eq ?_ ((Loop.finished_endReading _ _ _).trans (Memory.read_like _ _ _ _).1)
    simp [batches, Frame.batch, Stage.batch, here]

/-! ## A tick that a program waits for -/

/-- The completion that a request waits for is still ahead of a tick in this stage. -/
def Ahead (m : Machine (Memory.host S N C)) (req : RequestId) : Stage → Prop
  | .deferred _ => 0 < m.finishedFor req + m.batchedFor req
  | .completions _ => 0 < m.batchedFor req
  | .reads .. | .reclaims _ => False

/-- What is still ahead of a tick stays ahead of it where nothing that names
the request gets away. -/
theorem Ahead.gathers {s : Stage} (ahead : x.Ahead req s) (gathers : x.Gathers req y) :
    y.Ahead req s := by
  cases s with
  | deferred => exact Nat.lt_of_lt_of_le ahead gathers.2
  | completions => exact Nat.lt_of_lt_of_le ahead gathers.1
  | reads | reclaims => exact ahead

/-- What was still ahead of a tick is so after it took another completion. -/
theorem Ahead.pop? {s s' : Stage} {d : Completion} (ahead : x.Ahead req s)
    (here : s.pop? = some (d, s')) :
    x.Ahead req s' := by
  obtain ⟨batch, ⟨rfl, rfl⟩ | ⟨rfl, rfl⟩⟩ := Stage.eq_of_pop? here
  · exact ahead
  · exact ahead

/-- What was still ahead of a tick is so after it noted a failure. -/
theorem Ahead.note {t : Tick} (ahead : x.Ahead req t.stage) (failure : Option ListenerError) :
    x.Ahead req (t.note failure).stage := by
  obtain same | ⟨_, _, _, before, after⟩ := t.stage_note failure
  · rwa [same]
  · rw [before] at ahead
    rw [after]
    exact ahead

/-- A tick that a program waits for is in progress, and the completions of all requests
below a number that are still pending are ahead of it; or it has just ended, and none of
these requests is pending. -/
inductive Serves (number : RequestId) (next : Except LoopError Bool → Program (Memory.host S N C))
    (m : Machine (Memory.host S N C)) : Prop where
  | ticking (above : List (Frame (Memory.host S N C))) (t : Tick)
    (stack : m.stack = above ++ [.tick t, .ticking next])
    (ahead : ∀ req < number, m.loop.requests.get? req ≠ none → m.Ahead req t.stage)
  | ended {result} (stack : m.stack = [.ticking next]) (control : m.control = .ticked result)
    (left : ∀ req < number, m.loop.requests.get? req = none)

/-- The program goes on with the result of the tick, and none of the requests
below a number is pending. -/
def Served (number : RequestId) (next : Except LoopError Bool → Program (Memory.host S N C))
    (m : Machine (Memory.host S N C)) : Prop :=
  m.stack = [] ∧ (∃ result, m.control = .run (next result)) ∧
    ∀ req < number, m.loop.requests.get? req = none

variable {number : RequestId} {next : Except LoopError Bool → Program (Memory.host S N C)}

/-- What the innermost tick does next brings it no further than the
completions that it has taken. -/
theorem Serves.top {t : Tick} (stack : x.stack = [.tick t, .ticking next])
    (ahead : ∀ req < number, y.loop.requests.get? req ≠ none → x.Ahead req t.stage)
    (rule : Rule Memory.transport enter x y) : y.Serves number next := by
  have gathers (req : RequestId) (pending : y.loop.requests.get? req ≠ none) : x.Gathers req y :=
    rule.gathers pending
  have goes (pushed : List (Frame (Memory.host S N C))) (t' : Tick)
      (after : y.stack = pushed ++ [.tick t', .ticking next])
      (same : ∀ req, x.Ahead req t.stage → x.Ahead req t'.stage) : y.Serves number next :=
    .ticking pushed t' after fun req known pending =>
      (same req (ahead req known pending)).gathers (gathers req pending)
  obtain ⟨l, _, control⟩ := x
  obtain rfl : _ = _ := stack
  cases rule with
  | finish | ask | issue | refuseListen | script | survey | note | recallShared | update | enter =>
    exact goes [] t rfl fun _ => id
  | beginListen | emit => exact goes [_] t rfl fun _ => id
  | tick | runLoop | poll => exact goes [_, _] t rfl fun _ => id
  | noteResult => exact goes [] _ rfl fun _ ahead => ahead.note _
  | collect here =>
    -- All that had finished is in the batch now.
    refine .ticking [] _ rfl fun req known pending => ?_
    have before := ahead req known pending
    rw [here] at before
    exact Nat.lt_of_lt_of_le before
      (Nat.le_trans (gathers req pending).2 (Nat.le_of_eq (Nat.zero_add _)))
  | firstPass here =>
    refine .ticking [] _ rfl fun req known pending => ?_
    have before := ahead req known pending
    rw [here] at before
    simp [Ahead, batchedFor, batches, Frame.batch, here, Stage.batch] at before
  | endTick here =>
    refine .ended rfl rfl fun req known => Decidable.byContradiction fun pending => ?_
    have before := ahead req known pending
    rw [here] at before
    exact before
  | skipReport here | dropConnect here | connection here | dropConnection here =>
    exact goes [] _ rfl fun _ ahead => ahead.pop? here
  | completeWrite here | completeShutdown here =>
    obtain ⟨pushed, after⟩ := suffix_deliver _ _ _ _ _ _
    exact goes pushed _ after.symm fun _ ahead => ahead.pop? here
  | completeConnect here | failConnect here => exact goes [_] _ rfl fun _ ahead => ahead.pop? here
  | nextPass here | beginReclaims here | skipRead here | refuseRead here | readNothing here
    | readEof here | readFailed here | skipReclaim here | breach here =>
    exact goes [] _ rfl fun _ ahead => by rw [here] at ahead; exact ahead
  | readData here | reclaim here =>
    exact goes [_] _ rfl fun _ ahead => by rw [here] at ahead; exact ahead

/-- A tick goes on, or its program goes on with its result. -/
theorem Serves.step (serves : x.Serves number next) (issued : number ≤ x.loop.requests.next)
    (rule : Rule Memory.transport enter x y) : y.Serves number next ∨ y.Served number next := by
  have waited (req : RequestId) (known : req < number) (pending : y.loop.requests.get? req ≠ none) :
      x.loop.requests.get? req ≠ none := fun gone => by
    obtain ⟨r, waiting⟩ := Option.ne_none_iff_exists'.1 pending
    rw [(traffic_of_rule rule).waited (Nat.lt_of_lt_of_le known issued) waiting] at gone
    cases gone
  cases serves with
  | ticking above t stack ahead =>
    have ahead (req : RequestId) (known : req < number)
        (pending : y.loop.requests.get? req ≠ none) :
        x.Ahead req t.stage := ahead req known (waited req known pending)
    cases above with
    | nil => exact .inl (.top stack ahead rule)
    | cons f above =>
      obtain ⟨pushed, after⟩ := rule.suffix_stack
      refine .inl (.ticking (pushed ++ above) t (by simp [← after, stack])
        fun req known pending => ?_)
      exact (ahead req known pending).gathers (rule.gathers pending)
  | ended stack control left =>
    refine .inr ?_
    have left (req : RequestId) (known : req < number) : y.loop.requests.get? req = none :=
      Decidable.byContradiction fun pending => waited req known pending (left req known)
    obtain ⟨l, _, _⟩ := x
    obtain rfl : _ = _ := stack
    obtain rfl : _ = _ := control
    cases rule with
    | ticked => exact ⟨rfl, ⟨_, rfl⟩, left⟩

/-- A program that waits for a tick goes on only when the tick has returned. -/
theorem Run.served {past : List (Machine (Memory.host S N C))}
    (run : Run Memory.transport enter x past y) (serves : x.Serves number next)
    (issued : number ≤ x.loop.requests.next) (busy : ∀ z ∈ past, z.stack ≠ []) :
    y.Serves number next ∨ y.Served number next := by
  induction run with
  | refl => exact .inl serves
  | @snoc past z y first taken ih =>
    have known := Nat.le_trans issued first.next_le
    have busy_last := busy z (by simp)
    obtain serves | served := ih fun w hw => busy w (List.mem_append_left _ hw)
    · cases taken with
      | step taken => exact serves.step known (rule_of_step? taken).2
      | resume p rest => exact (busy_last (atRest_iff.1 rest).2).elim
    · exact (busy_last served.1).elim

end Machine

end Reactor
