import Reactor.Proofs.Memory.Ledger
import Reactor.Proofs.Memory.Leftovers

/-!
# The outcomes of writes

An outcome is there from the moment at which the transport refuses, finishes or cancels the write.
It waits among what is due or has finished, then in the batch of a tick, until the tick takes it.
Each step of a machine does to the writes what one move of the ledger does.
-/

namespace Reactor

/-- The handle, the number and the data of a request that is a write. -/
def Request.write? {κ : Type} : RequestId × Request κ → Option (HandleId × RequestId × List UInt8)
  | (req, .write h data _) => some (h, req, data)
  | _ => none

/-- A completion that reports no request reports no write. -/
theorem Completion.written?_of_silent {c : Completion} (silent : c.report? = none) :
    c.written? = none := by
  cases c <;> first | rfl | cases silent

variable {S N C : Type}

/-! ## The transport -/

namespace Memory

variable {m : Memory} {h : HandleId} {req : RequestId} {data : List UInt8}

/-- Handing over completions holds no more writes back and lets none go. -/
@[simp] theorem holding_finish {α : Type} (answer : α) (done : List Completion) (m : Memory) :
    (finish answer done m).net.holding = m.holding := by
  unfold finish
  split <;> rfl

/-- What is released of the writes held back are their outcomes, in order. -/
theorem written?_releaseHeld (e : Endpoint) (outcome : Outcome) :
    (releaseHeld e outcome).filterMap Completion.written? = e.held.toList.map fun w =>
      (w.1, outcome) := by
  have slot : (e.heldShutdown.toList.map (Completion.shutdown · outcome)).filterMap
      Completion.written? = [] := by
    cases e.heldShutdown <;> rfl
  rw [releaseHeld, List.filterMap_append, slot, List.append_nil, List.filterMap_map,
    ← List.filterMap_eq_map]
  rfl

/-- A flush lets everything through that is held back anywhere. -/
theorem mem_written?_flushed {p : RequestId × Outcome} :
    p ∈ m.flushed.filterMap Completion.written? ↔
      ∃ k, ∃ w ∈ (m.endpoint k).held.toList, p = (w.1, .ok ()) := by
  have released (k : HandleId) (e : Endpoint) :
      p ∈ (releaseHeld e (.ok ())).filterMap Completion.written? ↔
      ∃ w ∈ e.held.toList, p = (w.1, .ok ()) := by
    rw [written?_releaseHeld, List.mem_map]
    simp only [eq_comm]
  rw [flushed, List.filterMap_flatMap, List.mem_flatMap]
  constructor
  · rintro ⟨⟨k, e⟩, he, hp⟩
    refine ⟨k, ?_⟩
    rw [endpoint, (SortedMap.mem_entries_iff _ k e).1 he]
    exact (released k e).1 hp
  · rintro ⟨k, w, hw, rfl⟩
    unfold endpoint at hw
    cases found : m.endpoints.get? k with
    | none =>
      rw [found] at hw
      cases hw
    | some e =>
      rw [found] at hw
      exact ⟨(k, e), (SortedMap.mem_entries_iff _ k e).2 found, (released k e).2 ⟨w, hw, rfl⟩⟩

/-- What a write does, with what finishes by it and the refusal that is due. -/
theorem writes_write (unfinished : ¬ (m.endpoint h).Over) (req : RequestId) (data : List UInt8) :
    ∃ done, (write req h data m).net.finished.toList = m.finished.toList ++ done ∧
      m.Writes (some (h, req, data))
        ((done ++ (Loop.refusalOf (.write req) (write req h data m).answer).toList).filterMap
        Completion.written?)
        (write req h data m).net := by
  unfold write
  split
  case h_1 status _ => exact ⟨[], (List.append_nil _).symm, .fail ⟨fun _ => .refl _, id⟩⟩
  case h_2 =>
    split
    case isTrue holds =>
      refine ⟨[], (List.append_nil _).symm, .hold unfinished holds (fun k hk => ?_) ?_⟩
      · rw [quiet_net, endpoint_update, if_neg hk]
      · rw [quiet_net, endpoint_update, if_pos rfl]
    case isFalse loose =>
      have loose := Bool.eq_false_iff.2 loose
      split
      case h_1 status _ =>
        refine ⟨_, finished_finish _ _ _, ?_⟩
        rw [finish_answer]
        refine .fail ?_
        apply Calm.finish
        exact ⟨fun _ => .refl _, id⟩
      case h_2 =>
        refine ⟨_, finished_finish _ _ _, ?_⟩
        rw [finish_answer]
        refine .send unfinished loose (fun k hk => ?_) ?_
        · rw [endpoint_finish, endpoint_update, if_neg hk]
        · rw [endpoint_finish, endpoint_update, if_pos rfl]

/-- What is closed cancels the writes that it holds back. -/
theorem writes_close {m' : Memory} (calm : m'.Calm m)
    (apart : ∀ k, ∀ w ∈ (m'.endpoint k).held.toList,
      ∀ w' ∈ (m'.endpoint h).held.toList, w.1 = w'.1 → k = h) :
    m'.Writes none ((releaseHeld (m.endpoint h) (.error .ecanceled)).filterMap Completion.written?)
      (close h m).net := by
  have here := ((close_eq h m).2 h).trans (if_pos rfl)
  have brings (p : RequestId × Outcome) :
      p ∈ (releaseHeld (m.endpoint h) (.error .ecanceled)).filterMap Completion.written? ↔
      ∃ w ∈ (m'.endpoint h).held.toList, p = (w.1, .error .ecanceled) := by
    rw [written?_releaseHeld, (calm.endpoint h).held, List.mem_map]
    simp only [eq_comm]
  refine .cancel (fun holding => ?_) (fun k hk => ?_) ?_ ?_ ?_ apart brings
  · rw [close, holding_finish]
    exact calm.holding holding
  · rw [(close_eq h m).2, if_neg hk]
    exact calm.endpoint k
  · rw [here]
    exact (calm.endpoint h).sent
  · rw [here]
    rfl
  · rw [here]

end Memory

/-! ## Operations -/

namespace Loop

variable {l l' : Loop (Memory.host S N C)} {issue : Option (HandleId × RequestId × List UInt8)}
  {batches : List Completion}

/-- The outcomes of writes that no tick has taken up yet. -/
def outcomes (l : Loop (Memory.host S N C)) : Outcomes :=
  (l.net.finished.toList ++ l.deferred).filterMap Completion.written?

/-- The outcomes that are there, and what the endpoints have, change as in one move. -/
def Posts (l : Loop (Memory.host S N C)) (issue : Option (HandleId × RequestId × List UInt8))
    (l' : Loop (Memory.host S N C)) : Prop :=
  ∃ new, (∀ p, p ∈ l'.outcomes ↔ p ∈ new ∨ p ∈ l.outcomes) ∧ l.net.Writes issue new l'.net

/-- A move of the transport whose outcomes are finished or due posts them. -/
theorem Posts.of_writes (done due : List Completion)
    (finished : l'.net.finished.toList = l.net.finished.toList ++ done)
    (deferred : l'.deferred = l.deferred ++ due)
    (moves : l.net.Writes issue ((done ++ due).filterMap Completion.written?) l'.net) :
    l.Posts issue l' := by
  refine ⟨_, fun p => ?_, moves⟩
  simp only [outcomes, finished, deferred, List.filterMap_append, List.mem_append]
  grind

/-- Nothing is written, and what finishes is no write. -/
theorem Posts.of_calm {done : List Completion} (calm : l.net.Calm l'.net)
    (finished : l'.net.finished.toList = l.net.finished.toList ++ done)
    (silent : done.filterMap Completion.written? = []) (deferred : l'.deferred = l.deferred) :
    l.Posts none l' := by
  refine .of_writes done [] finished (by rw [deferred, List.append_nil]) ?_
  rw [List.append_nil, silent]
  exact .still calm

/-- Nothing is written, and nothing finishes. -/
theorem Posts.of_quiet (calm : l.net.Calm l'.net) (finished : l'.net.finished = l.net.finished)
    (deferred : l'.deferred = l.deferred) : l.Posts none l' :=
  .of_calm calm (by rw [finished, List.append_nil]) rfl deferred

/-- The end of a read session is calm. -/
theorem calm_endReading (l : Loop (Memory.host S N C)) (h : HandleId) (next : ReadState) :
    l.net.Calm (l.endReading Memory.transport h next).net := by
  unfold endReading
  split
  case h_1 => exact .refl _
  case h_2 =>
    simp only
    split
    case isTrue =>
      rw [(release_frame _ _).2.2.2.2.1]
      exact .setReading false
    case isFalse => exact .refl _

/-- What an operation does to the writes. -/
theorem Effect.posts {o : Operation (Memory.host S N C).Closure} {a : o.Answer}
    {queued : List Completion} (c : l.Coupled queued) (effect : Effect Memory.transport l o a l') :
    l.Posts ((o.issued? a).bind Request.write?) l' := by
  have unfinished {h : HandleId} {x : Handle C} (found : l.handles.get? h = some x)
      (connected : x.state = .connected) (unmarked : x.closing = false) :
      ¬ (l.net.endpoint h).Over := by
    have unshut := c.unshut found (by rw [connected]; rfl)
    simp [Endpoint.Over, unshut, c.unclosed found unmarked]
  cases effect with
  | refused failed =>
    rw [Operation.issued?_of_failure? failed]
    exact .of_quiet (.refl _) rfl rfl
  | newHandle | on | refuseAdopt | adopt | markedReadStart | noBuffer | bufferWrite | noKept
      | keptWrite =>
    exact .of_quiet (.refl _) rfl rfl
  | refuseAccept | accept => exact .of_quiet .accept (Memory.accept_like _ _).1 rfl
  | refuseBind | bind => exact .of_quiet (.bind _) rfl rfl
  | refuseReadStart | readStart => exact .of_quiet (.setReading true) rfl rfl
  | readStop => exact .of_quiet (calm_endReading _ _ _) (finished_endReading _ _ _) (by simp)
  | write found connected unmarked =>
    obtain ⟨done, finished, moves⟩ := Memory.writes_write (unfinished found connected unmarked) _ _
    exact .of_writes done _ finished rfl moves
  | @shutdown h x callback =>
    obtain ⟨answer, -, outcome⟩ := Memory.shutdown_cases l.requests.next h l.net
    have answered : (Memory.transport.shutdown l.requests.next h l.net).answer = .ok () := answer
    have deferred : l.deferred ++ (refusalOf (.shutdown l.requests.next)
        (Memory.transport.shutdown l.requests.next h l.net).answer).toList = l.deferred := by
      rw [answered]
      exact List.append_nil _
    obtain ⟨_, finished, -⟩ | ⟨finished, -⟩ | ⟨finished, -⟩ := outcome
    · exact .of_calm (.shutdown _) finished rfl deferred
    · exact .of_calm (.shutdown _) finished rfl deferred
    · exact .of_calm (.shutdown _) (finished.trans (List.append_nil _).symm) rfl deferred
  | @refuseConnect h x address =>
    obtain ⟨_, -, finished, -⟩ := Memory.connect_cases l.requests.next h address l.net
    exact .of_calm (.connect _ _) finished rfl rfl
  | @connect h x address =>
    obtain ⟨_, -, finished, -⟩ := Memory.connect_cases l.requests.next h address l.net
    exact .of_calm (.connect _ _) finished rfl (List.append_nil _)
  | @close h x onClose =>
    have calm := calm_endReading l h .stopped
    have moves := Memory.writes_close (h := h) calm fun k w hw w' hw' same => by
      obtain ⟨_, pending⟩ := c.held hw
      obtain ⟨_, pending'⟩ := c.held hw'
      rw [same] at pending
      exact (Request.write.inj (Option.some.inj (pending.symm.trans pending'))).1
    refine .of_writes
      (Memory.releaseHeld ((l.endReading Memory.transport h .stopped).net.endpoint h)
        (.error .ecanceled)) []
      ?_ (by simp) ?_
    · rw [net_retire, (Memory.close_eq h _).1, finished_endReading]
    · rw [net_retire, List.append_nil]
      exact moves
  | stop same => exact .of_quiet (by rw [same.net]; exact .refl _) (by rw [same.net]) same.deferred
  | forgetWake same =>
    exact .of_quiet (by rw [same.net]; exact .refl _) (by rw [same.net]) same.deferred

/-- Every operation posts the outcomes that it brings. -/
theorem posts_issue {batches : List Completion} (c : l.Coupled (l.underway batches))
    (o : Operation (Memory.host S N C).Closure) :
    l.Posts ((o.issued? (l.issue Memory.transport o).1).bind Request.write?)
      (l.issue Memory.transport o).2 := by
  obtain ⟨l₀, l₁, before, effect, after⟩ := issues_issue Memory.transport l o
  obtain ⟨new, outcomes, moves⟩ := effect.posts (c.agrees before)
  refine ⟨new, fun p => ?_, ?_⟩
  · have arrived := outcomes p
    simp only [Loop.outcomes] at arrived ⊢
    rwa [before.net, before.deferred, ← after.net, ← after.deferred] at arrived
  · rwa [before.net, ← after.net] at moves

/-- What a script does to the writes. -/
theorem posts_perform (l : Loop (Memory.host S N C)) (s : Memory.Script) :
    l.Posts none (l.ask (Memory.transport.perform s)).2 := by
  by_cases flushes : s = .flushWrites
  · subst flushes
    refine .of_writes l.net.flushed [] (Memory.finished_finish _ _ _) (List.append_nil _).symm ?_
    rw [List.append_nil]
    exact .flush (Memory.endpoint_perform_flushWrites l.net) fun _ => Memory.mem_written?_flushed
  · obtain ⟨flush, -⟩ | ⟨done, finished, silent, -⟩ := Memory.perform_cases s l.net
    · exact (flushes flush).elim
    · refine .of_calm (.perform flushes) finished (List.filterMap_eq_nil_iff.2 fun d hd => ?_) rfl
      exact Completion.written?_of_silent (silent d hd)

end Loop

/-! ## Steps -/

namespace Machine

variable {enter : Handlers (Memory.host S N C)} {x y m : Machine (Memory.host S N C)}
  {l l' : Loop (Memory.host S N C)} {stack : List (Frame (Memory.host S N C))}

/-- The write that the next step issues, if it issues one. -/
def wrote? (m : Machine (Memory.host S N C)) : Option (HandleId × RequestId × List UInt8) :=
  (m.issued? Memory.transport).bind Request.write?

/-- The outcome of a write that the next step takes from the batch of a tick, if it takes one. -/
def taken? (m : Machine (Memory.host S N C)) : Option (RequestId × Outcome) :=
  match m.control, m.stack with
  | .advance, .tick t :: _ => t.stage.pop?.bind fun (c, _) => c.written?
  | _, _ => none

/-- The outcomes of writes that no tick has taken yet. -/
def queued (m : Machine (Memory.host S N C)) : Outcomes :=
  m.loop.outcomes ++ m.batches.filterMap Completion.written?

/-- What a step does to the writes is what one move does. An outcome that is taken leaves the queue,
and no other does. -/
def Records (x y : Machine (Memory.host S N C)) : Prop :=
  ∃ new, (∀ p, p ∈ x.taken?.toList ∨ p ∈ y.queued ↔ p ∈ new ∨ p ∈ x.queued) ∧
    x.loop.net.Writes x.wrote? new y.loop.net

/-- The batches stay as they are. -/
theorem Records.of_posts (posts : x.loop.Posts x.wrote? y.loop) (batches : y.batches = x.batches)
    (taken : x.taken? = none) :
    x.Records y := by
  obtain ⟨new, outcomes, moves⟩ := posts
  refine ⟨new, fun p => ?_, moves⟩
  simp [queued, taken, batches, outcomes, or_assoc]

/-- Nothing is written, and the queue stays as it is. -/
theorem Records.of_quiet (calm : x.loop.net.Calm y.loop.net)
    (finished : y.loop.net.finished = x.loop.net.finished)
    (deferred : y.loop.deferred = x.loop.deferred) (batches : y.batches = x.batches)
    (taken : x.taken? = none) (unissued : x.wrote? = none) : x.Records y := by
  refine .of_posts ?_ batches taken
  rw [unissued]
  exact .of_quiet calm finished deferred

/-- A step that neither issues nor takes, with the same outcomes there, records nothing. -/
theorem Records.of_eq (net : y.loop.net = x.loop.net) (deferred : y.loop.deferred = x.loop.deferred)
    (batches : y.batches = x.batches) (taken : x.taken? = none) (unissued : x.wrote? = none) :
    x.Records y :=
  .of_quiet (by rw [net]; exact .refl _) (by rw [net]) deferred batches taken unissued

/-- A tick takes a completion. -/
theorem Records.of_take {t : Tick} {d : Completion} {stage : Stage}
    (here : t.stage.pop? = some (d, stage))
    (after : y.batches = (Frame.tick { t with stage } :: stack).flatMap Frame.batch)
    (net : y.loop.net = l.net) (deferred : y.loop.deferred = l.deferred) :
    Records ⟨l, .tick t :: stack, .advance⟩ y := by
  refine ⟨[], fun p => ?_, ?_⟩
  · have taken : taken? ⟨l, .tick t :: stack, .advance⟩ = d.written? := by simp [taken?, here]
    have before : batches ⟨l, .tick t :: stack, .advance⟩ = d :: y.batches := by
      rw [after]
      simp [batches, Frame.batch, Stage.batch_of_pop? here]
    simp only [queued, Loop.outcomes, taken, before, net, deferred, List.mem_append,
      List.filterMap_cons]
    cases d.written? with
    | none => simp
    | some => simp; grind
  · rw [net]
    exact .still (.refl _)

/-- The results that are due are handed to a tick. -/
theorem Records.of_beginTick {base : List (Frame (Memory.host S N C))} {w : Waker}
    (net : l.net = x.loop.net) (deferred : l.deferred = x.loop.deferred)
    (batches : base.flatMap Frame.batch = x.batches) (taken : x.taken? = none)
    (unissued : x.wrote? = none) : x.Records (beginTick base l w) := by
  refine ⟨[], fun p => ?_, ?_⟩
  · simp [queued, Loop.outcomes, Machine.batches, beginTick, ofTick, Loop.beginTick, Frame.batch,
      Stage.batch, taken, net, deferred, batches]
  · rw [unissued, show (beginTick base l w).loop.net = x.loop.net from net]
    exact .still (.refl _)

/-- Telling an outcome defers none. -/
theorem deferred_deliver (l : Loop (Memory.host S N C)) (stack : List (Frame (Memory.host S N C)))
    (req : RequestId) (h : HandleId) (callback : Callback C) (outcome : RequestOutcome) :
    (deliver l stack req h callback outcome).loop.deferred = l.deferred := by
  cases callback with
  | closure => rfl
  | promise => simp [deliver]

/-- What each rule does to the writes. -/
theorem Rule.records (c : x.Coupled) (rule : Rule Memory.transport enter x y) : x.Records y := by
  cases rule with
  | finish | ask | survey | recallShared | enter | emit | nextListener | endEmission | beginParting
    | skipParting | ticked | runFailed | pollFailed | note | update | endParting | endRun | endPoll
    | endLoan | endListen | failListen =>
    exact .of_eq rfl rfl rfl rfl rfl
  | issue => exact .of_posts (Loop.posts_issue c _) rfl rfl
  | script => exact .of_posts (Loop.posts_perform _ _) rfl rfl
  | refuseListen begun =>
    obtain rfl | rfl := Loop.effect_of_refused_beginListen begun
    · exact .of_eq rfl rfl rfl rfl rfl
    · exact .of_quiet (.listen _) (Memory.listen_like _ _ _).1 rfl rfl rfl rfl
  | beginListen begun =>
    obtain ⟨_, -, -, -, -, agrees⟩ := Loop.effect_of_beginListen begun
    refine .of_quiet ?_ ?_ agrees.deferred rfl rfl rfl
    · rw [agrees.net]
      exact .listen _
    · rw [agrees.net]
      exact (Memory.listen_like _ _ _).1
  | tick | runLoop | poll | runAgain => exact .of_beginTick rfl rfl rfl rfl rfl
  | endDelivery | endConnect => exact .of_eq (by simp) (by simp) rfl rfl rfl
  | pausePoll => exact .of_eq (by split <;> rfl) (by split <;> rfl) rfl rfl rfl
  | noteResult =>
    exact .of_eq rfl rfl (by simp [batches, ofTick, Frame.batch, Tick.batch_note]) rfl rfl
  | @collect l stack t here =>
    refine ⟨[], fun p => ?_, .still ⟨fun _ => .refl _, id⟩⟩
    have queued_before : queued ⟨l, .tick t :: stack, .advance⟩ =
        l.outcomes ++ (stack.flatMap Frame.batch).filterMap Completion.written? := by
      simp [queued, batches, Frame.batch, here, Stage.batch]
    have queued_after : queued (ofTick stack (l.beginCompletions Memory.transport t).1
        (l.beginCompletions Memory.transport t).2) =
        l.deferred.filterMap Completion.written? ++
          (l.net.finished.toList ++ stack.flatMap Frame.batch).filterMap Completion.written? := rfl
    simp only [queued_before, queued_after, taken?, here, Stage.pop?, Loop.outcomes,
      List.filterMap_append, List.mem_append]
    simp
    grind
  | firstPass here | nextPass here | beginReclaims here | endTick here | skipRead here
    | refuseRead here | skipReclaim here | breach here | reclaim here =>
    exact .of_eq rfl rfl
      (by simp [batches, Frame.batch, Stage.batch, here, ofTick, Loop.beginPass, Loop.beginReclaims,
      Tick.record, Tick.abandonReads]) (by simp [taken?, here, Stage.pop?]) rfl
  | skipReport here | connection here | dropConnection here | completeConnect here
      | failConnect here =>
    exact .of_take here rfl rfl rfl
  | dropConnect here => exact .of_take here rfl (by simp) (by simp)
  | completeWrite here =>
    obtain ⟨net, -, batches⟩ := deliver_frame
    exact .of_take here batches net (deferred_deliver _ _ _ _ _ _)
  | completeShutdown here =>
    obtain ⟨net, -, batches⟩ := deliver_frame
    exact .of_take here batches (net.trans (by simp))
      ((deferred_deliver _ _ _ _ _ _).trans (by simp))
  | readNothing here _ _ _ read | readData here _ _ _ read =>
    obtain rfl := congrArg Prod.snd read
    exact .of_quiet (.read _ _) (Memory.read_like _ _ _ _).1 rfl
      (by simp [batches, Frame.batch, Stage.batch, here, ofTick])
      (by simp [taken?, here, Stage.pop?]) rfl
  | readEof here _ _ _ read | readFailed here _ _ _ read =>
    obtain rfl := congrArg Prod.snd read
    refine .of_quiet ?_ ((Loop.finished_endReading _ _ _).trans (Memory.read_like _ _ _ _).1)
      (by simp) (by simp [batches, Frame.batch, Stage.batch, here])
      (by simp [taken?, here, Stage.pop?]) rfl
    refine Memory.Calm.trans ?_ (Loop.calm_endReading _ _ _)
    exact .read _ _

end Machine

end Reactor
