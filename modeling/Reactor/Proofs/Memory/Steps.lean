import Reactor.Proofs.Memory.Operations
import Reactor.Proofs.References

/-!
# Steps on a transport in memory

A machine is coupled when its loop is, with the completions in the batches of its suspended ticks
under way. Every step keeps it so.
-/

namespace Reactor

/-- The completions that are left in a stage. -/
def Stage.batch : Stage → List Completion
  | .deferred batch | .completions batch => batch
  | _ => []

/-- The completions that suspended work is still to take. -/
def Frame.batch {H : Host} : Frame H → List Completion
  | .tick t => t.stage.batch
  | _ => []

/-- What is left in a stage is what it takes next and the rest. -/
theorem Stage.batch_of_pop? {s s' : Stage} {d : Completion} (here : s.pop? = some (d, s')) :
    s.batch = d :: s'.batch := by
  obtain ⟨batch, ⟨rfl, rfl⟩ | ⟨rfl, rfl⟩⟩ := eq_of_pop? here
  · rfl
  · rfl

/-- Noting a failure leaves the batch of a tick. -/
theorem Tick.batch_note (t : Tick) (failure : Option ListenerError) :
    (t.note failure).stage.batch = t.stage.batch := by
  obtain same | ⟨_, _, _, before, after⟩ := t.stage_note failure
  · rw [same]
  · rw [before, after]
    rfl

variable {S N C : Type}

/-! ## Parts of a dispatch -/

namespace Loop.Coupled

variable {l l' : Loop (Memory.host S N C)} {batches queued : List Completion} {h : HandleId}
  {x : Handle C}

/-- A change that the coupling survives, and that leaves alone what is under way. -/
theorem still (c : l'.Coupled (l.underway batches)) (finished : l'.net.finished = l.net.finished)
    (deferred : l'.deferred = l.deferred) : l'.Coupled (l'.underway batches) := by
  rw [underway, finished, deferred, ← underway]
  exact c

/-- The sample of an outcome keeps a loop coupled. -/
theorem metered (c : l.Coupled queued) (h : HandleId) (op : StreamOp) (ok : Bool) :
    (l.meterAsync h op ok).Coupled queued :=
  c.unseen rfl rfl rfl

/-- Filling a buffer keeps a loop coupled. -/
theorem fillBuffer (c : l.Coupled (l.underway batches)) (buffer : ReadBuffer) (bytes : List UInt8) :
    (Machine.fillBuffer l h buffer bytes).Coupled
      ((Machine.fillBuffer l h buffer bytes).underway batches) :=
  c.modifyHandle fun _ => rfl

/-- Exposing a buffer keeps a loop coupled. -/
theorem expose (c : l.Coupled (l.underway batches)) (exposed : Bool) :
    (Machine.expose l h exposed).Coupled ((Machine.expose l h exposed).underway batches) :=
  c.modifyBuffer _

/-- The stream of a shutdown that is no longer pending goes on; it writes again
only if it is not shut. -/
theorem finishShutdown {state : StreamState} (c : l.Coupled queued)
    (found : l.handles.get? h = some x)
    (gone : ∀ req callback, l.requests.get? req ≠ some (.shutdown h callback))
    (shut : (l.net.endpoint h).shut = true → state.pastWriting = true) :
    (l.setState h state).Coupled queued := by
  have mirrors := c.mirrors h
  rw [found] at mirrors
  refine c.turn found (get?_modifyHandle_of_some found ({ · with state })) rfl rfl
    (fun _ _ => .refl _) ⟨rfl, rfl⟩
    ⟨mirrors.reading, ?_, fun shuts =>
      ⟨(mirrors.shut shuts).1, fun y hy => by cases hy; exact shut shuts⟩⟩
    (fun req callback pending => (gone _ _ pending).elim) fun req callback pending =>
      (gone _ _ pending).elim
  refine mirrors.closed.trans (and_congr_right fun _ => ?_)
  simp only [Option.some.injEq, forall_eq']

/-- The completion of a shutdown leaves with it, and the stream goes on as the outcome says. -/
theorem completeShutdown {d : Completion} {req : RequestId} {status : Outcome}
    {callback : Callback C} (c : l.Coupled (d :: queued)) (report : d.report? = some (req, status))
    (pending : l.requests.get? req = some (.shutdown h callback)) :
    (Machine.settleShutdown
      (({ l with requests := l.requests.remove req } : Loop (Memory.host S N C)).meterAsync h
      .shutdown (Machine.outcomeAt "after_shutdown" status).isOk) h
      (Machine.outcomeAt "after_shutdown" status).isOk).Coupled queued := by
  obtain rfl := (c.fits List.mem_cons_self).shutdown_of_report report pending
  have left := c.leave (decide_eq_true rfl) pending
  have gone (req' : RequestId) (callback' : Callback C) :
      (l.requests.remove req).get? req' ≠ some (.shutdown h callback') := fun there => by
    obtain ⟨other, there⟩ := Registry.get?_of_remove there
    exact other (c.single pending there)
  have metered := left.metered h .shutdown (Machine.outcomeAt "after_shutdown" status).isOk
  unfold Machine.settleShutdown
  split
  case h_1 x found =>
    split
    case isTrue shutting =>
      refine metered.finishShutdown found gone fun shuts => ?_
      cases status with
      | ok => rfl
      | error status =>
        have open_ := c.failing List.mem_cons_self pending found shutting
        cases open_.symm.trans shuts
    case isFalse => exact metered
  case h_2 => exact metered

/-- A pending connect leaves its handle in any state. -/
theorem finishConnect {state : StreamState} (c : l.Coupled queued)
    (connecting : Machine.hasState l h .connecting = true) :
    (l.setState h state).Coupled queued := by
  obtain ⟨x, found, hx⟩ := (Option.any_eq_true _ _).1 connecting
  have hx : x.state = .connecting := by simpa using hx
  refine c.setState _ found ?_
  rw [hx]
  rfl

/-- A call of `listen` that got as far as telling its listeners. -/
theorem beginListen {backlog : Option Nat} {closure : C} (c : l.Coupled (l.underway batches))
    (begun : l.beginListen Memory.transport h backlog closure = (.ok (), l')) :
    l'.Coupled (l'.underway batches) := by
  obtain ⟨x, found, idle, -, -, same⟩ := effect_of_beginListen begun
  have asked :=
    (c.ask (Memory.listen_like h (backlog.getD l.options.defaultBacklog) l.net)).modifyHandle
      (h := h) (f := .retain) fun _ => rfl
  have retained := (get?_modifyHandle_of_some found Handle.retain h).trans (if_pos rfl)
  have listens := asked.setState .listening retained (by
    rw [show x.retain.state = .idle from idle]
    rfl)
  let opened :=
    (((l.ask (Memory.transport.listen h (backlog.getD l.options.defaultBacklog))).2.modifyHandle h
    .retain ).modifyHandle h ({ · with listenRef := true, state := .listening })).addListener h
      .connection closure
  have opens : opened.Coupled (opened.underway batches) := by
    refine listens.keep (fun _ => .refl _) rfl rfl rfl (fun k => ?_) rfl
    refine (congrArg (Option.map Handle.view) (get?_modifyHandle_of_some retained _ k)).trans ?_
    refine Eq.trans ?_ (congrArg (Option.map Handle.view)
      (get?_modifyHandle_of_some retained _ k)).symm
    split <;> rfl
  exact opens.agrees same

/-- A listen that is refused keeps a loop coupled. -/
theorem refuseListen {backlog : Option Nat} {closure : C} {e : LoopError}
    (c : l.Coupled (l.underway batches))
    (begun : l.beginListen Memory.transport h backlog closure = (.error e, l')) :
    l'.Coupled (l'.underway batches) := by
  obtain rfl | rfl := effect_of_refused_beginListen begun
  · exact c
  · exact c.ask (Memory.listen_like _ _ _)

/-- The far side obeys a script. -/
theorem perform (c : l.Coupled (l.underway batches)) (s : Memory.Script) :
    (l.ask (Memory.transport.perform s)).2.Coupled
      ((l.ask (Memory.transport.perform s)).2.underway batches) := by
  obtain ⟨-, finished, endpoints⟩ | ⟨done, finished, silent, like⟩ := Memory.perform_cases s l.net
  · have flushed : (l.ask (Memory.transport.perform s)).2.Coupled
        (l.net.flushed ++ l.underway batches) :=
      c.flush endpoints rfl rfl
    exact flushed.perm (underway_of_finished finished rfl)
  · have moved : (l.ask (Memory.transport.perform s)).2.Coupled (l.underway batches) :=
      c.congr like rfl (fun _ => rfl) rfl
    have more : (l.ask (Memory.transport.perform s)).2.Coupled (done ++ l.underway batches) := by
      clear finished
      induction done with
      | nil => exact moved
      | cons d done ih =>
        exact (nameless (silent d List.mem_cons_self)).2
          (ih fun d' hd => silent d' (List.mem_cons_of_mem _ hd))
    exact more.perm (underway_of_finished finished rfl)

end Loop.Coupled

/-! ## Steps -/

namespace Machine

/-- The completions in the batches of suspended ticks. -/
def batches {H : Host} (m : Machine H) : List Completion := m.stack.flatMap Frame.batch

/-- The loop of a machine and its transport agree, with the completions in the
batches of ticks under way. -/
def Coupled (m : Machine (Memory.host S N C)) : Prop := m.loop.Coupled (m.loop.underway m.batches)

namespace Coupled

variable {enter : Handlers (Memory.host S N C)} {l l' : Loop (Memory.host S N C)}
  {stack : List (Frame (Memory.host S N C))} {x y : Machine (Memory.host S N C)}

/-- The results that are due move to the batch of a tick. -/
theorem beginTick (c : l.Coupled (l.underway (stack.flatMap Frame.batch))) (w : Waker) :
    (beginTick stack l w).Coupled := by
  have moved : ({ l with deferred := [] } : Loop (Memory.host S N C)).Coupled
      (l.underway (stack.flatMap Frame.batch)) := c.unseen rfl rfl rfl
  refine moved.perm (List.Perm.of_eq ?_)
  simp [Loop.underway, batches, Machine.beginTick, ofTick, Loop.beginTick, Frame.batch, Stage.batch]

/-- A callback is entered or a future settled. -/
theorem deliver {req : RequestId} {h : HandleId} {callback : Callback C} {outcome : RequestOutcome}
    (c : l.Coupled (l.underway (stack.flatMap Frame.batch))) :
    (deliver l stack req h callback outcome).Coupled := by
  cases callback with
  | closure => exact c
  | promise =>
    have settled :
        ({ l with settled := (req, outcome) :: l.settled } : Loop (Memory.host S N C)).Coupled
        (l.underway (stack.flatMap Frame.batch)) := c.unseen rfl rfl rfl
    exact (settled.still rfl rfl).giveBack

/-- What a tick takes next is under way. -/
theorem take {t : Tick} {d : Completion} {stage : Stage}
    (c : l.Coupled (l.underway ((Frame.tick t :: stack).flatMap Frame.batch)))
    (here : t.stage.pop? = some (d, stage)) :
    l.Coupled (d :: l.underway ((Frame.tick { t with stage } :: stack).flatMap Frame.batch)) := by
  refine c.perm ?_
  simp only [List.flatMap_cons, Frame.batch, Stage.batch_of_pop? here, List.cons_append,
    Loop.underway]
  exact List.perm_middle.symm

/-- A completion leaves with the request that it names. -/
theorem leave {t : Tick} {d : Completion} {stage : Stage} {req : RequestId} {status : Outcome}
    {r : Request C} (c : l.Coupled (l.underway ((Frame.tick t :: stack).flatMap Frame.batch)))
    (here : t.stage.pop? = some (d, stage)) (report : d.report? = some (req, status))
    (pending : l.requests.get? req = some r) :
    ({ l with requests := l.requests.remove req } : Loop (Memory.host S N C)).Coupled
      (l.underway ((Frame.tick { t with stage } :: stack).flatMap Frame.batch)) :=
  (take c here).leave (by simp [Completion.names, report]) pending

/-- A tick goes on to a part of it in which the same completions are left. -/
theorem goOn {t t' : Tick}
    (c : l.Coupled (l.underway ((Frame.tick t :: stack).flatMap Frame.batch)))
    (same : t'.stage.batch = t.stage.batch) :
    l.Coupled (l.underway ((Frame.tick t' :: stack).flatMap Frame.batch)) := by
  rw [List.flatMap_cons, Frame.batch] at c ⊢
  rwa [same]

/-- What has finished moves to the batch of a tick. -/
theorem collect {t : Tick}
    (c : l.Coupled (l.underway ((Frame.tick t :: stack).flatMap Frame.batch)))
    (here : t.stage = .deferred []) :
    (ofTick stack (l.beginCompletions Memory.transport t).1
      (l.beginCompletions Memory.transport t).2).Coupled := by
  have moved : (l.beginCompletions Memory.transport t).2.Coupled
      (l.underway ((Frame.tick t :: stack).flatMap Frame.batch)) :=
        c.congr (fun _ => .refl _) rfl (fun _ => rfl) rfl
  refine moved.perm ?_
  have before : l.underway ((Frame.tick t :: stack).flatMap Frame.batch) =
      l.net.finished.toList ++ (l.deferred ++ stack.flatMap Frame.batch) := by
    simp [Loop.underway, Frame.batch, here, Stage.batch]
  rw [before]
  exact List.perm_append_comm_assoc l.deferred l.net.finished.toList (stack.flatMap Frame.batch)

/-- Each rule keeps the loop and its transport together. -/
theorem rule (b : x.Balanced) (c : x.Coupled) (rule : Rule Memory.transport enter x y) :
    y.Coupled := by
  unfold Machine.Coupled batches at c
  cases rule with
  | finish | ask | survey | recallShared | enter | emit | nextListener | endEmission | beginParting
    | skipParting | ticked | runFailed | pollFailed => exact c
  | issue => exact Loop.Coupled.issue c b _
  | refuseListen begun => exact ((c.meter _ _ _).refuseListen begun).meter _ _ _
  | beginListen begun => exact (c.meter _ _ _).beginListen begun
  | tick | runLoop => exact beginTick c _
  | poll => exact beginTick (by exact c.unseen rfl rfl rfl) _
  | script => exact c.perform _
  | note | update | endParting | endRun | endPoll => exact c.unseen rfl rfl rfl
  | endDelivery | endConnect => exact Loop.Coupled.giveBack c
  | endLoan => exact Loop.Coupled.expose c _
  | noteResult => exact goOn c (Tick.batch_note _ _)
  | endListen | failListen => exact Loop.Coupled.meter c _ _ _
  | collect here => exact collect c here
  | firstPass here | nextPass here => exact goOn c (by rw [here]; rfl)
  | beginReclaims here =>
    refine goOn (c.unseen rfl rfl rfl) ?_
    rw [here]
    rfl
  | endTick here =>
    rw [List.flatMap_cons, Frame.batch, here] at c
    exact c
  | @skipReport l stack t d stage req status here report gone =>
    have names : d.names req = true := by simp [Completion.names, report]
    obtain ⟨r, pending⟩ := ((take c here).fits List.mem_cons_self).pending names
    cases gone.symm.trans pending
  | completeWrite here report pending =>
    exact deliver ((leave c here report pending).metered _ _ _)
  | completeShutdown here report pending =>
    exact deliver (((take c here).completeShutdown report pending).still (by simp) (by simp))
  | completeConnect here report pending state | failConnect here report pending state =>
    exact ((leave c here report pending).metered _ _ _).finishConnect state
  | dropConnect here report pending =>
    exact (((leave c here report pending).metered _ _ _).still rfl rfl).giveBack
  | connection here => exact ((Loop.Coupled.nameless rfl).1 (take c here)).metered _ _ _
  | dropConnection here => exact (Loop.Coupled.nameless rfl).1 (take c here)
  | skipRead here | refuseRead here => exact goOn c (by rw [here]; rfl)
  | readNothing here _ _ _ read =>
    obtain rfl := congrArg Prod.snd read
    exact goOn ((c.ask (Memory.read_like _ _ _ _)).fillBuffer _ _) (by rw [here]; rfl)
  | readData here _ _ _ read =>
    obtain rfl := congrArg Prod.snd read
    exact goOn ((((c.ask (Memory.read_like _ _ _ _)).fillBuffer _ _).meter _ _ _).expose _)
      (by rw [here]; rfl)
  | readEof here _ _ _ read =>
    obtain rfl := congrArg Prod.snd read
    exact goOn (((c.ask (Memory.read_like _ _ _ _)).fillBuffer _ _).endReading (by simp))
      (by rw [here]; rfl)
  | readFailed here _ _ _ read =>
    obtain rfl := congrArg Prod.snd read
    exact goOn ((((c.ask (Memory.read_like _ _ _ _)).fillBuffer _ _).meter _ _ _).endReading
      (by simp)) (by rw [here]; rfl)
  | skipReclaim here | breach here =>
    refine goOn (c.unseen rfl rfl rfl) ?_
    rw [here]
    rfl
  | reclaim here found closing free =>
    have idle := (b.coherent found).2.1 closing
    have none_pending := (Loop.Balanced.unreferenced b found free).1
    refine goOn ((Loop.Coupled.reclaim c found closing idle none_pending).unseen rfl rfl rfl) ?_
    rw [here]
    rfl
  | runAgain => exact beginTick (by exact c.unseen rfl rfl rfl) _
  | pausePoll =>
    split
    case isTrue => exact c.unseen rfl rfl rfl
    case isFalse => exact c.unseen rfl rfl rfl

end Coupled

end Machine

end Reactor
