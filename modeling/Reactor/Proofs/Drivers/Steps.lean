import Reactor.Proofs.Drivers.Deaf
import Reactor.Proofs.Machine.Eventful

/-!
# Steps of machines that differ in whom they wake

Hushing forgets whom a machine would wake, in its loop and in the ticks in progress.
Two machines that hushing makes the same take the same step, unless a program that goes
on has heard of a wake-up.
-/

namespace Reactor

variable {S N C : Type} {enter : Handlers (Memory.host S N C)}

/-- The tick as if it told the transport to wake nobody. -/
def Tick.hush (t : Tick) : Tick := { t with waker := .idle }

/-- A result may be noted before or after hushing. -/
theorem Tick.hush_note (t : Tick) (failure : Option ListenerError) :
    (t.note failure).hush = t.hush.note failure := by
  cases failure with
  | none => rfl
  | some cause => cases here : t.stage <;> simp [note, record, hush, abandonReads, here]

/-- Suspended work, of which only a tick knows whom to wake. -/
def Frame.hush {H : Host} : Frame H → Frame H
  | .tick t => .tick t.hush
  | f => f

/-- Frames that are the same once hushed are the same, or are ticks with different wakers. -/
theorem Frame.cases_of_hush {H : Host} {f f' : Frame H} (same : f.hush = f'.hush) :
    f = f' ∨ ∃ t t', f = .tick t ∧ f' = .tick t' ∧ t.hush = t'.hush := by
  unfold hush at same
  split at same
  case h_1 t =>
    split at same
    case h_1 t' => exact .inr ⟨t, t', rfl, rfl, Frame.tick.inj same⟩
    case h_2 other => exact absurd same.symm (other _)
  case h_2 other =>
    split at same
    case h_1 t' => exact absurd same (other _)
    case h_2 => exact .inl same

namespace Loop

section Questions

variable {k k' : Loop (Memory.host S N C)} (same : k.hush = k'.hush)

include same

/-- Loops that are the same once hushed have transports that are. -/
theorem net_of_hush : Memory.hush k.net = Memory.hush k'.net := (congrArg net same :)

/-- Loops that are the same once hushed have the same results due. -/
theorem deferred_of_hush : k.deferred = k'.deferred := (congrArg deferred same :)

/-- Loops that are the same once hushed have the same handles to reclaim. -/
theorem closing_of_hush : k.closing = k'.closing := (congrArg closing same :)

/-- Loops that are the same once hushed are to stop alike. -/
theorem stopping_of_hush : k.stopping = k'.stopping := (congrArg stopping same :)

/-- Loops that are the same once hushed are in breach alike. -/
theorem breach_of_hush : k.breach = k'.breach := (congrArg breach same :)

/-- Loops that are the same once hushed have the same surroundings. -/
theorem shared_of_hush : k.shared = k'.shared := (congrArg shared same :)

/-- Loops that are the same once hushed are alive alike. -/
theorem alive_of_hush : k.alive = k'.alive := (congrArg alive same :)

/-- Loops that are the same once hushed have the same listeners. -/
theorem listenersOf_of_hush (h : HandleId) (event : EventName) :
    k.listenersOf h event = k'.listenersOf h event :=
  (congrArg (listenersOf · h event) same :)

/-- Every question has the same answer, but the one whether the task was woken. -/
theorem answer_of_hush {q : Query} (other : q ≠ .woken) :
    k.answer Memory.transport q = k'.answer Memory.transport q := by
  have asked : k.hush.answer Memory.transport q = k'.hush.answer Memory.transport q := by rw [same]
  cases q with
  | woken => exact absurd rfl other
  | _ => exact asked

end Questions

end Loop

namespace Machine

/-- The machine without those to wake. -/
def hush (m : Machine (Memory.host S N C)) : Machine (Memory.host S N C) :=
  ⟨m.loop.hush, m.stack.map Frame.hush, m.control⟩

/-- Machines are the same once hushed when their loops and their work are and
they do the same next. -/
theorem hush_eq_iff {k k' : Loop (Memory.host S N C)} {s s' : List (Frame (Memory.host S N C))}
    {c c' : Control (Memory.host S N C)} :
    (⟨k, s, c⟩ : Machine (Memory.host S N C)).hush =
      (⟨k', s', c'⟩ : Machine (Memory.host S N C)).hush ↔
      k.hush = k'.hush ∧ s.map Frame.hush = s'.map Frame.hush ∧ c = c' := by
  simp only [hush, Machine.mk.injEq]

section Steps

/-! ## Two machines that differ in what hushing forgets -/

variable {k k' : Loop (Memory.host S N C)} {s s' : List (Frame (Memory.host S N C))} {t t' : Tick}
variable (same : k.hush = k'.hush) (frames : s.map Frame.hush = s'.map Frame.hush)
  (ticks : t.hush = t'.hush)

include frames in
/-- The same frame may come on top of work that is the same once hushed. -/
theorem map_hush_cons (f : Frame (Memory.host S N C)) :
    (f :: s).map Frame.hush = (f :: s').map Frame.hush := by
  simp [frames]

include frames ticks in
/-- Ticks that are the same once hushed may come on top of work that is. -/
theorem map_hush_tick :
    (Frame.tick t :: s).map Frame.hush = (Frame.tick t' :: s').map Frame.hush := by
  simp [frames, Frame.hush, ticks]

include same frames

/-- Machines of loops and work that are the same once hushed are so if they do the same next. -/
theorem hush_mk (c : Control (Memory.host S N C)) :
    (⟨k, s, c⟩ : Machine (Memory.host S N C)).hush =
      (⟨k', s', c⟩ : Machine (Memory.host S N C)).hush := by
  simp [hush, same, frames]

include ticks in
/-- Ticks that are the same once hushed go on alike. -/
theorem hush_ofTick : (ofTick s t k).hush = (ofTick s' t' k').hush :=
  hush_mk same (map_hush_tick frames ticks) .advance

/-- An outcome is told alike. -/
theorem hush_deliver (req : RequestId) (h : HandleId) (callback : Callback C)
    (outcome : RequestOutcome) :
    (deliver k s req h callback outcome).hush = (deliver k' s' req h callback outcome).hush := by
  cases callback with
  | closure c => exact hush_mk same (map_hush_cons frames _) _
  | promise =>
    refine hush_mk ?_ frames _
    have settled := congrArg (fun l => { l with settled := (req, outcome) :: l.settled }) same
    rw [Loop.hush_release, Loop.hush_release]
    exact congrArg (Loop.release · h) settled

omit frames in
/-- A shutdown is settled alike. -/
theorem hush_settleShutdown (h : HandleId) (succeeded : Bool) :
    (settleShutdown k h succeeded).hush = (settleShutdown k' h succeeded).hush := by
  unfold settleShutdown
  rw [Loop.handles_of_hush same]
  cases k'.handles.get? h with
  | none => exact same
  | some x =>
    simp only
    split
    case isTrue => simp [same]
    case isFalse => exact same

omit frames in
/-- Loops that are the same once hushed agree on the states of handles. -/
theorem hasState_of_hush (h : HandleId) (state : StreamState) :
    hasState k h state = hasState k' h state := by
  simp [hasState, Loop.handles_of_hush same]

/-- A report of a request is taken alike. -/
theorem hush_complete (req : RequestId) (status : Outcome) :
    (complete k s req status).hush = (complete k' s' req status).hush := by
  unfold complete
  rw [Loop.requests_of_hush same]
  cases k'.requests.get? req with
  | none => exact hush_mk same frames _
  | some request =>
    have taken : ({ k with requests := k'.requests.remove req } : Loop (Memory.host S N C)).hush =
        ({ k' with requests := k'.requests.remove req } : Loop (Memory.host S N C)).hush :=
      congrArg (fun l => { l with requests := k'.requests.remove req }) same
    have metered (h : HandleId) (op : StreamOp) (succeeded : Bool) :
        (({ k with requests := k'.requests.remove req } : Loop (Memory.host S N C)).meterAsync h op
          succeeded).hush =
          (({ k' with requests := k'.requests.remove req } : Loop (Memory.host S N C)).meterAsync h
            op succeeded).hush := by
      simp [Loop.meterAsync, taken]
    cases request with
    | write h data callback => exact hush_deliver (metered h .write _) frames _ _ _ _
    | shutdown h callback =>
      exact hush_deliver (hush_settleShutdown (metered h .shutdown _) _ _) frames _ _ _ _
    | connect h =>
      have metered := metered h .connect (outcomeAt "after_connect" status).isOk
      simp only [hasState_of_hush metered]
      split
      case isTrue =>
        cases status with
        | ok => exact hush_mk (by simp [metered]) (map_hush_cons frames _) _
        | error status => exact hush_mk (by simp [metered]) (map_hush_cons frames _) _
      case isFalse => exact hush_mk (by simp [metered]) frames _

/-- A report of a connection is taken alike. -/
theorem hush_connection (server : HandleId) (status : Outcome) :
    (connection k s server status).hush = (connection k' s' server status).hush := by
  unfold connection
  rw [hasState_of_hush same]
  split
  case isTrue => exact hush_mk (by simp [Loop.meterAsync, same]) frames _
  case isFalse => exact hush_mk same frames _

/-- A completion is taken alike. -/
theorem hush_dispatch (c : Completion) : (dispatch k s c).hush = (dispatch k' s' c).hush := by
  cases c with
  | connection server status => exact hush_connection same frames server status
  | write req status => exact hush_complete same frames req status
  | shutdown req status => exact hush_complete same frames req status
  | connect req status => exact hush_complete same frames req status

include ticks in
/-- A handle is read from alike. -/
theorem hush_readOne (passes : Nat) (rest : List HandleId) (productive : Bool) (h : HandleId) :
    (readOne Memory.transport k s t passes rest productive h).hush =
      (readOne Memory.transport k' s' t' passes rest productive h).hush := by
  have restaged (stage : Stage) :
      ({ t with stage } : Tick).hush = ({ t' with stage } : Tick).hush :=
    congrArg (fun t => { t with stage }) ticks
  unfold readOne
  simp only [Loop.handles_of_hush same, Loop.options_of_hush same]
  cases k'.handles.get? h with
  | none => exact hush_ofTick same frames (restaged _)
  | some x =>
    dsimp only
    split
    case isTrue => exact hush_ofTick same frames (restaged _)
    case isFalse =>
      split
      case isTrue =>
        exact hush_ofTick same frames
          (congrArg (fun t => (t.record .bufferExposed).abandonReads) ticks)
      case isFalse =>
        obtain ⟨⟨status, bytes⟩, k₁, k₁', first, second, same⟩ :=
          (Loop.alike_reply same
            (Memory.alike_read_of_hush (Loop.net_of_hush same) t.waker t'.waker h
            (x.buffer.getD (.ofSize k'.options.readBufferSize)).size)).cases
        simp only [Memory.transport, first, second]
        have same (b : ReadBuffer) :
            (fillBuffer k₁ h b bytes).hush = (fillBuffer k₁' h b bytes).hush := by
          simp [fillBuffer, same]
        have below := map_hush_tick frames (restaged (.reads passes rest true))
        split
        case h_1 => exact hush_ofTick (same _) frames (restaged _)
        case h_2 => exact hush_ofTick (same _) frames (restaged _)
        case h_3 n filled =>
          exact hush_mk (by simp [expose, Loop.meterAsync, same]) (map_hush_cons below _) _
        case h_4 => exact hush_mk (Loop.hush_endReading (same _) h .ended) below _
        case h_5 status =>
          exact hush_mk (Loop.hush_endReading (by simp [Loop.meterAsync, same]) h .ended) below _

/-- A handle is reclaimed alike. -/
theorem hush_reclaimOne (h : HandleId) : (reclaimOne k s h).hush = (reclaimOne k' s' h).hush := by
  have found : k.handles.get? h = k'.handles.get? h := by rw [Loop.handles_of_hush same]
  unfold reclaimOne
  rw [found]
  cases k'.handles.get? h with
  | none => exact hush_mk same frames _
  | some x =>
    dsimp only
    split
    case isTrue =>
      exact hush_mk (congrArg (fun l => { l with breach := some (.reclaimOfHeld h) }) same) frames _
    case isFalse =>
      have taken : (takeHandle k h x).hush = (takeHandle k' h x).hush :=
        congrArg (takeHandle · h x) same
      exact hush_mk (by simp [Loop.meterAsync, taken]) (map_hush_cons frames _) _

include ticks in
/-- Ticks go on alike. -/
theorem hush_advance :
    (advance Memory.transport k s t).hush = (advance Memory.transport k' s' t').hush := by
  have restaged (stage : Stage) :
      ({ t with stage } : Tick).hush = ({ t' with stage } : Tick).hush :=
    congrArg (fun t => { t with stage }) ticks
  have stage : t.stage = t'.stage := (congrArg Tick.stage ticks :)
  have worked : t.worked = t'.worked := (congrArg Tick.worked ticks :)
  have result : t.result = t'.result := (congrArg Tick.result ticks :)
  unfold advance
  rw [stage]
  cases t'.stage with
  | deferred batch =>
    cases batch with
    | nil =>
      have asked :=
        Loop.alike_reply same
          (Memory.alike_collect_of_hush (Loop.net_of_hush same) t.waker t'.waker)
      obtain ⟨batch, k₁, k₁', first, second, same⟩ := asked.cases
      simp only [Loop.beginCompletions, Memory.transport, first, second]
      exact hush_ofTick same frames
        (congrArg (fun t =>
          { t with stage := .completions batch, worked := t.worked || !batch.isEmpty }) ticks)
    | cons c batch => exact hush_dispatch same (map_hush_tick frames (restaged _)) c
  | completions batch =>
    cases batch with
    | nil =>
      simp only [Loop.beginPass, Loop.options_of_hush same, Loop.handles_of_hush same]
      exact hush_ofTick same frames (restaged _)
    | cons c batch => exact hush_dispatch same (map_hush_tick frames (restaged _)) c
  | reads passes rest productive =>
    cases rest with
    | nil =>
      have handles := Loop.handles_of_hush same
      have closing := Loop.closing_of_hush same
      have noted : ({ t with worked := t.worked || productive } : Tick).hush =
          { t' with worked := t'.worked || productive }.hush :=
        congrArg (fun t => { t with worked := t.worked || productive }) ticks
      dsimp only
      split
      case isTrue =>
        simp only [Loop.beginPass, handles]
        exact hush_ofTick same frames
          (congrArg (fun t => { t with stage := .reads (passes - 1) k'.handles.ids false }) noted)
      case isFalse =>
        simp only [Loop.beginReclaims]
        rw [closing]
        exact hush_ofTick (congrArg (fun l => { l with closing := [] }) same) frames
          (congrArg
            (fun t =>
              { t with stage := .reclaims k'.closing, worked := t.worked || !k'.closing.isEmpty })
            noted)
    | cons h rest => exact hush_readOne same frames ticks passes rest productive h
  | reclaims batch =>
    cases batch with
    | nil =>
      simp only [result]
      exact hush_mk same frames _
    | cons h batch => exact hush_reclaimOne same (map_hush_tick frames (restaged _)) h

omit same in
/-- Suspended work that hushing makes the same is the same, but for a tick on
top and what is below. -/
theorem cases_of_map_hush :
    (s = [] ∧ s' = []) ∨
      (∃ f rest rest', s = f :: rest ∧ s' = f :: rest' ∧
        rest.map Frame.hush = rest'.map Frame.hush) ∨
      ∃ t t' rest rest', s = .tick t :: rest ∧ s' = .tick t' :: rest' ∧ t.hush = t'.hush ∧
        rest.map Frame.hush = rest'.map Frame.hush := by
  cases s with
  | nil => exact .inl ⟨rfl, (List.map_eq_nil_iff.1 frames.symm)⟩
  | cons f rest =>
    obtain ⟨f', rest', rfl, top, below⟩ := List.map_eq_cons_iff.1 frames.symm
    obtain rfl | ⟨t', t, rfl, rfl, ticks⟩ := Frame.cases_of_hush top
    · exact .inr (.inl ⟨f', rest, rest', rfl, rfl, below.symm⟩)
    · exact .inr (.inr ⟨t, t', rest, rest', rfl, rfl, ticks.symm, below.symm⟩)

/-- The work below takes the result of the work above alike. -/
theorem hush_return? (failure : Option ListenerError) :
    (return? k failure s).map hush = (return? k' failure s').map hush := by
  obtain ⟨rfl, rfl⟩ | ⟨f, rest, rest', rfl, rfl, below⟩
      | ⟨t, t', rest, rest', rfl, rfl, ticks, below⟩ := cases_of_map_hush frames
  · rfl
  · cases f with
    | emission h e closures =>
      cases failure with
      | none =>
        cases closures with
        | nil => exact congrArg some (hush_mk same below _)
        | cons c closures => exact congrArg some (hush_mk same (map_hush_cons below _) _)
      | some cause => exact congrArg some (hush_mk same below _)
    | delivering req h => exact congrArg some (hush_mk (by simp [same]) below _)
    | connecting req h => exact congrArg some (hush_mk (by simp [same]) below _)
    | lending h view => exact congrArg some (hush_mk (by simp [expose, same]) below _)
    | reclaiming h onClose =>
      cases onClose with
      | none => exact congrArg some (hush_mk same (map_hush_cons below _) _)
      | some c => exact congrArg some (hush_mk same (map_hush_cons below _) _)
    | parting h emitted => exact congrArg some (hush_mk (by simp [same]) below _)
    | tick t => exact congrArg some (hush_ofTick same below rfl)
    | listening h next =>
      cases failure with
      | none => exact congrArg some (hush_mk (by simp [same]) below _)
      | some cause => exact congrArg some (hush_mk (by simp [same]) below _)
    | ticking | running | polling => rfl
  · exact congrArg some (hush_ofTick same below (by rw [Tick.hush_note, Tick.hush_note, ticks]))

/-- A tick starts alike, whichever waker it is given. -/
theorem hush_beginTick (w w' : Waker) : (beginTick s k w).hush = (beginTick s' k' w').hush := by
  have deferred := Loop.deferred_of_hush same
  simp only [beginTick, Loop.beginTick]
  rw [deferred]
  exact hush_ofTick (congrArg (fun l => { l with deferred := [] }) same) frames rfl

/-- The work below takes the result of a tick alike. -/
theorem hush_afterTick? (result : Except LoopError Bool) :
    (afterTick? k result s).map hush = (afterTick? k' result s').map hush := by
  have unstopped : ({ k with stopping := false } : Loop (Memory.host S N C)).hush =
      { k' with stopping := false }.hush :=
    congrArg (fun l => { l with stopping := false }) same
  obtain ⟨rfl, rfl⟩ | ⟨f, rest, rest', rfl, rfl, below⟩
      | ⟨t, t', rest, rest', rfl, rfl, ticks, below⟩ := cases_of_map_hush frames
  · rfl
  · cases f with
    | ticking next => exact congrArg some (hush_mk same below _)
    | running mode next =>
      cases result with
      | error e => exact congrArg some (hush_mk same below _)
      | ok worked =>
        simp only [afterTick?, Loop.stopping_of_hush same, Loop.alive_of_hush unstopped]
        split
        case isTrue => exact congrArg some (hush_mk unstopped below _)
        case isFalse =>
          exact congrArg some (hush_beginTick unstopped (map_hush_cons below _) .idle .idle)
    | polling w next =>
      cases result with
      | error e => exact congrArg some (hush_mk same below _)
      | ok worked =>
        simp only [afterTick?, Loop.stopping_of_hush same, Loop.alive_of_hush unstopped]
        split
        case isTrue => exact congrArg some (hush_mk unstopped below _)
        case isFalse =>
          refine congrArg some (hush_mk ?_ below _)
          cases worked with
          | true => exact unstopped
          | false => exact unstopped
    | _ => rfl
  · rfl

/-- A call whose continuation hides wake-ups makes the same of both. -/
theorem hush_perform (c : Call (Memory.host S N C)) (next : c.Answer → Program (Memory.host S N C))
    (hides : c.Hides false next) :
    (perform Memory.transport k s c next).hush = (perform Memory.transport k' s' c next).hush := by
  cases c with
  | ask q =>
    by_cases other : q = .woken
    · subst other
      obtain never | either := hides
      · cases never
      · exact (congrArg (fun p => (ofProgram s p k).hush) (either _ _)).trans
          (hush_mk same frames _)
    · simp only [perform, Loop.answer_of_hush same other]
      exact hush_mk same frames _
  | issue o =>
    obtain ⟨a, k₁, k₁', first, second, same⟩ := (Loop.alike_issue same o).cases
    simp only [perform, first, second]
    exact hush_mk same frames _
  | listen h backlog onConnection =>
    have metered : (k.meter h .listen .dispatched).hush =
        (k'.meter h .listen .dispatched).hush := by simp [same]
    obtain ⟨a, k₁, k₁', first, second, same⟩ :=
      (Loop.alike_beginListen metered h backlog onConnection).cases
    simp only [perform, first, second]
    cases a with
    | error e => exact hush_mk (by simp [same]) frames _
    | ok => exact hush_mk same (map_hush_cons frames _) _
  | tick w => exact hush_beginTick same (map_hush_cons frames _) w w
  | run mode => exact hush_beginTick same (map_hush_cons frames _) .idle .idle
  | poll w => exact hush_beginTick same (map_hush_cons frames _) w w
  | script script =>
    exact hush_mk (Loop.alike_ask same (Memory.perform script) (Memory.alike_perform · script)).2
      frames _
  | survey =>
    simp only [perform, hides _ _ (Loop.net_of_hush same)]
    exact hush_mk same frames _
  | note n =>
    exact hush_mk (congrArg (fun l => { l with journal := .note n :: l.journal }) same) frames _
  | «recall» =>
    simp only [perform, Loop.shared_of_hush same]
    exact hush_mk same frames _
  | update f => exact hush_mk (congrArg (fun l => { l with shared := f l.shared }) same) frames _

/-- Two machines that hushing makes the same both take a step or neither, unless a program that goes
on listens for wake-ups, and hushing makes what they come to the same. -/
theorem hush_step? (c : Control (Memory.host S N C))
    (hides : ∀ call next, c = .run (.call call next) → call.Hides false next) :
    (step? Memory.transport enter ⟨k, s, c⟩).map hush =
      (step? Memory.transport enter ⟨k', s', c⟩).map hush := by
  simp only [step?, Loop.breach_of_hush same]
  split
  case isTrue => rfl
  case isFalse =>
    cases c with
    | run p =>
      cases p with
      | done failure => exact congrArg some (hush_mk same frames _)
      | call c next => exact congrArg some (hush_perform same frames c next (hides c next rfl))
    | enter c o => exact congrArg some (hush_mk same frames _)
    | emit h e =>
      simp only [Loop.listenersOf_of_hush same]
      exact congrArg some (hush_mk same (map_hush_cons frames _) _)
    | returned failure => exact hush_return? same frames failure
    | advance =>
      obtain ⟨rfl, rfl⟩ | ⟨f, rest, rest', rfl, rfl, below⟩
          | ⟨t, t', rest, rest', rfl, rfl, ticks, below⟩ :=
        cases_of_map_hush frames
      · rfl
      · cases f with
        | tick t => exact congrArg some (hush_advance same below rfl)
        | _ => rfl
      · exact congrArg some (hush_advance same below ticks)
    | ticked result => exact hush_afterTick? same frames result

end Steps

end Machine

end Reactor
