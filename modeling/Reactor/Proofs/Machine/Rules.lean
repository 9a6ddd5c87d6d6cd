import Reactor.Machine.Step

/-!
# The steps of the machine as rules

`step?` decides what a machine does next by one nested case analysis. Here each case is a rule that
says which machines it applies to and what it makes of them. A property that every step keeps is
proved by one case for each rule, and no such proof opens `step?` again.
-/

namespace Reactor

/-- The completion that a stage takes next, and the stage without it. -/
def Stage.pop? : Stage → Option (Completion × Stage)
  | .deferred (c :: batch) => some (c, .deferred batch)
  | .completions (c :: batch) => some (c, .completions batch)
  | _ => none

/-- The request that a completion names, with its outcome. -/
def Completion.report? : Completion → Option (RequestId × Outcome)
  | .connection .. => none
  | .write req outcome | .shutdown req outcome | .connect req outcome => some (req, outcome)

/-- A completion is taken from what was due or from what was reported. -/
theorem Stage.eq_of_pop? {s s' : Stage} {c : Completion} (here : s.pop? = some (c, s')) :
    ∃ batch, s = .deferred (c :: batch) ∧ s' = .deferred batch ∨
      s = .completions (c :: batch) ∧ s' = .completions batch := by
  unfold pop? at here
  split at here
  case h_1 batch => cases here; exact ⟨batch, .inl ⟨rfl, rfl⟩⟩
  case h_2 batch => cases here; exact ⟨batch, .inr ⟨rfl, rfl⟩⟩
  case h_3 => cases here

/-- A listener's result leaves the stage of a tick as it is, or breaks off its reads. -/
theorem Tick.stage_note (t : Tick) (failure : Option ListenerError) :
    (t.note failure).stage = t.stage ∨
      ∃ passes rest productive, t.stage = .reads passes rest productive ∧
        (t.note failure).stage = .reads 0 [] false := by
  unfold note
  cases failure with
  | none => exact .inl rfl
  | some cause =>
    simp only
    split
    case h_1 passes rest productive here => exact .inr ⟨passes, rest, productive, here, rfl⟩
    case h_2 => exact .inl rfl

/-- The error that a tick failed with first stays. -/
theorem Tick.error_record (t : Tick) (e : LoopError) :
    (t.record e).error = t.error.or (some e) := by
  unfold record
  cases t.error <;> rfl

/-- A tick notes the first failure and keeps it. -/
theorem Tick.error_note (t : Tick) (failure : Option ListenerError) :
    (t.note failure).error = t.error.or (failure.map .listener) := by
  unfold note
  cases failure with
  | none => simp
  | some cause =>
    simp only
    split
    case h_1 => exact t.error_record _
    case h_2 => exact t.error_record _

namespace Machine

variable {H : Host} (T : Transport H.Net H.Script) (enter : Handlers H)

/-- The event by which a server hears of a connection. -/
def connectionEvent : Outcome → Event
  | .ok () => .connection
  | .error status => .error ⟨status, "on_connection"⟩

/-- The buffer that a read of a handle goes to. -/
def readBuffer (l : Loop H) (x : Handle H.Closure) : ReadBuffer :=
  x.buffer.getD (.ofSize l.options.readBufferSize)

/-- One step of a machine on which no breach has happened. -/
inductive Rule : Machine H → Machine H → Prop where
  | finish {l stack failure} :
    Rule ⟨l, stack, .run (.done failure)⟩ ⟨l, stack, .returned failure⟩
  | ask {l stack q next} :
    Rule ⟨l, stack, .run (.call (.ask q) next)⟩ ⟨l, stack, .run (next (l.answer T q))⟩
  | issue {l stack o next} :
    Rule ⟨l, stack, .run (.call (.issue o) next)⟩
      ⟨(l.issue T o).2, stack, .run (next (l.issue T o).1)⟩
  | refuseListen {l stack h backlog c next e l'}
    (begun : (l.meter h .listen .dispatched).beginListen T h backlog c = (.error e, l')) :
    Rule ⟨l, stack, .run (.call (.listen h backlog c) next)⟩
      ⟨l'.meter h .listen .error, stack, .run (next (.error e))⟩
  | beginListen {l stack h backlog c next l'}
    (begun : (l.meter h .listen .dispatched).beginListen T h backlog c = (.ok (), l')) :
    Rule ⟨l, stack, .run (.call (.listen h backlog c) next)⟩
      ⟨l', .listening h next :: stack, .emit h .listening⟩
  | tick {l stack w next} :
    Rule ⟨l, stack, .run (.call (.tick w) next)⟩ (beginTick (.ticking next :: stack) l w)
  | runLoop {l stack mode next} :
    Rule ⟨l, stack, .run (.call (.run mode) next)⟩ (beginTick (.running mode next :: stack) l .idle)
  | poll {l stack w next} :
    Rule ⟨l, stack, .run (.call (.poll w) next)⟩
      (beginTick (.polling w next :: stack) { l with waker := w } w)
  | script {l stack s next} :
    Rule ⟨l, stack, .run (.call (.script s) next)⟩ ⟨(l.ask (T.perform s)).2, stack, .run (next ())⟩
  | survey {l stack next} :
    Rule ⟨l, stack, .run (.call .survey next)⟩ ⟨l, stack, .run (next l.net)⟩
  | note {l stack n next} :
    Rule ⟨l, stack, .run (.call (.note n) next)⟩
      ⟨{ l with journal := .note n :: l.journal }, stack, .run (next ())⟩
  | recallShared {l stack next} :
    Rule ⟨l, stack, .run (.call .recall next)⟩ ⟨l, stack, .run (next l.shared)⟩
  | update {l stack f next} :
    Rule ⟨l, stack, .run (.call (.update f) next)⟩
      ⟨{ l with shared := f l.shared }, stack, .run (next ())⟩
  | enter {l stack c o} :
    Rule ⟨l, stack, .enter c o⟩ ⟨l, stack, .run (enter c o)⟩
  | emit {l stack h e} :
    Rule ⟨l, stack, .emit h e⟩ ⟨l, .emission h e (l.listenersOf h e.name) :: stack, .returned none⟩
  | nextListener {l stack h e c rest} :
    Rule ⟨l, .emission h e (c :: rest) :: stack, .returned none⟩
      ⟨l, .emission h e rest :: stack, .enter c (.event h e)⟩
  | endEmission {l stack h e rest failure} (last : failure = none → rest = []) :
    Rule ⟨l, .emission h e rest :: stack, .returned failure⟩ ⟨l, stack, .returned failure⟩
  | endDelivery {l stack req h failure} :
    Rule ⟨l, .delivering req h :: stack, .returned failure⟩ ⟨l.release h, stack, .returned none⟩
  | endConnect {l stack req h failure} :
    Rule ⟨l, .connecting req h :: stack, .returned failure⟩ ⟨l.release h, stack, .returned failure⟩
  | endLoan {l stack h view failure} :
    Rule ⟨l, .lending h view :: stack, .returned failure⟩
      ⟨expose l h false, stack, .returned failure⟩
  | beginParting {l stack h c failure} :
    Rule ⟨l, .reclaiming h (some c) :: stack, .returned failure⟩
      ⟨l, .parting h failure :: stack, .enter c (.closed h)⟩
  | skipParting {l stack h failure} :
    Rule ⟨l, .reclaiming h none :: stack, .returned failure⟩
      ⟨l, .parting h failure :: stack, .returned none⟩
  | endParting {l stack h emitted failure} :
    Rule ⟨l, .parting h emitted :: stack, .returned failure⟩
      ⟨l.removeListeners h, stack, .returned emitted⟩
  | noteResult {l stack t failure} :
    Rule ⟨l, .tick t :: stack, .returned failure⟩ (ofTick stack (t.note failure) l)
  | endListen {l stack h next} :
    Rule ⟨l, .listening h next :: stack, .returned none⟩
      ⟨l.meter h .listen .completed, stack, .run (next (.ok ()))⟩
  | failListen {l stack h next cause} :
    Rule ⟨l, .listening h next :: stack, .returned (some cause)⟩
      ⟨l.meter h .listen .error, stack, .run (next (.error (.listener cause)))⟩
  | collect {l stack t} (here : t.stage = .deferred []) :
    Rule ⟨l, .tick t :: stack, .advance⟩
      (ofTick stack (l.beginCompletions T t).1 (l.beginCompletions T t).2)
  | firstPass {l stack t} (here : t.stage = .completions []) :
    Rule ⟨l, .tick t :: stack, .advance⟩ (ofTick stack (l.beginPass t l.options.maxReadPasses) l)
  | nextPass {l stack t passes} (here : t.stage = .reads passes [] true) (left : 0 < passes) :
    Rule ⟨l, .tick t :: stack, .advance⟩
      (ofTick stack (l.beginPass { t with worked := true } passes) l)
  | beginReclaims {l stack t passes productive} (here : t.stage = .reads passes [] productive)
    (stop : ¬(productive = true ∧ 0 < passes)) :
    Rule ⟨l, .tick t :: stack, .advance⟩
      (ofTick stack (l.beginReclaims { t with worked := t.worked || productive }).1
        (l.beginReclaims { t with worked := t.worked || productive }).2)
  | endTick {l stack t} (here : t.stage = .reclaims []) :
    Rule ⟨l, .tick t :: stack, .advance⟩ ⟨l, stack, .ticked t.result⟩
  | skipReport {l stack t c stage req status} (here : t.stage.pop? = some (c, stage))
    (report : c.report? = some (req, status)) (gone : l.requests.get? req = none) :
    Rule ⟨l, .tick t :: stack, .advance⟩ ⟨l, .tick { t with stage } :: stack, .advance⟩
  | completeWrite {l stack t c stage req status h data callback}
    (here : t.stage.pop? = some (c, stage)) (report : c.report? = some (req, status))
    (pending : l.requests.get? req = some (.write h data callback)) :
    Rule ⟨l, .tick t :: stack, .advance⟩
      (deliver (({ l with requests := l.requests.remove req } : Loop H).meterAsync h .write
          (outcomeAt "after_write" status).isOk)
        (.tick { t with stage } :: stack) req h callback (outcomeAt "after_write" status))
  | completeShutdown {l stack t c stage req status h callback}
    (here : t.stage.pop? = some (c, stage)) (report : c.report? = some (req, status))
    (pending : l.requests.get? req = some (.shutdown h callback)) :
    Rule ⟨l, .tick t :: stack, .advance⟩
      (deliver
        (settleShutdown
          (({ l with requests := l.requests.remove req } : Loop H).meterAsync h .shutdown
          (outcomeAt "after_shutdown" status).isOk) h (outcomeAt "after_shutdown" status).isOk)
        (.tick { t with stage } :: stack) req h callback (outcomeAt "after_shutdown" status))
  | completeConnect {l stack t c stage req h} (here : t.stage.pop? = some (c, stage))
    (report : c.report? = some (req, .ok ())) (pending : l.requests.get? req = some (.connect h))
    (state : hasState l h .connecting = true) :
    Rule ⟨l, .tick t :: stack, .advance⟩
      ⟨(({ l with requests := l.requests.remove req } : Loop H).meterAsync h .connect true).setState
        h .connected,
        .connecting req h :: .tick { t with stage } :: stack, .emit h .connect⟩
  | failConnect {l stack t c stage req status h} (here : t.stage.pop? = some (c, stage))
    (report : c.report? = some (req, .error status))
    (pending : l.requests.get? req = some (.connect h)) (state : hasState l h .connecting = true) :
    Rule ⟨l, .tick t :: stack, .advance⟩
      ⟨(({ l with requests := l.requests.remove req } : Loop H).meterAsync h .connect
        false).setState h .idle,
        .connecting req h :: .tick { t with stage } :: stack,
        .emit h (.error ⟨status, "after_connect"⟩)⟩
  | dropConnect {l stack t c stage req status h} (here : t.stage.pop? = some (c, stage))
    (report : c.report? = some (req, status)) (pending : l.requests.get? req = some (.connect h))
    (state : hasState l h .connecting = false) :
    Rule ⟨l, .tick t :: stack, .advance⟩
      ⟨(({ l with requests := l.requests.remove req } : Loop H).meterAsync h .connect
          (outcomeAt "after_connect" status).isOk).release h,
            .tick { t with stage } :: stack, .advance⟩
  | connection {l stack t stage server status}
    (here : t.stage.pop? = some (.connection server status, stage))
    (state : hasState l server .listening = true) :
    Rule ⟨l, .tick t :: stack, .advance⟩
      ⟨l.meterAsync server .listen status.isOk, .tick { t with stage } :: stack,
        .emit server (connectionEvent status)⟩
  | dropConnection {l stack t stage server status}
    (here : t.stage.pop? = some (.connection server status, stage))
    (state : hasState l server .listening = false) :
    Rule ⟨l, .tick t :: stack, .advance⟩ ⟨l, .tick { t with stage } :: stack, .advance⟩
  | skipRead {l stack t passes h rest productive}
    (here : t.stage = .reads passes (h :: rest) productive)
    (idle : ∀ x, l.handles.get? h = some x → x.isReading = false) :
    Rule ⟨l, .tick t :: stack, .advance⟩
      (ofTick stack { t with stage := .reads passes rest productive } l)
  | refuseRead {l stack t passes h rest productive x}
    (here : t.stage = .reads passes (h :: rest) productive) (found : l.handles.get? h = some x)
    (reading : x.isReading = true) (exposed : (readBuffer l x).exposed = true) :
    Rule ⟨l, .tick t :: stack, .advance⟩ (ofTick stack (t.record .bufferExposed).abandonReads l)
  | readNothing {l stack t passes h rest productive x status bytes l'}
    (here : t.stage = .reads passes (h :: rest) productive)
    (found : l.handles.get? h = some x) (reading : x.isReading = true)
    (free : (readBuffer l x).exposed = false)
    (read : l.ask (T.read t.waker h (readBuffer l x).size) = ((status, bytes), l'))
    (nothing : status = .pending ∨ status = .data 0) :
    Rule ⟨l, .tick t :: stack, .advance⟩
      (ofTick stack { t with stage := .reads passes rest productive }
      (fillBuffer l' h (readBuffer l x) bytes))
  | readData {l stack t passes h rest productive x n bytes l'}
    (here : t.stage = .reads passes (h :: rest) productive)
    (found : l.handles.get? h = some x) (reading : x.isReading = true)
    (free : (readBuffer l x).exposed = false)
    (read : l.ask (T.read t.waker h (readBuffer l x).size) = ((.data n, bytes), l'))
    (filled : n ≠ 0) :
    Rule ⟨l, .tick t :: stack, .advance⟩
      ⟨expose ((fillBuffer l' h (readBuffer l x) bytes).meterAsync h .read true) h true,
        .lending h (((readBuffer l x).overwrite 0 bytes).view n) ::
          .tick { t with stage := .reads passes rest true } :: stack,
        .emit h (.data (((readBuffer l x).overwrite 0 bytes).view n))⟩
  | readEof {l stack t passes h rest productive x bytes l'}
    (here : t.stage = .reads passes (h :: rest) productive)
    (found : l.handles.get? h = some x) (reading : x.isReading = true)
    (free : (readBuffer l x).exposed = false)
    (read : l.ask (T.read t.waker h (readBuffer l x).size) = ((.eof, bytes), l')) :
    Rule ⟨l, .tick t :: stack, .advance⟩
      ⟨(fillBuffer l' h (readBuffer l x) bytes).endReading T h .ended,
        .tick { t with stage := .reads passes rest true } :: stack, .emit h .endOfStream⟩
  | readFailed {l stack t passes h rest productive x status bytes l'}
    (here : t.stage = .reads passes (h :: rest) productive)
    (found : l.handles.get? h = some x) (reading : x.isReading = true)
    (free : (readBuffer l x).exposed = false)
    (read : l.ask (T.read t.waker h (readBuffer l x).size) = ((.failed status, bytes), l')) :
    Rule ⟨l, .tick t :: stack, .advance⟩
      ⟨((fillBuffer l' h (readBuffer l x) bytes).meterAsync h .read false).endReading T h .ended,
        .tick { t with stage := .reads passes rest true } :: stack,
        .emit h (.error ⟨status, "on_read"⟩)⟩
  | skipReclaim {l stack t h batch} (here : t.stage = .reclaims (h :: batch))
      (gone : l.handles.get? h = none) :
    Rule ⟨l, .tick t :: stack, .advance⟩ ⟨l,
      .tick { t with stage := .reclaims batch } :: stack, .advance⟩
  | breach {l stack t h batch x} (here : t.stage = .reclaims (h :: batch))
    (found : l.handles.get? h = some x) (held : x.closing = false ∨ x.refs ≠ 0) :
    Rule ⟨l, .tick t :: stack, .advance⟩
      ⟨{ l with breach := some (.reclaimOfHeld h) },
        .tick { t with stage := .reclaims batch } :: stack, .advance⟩
  | reclaim {l stack t h batch x} (here : t.stage = .reclaims (h :: batch))
    (found : l.handles.get? h = some x) (closing : x.closing = true) (free : x.refs = 0) :
    Rule ⟨l, .tick t :: stack, .advance⟩
      ⟨(takeHandle l h x).meterAsync h .close true,
        .reclaiming h x.onClose :: .tick { t with stage := .reclaims batch } :: stack,
        .emit h .close⟩
  | ticked {l stack next result} :
    Rule ⟨l, .ticking next :: stack, .ticked result⟩ ⟨l, stack, .run (next result)⟩
  | runFailed {l stack mode next e} :
    Rule ⟨l, .running mode next :: stack, .ticked (.error e)⟩ ⟨l, stack, .run (next (.error e))⟩
  | endRun {l stack mode next worked}
    (stop : (l.stopping || mode ≠ .default || !worked || !Loop.alive { l with stopping := false }) =
      true) :
    Rule ⟨l, .running mode next :: stack, .ticked (.ok worked)⟩
      ⟨{ l with stopping := false }, stack,
        .run (next (.ok (Loop.alive { l with stopping := false })))⟩
  | runAgain {l stack mode next worked}
    (on : (l.stopping || mode ≠ .default || !worked || !Loop.alive { l with stopping := false }) =
      false) :
    Rule ⟨l, .running mode next :: stack, .ticked (.ok worked)⟩
      (beginTick (.running mode next :: stack) { l with stopping := false } .idle)
  | pollFailed {l stack w next e} :
    Rule ⟨l, .polling w next :: stack, .ticked (.error e)⟩ ⟨l, stack, .run (next (.error e))⟩
  | endPoll {l stack w next worked}
      (stop : (l.stopping || !Loop.alive { l with stopping := false }) = true) :
    Rule ⟨l, .polling w next :: stack, .ticked (.ok worked)⟩
      ⟨{ l with stopping := false }, stack, .run (next (.ok true))⟩
  | pausePoll {l stack w next worked}
      (on : (l.stopping || !Loop.alive { l with stopping := false }) = false) :
    Rule ⟨l, .polling w next :: stack, .ticked (.ok worked)⟩
      ⟨if worked then Loop.wakeBy { l with stopping := false } w else { l with stopping := false },
        stack, .run (next (.ok false))⟩

variable {T enter}

/-! ## Every step is one of the rules -/

/-- What a call does is a step. -/
theorem rule_of_perform (l : Loop H) (stack : List (Frame H)) (c : Call H)
    (next : c.Answer → Program H) :
    Rule T enter ⟨l, stack, .run (.call c next)⟩ (perform T l stack c next) := by
  cases c with
  | ask q => exact .ask
  | issue o => exact .issue
  | listen h backlog onConnection =>
    simp only [perform]
    split
    case h_1 e l' begun => exact .refuseListen begun
    case h_2 l' begun => exact .beginListen begun
  | tick w => exact .tick
  | run mode => exact .runLoop
  | poll w => exact .poll
  | script s => exact .script
  | survey => exact .survey
  | note n => exact .note
  | «recall» => exact .recallShared
  | update f => exact .update

/-- What a completion of a request makes of the machine follows from the request table. -/
theorem rule_of_complete {l : Loop H} {stack : List (Frame H)} {t : Tick} {c : Completion}
    {stage : Stage} {req : RequestId} {status : Outcome} (here : t.stage.pop? = some (c, stage))
    (report : c.report? = some (req, status)) :
    Rule T enter ⟨l, .tick t :: stack, .advance⟩
      (complete l (.tick { t with stage } :: stack) req status) := by
  unfold complete
  split
  case h_1 gone => exact .skipReport here report gone
  case h_2 request pending =>
    cases request with
    | write h data callback => exact .completeWrite here report pending
    | shutdown h callback => exact .completeShutdown here report pending
    | connect h =>
      simp only
      split
      case isTrue state =>
        cases status with
        | ok => exact .completeConnect here report pending state
        | error status => exact .failConnect here report pending state
      case isFalse state => exact .dropConnect here report pending (Bool.eq_false_iff.2 state)

/-- Dispatching the next completion of a tick is a step. -/
theorem rule_of_dispatch {l : Loop H} {stack : List (Frame H)} {t : Tick} {c : Completion}
    {stage : Stage} (here : t.stage.pop? = some (c, stage)) :
    Rule T enter ⟨l, .tick t :: stack, .advance⟩
      (dispatch l (.tick { t with stage } :: stack) c) := by
  cases c with
  | connection server status =>
    simp only [dispatch, connection]
    split
    case isTrue state => cases status <;> exact .connection here state
    case isFalse state => exact .dropConnection here (Bool.eq_false_iff.2 state)
  | write req status => exact rule_of_complete here rfl
  | shutdown req status => exact rule_of_complete here rfl
  | connect req status => exact rule_of_complete here rfl

/-- The next read of a pass is a step. -/
theorem rule_of_readOne {l : Loop H} {stack : List (Frame H)} {t : Tick} {passes : Nat}
    {h : HandleId} {rest : List HandleId} {productive : Bool}
    (here : t.stage = .reads passes (h :: rest) productive) :
    Rule T enter ⟨l, .tick t :: stack, .advance⟩
      (readOne T l stack t passes rest productive h) := by
  unfold readOne
  split
  case h_1 gone => exact .skipRead here fun x hx => by simp [gone] at hx
  case h_2 x found =>
    simp only
    split
    case isTrue idle =>
      refine .skipRead here fun y hy => ?_
      obtain rfl : x = y := Option.some.inj (found.symm.trans hy)
      simpa using idle
    case isFalse busy =>
      have reading : x.isReading = true := by simpa using busy
      split
      case isTrue exposed => exact .refuseRead here found reading exposed
      case isFalse free =>
        have free : (readBuffer l x).exposed = false := Bool.eq_false_iff.2 free
        rcases read : l.ask (T.read t.waker h (readBuffer l x).size) with ⟨⟨status, bytes⟩, l'⟩
        have read' := read
        rw [readBuffer] at read'
        simp only [read']
        split
        case h_1 => exact .readNothing here found reading free read (.inl rfl)
        case h_2 => exact .readNothing here found reading free read (.inr rfl)
        case h_3 n filled =>
          exact .readData here found reading free read (fun hn => filled (by rw [hn]))
        case h_4 => exact .readEof here found reading free read
        case h_5 status => exact .readFailed here found reading free read

/-- Reclaiming the next handle of a batch is a step. -/
theorem rule_of_reclaimOne {l : Loop H} {stack : List (Frame H)} {t : Tick} {h : HandleId}
    {batch : List HandleId} (here : t.stage = .reclaims (h :: batch)) :
    Rule T enter ⟨l, .tick t :: stack, .advance⟩
      (reclaimOne l (.tick { t with stage := .reclaims batch } :: stack) h) := by
  unfold reclaimOne
  split
  case h_1 gone => exact .skipReclaim here gone
  case h_2 x found =>
    split
    case isTrue held => exact .breach here found (by simpa using held)
    case isFalse free =>
      obtain ⟨closing, free⟩ : x.closing = true ∧ x.refs = 0 := by simpa using free
      exact .reclaim here found closing free

/-- What a tick does when it goes on is a step. -/
theorem rule_of_advance (l : Loop H) (stack : List (Frame H)) (t : Tick) :
    Rule T enter ⟨l, .tick t :: stack, .advance⟩ (advance T l stack t) := by
  unfold advance
  split
  case h_1 here => exact .collect here
  case h_2 c batch here => exact rule_of_dispatch (by rw [here]; rfl)
  case h_3 here => exact .firstPass here
  case h_4 c batch here => exact rule_of_dispatch (by rw [here]; rfl)
  case h_5 passes productive here =>
    simp only
    split
    case isTrue on =>
      obtain ⟨rfl, left⟩ := on
      simpa using Rule.nextPass here left
    case isFalse stop => exact .beginReclaims here stop
  case h_6 passes h rest productive here => exact rule_of_readOne here
  case h_7 here => exact .endTick here
  case h_8 h batch here => exact rule_of_reclaimOne here

/-- Handing a result to the work below is a step. -/
theorem rule_of_return? {l : Loop H} {stack : List (Frame H)} {failure : Option ListenerError}
    {m : Machine H} (hm : return? l failure stack = some m) :
    Rule T enter ⟨l, stack, .returned failure⟩ m := by
  unfold return? at hm
  split at hm
  case h_1 h e rest stack =>
    split at hm
    case h_1 c rest => cases hm; exact .nextListener
    case h_2 last =>
      cases hm
      refine .endEmission fun none => ?_
      cases rest with
      | nil => rfl
      | cons c rest => exact (last c rest none rfl).elim
  case h_2 req h stack => cases hm; exact .endDelivery
  case h_3 req h stack => cases hm; exact .endConnect
  case h_4 h view stack => cases hm; exact .endLoan
  case h_5 h onClose stack =>
    cases onClose with
    | none => cases hm; exact .skipParting
    | some c => cases hm; exact .beginParting
  case h_6 h emitted stack => cases hm; exact .endParting
  case h_7 t stack => cases hm; exact .noteResult
  case h_8 h next stack =>
    cases failure with
    | none => cases hm; exact .endListen
    | some cause => cases hm; exact .failListen
  case h_9 => cases hm

/-- Handing the result of a tick to the work below is a step. -/
theorem rule_of_afterTick? {l : Loop H} {stack : List (Frame H)} {result : Except LoopError Bool}
    {m : Machine H} (hm : afterTick? l result stack = some m) :
    Rule T enter ⟨l, stack, .ticked result⟩ m := by
  unfold afterTick? at hm
  split at hm
  case h_1 next stack => cases hm; exact .ticked
  case h_2 mode next stack =>
    cases result with
    | error e => cases hm; exact .runFailed
    | ok worked =>
      simp only at hm
      split at hm
      case isTrue stop => cases hm; exact .endRun stop
      case isFalse on => cases hm; exact .runAgain (Bool.eq_false_iff.2 on)
  case h_3 w next stack =>
    cases result with
    | error e => cases hm; exact .pollFailed
    | ok worked =>
      simp only at hm
      split at hm
      case isTrue stop => cases hm; exact .endPoll stop
      case isFalse on => cases hm; exact .pausePoll (Bool.eq_false_iff.2 on)
  case h_4 => cases hm

/-- A step is possible only before a breach, and follows one of the rules. -/
theorem rule_of_step? {m m' : Machine H} (hm : m.step? T enter = some m') :
    m.loop.breach = none ∧ Rule T enter m m' := by
  obtain ⟨l, stack, control⟩ := m
  unfold step? at hm
  split at hm
  case isTrue => cases hm
  case isFalse sound =>
    refine ⟨Option.not_isSome_iff_eq_none.1 sound, ?_⟩
    cases control with
    | run p =>
      cases p with
      | done failure => cases hm; exact .finish
      | call c next => cases hm; exact rule_of_perform l stack c next
    | enter c o => cases hm; exact .enter
    | emit h e => cases hm; exact .emit
    | returned failure => exact rule_of_return? hm
    | advance =>
      simp only at hm
      split at hm
      case h_1 t stack => cases hm; exact rule_of_advance l stack t
      case h_2 => cases hm
    | ticked result => exact rule_of_afterTick? hm

/-- The step of a call is what the call does. -/
theorem eq_perform_of_step? {l : Loop H} {stack : List (Frame H)} {c : Call H}
    {next : c.Answer → Program H} {m : Machine H}
    (taken : step? T enter ⟨l, stack, .run (.call c next)⟩ = some m) :
    perform T l stack c next = m := by
  unfold step? at taken
  split at taken
  case isTrue => cases taken
  case isFalse => exact Option.some.inj taken

/-- The step after a tick hands its result to the work below. -/
theorem afterTick?_of_step? {l : Loop H} {stack : List (Frame H)} {result : Except LoopError Bool}
    {m : Machine H} (taken : step? T enter ⟨l, stack, .ticked result⟩ = some m) :
    afterTick? l result stack = some m := by
  unfold step? at taken
  split at taken
  case isTrue => cases taken
  case isFalse => exact taken

/-! ## What a rule leaves on the stack -/

/-- Telling an outcome removes no work. -/
theorem suffix_deliver (l : Loop H) (stack : List (Frame H)) (req : RequestId) (h : HandleId)
    (callback : Callback H.Closure) (outcome : RequestOutcome) :
    stack <:+ (deliver l stack req h callback outcome).stack := by
  cases callback with
  | closure => exact List.suffix_cons _ _
  | promise => exact List.suffix_rfl

/-- To tell an outcome is to enter a handler or to go on with the tick. -/
theorem deliver_ne_run {l : Loop H} {stack : List (Frame H)} {req : RequestId} {h : HandleId}
    {callback : Callback H.Closure} {outcome : RequestOutcome} {p : Program H} :
    (deliver l stack req h callback outcome).control ≠ .run p := by
  cases callback <;> simp [deliver]

/-- Telling an outcome does not end a tick. -/
theorem deliver_ne_ticked {l : Loop H} {stack : List (Frame H)} {req : RequestId} {h : HandleId}
    {callback : Callback H.Closure} {outcome : RequestOutcome} {result : Except LoopError Bool} :
    (deliver l stack req h callback outcome).control ≠ .ticked result := by
  cases callback <;> simp [deliver]

/-- A rule touches no suspended work but the innermost. -/
theorem Rule.suffix_stack {x y : Machine H} (rule : Rule T enter x y) :
    x.stack.tail <:+ y.stack := by
  cases rule with
  | completeWrite | completeShutdown =>
    exact (List.suffix_cons _ _).trans (suffix_deliver _ _ _ _ _ _)
  | finish | ask | issue | refuseListen | script | survey | note | recallShared | update | enter =>
    exact List.tail_suffix _
  | beginListen | emit => exact (List.tail_suffix _).trans (List.suffix_cons _ _)
  | tick | runLoop | poll =>
    exact (List.tail_suffix _).trans ((List.suffix_cons _ _).trans (List.suffix_cons _ _))
  | endEmission | endDelivery | endConnect | endLoan | endParting | endListen | failListen | endTick
    | ticked | runFailed | endRun | pollFailed | endPoll | pausePoll => exact List.suffix_rfl
  | completeConnect | failConnect | readData | reclaim | runAgain =>
    exact (List.suffix_cons _ _).trans (List.suffix_cons _ _)
  | _ => exact List.suffix_cons _ _

end Machine

end Reactor
