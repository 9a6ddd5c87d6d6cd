import Mathlib.Data.List.Basic
import Reactor.Proofs.Completion.Traffic
import Reactor.Proofs.Loop.Asides
import Reactor.Proofs.Stream.Moves

/-!
# The samples of a step

Each step of a machine sends a few samples to the collectors. Which ones is said by what is seen of
the step anyway: a call and how it ended, the completion of a request that is pending, and an event
that is told. Every collector gets every sample, each in its turn.
-/

namespace Reactor

variable {H : Host} {T : Transport H.Net H.Script} {enter : Handlers H}

/-- How a call ended. -/
def Progress.ended (refused : Bool) : Progress := if refused then .error else .completed

/-- How a result arrived later. -/
def Progress.arrived (ok : Bool) : Progress := if ok then .completedAsync else .errorAsync

/-- The sample of an entry, with the collector that got it. -/
def Entry.sample? {ν : Type} : Entry ν → Option (Collector × Sample)
  | .sample c s => some (c, s)
  | .note _ => none

/-- A trace as the collectors get it: each of its samples goes to every collector in turn. -/
def Options.copies (o : Options) (trace : List Sample) : List (Collector × Sample) :=
  trace.flatMap fun s => o.collectors.map (·, s)

/-- The collectors get the copies of a longer trace in order. -/
@[simp] theorem Options.copies_append (o : Options) (first second : List Sample) :
    o.copies (first ++ second) = o.copies first ++ o.copies second :=
  List.flatMap_append

/-! ## The samples of operations -/

namespace Loop

variable {l l' l'' : Loop H} {new : List Sample} {h : HandleId} {op : StreamOp}

/-- The samples that the collectors of a loop got, oldest first. -/
def samples (l : Loop H) : List (Collector × Sample) := l.journal.reverse.filterMap Entry.sample?

/-- The second loop is the first after these samples went to the collectors. -/
structure Sends (l : Loop H) (new : List Sample) (l' : Loop H) : Prop where
  options : l'.options = l.options
  samples : l'.samples = l.samples ++ l.options.copies new

namespace Sends

/-- What touches neither the options nor the journal sends no sample. -/
theorem none (options : l'.options = l.options) (journal : l'.journal = l.journal) :
    l.Sends [] l' :=
  ⟨options, by simp [Loop.samples, journal, Options.copies]⟩

/-- A step that leaves alone what stands beside the streams sends nothing. -/
theorem none_of_aside (same : l'.aside = l.aside) : l.Sends [] l' := by
  obtain ⟨options, rest⟩ := Prod.mk.inj same
  exact none options (Prod.mk.inj rest).1

/-- To meter an operation is to send its sample. -/
theorem meter (l : Loop H) (h : HandleId) (op : StreamOp) (p : Progress) :
    l.Sends [⟨h, op, p⟩] (l.meter h op p) where
  options := rfl
  samples := by
    have each : Entry.sample? ∘ (fun c : Collector => (Entry.sample c ⟨h, op, p⟩ : Entry H.Note)) =
        some ∘ fun c => (c, ⟨h, op, p⟩) := rfl
    simp only [Loop.samples, Loop.meter, List.reverse_append, List.reverse_reverse,
      List.filterMap_append, List.filterMap_map, each, Options.copies, List.flatMap_cons,
      List.flatMap_nil, List.append_nil]
    simp

/-- To meter an outcome is to send its sample. -/
theorem meterAsync (l : Loop H) (h : HandleId) (op : StreamOp) (ok : Bool) :
    l.Sends [⟨h, op, .arrived ok⟩] (l.meterAsync h op ok) :=
  meter l h op _

/-- What is sent in two turns is sent together. -/
theorem trans {later : List Sample} (first : l.Sends new l') (second : l'.Sends later l'') :
    l.Sends (new ++ later) l'' where
  options := second.options.trans first.options
  samples := by
    rw [second.samples, first.samples, first.options, Options.copies_append, List.append_assoc]

/-- What goes on after the samples without touching the journal does not matter. -/
theorem before (sends : l.Sends new l') (same : l''.aside = l'.aside) : l.Sends new l'' := by
  simpa using sends.trans (none_of_aside same)

/-- What went on before the samples without touching the journal does not matter. -/
theorem after (sends : l'.Sends new l'') (same : l'.aside = l.aside) : l.Sends new l'' := by
  simpa using (none_of_aside same).trans sends

/-- A call with samples sends that it was called, and then how it ended. -/
theorem tracked {α : Type} (l : Loop H) (h : HandleId) (op : StreamOp)
    {body : Loop H → Except LoopError α × Loop H} (quiet : ∀ l, (body l).2.aside = l.aside) :
    l.Sends [⟨h, op, .dispatched⟩, ⟨h, op, .ended (errorOf (l.tracked h op body).1).isSome⟩]
      (l.tracked h op body).2 := by
  have body_sends := (meter l h op .dispatched).before (quiet _)
  unfold Loop.tracked
  split
  case h_1 a l' ended =>
    rw [ended] at body_sends
    exact body_sends.trans (meter l' h op .completed)
  case h_2 e l' ended =>
    rw [ended] at body_sends
    exact body_sends.trans (meter l' h op .error)

end Sends

end Loop

/-- The handle and the name under which an operation is sampled, if it is. -/
def Operation.metered? {κ : Type} : Operation κ → Option (HandleId × StreamOp)
  | .accept server _ => some (server, .accept)
  | .readStart h => some (h, .readStart)
  | .readStop h => some (h, .readStop)
  | .write h _ _ => some (h, .write)
  | .shutdown h _ => some (h, .shutdown)
  | .connect h _ => some (h, .connect)
  | .close h _ => some (h, .close)
  | .newHandle _ | .on .. | .adopt _ | .bind .. | .bufferWrite .. | .keptWrite .. | .stop
    | .forgetWake => none

/-- The samples of an operation with an answer: that it was called, and how the call ended. -/
def Operation.samples {κ : Type} (o : Operation κ) (a : o.Answer) : List Sample :=
  match o.metered? with
  | some (h, op) => [⟨h, op, .dispatched⟩, ⟨h, op, .ended (o.failure? a).isSome⟩]
  | none => []

namespace Loop

/-- Every operation sends its samples, and no others. -/
theorem sends_issue (T : Transport H.Net H.Script) (l : Loop H) (o : Operation H.Closure) :
    l.Sends (o.samples (l.issue T o).1) (l.issue T o).2 := by
  cases o with
  | newHandle kind => exact .none_of_aside (aside_newHandle l kind)
  | on h event c => exact .none_of_aside (aside_on l h event c)
  | accept server client => exact .tracked l server .accept (aside_acceptUntracked · server client)
  | adopt h => exact .none_of_aside (aside_adopt l h)
  | bind h address => exact .none_of_aside (aside_bind l h address)
  | readStart h => exact .tracked l h .readStart (aside_readStartUntracked · h)
  | readStop h => exact .tracked l h .readStop (aside_readStopUntracked · h)
  | bufferWrite h offset data => exact .none_of_aside (aside_bufferWrite l h offset data)
  | keptWrite h offset data => exact .none_of_aside (aside_keptWrite l h offset data)
  | write h data callback => exact .tracked l h .write (aside_writeUntracked · h data callback)
  | shutdown h callback => exact .tracked l h .shutdown (aside_shutdownUntracked · h callback)
  | connect h address => exact .tracked l h .connect (aside_connectUntracked · h address)
  | close h onClose => exact .tracked l h .close (aside_closeUntracked · h onClose)
  | stop => exact ⟨rfl, by simp [Operation.samples, Operation.metered?, Options.copies]; rfl⟩
  | forgetWake => exact .none_of_aside rfl

end Loop

/-! ## Brackets -/

/-- The calls that are open after one more sample, innermost first. There are none when the sample
ends a call that is not the innermost one. -/
def Sample.nest (opened : List (HandleId × StreamOp)) (s : Sample) :
    Option (List (HandleId × StreamOp)) :=
  match s.progress, opened with
  | .dispatched, opened => some ((s.handle, s.op) :: opened)
  | .completed, call :: rest | .error, call :: rest =>
    if call = (s.handle, s.op) then some rest else none
  | .completed, [] | .error, [] => none
  | .completedAsync, opened | .errorAsync, opened => some opened

/-- A call that begins is open, inside those that were. -/
@[simp] theorem Sample.nest_dispatched (opened : List (HandleId × StreamOp)) (h : HandleId)
    (op : StreamOp) :
    Sample.nest opened ⟨h, op, .dispatched⟩ = some ((h, op) :: opened) := rfl

/-- A call that ends is the innermost one, and is open no more. -/
@[simp] theorem Sample.nest_ended (opened : List (HandleId × StreamOp)) (h : HandleId)
    (op : StreamOp) (refused : Bool) :
    Sample.nest ((h, op) :: opened) ⟨h, op, .ended refused⟩ = some opened := by
  cases refused <;> simp [nest, Progress.ended]

/-- The sample of an outcome opens and ends no call. -/
@[simp] theorem Sample.nest_arrived (opened : List (HandleId × StreamOp)) (h : HandleId)
    (op : StreamOp) (ok : Bool) :
    Sample.nest opened ⟨h, op, .arrived ok⟩ = some opened := by
  cases ok <;> rfl

/-- The samples of an operation leave the calls that are open as they are. -/
theorem Operation.nest_samples {κ : Type} (o : Operation κ) (a : o.Answer)
    (opened : List (HandleId × StreamOp)) :
    (o.samples a).foldlM Sample.nest opened = some opened := by
  unfold samples
  split
  case h_1 => simp
  case h_2 => rfl

/-! ## The samples of steps -/

/-- The name under which the requests of a kind are sampled. -/
def RequestKind.op : RequestKind → StreamOp
  | .write => .write
  | .shutdown => .shutdown
  | .connect => .connect

/-- The sample of what an event tells, for the events that are sampled when they are told. -/
def Event.sample? (h : HandleId) : Event → Option Sample
  | .connection => some ⟨h, .listen, .completedAsync⟩
  | .data _ => some ⟨h, .read, .completedAsync⟩
  | .close => some ⟨h, .close, .completedAsync⟩
  | .error failure =>
    if failure.place = "on_connection" then some ⟨h, .listen, .errorAsync⟩
    else if failure.place = "on_read" then some ⟨h, .read, .errorAsync⟩
    else none
  | .listening | .connect | .endOfStream => none

/-- The call that a frame holds open. -/
def Frame.call? : Frame H → Option (HandleId × StreamOp)
  | .listening h _ => some (h, .listen)
  | _ => none

namespace Machine

variable {x y : Machine H}

/-- The calls that are open at a machine, innermost first. No call but `listen` runs
handlers before it returns. -/
def openCalls (m : Machine H) : List (HandleId × StreamOp) := m.stack.filterMap Frame.call?

/-- The samples of the call that the next step makes, or of the one that it ends. -/
def metered (T : Transport H.Net H.Script) (m : Machine H) : List Sample :=
  match m.control, m.stack with
  | .run (.call (.issue o) _), _ => o.samples (m.loop.issue T o).1
  | .run (.call (.listen h backlog c) _), _ =>
    ⟨h, .listen, .dispatched⟩ ::
      match ((m.loop.meter h .listen .dispatched).beginListen T h backlog c).1 with
      | .ok () => []
      | .error _ => [⟨h, .listen, .error⟩]
  | .returned failure, .listening h _ :: _ => [⟨h, .listen, .ended failure.isSome⟩]
  | _, _ => []

/-- The sample of the completion that the next step takes, if it is one of a
request that is pending. -/
def answered? (m : Machine H) : Option Sample :=
  m.reported?.bind fun (req, status) =>
    (m.loop.requests.get? req).map fun r => ⟨r.handle, r.kind.op, .arrived status.isOk⟩

/-- The sample of the event that is about to be told. -/
def tiding? (m : Machine H) : Option Sample := m.told?.bind fun (h, e) => e.sample? h

/-- The samples of the step from one machine to another. -/
def sampled (T : Transport H.Net H.Script) (x y : Machine H) : List Sample :=
  x.metered T ++ x.answered?.toList ++ y.tiding?.toList

/-- A step sends its samples, and the calls that are open after it are nested. -/
structure Samples (T : Transport H.Net H.Script) (x y : Machine H) : Prop where
  sends : x.loop.Sends (x.sampled T y) y.loop
  nests : (x.sampled T y).foldlM Sample.nest x.openCalls = some y.openCalls

namespace Samples

/-- A step without samples sends its samples if it sends nothing and opens no call. -/
theorem quiet (none : x.sampled T y = []) (sends : x.loop.Sends [] y.loop)
    (calls : y.openCalls = x.openCalls) :
    Samples T x y := by
  constructor <;> rw [none]
  case sends => exact sends
  case nests => rw [calls]; rfl

/-- A step with the one sample of an outcome sends its samples if it sends this
one and opens no call. -/
theorem one (h : HandleId) (op : StreamOp) (ok : Bool)
    (one : x.sampled T y = [⟨h, op, .arrived ok⟩])
    (sends : x.loop.Sends [⟨h, op, .arrived ok⟩] y.loop) (calls : y.openCalls = x.openCalls) :
    Samples T x y := by
  constructor <;> rw [one]
  case sends => exact sends
  case nests => simp [calls]

end Samples

/-- An outcome is a success wherever it is said to come from. -/
theorem isOk_outcomeAt (place : String) (status : Outcome) :
    (outcomeAt place status).isOk = status.isOk := by
  cases status <;> rfl

/-- Telling an outcome opens no call. -/
@[simp] theorem openCalls_deliver (l : Loop H) (stack : List (Frame H)) (req : RequestId)
    (h : HandleId) (callback : Callback H.Closure) (outcome : RequestOutcome) :
    (deliver l stack req h callback outcome).openCalls = stack.filterMap Frame.call? := by
  cases callback <;> rfl

/-- A step of a tick that takes no completion has no sample but that of the event it tells. -/
theorem sampled_of_stage {l : Loop H} {stack : List (Frame H)} {t : Tick}
    (idle : t.stage.pop? = none) (y : Machine H) :
    sampled T ⟨l, .tick t :: stack, .advance⟩ y = y.tiding?.toList := by
  simp [sampled, metered, answered?, reported?, idle]

/-- The completion of a request that is pending has one sample, and more only if an event with a
sample is told. -/
theorem sampled_of_report {l : Loop H} {stack : List (Frame H)} {t : Tick} {c : Completion}
    {stage : Stage} {req : RequestId} {status : Outcome} {r : Request H.Closure} {y : Machine H}
    (here : t.stage.pop? = some (c, stage)) (report : c.report? = some (req, status))
    (pending : l.requests.get? req = some r) (silent : y.tiding? = none) :
    sampled T ⟨l, .tick t :: stack, .advance⟩ y =
      [⟨r.handle, r.kind.op, .arrived status.isOk⟩] := by
  simp [sampled, metered, answered?, reported?_of_pop? here, report, pending, silent]

/-- Each rule sends the samples of its step. -/
theorem Rule.samples (rule : Rule T enter x y) : Samples T x y := by
  cases rule with
  | finish | ask | tick | runLoop | poll | script | survey | recallShared | update | enter | emit
    | nextListener | endEmission | endLoan | beginParting | skipParting | endParting | noteResult
    | ticked | runFailed | endRun | runAgain | pollFailed | endPoll =>
    exact .quiet rfl (.none rfl rfl) rfl
  | note => exact .quiet rfl ⟨rfl, by simp [Loop.samples, Entry.sample?, Options.copies]⟩ rfl
  | pausePoll => exact .quiet rfl (.none (by split <;> rfl) (by split <;> rfl)) rfl
  | endDelivery | endConnect => exact .quiet rfl (.none_of_aside (Loop.aside_release _ _)) rfl
  | @issue l stack o next =>
    have is : sampled T ⟨l, stack, .run (.call (.issue o) next)⟩
        ⟨(l.issue T o).2, stack, .run (next (l.issue T o).1)⟩ = o.samples (l.issue T o).1 := by
      simp [sampled, metered, answered?, reported?, tiding?, told?]
    constructor <;> rw [is]
    case sends => exact Loop.sends_issue T l o
    case nests => exact o.nest_samples _ _
  | @refuseListen l stack h backlog c next e l' begun =>
    have is : sampled T ⟨l, stack, .run (.call (.listen h backlog c) next)⟩
        ⟨l'.meter h .listen .error, stack, .run (next (.error e))⟩ =
          [⟨h, .listen, .dispatched⟩] ++ [⟨h, .listen, .error⟩] := by
      simp [sampled, metered, answered?, reported?, tiding?, told?, begun]
    have quiet := Loop.aside_beginListen (T := T) (l.meter h .listen .dispatched) h backlog c
    rw [begun] at quiet
    constructor <;> rw [is]
    case sends =>
      exact ((Loop.Sends.meter l h .listen .dispatched).before quiet).trans
        (.meter l' h .listen .error)
    case nests => simp [Sample.nest, openCalls]
  | @beginListen l stack h backlog c next l' begun =>
    have is : sampled T ⟨l, stack, .run (.call (.listen h backlog c) next)⟩
        ⟨l', .listening h next :: stack, .emit h .listening⟩ = [⟨h, .listen, .dispatched⟩] := by
      simp [sampled, metered, answered?, reported?, tiding?, told?, begun, Event.sample?]
    have quiet := Loop.aside_beginListen (T := T) (l.meter h .listen .dispatched) h backlog c
    rw [begun] at quiet
    constructor <;> rw [is]
    case sends => exact (Loop.Sends.meter l h .listen .dispatched).before quiet
    case nests => rfl
  | endListen | failListen =>
    exact ⟨.meter _ _ _ _,
      by simp [sampled, metered, answered?, reported?, tiding?, told?, openCalls, Frame.call?]⟩
  | collect here | firstPass here | nextPass here | beginReclaims here | endTick here
    | skipRead here | refuseRead here | skipReclaim here | breach here =>
    exact .quiet (sampled_of_stage (by rw [here]; rfl) _) (.none rfl rfl) rfl
  | skipReport here report gone =>
    exact .quiet
      (by simp [sampled, metered, answered?, reported?_of_pop? here, report, gone, tiding?, told?])
      (.none rfl rfl) rfl
  | completeWrite here report pending =>
    refine .one _ .write _ (sampled_of_report here report pending (by simp [tiding?])) ?_
      (openCalls_deliver _ _ _ _ _ _)
    rw [← isOk_outcomeAt "after_write"]
    exact ((Loop.Sends.meterAsync _ _ _ _).after rfl).before (aside_deliver _ _ _ _ _ _)
  | completeShutdown here report pending =>
    refine .one _ .shutdown _ (sampled_of_report here report pending (by simp [tiding?])) ?_
      (openCalls_deliver _ _ _ _ _ _)
    rw [← isOk_outcomeAt "after_shutdown"]
    exact ((Loop.Sends.meterAsync _ _ _ _).after rfl).before
      ((aside_deliver _ _ _ _ _ _).trans (aside_settleShutdown _ _ _))
  | completeConnect here report pending =>
    exact .one _ .connect true (sampled_of_report here report pending rfl)
      (((Loop.Sends.meterAsync _ _ _ _).after rfl).before rfl) rfl
  | failConnect here report pending =>
    exact .one _ .connect false (sampled_of_report here report pending rfl)
      (((Loop.Sends.meterAsync _ _ _ _).after rfl).before rfl) rfl
  | dropConnect here report pending =>
    refine .one _ .connect _ (sampled_of_report here report pending rfl) ?_ rfl
    rw [← isOk_outcomeAt "after_connect"]
    exact ((Loop.Sends.meterAsync _ _ _ _).after rfl).before (Loop.aside_release _ _)
  | @connection l stack t stage server status here state =>
    refine .one server .listen status.isOk ?_ (.meterAsync _ _ _ _) rfl
    simp only [sampled, metered, answered?, reported?_of_pop? here, Completion.report?,
      tiding?, told?]
    cases status <;> rfl
  | dropConnection here =>
    refine .quiet ?_ (.none rfl rfl) rfl
    simp [sampled, metered, answered?, reported?_of_pop? here, Completion.report?, tiding?, told?]
  | readNothing here found reading free read =>
    obtain rfl := congrArg Prod.snd read
    exact .quiet (sampled_of_stage (by rw [here]; rfl) _) (.none rfl rfl) rfl
  | readData here found reading free read =>
    obtain rfl := congrArg Prod.snd read
    exact .one _ .read true (sampled_of_stage (by rw [here]; rfl) _)
      (((Loop.Sends.meterAsync _ _ _ _).after rfl).before rfl) rfl
  | readEof here found reading free read =>
    obtain rfl := congrArg Prod.snd read
    exact .quiet (sampled_of_stage (by rw [here]; rfl) _) (.none_of_aside (by simp)) rfl
  | readFailed here found reading free read =>
    obtain rfl := congrArg Prod.snd read
    refine .one _ .read false (sampled_of_stage (by rw [here]; rfl) _) ?_ rfl
    exact ((Loop.Sends.meterAsync _ _ _ _).after rfl).before (Loop.aside_endReading _ _ _ _)
  | reclaim here =>
    exact .one _ .close true (sampled_of_stage (by rw [here]; rfl) _)
      ((Loop.Sends.meterAsync _ _ _ _).after rfl) rfl

/-- Whatever comes after a machine, the samples of the step were sent. -/
theorem Next.samples (next : Next T enter x y) : Samples T x y := by
  cases next with
  | step taken => exact (rule_of_step? taken).2.samples
  | resume p rest =>
    obtain ⟨⟨failure, control⟩, stack⟩ := atRest_iff.1 rest
    refine .quiet ?_ (.none rfl rfl) ?_
    · simp [sampled, metered, answered?, reported?, control, stack, tiding?, told?,
        start, ofProgram]
    · simp [openCalls, stack, start, ofProgram]

end Machine

end Reactor
