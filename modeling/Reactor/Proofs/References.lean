import Reactor.Echo.Server
import Reactor.Proofs.Machine.Run
import Reactor.Proofs.References.Operations

/-!
# References are accounted for

Along every run, on any transport and with any handlers, a handle counts one reference for its
read session, one for its listening, one for each pending request, and one for each of its requests
whose completion is being dispatched. So no reference is ever given back that was not taken, and no
handle is reclaimed while it is in use.
-/

namespace Reactor

variable {H : Host} {T : Transport H.Net H.Script} {enter : Handlers H}

/-- A new loop is balanced. -/
theorem Loop.Balanced.fresh (options : Options) (net : H.Net) (shared : H.Shared) :
    (Loop.fresh options net shared).Balanced [] [] where
  sound := rfl
  refs hx := by simp [Loop.fresh] at hx
  requested hr := by simp [Loop.fresh] at hr
  present hh := by simp at hh
  dueOnce h := by simp [Loop.fresh]
  coherent hx := by simp [Loop.fresh] at hx

/-- The handles that are still due in a batch of reclaims. -/
def Stage.due : Stage → List HandleId
  | .reclaims batch => batch
  | _ => []

/-- The handles to which suspended work holds a reference: one for each request in dispatch. -/
def Frame.held : Frame H → List HandleId
  | .delivering _ h | .connecting _ h => [h]
  | _ => []

/-- The handles that suspended work is still to reclaim. -/
def Frame.due : Frame H → List HandleId
  | .tick t => t.stage.due
  | _ => []

/-- A machine is balanced when its loop is, with the references and the reclaims
of its suspended work. -/
def Machine.Balanced (m : Machine H) : Prop :=
  m.loop.Balanced (m.stack.flatMap Frame.held) (m.stack.flatMap Frame.due)

/-- The number of a handle's requests whose completion is being dispatched. -/
def Machine.dispatching (m : Machine H) (h : HandleId) : Nat := (m.stack.flatMap Frame.held).count h

/-! ## Parts of a dispatch -/

namespace Loop.Balanced

variable {l : Loop H} {h : HandleId} {held due : List HandleId}

/-- The sample of an outcome moves no reference. -/
theorem meterAsync (b : l.Balanced held due) (h : HandleId) (op : StreamOp) (ok : Bool) :
    (l.meterAsync h op ok).Balanced held due :=
  b.congr rfl rfl rfl rfl

/-- Settling a shutdown moves no reference. -/
theorem settleShutdown (b : l.Balanced held due) (ok : Bool) :
    (Machine.settleShutdown l h ok).Balanced held due := by
  unfold Machine.settleShutdown
  split
  case h_1 x found =>
    split
    case isTrue shutting =>
      exact b.setState found (by simp [shutting]) (by simp [shutting]) (by cases ok <;> simp)
    case isFalse => exact b
  case h_2 => exact b

/-- Filling a buffer moves no reference. -/
theorem fillBuffer (b : l.Balanced held due) (buffer : ReadBuffer) (bytes : List UInt8) :
    (Machine.fillBuffer l h buffer bytes).Balanced held due :=
  b.modifyHandle fun _ hx => ⟨rfl, rfl, rfl, (b.coherent hx :)⟩

/-- Exposing a buffer moves no reference. -/
theorem expose (b : l.Balanced held due) (exposed : Bool) :
    (Machine.expose l h exposed).Balanced held due :=
  b.modifyBuffer _

/-- A connect that was pending leaves its handle in any state but closing. -/
theorem finishConnect (b : l.Balanced held due) {state : StreamState}
    (connecting : Machine.hasState l h .connecting = true) (stays : state ≠ .closing) :
    (l.setState h state).Balanced held due := by
  obtain ⟨x, found, hx⟩ := (Option.any_eq_true _ _).1 connecting
  have hx : x.state = .connecting := by simpa using hx
  exact b.setState found (by simp [hx]) (by simp [hx]) stays

end Loop.Balanced

/-- While completions are to be taken no handle is due in the batch of a tick. -/
theorem Stage.due_of_pop? {s s' : Stage} {c : Completion} (hpop : s.pop? = some (c, s')) :
    s.due = [] ∧ s'.due = [] := by
  obtain ⟨batch, ⟨rfl, rfl⟩ | ⟨rfl, rfl⟩⟩ := eq_of_pop? hpop
  · exact ⟨rfl, rfl⟩
  · exact ⟨rfl, rfl⟩

/-- Noting a failure leaves due in a batch what was. -/
theorem Tick.due_note (t : Tick) (failure : Option ListenerError) :
    (t.note failure).stage.due = t.stage.due := by
  obtain same | ⟨_, _, _, before, after⟩ := t.stage_note failure
  · rw [same]
  · rw [before, after]
    rfl

namespace Machine.Balanced

variable {l : Loop H} {stack : List (Frame H)}

/-- A tick may start at any time: nothing is due in it yet. -/
theorem beginTick (b : l.Balanced (stack.flatMap Frame.held) (stack.flatMap Frame.due))
    (w : Waker) : (beginTick stack l w).Balanced := by
  have same : ({ l with deferred := [] } : Loop H).Balanced (stack.flatMap Frame.held)
      (stack.flatMap Frame.due) :=
    b.congr rfl rfl rfl rfl
  exact same

/-- A reference in dispatch passes to the callback that is entered, or goes back with the future. -/
theorem deliver {req : RequestId} {h : HandleId} {callback : Callback H.Closure}
    {outcome : RequestOutcome}
    (b : l.Balanced (h :: stack.flatMap Frame.held) (stack.flatMap Frame.due)) :
    (deliver l stack req h callback outcome).Balanced := by
  cases callback with
  | closure c => exact b
  | promise =>
    have settled : ({ l with settled := (req, outcome) :: l.settled } : Loop H).Balanced
      (h :: stack.flatMap Frame.held) (stack.flatMap Frame.due) := b.congr rfl rfl rfl rfl
    exact settled.release

/-- A tick goes on to a part of it in which the same reclaims are left. -/
theorem goOn {t t' : Tick} {held : List HandleId}
    (b : l.Balanced held ((Frame.tick t :: stack).flatMap Frame.due))
    (same : t'.stage.due = t.stage.due) :
    l.Balanced held ((Frame.tick t' :: stack).flatMap Frame.due) := by
  rw [List.flatMap_cons, Frame.due] at b ⊢
  rwa [same]

/-- A tick has no reclaims in the part where it takes completions. -/
theorem take {t : Tick} {c : Completion} {stage : Stage} {held : List HandleId}
    (b : l.Balanced held ((Frame.tick t :: stack).flatMap Frame.due))
    (here : t.stage.pop? = some (c, stage)) :
    l.Balanced held ((Frame.tick { t with stage } :: stack).flatMap Frame.due) :=
  goOn b (by rw [(Stage.due_of_pop? here).1, (Stage.due_of_pop? here).2])

/-- Each rule keeps the balance. -/
theorem rule {m m' : Machine H} (hm : Rule T enter m m') (b : m.Balanced) : m'.Balanced := by
  unfold Machine.Balanced at b
  cases hm with
  | finish | ask | survey | recallShared | enter | emit | nextListener | endEmission | beginParting
    | skipParting | ticked | runFailed | pollFailed => exact b
  | issue => exact Loop.Balanced.issue b _
  | refuseListen begun =>
    obtain rfl := congrArg Prod.snd begun
    exact ((b.meter _ _ _).beginListen _ _).meter _ _ _
  | beginListen begun =>
    obtain rfl := congrArg Prod.snd begun
    exact (b.meter _ _ _).beginListen _ _
  | tick | runLoop => exact beginTick (by exact b) _
  | @poll l stack w next =>
    have registered : ({ l with waker := w } : Loop H).Balanced (stack.flatMap Frame.held)
      (stack.flatMap Frame.due) := b.congr rfl rfl rfl rfl
    exact beginTick (by exact registered) _
  | script => exact Loop.Balanced.ask b _
  | note | update => exact Loop.Balanced.congr b rfl rfl rfl rfl
  | endDelivery | endConnect => exact Loop.Balanced.release b
  | endLoan => exact Loop.Balanced.expose b _
  | endParting => exact Loop.Balanced.congr b rfl rfl rfl rfl
  | noteResult => exact goOn b (Tick.due_note _ _)
  | endListen | failListen => exact Loop.Balanced.meter b _ _ _
  | collect here => exact goOn (b.ask _) (by rw [here]; rfl)
  | firstPass here | nextPass here => exact goOn b (by rw [here]; rfl)
  | beginReclaims here =>
    simp only [List.flatMap_cons, Frame.due, here, Stage.due] at b
    exact b.beginReclaims
  | endTick here =>
    simp only [List.flatMap_cons, Frame.due, here, Stage.due] at b
    exact b
  | skipReport here | dropConnection here => exact take b here
  | completeWrite here report pending =>
    exact deliver (take ((b.leave pending).meterAsync _ _ _) here)
  | completeShutdown here report pending =>
    exact deliver (take (((b.leave pending).meterAsync _ _ _).settleShutdown _) here)
  | completeConnect here report pending state | failConnect here report pending state =>
    exact take (((b.leave pending).meterAsync _ _ _).finishConnect state (by simp)) here
  | dropConnect here report pending =>
    exact Loop.Balanced.release (take ((b.leave pending).meterAsync _ _ _) here)
  | connection here => exact take (b.meterAsync _ _ _) here
  | skipRead here | refuseRead here => exact goOn b (by rw [here]; rfl)
  | readNothing here _ _ _ read =>
    obtain rfl := congrArg Prod.snd read
    exact goOn ((b.ask _).fillBuffer _ _) (by rw [here]; rfl)
  | readData here _ _ _ read =>
    obtain rfl := congrArg Prod.snd read
    exact goOn ((((b.ask _).fillBuffer _ _).meterAsync _ _ _).expose _) (by rw [here]; rfl)
  | readEof here _ _ _ read =>
    obtain rfl := congrArg Prod.snd read
    exact goOn (((b.ask _).fillBuffer _ _).endReading T (by simp)) (by rw [here]; rfl)
  | readFailed here _ _ _ read =>
    obtain rfl := congrArg Prod.snd read
    exact goOn ((((b.ask _).fillBuffer _ _).meterAsync _ _ _).endReading T (by simp))
      (by rw [here]; rfl)
  | skipReclaim here gone =>
    simp only [List.flatMap_cons, Frame.due, here, Stage.due] at b
    obtain ⟨x, found, -⟩ := b.reclaimable_of_due
    simp [gone] at found
  | breach here found held =>
    simp only [List.flatMap_cons, Frame.due, here, Stage.due] at b
    obtain ⟨y, found', marked, free⟩ := b.reclaimable_of_due
    obtain rfl := Option.some.inj (found.symm.trans found')
    simp [marked, free] at held
  | reclaim here =>
    simp only [List.flatMap_cons, Frame.due, here, Stage.due] at b
    exact (b.reclaim _).meterAsync _ _ _
  | endRun | endPoll => exact Loop.Balanced.congr b rfl rfl rfl rfl
  | @runAgain l stack mode next worked on =>
    have reset : ({ l with stopping := false } : Loop H).Balanced (stack.flatMap Frame.held)
      (stack.flatMap Frame.due) := b.congr rfl rfl rfl rfl
    exact beginTick (by exact reset) _
  | @pausePoll l stack w next worked on =>
    have reset : ({ l with stopping := false } : Loop H).Balanced (stack.flatMap Frame.held)
      (stack.flatMap Frame.due) := b.congr rfl rfl rfl rfl
    split
    · exact reset.congr rfl rfl rfl rfl
    · exact reset

/-- Whatever comes after a balanced machine is balanced. -/
theorem next {m m' : Machine H} (hm : Next T enter m m') (b : m.Balanced) : m'.Balanced := by
  cases hm with
  | step taken => exact rule (rule_of_step? taken).2 b
  | resume p rest =>
    rw [Machine.Balanced, (atRest_iff.1 rest).2] at b
    exact b

/-- Every machine of a run is balanced. -/
theorem of_reached {past : List (Machine H)} {m : Machine H} (reached : Reached T enter past m) :
    m.Balanced := by
  refine reached.invariant (fun options net shared p => ?_)
    (fun _ _ b hrule => rule hrule b) fun x p b rest => ?_
  · exact Loop.Balanced.fresh options net shared
  · unfold Machine.Balanced at b
    rw [rest] at b
    exact b

/-- When nothing is at work, a closing handle without requests waits to be reclaimed. -/
theorem mem_closing {m : Machine H} {h : HandleId} {x : Handle H.Closure} (b : m.Balanced)
    (outside : m.stack = []) (found : m.loop.handles.get? h = some x) (marked : x.closing = true)
    (none_pending : m.loop.pendingRequests h = 0) :
    h ∈ m.loop.closing := by
  unfold Machine.Balanced at b
  rw [outside] at b
  have refs := b.refs found
  rw [(b.coherent found).ownRefs_eq_zero marked, none_pending] at refs
  have once := b.dueOnce h
  have free : x.reclaimable = true := by simpa [Handle.reclaimable, marked] using refs
  rw [List.flatMap_nil, List.append_nil, found, Option.any_some, free, if_pos rfl] at once
  exact List.count_pos_iff.1 (by rw [once]; exact Nat.zero_lt_one)

end Machine.Balanced

/-- Whenever anything runs, a handle in the table counts one reference if it reads, one if it
listens, one for each request that is pending on it, and one for each of its requests whose
completion is being dispatched. Every reference is to a handle in the table, so none is given back
wrongly and no handle in use is reclaimed. -/
theorem references_exact {past : List (Machine H)} {m : Machine H}
    (reached : Machine.Reached T enter past m) :
    (∀ h x, m.loop.handles.get? h = some x →
      x.refs = (if x.isReading then 1 else 0) + (if x.listenRef then 1 else 0) +
        m.loop.pendingRequests h + m.dispatching h) ∧
    (∀ req r, m.loop.requests.get? req = some r → (m.loop.handles.get? r.handle).isSome) ∧
    (∀ h, 0 < m.dispatching h → (m.loop.handles.get? h).isSome) ∧
    m.loop.breach = none := by
  have b := Machine.Balanced.of_reached reached
  refine ⟨fun h x found => ?_, fun req r hr => b.requested hr, fun h held => ?_, b.sound⟩
  · have counted := b.refs found
    rw [Handle.ownRefs] at counted
    exact counted
  · exact b.present (List.count_pos_iff.1 held)

/-! ## A client -/

namespace Client

open Memory (Script)

/-- A client that connects and, while the loop stands still, starts to read, writes twice, and
closes after the next tick. -/
def program : Program (Echo.host Memory Script) :=
  .call (.issue (.newHandle .tcp)) fun (h : HandleId) =>
  .call (.issue (.connect h (.v4 ⟨127, 0, 0, 1⟩ 80))) fun _ =>
  .call (.tick .idle) fun _ =>
  .call (.issue (.readStart h)) fun _ =>
  .call (.issue (.write h [1] (.closure Echo.Closure.afterWrite))) fun _ =>
  .call (.issue (.write h [2] (.closure Echo.Closure.afterWrite))) fun _ =>
  .call (.tick .idle) fun _ =>
  .call (.issue (.close h Echo.Closure.afterClose)) fun _ =>
  .call (.tick .idle) fun _ => .skip

/-- The client after so many steps on a transport in memory. -/
def after (steps : Nat) : Machine (Echo.host Memory Script) :=
  (Machine.start program (.fresh .standard Memory.initial ())).run Memory.transport
    (Echo.handlers _ _) steps

/-- The machine of the client is reached after any number of steps. -/
theorem reached_after (steps : Nat) :
    ∃ past, Machine.Reached Memory.transport (Echo.handlers _ _) past (after steps) := by
  obtain ⟨past, run, -⟩ := Machine.Run.exists_of_run Memory.transport (Echo.handlers _ _)
    (Machine.start program (.fresh .standard Memory.initial ())) steps
  exact ⟨past, .standard, Memory.initial, (), program, run⟩

end Client

/-- When the callback of the first write starts, the handle counts its read session, the second
write, and the first write, which is in dispatch. -/
theorem references_exact_in_callback :
    ∃ past x, Machine.Reached Memory.transport (Echo.handlers _ _) past (Client.after 20) ∧
      (Client.after 20).loop.handles.get? 0 = some x ∧ x.refs = 1 + 0 + 1 + 1 := by
  obtain ⟨past, reached⟩ := Client.reached_after 20
  have there : ((Client.after 20).loop.handles.get? 0).isSome := by rfl
  obtain ⟨x, found⟩ := Option.isSome_iff_exists.1 there
  have shown : ((Client.after 20).loop.handles.get? 0).map (fun x => (x.isReading, x.listenRef)) =
      some (true, false) := by rfl
  rw [found, Option.map_some, Option.some.injEq, Prod.mk.injEq] at shown
  have counted := (references_exact reached).1 0 x found
  rw [shown.1, shown.2] at counted
  exact ⟨past, x, reached, found, counted⟩

end Reactor
