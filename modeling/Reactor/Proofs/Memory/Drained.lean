import Reactor.Proofs.Machine.Eventful
import Reactor.Proofs.Memory
import Reactor.Proofs.Memory.Reading

/-!
# Loops with nothing left to do

A tick that has found nothing so far knows that nothing was there in the phases that are over,
and that no handle that it has asked has anything to read, unless an empty chunk has arrived:
a read that takes one looks like a read in vain. A tick on a loop with nothing left to do
comes to its end in silence.
-/

namespace Reactor

namespace Memory

variable {m : Memory} {h : HandleId}

/-- No chunk of those that have arrived is empty. -/
def Solid (m : Memory) : Prop := ∀ h, .data [] ∉ (m.endpoint h).incoming

namespace Solid

/-- No chunk is empty where endpoints keep or lose what has arrived. -/
theorem keep {m' : Memory} (solid : m.Solid)
    (same : ∀ k, (m'.endpoint k).incoming = (m.endpoint k).incoming ∨
      (m'.endpoint k).incoming = []) : m'.Solid := by
  intro k there
  obtain kept | none := same k
  · rw [kept] at there
    exact solid k there
  · rw [none] at there
    cases there

/-- A chunk that arrives and is not empty leaves none that is. -/
theorem arrive {i : Incoming} (solid : m.Solid) (some : i ≠ .data []) :
    (Memory.arrive h i m).net.Solid := by
  intro k there
  rw [incoming_arrive] at there
  rcases List.mem_append.1 there with old | new
  · exact solid k old
  · split at new
    case isTrue => exact some (List.mem_singleton.1 new).symm
    case isFalse => cases new

/-- No script brings an empty chunk about but the one that pushes it. -/
theorem perform {s : Script} (solid : m.Solid) (other : ∀ k, s ≠ .pushData k []) :
    (Memory.perform s m).net.Solid := by
  cases s with
  | pushData h data => exact solid.arrive fun empty => other h (by rw [Incoming.data.inj empty])
  | pushEof | pushReadError => exact solid.arrive (by simp)
  | pushConnection =>
    exact solid.keep fun k =>
      .inl ((incoming_finish _ _ _ _).trans (incoming_update fun _ => rfl))
  | pushConnectionError => exact solid.keep fun k => .inl (incoming_finish _ _ _ _)
  | failNextListen | failNextWrite | refuseNextWrite | failNextShutdown | failNextConnect
    | holdWrites => exact solid
  | flushWrites => exact solid.keep fun k => .inl (by rw [endpoint_perform_flushWrites]; rfl)

/-- A read leaves no empty chunk. -/
theorem read (solid : m.Solid) (w : Waker) (h : HandleId) (size : Nat) :
    (Memory.read w h size m).net.Solid := by
  have taken {rest : List Incoming} (kept : .data [] ∉ rest) :
      (m.update h ({ · with incoming := rest })).Solid := by
    intro k there
    rw [endpoint_update] at there
    split at there
    case isTrue => exact kept there
    case isFalse => exact solid k there
  unfold Memory.read
  simp only
  split
  case isTrue => exact solid
  case isFalse =>
    split
    case h_1 => exact solid
    case h_2 bytes rest here =>
      have later : .data [] ∉ rest :=
        fun there => solid h (by rw [here]; exact List.mem_cons_of_mem _ there)
      apply taken
      split
      case isTrue => exact later
      case isFalse some => simpa [later] using some
    case h_3 rest here | h_4 rest here =>
      exact taken fun there => solid h (by rw [here]; exact List.mem_cons_of_mem _ there)

end Solid

/-- A handle that reads and gets nothing has nothing to get, and nothing changes for any handle. -/
theorem nothing_of_read {w : Waker} {size : Nat} {status : ReadStatus} {bytes : List UInt8}
    (solid : m.Solid) (room : 0 < size) (reading : (m.endpoint h).reading = true)
    (read : (Memory.read w h size m).answer = (status, bytes))
    (nothing : status = .pending ∨ status = .data 0) :
    (m.endpoint h).incoming = [] ∧ (Memory.read w h size m).net = { m with waker := w } := by
  unfold Memory.read at read ⊢
  simp only [reading, Bool.not_true, Bool.false_eq_true, if_false] at read ⊢
  cases here : (m.endpoint h).incoming with
  | nil => exact ⟨rfl, rfl⟩
  | cons i rest =>
    rw [here] at read
    cases i with
    | eof | failed =>
      obtain ⟨rfl, -⟩ := Prod.mk.inj read
      simp at nothing
    | data chunk =>
      obtain ⟨rfl, -⟩ := Prod.mk.inj read
      obtain pending | taken := nothing
      · cases pending
      · have short : min size chunk.length = 0 := by simpa using taken
        have empty : chunk = [] := List.length_eq_zero_iff.1 (by omega)
        exact (solid h (by rw [here, empty]; exact List.mem_cons_self)).elim

/-- Where nothing has arrived a read finds nothing, and changes nothing but whom
the next arrival wakes. -/
theorem read_of_nothing (none : (m.endpoint h).incoming = []) (w : Waker) (size : Nat) :
    ∃ w', Memory.read w h size m = quiet (.pending, []) { m with waker := w' } := by
  unfold Memory.read
  simp only [none]
  split
  case isTrue => exact ⟨m.waker, rfl⟩
  case isFalse => exact ⟨w, rfl⟩

end Memory

/-- A loop but for what its drivers keep for themselves: whether to stop, whom to wake, and
whether it was woken. -/
def Loop.unmarked {H : Host} (l : Loop H) : Loop H :=
  { l with stopping := false, waker := .idle, woken := false }

variable {S N C : Type} {enter : Handlers (Memory.host S N C)}

namespace Loop

variable {l l' : Loop (Memory.host S N C)} {h : HandleId}

/-- A handle does not read, or nothing has arrived for it and its buffer is free. -/
def Exhausted (l : Loop (Memory.host S N C)) (h : HandleId) : Prop :=
  ∀ x, l.handles.get? h = some x → x.isReading = true →
    (l.net.endpoint h).incoming = [] ∧ (Machine.readBuffer l x).exposed = false

/-- Nothing is left for a tick to do. -/
structure Drained (l : Loop (Memory.host S N C)) : Prop where
  /-- No result of an operation is due. -/
  deferred : l.deferred = []
  /-- No completion waits in the transport. -/
  finished : l.net.finished.toList = []
  /-- No handle is due to be reclaimed. -/
  closing : l.closing = []
  /-- No handle that reads has anything to read. -/
  read : ∀ h, l.Exhausted h

/-- Whether a handle is exhausted depends on the table, the options and its endpoint. -/
theorem Exhausted.congr (exhausted : l.Exhausted h) (handles : l'.handles = l.handles)
    (options : l'.options = l.options) (net : l'.net.endpoint h = l.net.endpoint h) :
    l'.Exhausted h := by
  intro x found reading
  rw [handles] at found
  rw [net, Machine.readBuffer, options]
  exact exhausted x found reading

/-- A read in vain leaves every handle with as little to read as before. -/
theorem Exhausted.fillBuffer (exhausted : l.Exhausted h) {k : HandleId} {x : Handle C}
    (found : l.handles.get? k = some x) (free : (Machine.readBuffer l x).exposed = false)
    (bytes : List UInt8) :
    (Machine.fillBuffer l k (Machine.readBuffer l x) bytes).Exhausted h := by
  intro y there reading
  unfold Machine.fillBuffer at there
  rw [get?_modifyHandle_of_some found] at there
  split at there
  case isTrue same =>
    subst same
    cases there
    exact ⟨(exhausted x found reading).1, (ReadBuffer.exposed_overwrite _ _ _).trans free⟩
  case isFalse => exact exhausted y there reading

/-- Of handles that are yet to be asked or have nothing to read, one that has nothing to
read need not be asked. -/
theorem asked_of_cons {rest : List HandleId} (asked : ∀ k, k ∈ h :: rest ∨ l.Exhausted k)
    (exhausted : l.Exhausted h) (k : HandleId) : k ∈ rest ∨ l.Exhausted k := by
  obtain ahead | done := asked k
  · rcases List.mem_cons.1 ahead with rfl | ahead
    · exact .inr exhausted
    · exact .inl ahead
  · exact .inr done

/-- Filling a buffer that is free leaves a drained loop drained. -/
theorem Drained.fillBuffer (drained : l.Drained) {x : Handle C} (found : l.handles.get? h = some x)
    (free : (Machine.readBuffer l x).exposed = false) (bytes : List UInt8) :
    (Machine.fillBuffer l h (Machine.readBuffer l x) bytes).Drained :=
  ⟨drained.deferred, drained.finished, drained.closing,
    fun k => (drained.read k).fillBuffer found free bytes⟩

/-- What is left to do does not depend on what drivers keep for themselves. -/
theorem Drained.unmarked (drained : l.Drained) (same : l'.unmarked = l.unmarked) : l'.Drained := by
  have handles : l'.handles = l.handles := (congrArg Loop.handles same :)
  have options : l'.options = l.options := (congrArg Loop.options same :)
  have net : l'.net = l.net := (congrArg Loop.net same :)
  have deferred : l'.deferred = l.deferred := (congrArg Loop.deferred same :)
  have closing : l'.closing = l.closing := (congrArg Loop.closing same :)
  refine ⟨deferred.trans drained.deferred, ?_, closing.trans drained.closing, fun k => ?_⟩
  · rw [net]
    exact drained.finished
  · exact (drained.read k).congr handles options (by rw [net])

/-- A read on a loop with nothing left to do is one in vain. -/
theorem Drained.ask_read (drained : l.Drained) {x : Handle C} (found : l.handles.get? h = some x)
    (reading : x.isReading = true) {w : Waker} {size : Nat} {status : ReadStatus}
    {bytes : List UInt8} (read : l.ask (Memory.transport.read w h size) = ((status, bytes), l')) :
    status = .pending ∧ ∃ w',
      l' = { l with net := { l.net with waker := w' }, woken := l.woken || false } := by
  obtain ⟨w', vain⟩ := Memory.read_of_nothing (drained.read h x found reading).1 w size
  have vain : Memory.transport.read w h size l.net =
      Memory.quiet (.pending, []) { l.net with waker := w' } := vain
  rw [ask, vain] at read
  cases read
  exact ⟨rfl, w', rfl⟩

/-- What an uneventful tick in this stage knows of the loop: nothing was there in the phases that
are over, and no handle that the pass has asked has anything to read. -/
def Barren (l : Loop (Memory.host S N C)) : Stage → Prop
  | .deferred batch => batch = [] ∧ l.deferred = []
  | .completions batch => batch = [] ∧ l.deferred = [] ∧ l.net.finished.toList = []
  | .reads _ rest _ => l.deferred = [] ∧ l.net.finished.toList = [] ∧ ∀ h, h ∈ rest ∨ l.Exhausted h
  | .reclaims batch => batch = [] ∧ l.Drained

/-- A stage that is barren has no completion to take. -/
theorem Barren.none_of_pop? {s s' : Stage} {c : Completion} (barren : l.Barren s) :
    s.pop? ≠ some (c, s') := by
  intro here
  obtain ⟨batch, ⟨rfl, -⟩ | ⟨rfl, -⟩⟩ := Stage.eq_of_pop? here
  · cases barren.1
  · cases barren.1

end Loop

namespace Machine

variable {x y m : Machine (Memory.host S N C)} {past : List (Machine (Memory.host S N C))}

/-- The script that a machine is about to tell the far side to obey. -/
def script? (m : Machine (Memory.host S N C)) : Option Memory.Script :=
  match m.control with
  | .run (.call (.script s) _) => some s
  | _ => none

/-- No empty chunk arrives as long as none is pushed. -/
theorem Rule.solid (rule : Rule Memory.transport enter x y)
    (other : ∀ h, x.script? ≠ some (.pushData h [])) (solid : x.loop.net.Solid) :
    y.loop.net.Solid := by
  cases rule with
  | finish | ask | tick | runLoop | poll | survey | note | recallShared | update | enter | emit
    | nextListener | endEmission | beginParting | skipParting | endParting | noteResult | endListen
    | failListen | collect | firstPass | nextPass | beginReclaims | endTick | skipReport
    | dropConnection | skipRead | refuseRead | skipReclaim | breach | ticked | runFailed | endRun
    | runAgain | pollFailed | endPoll | endLoan | completeConnect | failConnect | connection
    | reclaim => exact solid
  | issue => exact solid.keep fun k => (Loop.incoming_issue _ _ k).imp_right And.right
  | refuseListen begun =>
    obtain rfl | rfl := Loop.effect_of_refused_beginListen begun
    · exact solid
    · exact solid.keep fun k => .inl (Memory.incoming_listen _)
  | beginListen begun =>
    obtain ⟨_, -, -, -, -, agrees⟩ := Loop.effect_of_beginListen begun
    refine solid.keep fun k => .inl ?_
    rw [agrees.net]
    exact Memory.incoming_listen _
  | script => exact solid.perform fun k push => other k (congrArg some push)
  | endDelivery | endConnect | dropConnect =>
    exact (congrArg Memory.Solid (Loop.release_frame _ _).2.2.2.2.1).mpr solid
  | pausePoll =>
    split
    case isTrue => exact solid
    case isFalse => exact solid
  | completeWrite => exact (congrArg Memory.Solid deliver_frame.1).mpr solid
  | completeShutdown =>
    refine (congrArg Memory.Solid (deliver_frame.1.trans ?_)).mpr solid
    exact (settleShutdown_frame _ _ _).2.2.2.2.1
  | readNothing _ _ _ _ read | readData _ _ _ _ read =>
    obtain rfl := congrArg Prod.snd read
    exact solid.read _ _ _
  | readEof _ _ _ _ read | readFailed _ _ _ _ read =>
    obtain rfl := congrArg Prod.snd read
    exact (solid.read _ _ _).keep fun k => .inl (Loop.incoming_endReading _ _ _ _)

/-- Along a run in which no empty chunk is pushed none arrives. -/
theorem Run.solid (run : Run Memory.transport enter x past y) (solid : x.loop.net.Solid)
    (other : ∀ i ∈ past, ∀ h, i.script? ≠ some (.pushData h [])) : y.loop.net.Solid := by
  induction run with
  | refl => exact solid
  | @snoc past z y first next ih =>
    have before := ih fun i hi => other i (List.mem_append_left _ hi)
    cases next with
    | step taken => exact (rule_of_step? taken).2.solid (other z (by simp)) before
    | resume => exact before

/-! ## Uneventful ticks -/

/-- How the ticks in progress account for what has been done: all of them are eventful,
but for the innermost one as long as it finds nothing to do; when it has returned that,
nothing was there to do. -/
inductive Accounts (m : Machine (Memory.host S N C)) : Prop where
  | eventful (all : Eventful m.stack) (other : m.control ≠ .ticked (.ok false))
  | barren {l t base} (here : m = ofTick base t l) (below : Eventful base)
      (idle : t.eventful = false) (barren : l.Barren t.stage)
  | ended {l base} (here : m = ⟨l, base, .ticked (.ok false)⟩) (below : Eventful base)
      (drained : l.Drained)

/-- A tick begins with the results that are due. -/
theorem accounts_begin {base : List (Frame (Memory.host S N C))} (below : Eventful base)
    (l : Loop (Memory.host S N C)) (w : Waker) : (beginTick base l w).Accounts := by
  cases due : l.deferred with
  | nil =>
    refine .barren rfl below ?_ ⟨due, rfl⟩
    simp [due, Tick.eventful, Stage.productive]
  | cons c batch =>
    refine .eventful (eventful_tick.2 ⟨?_, below⟩) (by simp [beginTick, ofTick])
    simp [due, Tick.eventful]

/-- A step from a machine all of whose ticks are eventful leaves them accounted for. -/
theorem accounts_of_eventful (eventful : Eventful x.stack)
    (rule : Rule Memory.transport enter x y) : y.Accounts := by
  obtain ⟨all, other⟩ | ⟨⟨f, base, l, w, rfl, below⟩, -⟩ := rule.eventful eventful
  · exact .eventful all other
  · exact accounts_begin below l w

/-- An uneventful tick finds something, or has found nothing in one more place, or returns that
nothing was done. -/
theorem accounts_of_barren {l : Loop (Memory.host S N C)} {t : Tick}
    {base : List (Frame (Memory.host S N C))} (below : Eventful base) (idle : t.eventful = false)
    (barren : l.Barren t.stage) (solid : l.net.Solid)
    (reads : ∀ h, (l.net.endpoint h).reading = (l.handles.get? h).any (·.isReading)) {size : Nat}
    (sized : l.Sized size) (room : 0 < size)
    (rule : Rule Memory.transport enter ⟨l, .tick t :: base, .advance⟩ y) : y.Accounts := by
  obtain ⟨unworked, unfailed, unproductive⟩ := Tick.eventful_eq_false_iff.1 idle
  cases rule with
  | collect here =>
    rw [here] at barren
    cases some : l.net.finished.toList with
    | nil =>
      refine .barren rfl below ?_ ⟨some, barren.2, rfl⟩
      simp [Loop.beginCompletions, Memory.transport, Memory.collect, Memory.quiet, Loop.ask, some,
        Tick.eventful, Stage.productive, unworked, unfailed]
    | cons c batch =>
      refine .eventful (eventful_tick.2 ⟨Tick.eventful_iff.2 (.inl ?_), below⟩) (by simp [ofTick])
      simp [Loop.beginCompletions, Memory.transport, Memory.collect, Memory.quiet, Loop.ask, some]
  | firstPass here =>
    rw [here] at barren
    refine .barren rfl below ?_ ⟨barren.2.1, barren.2.2, fun h => ?_⟩
    · simp [Loop.beginPass, Tick.eventful, Stage.productive, unworked, unfailed]
    · by_cases there : h ∈ l.handles.ids
      · exact .inl there
      · refine .inr fun x found _ => (there ?_).elim
        rw [Registry.ids_eq]
        exact List.mem_map.2 ⟨(h, x), (Registry.mem_toList_iff _ _ _).2 found, rfl⟩
  | nextPass here =>
    rw [here] at unproductive
    cases unproductive
  | @beginReclaims _ _ _ passes productive here =>
    rw [here] at barren unproductive
    obtain rfl : productive = false := unproductive
    obtain ⟨undue, unfinished, asked⟩ := barren
    have read (h : HandleId) : l.Exhausted h := (asked h).resolve_left (by simp)
    cases some : l.closing with
    | nil =>
      refine .barren rfl below ?_ ⟨some, undue, unfinished, rfl, read⟩
      simp [Loop.beginReclaims, some, Tick.eventful, Stage.productive, unworked, unfailed]
    | cons h batch =>
      refine .eventful (eventful_tick.2 ⟨Tick.eventful_iff.2 (.inl ?_), below⟩) (by simp [ofTick])
      simp [Loop.beginReclaims, some]
  | endTick here =>
    rw [here] at barren
    refine .ended ?_ below barren.2
    simp [Tick.result, unfailed, unworked]
  | skipReport here | completeWrite here | completeShutdown here | completeConnect here
    | failConnect here | dropConnect here | connection here | dropConnection here =>
    exact (barren.none_of_pop? here).elim
  | @skipRead _ _ _ passes h rest productive here idle =>
    rw [here] at barren unproductive
    obtain rfl : productive = false := unproductive
    obtain ⟨undue, unfinished, asked⟩ := barren
    refine .barren rfl below ?_ ⟨undue, unfinished, fun k => ?_⟩
    · simp [Tick.eventful, Stage.productive, unworked, unfailed]
    · have unread : l.Exhausted h := fun x found reading => by simp [idle x found] at reading
      exact Loop.asked_of_cons asked unread k
  | refuseRead =>
    exact .eventful (eventful_tick.2 ⟨Tick.eventful_of_failed rfl, below⟩) (by simp [ofTick])
  | @readNothing _ _ _ passes h rest productive x status bytes l' here found reading free
      read nothing =>
    rw [here] at barren unproductive
    obtain rfl : productive = false := unproductive
    obtain ⟨undue, unfinished, asked⟩ := barren
    obtain ⟨answer, rfl⟩ := Prod.mk.inj read
    have reads : (l.net.endpoint h).reading = true := by
      rw [reads, found]
      exact reading
    rw [← sized.readBuffer found] at room
    obtain ⟨none, same⟩ := Memory.nothing_of_read solid room reads answer nothing
    have exhausted : l.Exhausted h := by
      intro y there _
      obtain rfl := Option.some.inj (found.symm.trans there)
      exact ⟨none, free⟩
    refine .barren rfl below ?_ ⟨undue,
      (congrArg (Queue.toList ∘ Memory.finished) same).trans unfinished, fun k => ?_⟩
    · simp [Tick.eventful, Stage.productive, unworked, unfailed]
    · refine (Loop.asked_of_cons asked exhausted k).imp_right fun done => ?_
      have done : (l.ask (Memory.transport.read t.waker h (readBuffer l x).size)).2.Exhausted k :=
        done.congr rfl rfl ((congrArg (Memory.endpoint · k) same).trans rfl)
      exact done.fillBuffer found free bytes
  | readData | readEof | readFailed =>
    exact .eventful (by simp [eventful_cons, below, Tick.eventful_iff, Stage.productive]) (by simp)
  | skipReclaim here | breach here | reclaim here =>
    rw [here] at barren
    cases barren.1

/-- Along a run in which no empty chunk is pushed all ticks account for what has been done. -/
theorem Run.accounts {options : Options} {shared : S} {p : Program (Memory.host S N C)}
    (run : Run Memory.transport enter (start p (.fresh options Memory.initial shared)) past m)
    (other : ∀ i ∈ past, ∀ h, i.script? ≠ some (.pushData h [])) : m.Accounts := by
  have outside {p : Program (Memory.host S N C)} {l : Loop (Memory.host S N C)} :
      (start p l).Accounts :=
    .eventful (by simp [Eventful, start, ofProgram]) (by simp [start, ofProgram])
  induction run with
  | refl => exact outside
  | @snoc past x y first next ih =>
    have other : ∀ i ∈ past, ∀ h, i.script? ≠ some (.pushData h []) :=
        fun i hi => other i (List.mem_append_left _ hi)
    have solid : x.loop.net.Solid := first.solid (fun h there => by cases there) other
    cases next with
    | resume => exact outside
    | step taken =>
      have rule := (rule_of_step? taken).2
      cases ih other with
      | eventful all => exact accounts_of_eventful all rule
      | barren here below idle barren =>
        subst here
        have reads h := ((Coupled.of_run first).mirrors h).reading
        exact accounts_of_barren below idle barren solid reads first.sized
          options.readBufferSize.2.1 rule
      | ended here below =>
        subst here
        exact accounts_of_eventful below rule

/-- When the innermost tick returns that it found nothing, nothing is left to do. -/
theorem Accounts.drained (accounts : m.Accounts) (idle : m.control = .ticked (.ok false)) :
    m.loop.Drained := by
  cases accounts with
  | eventful _ other => exact (other idle).elim
  | barren here =>
    subst here
    cases idle
  | ended here _ drained =>
    subst here
    exact drained

/-! ## A tick with nothing to do -/

/-- A machine comes to another in steps of ticks alone: no handler is
entered, and nothing is told. -/
def Silent (enter : Handlers (Memory.host S N C)) (x y : Machine (Memory.host S N C)) : Prop :=
  ∃ during, Run Memory.transport enter x during y ∧ ∀ z ∈ during, z.control = .advance

/-- Two silent ways, one after the other, are a silent way. -/
theorem Silent.trans {z : Machine (Memory.host S N C)} (first : Silent enter x y)
    (second : Silent enter y z) :
    Silent enter x z := by
  obtain ⟨before, run, silent⟩ := first
  obtain ⟨after, rest, still⟩ := second
  exact ⟨before ++ after, run.trans rest,
    fun i hi => (List.mem_append.1 hi).elim (silent i) (still i)⟩

/-- A tick that goes on by itself goes on silently. -/
theorem silent_step {l : Loop (Memory.host S N C)}
    {base : List (Frame (Memory.host S N C))} {t : Tick}
    (goes : advance Memory.transport l base t = y) (sound : l.breach = none) :
    Silent enter (ofTick base t l) y := by
  have taken : (ofTick base t l).step? Memory.transport enter = some y := by
    simp [step?, ofTick, sound, goes]
  refine ⟨[ofTick base t l], Run.refl.snoc (.step taken), fun z hz => ?_⟩
  rw [List.mem_singleton.1 hz]
  rfl

/-- One read of a pass over a loop with nothing left to do. -/
theorem drained_pass {l : Loop (Memory.host S N C)} (drained : l.Drained) (sound : l.breach = none)
    {base : List (Frame (Memory.host S N C))} {t : Tick} {passes : Nat} {h : HandleId}
    {rest : List HandleId} (here : t.stage = .reads passes (h :: rest) false)
    (rule : Rule Memory.transport enter ⟨l, .tick t :: base, .advance⟩ y) :
    ∃ l', l'.Drained ∧ l'.breach = none ∧
      y = ofTick base { t with stage := .reads passes rest false } l' := by
  cases rule with
  | skipRead there =>
    cases here.symm.trans there
    exact ⟨l, drained, sound, rfl⟩
  | readNothing there found reading free read =>
    cases here.symm.trans there
    obtain ⟨-, w', rfl⟩ := drained.ask_read found reading read
    have same :
        Loop.Drained { l with net := { l.net with waker := w' }, woken := l.woken || false } :=
      ⟨drained.deferred, drained.finished, drained.closing,
        fun k => (drained.read k).congr rfl rfl rfl⟩
    exact ⟨_, same.fillBuffer found free _, sound, rfl⟩
  | @refuseRead _ _ _ _ _ _ _ z there found reading exposed =>
    cases here.symm.trans there
    rw [(drained.read h z found reading).2] at exposed
    cases exposed
  | readData there found reading _ read | readEof there found reading _ read
      | readFailed there found reading _ read =>
    cases here.symm.trans there
    cases (drained.ask_read found reading read).1
  | collect there | firstPass there | nextPass there | beginReclaims there | endTick there
    | skipReclaim there | breach there | reclaim there => cases here.symm.trans there
  | skipReport there | completeWrite there | completeShutdown there | completeConnect there
    | failConnect there | dropConnect there | connection there | dropConnection there =>
    rw [here] at there
    cases there

variable (enter) in
/-- A pass of reads over a loop with nothing left to do finds nothing. -/
theorem silent_pass {l : Loop (Memory.host S N C)} (drained : l.Drained) (sound : l.breach = none)
    (base : List (Frame (Memory.host S N C))) (t : Tick) (passes : Nat) (rest : List HandleId) :
    ∃ l', l'.Drained ∧ l'.breach = none ∧
      Silent enter (ofTick base { t with stage := .reads passes rest false } l)
        (ofTick base { t with stage := .reads passes [] false } l') := by
  induction rest generalizing l with
  | nil => exact ⟨l, drained, sound, [], .refl, by simp⟩
  | cons h rest ih =>
    have rule : Rule Memory.transport enter
        (ofTick base { t with stage := .reads passes (h :: rest) false } l) _ :=
      rule_of_advance l base _
    obtain ⟨l₁, drained₁, sound₁, goes⟩ := drained_pass drained sound rfl rule
    obtain ⟨l', drained', sound', silent⟩ := ih drained₁ sound₁
    exact ⟨l', drained', sound', (silent_step goes sound).trans silent⟩

/-- A tick on a loop with nothing left to do does nothing, and says so. -/
theorem silent_tick {l : Loop (Memory.host S N C)} (drained : l.Drained) (sound : l.breach = none)
    (base : List (Frame (Memory.host S N C))) (w : Waker) :
    ∃ l', l'.Drained ∧ Silent enter (beginTick base l w) ⟨l', base, .ticked (.ok false)⟩ := by
  let t : Tick := ⟨w, .deferred [], false, none⟩
  have begins : beginTick base l w = ofTick base t { l with deferred := [] } := by
    simp [beginTick, Loop.beginTick, drained.deferred, t]
  -- The loop when the transport has handed over its completions, of which there are none.
  let l₁ : Loop (Memory.host S N C) :=
    { l with
      deferred := []
      net := { l.net with finished := {}, waker := w }
      woken := l.woken || false }
  have drained₁ : l₁.Drained :=
    ⟨rfl, rfl, drained.closing, fun k => (drained.read k).congr rfl rfl rfl⟩
  obtain ⟨l', drained', sound', pass⟩ :=
    silent_pass enter drained₁ sound base t (l.options.maxReadPasses - 1) l.handles.ids
  have collect : advance Memory.transport { l with deferred := [] } base t =
      ofTick base { t with stage := .completions [] } l₁ := by
    simp [advance, t, Loop.beginCompletions, Loop.ask, Memory.transport, Memory.collect,
      Memory.quiet, drained.finished, l₁]
  have firstPass : advance Memory.transport l₁ base { t with stage := .completions [] } =
      ofTick base { t with stage := .reads (l.options.maxReadPasses - 1) l.handles.ids false } l₁ :=
        rfl
  have beginReclaims :
      advance Memory.transport l' base
        { t with stage := .reads (l.options.maxReadPasses - 1) [] false } =
        ofTick base { t with stage := .reclaims [] } { l' with closing := [] } := by
    simp [advance, t, Loop.beginReclaims, drained'.closing]
  have endTick : advance Memory.transport { l' with closing := [] } base
      { t with stage := .reclaims [] } =
      ⟨{ l' with closing := [] }, base, .ticked (.ok false)⟩ := rfl
  refine ⟨{ l' with closing := [] }, ?_, ?_⟩
  · exact ⟨drained'.deferred, drained'.finished, rfl, fun k => (drained'.read k).congr rfl rfl rfl⟩
  · rw [begins]
    refine ((silent_step collect sound).trans (silent_step firstPass sound)).trans (pass.trans ?_)
    exact (silent_step beginReclaims sound').trans (silent_step endTick sound')

end Machine

end Reactor
