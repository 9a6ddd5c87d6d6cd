import Reactor.Proofs.Stream.Views

/-!
# How streams move

Every step of a machine takes every stream one step further in its life, or leaves it
where it is. What is seen of the step from outside is the call that succeeds in it and the
event that is told after it.
-/

namespace Reactor

variable {H : Host} {T : Transport H.Net H.Script} {enter : Handlers H}

/-- What an operation with an answer has done with a stream, as far as it
matters for what is told. -/
def Operation.deed? {κ : Type} : (o : Operation κ) → o.Answer → Option (HandleId × Deed)
  | .connect h _, a => (Except.toOption a).map fun _ => (h, .connect)
  | .readStart h, a => (Except.toOption a).map fun _ => (h, .readStart)
  | .readStop h, a => (Except.toOption a).map fun _ => (h, .readStop)
  | .close h _, a => (Except.toOption a).map fun _ => (h, .close)
  | _, _ => none

/-- An operation that was refused has done nothing. -/
theorem Operation.deed?_of_failure? {κ : Type} {o : Operation κ} {a : o.Answer} {e : LoopError}
    (failed : o.failure? a = some e) : o.deed? a = none := by
  cases o <;> cases a <;> first | rfl | cases failed

/-- Whether an operation names a handle. -/
def Operation.names {κ : Type} (h : HandleId) : Operation κ → Bool
  | .newHandle _ | .stop | .forgetWake => false
  | .accept server client => server = h || client = h
  | .on k _ _ | .adopt k | .bind k _ | .readStart k | .readStop k | .bufferWrite k _ _
    | .keptWrite k _ _ | .write k _ _ | .shutdown k _ | .connect k _ | .close k _ => k = h

/-- Whether a call names a handle, to do something with it. -/
def Call.names (h : HandleId) : Call H → Bool
  | .issue o => o.names h
  | .listen k _ _ => k = h
  | _ => false

/-- What is said of a handle, if it is this one. -/
def about {α : Type} (h : HandleId) (said : Option (HandleId × α)) : Option α :=
  said.bind fun (k, a) => if k = h then some a else none

/-- Where nothing is said nothing is said of a handle. -/
@[simp] theorem about_none {α : Type} (h : HandleId) : about (α := α) h none = none := rfl

/-- What is said of one handle is said of no other. -/
@[simp] theorem about_some {α : Type} (h k : HandleId) (a : α) :
    about h (some (k, a)) = if k = h then some a else none := rfl

/-- Something is said of a handle when it is what is said and the handle is the one. -/
theorem about_eq_some_iff {α : Type} {h : HandleId} {said : Option (HandleId × α)} {a : α} :
    about h said = some a ↔ said = some (h, a) := by
  cases said with
  | none => simp
  | some ka =>
    obtain ⟨k, b⟩ := ka
    rw [about_some, Option.some.injEq, Prod.mk.injEq]
    split
    case isTrue same => simp [same]
    case isFalse other => simp [other]

namespace Loop

variable {l l' l'' : Loop H} {h : HandleId} {held due : List HandleId} {d : Option Deed}
  {e : Option Event}

/-- Every stream goes one step in its life, in which this is done and this is told. -/
def Moves (l : Loop H) (did : Option (HandleId × Deed)) (told : Option (HandleId × Event))
    (l' : Loop H) : Prop :=
  ∀ h, Life.Step (l.life h) (about h did) (about h told) (l'.life h)

/-- Every stream goes one step in its life, and those on which nothing is under way stay as they are
if they are not named. -/
structure Shifts (l : Loop H) (named : HandleId → Bool) (did : Option (HandleId × Deed))
    (told : Option (HandleId × Event)) (l' : Loop H) : Prop where
  moves : l.Moves did told l'
  stays : ∀ k s, named k = false → l.life k = .alive s → s.Dormant → l'.life k = .alive s

namespace Shifts

variable {named : HandleId → Bool}

/-- No stream moves. -/
theorem still (same : l'.life = l.life) : l.Shifts named none none l' := by
  constructor
  · intro h
    rw [same]
    exact .still
  · intro k s _ alive _
    rw [same, alive]

/-- One stream moves, and if nothing is under way on it, it is named, or stays as it is. -/
theorem one (elsewhere : ∀ k, h ≠ k → l'.life k = l.life k)
    (here : Life.Step (l.life h) d e (l'.life h))
    (busy : named h = true ∨ ∀ s, l.life h = .alive s → s.Dormant → l'.life h = .alive s) :
    l.Shifts named (d.map (h, ·)) (e.map (h, ·)) l' := by
  constructor
  · intro k
    by_cases same : h = k
    · subst same
      have did : about h (d.map (h, ·)) = d := by cases d <;> simp
      have told : about h (e.map (h, ·)) = e := by cases e <;> simp
      rwa [did, told]
    · have did : about k (d.map (h, ·)) = none := by cases d <;> simp [same]
      have told : about k (e.map (h, ·)) = none := by cases e <;> simp [same]
      rw [did, told, elsewhere k same]
      exact .still
  · intro k s unnamed alive dormant
    by_cases same : h = k
    · subst same
      obtain named | stays := busy
      · cases named.symm.trans unnamed
      · exact stays s alive dormant
    · rw [elsewhere k same, alive]

/-- One stream moves from a stance to another, and it is named, or something is under way on it. -/
theorem turn {s s' : Stance} (before : l.life h = .alive s) (shows : l.Shows h s' l')
    (step : Life.Step (.alive s) d e (.alive s')) (busy : named h = true ∨ ¬s.Dormant) :
    l.Shifts named (d.map (h, ·)) (e.map (h, ·)) l' := by
  refine one (fun k other => shows.elsewhere other) ?_
    (busy.imp_right fun busy s₁ alive dormant => ?_)
  · rw [before, shows.here]
    exact step
  · obtain rfl := Life.alive.inj (before.symm.trans alive)
    exact (busy dormant).elim

end Shifts

/-- An operation moves the stream that it names. -/
theorem Effect.shifts {o : Operation H.Closure} {a : o.Answer} (effect : Effect T l o a l')
    (b : l.Balanced held due) :
    l.Shifts (o.names ·) (o.deed? a) none l' := by
  cases effect with
  | refused failed =>
    rw [Operation.deed?_of_failure? failed]
    exact .still rfl
  | @newHandle kind =>
    have shows := shows_newHandle b kind
    refine Shifts.one (h := l.handles.next) (d := none) (e := none)
      (fun k other => shows.elsewhere other) ?_ (.inr ?_)
    · rw [life_ask, shows.here, life_next]
      exact .create
    · intro s alive
      cases l.life_next.symm.trans alive
  | on | refuseAccept | refuseAdopt | refuseBind | bind | noBuffer | noKept | refuseConnect =>
    exact .still rfl
  | accept _ _ found idle | adopt found idle =>
    exact .turn (d := none) (e := none) (life_of_some found) (shows_setState (life_of_some found) _)
      (.attach idle) (.inl (by simp [Operation.names]))
  | markedReadStart | refuseReadStart => exact .still (life_ensureBuffer _ _)
  | @readStart h x found readable idle unmarked =>
    have taken : (((l.ensureBuffer h).modifyHandle h .retain).ask (T.readStart h)).2.life =
        l.life := by simp
    have shows :=
      shows_modifyHandle (f := ({ · with read := .reading })) ({ · with reading := true })
      (fun _ => rfl) ((congrFun taken h).trans (life_of_some found))
    exact .turn (d := some .readStart) (e := none) (life_of_some found) (shows.after taken)
      (.readStart readable unmarked) (.inl (decide_eq_true rfl))
  | readStop found =>
    exact .turn (d := some .readStop) (e := none) (life_of_some found)
      (shows_endReading T (life_of_some found) .stopped (by simp)) .readStop
        (.inl (decide_eq_true rfl))
  | @bufferWrite h _ _ _ _ _ buffer =>
    exact .still (life_modifyHandle_of_stance (f := ({ · with buffer := some buffer }))
      (fun _ => rfl) l h)
  | keptWrite => exact .still (life_modifyBuffer _ _ _)
  | @write h x data callback found connected =>
    have taken : ((l.modifyHandle h .retain).ask (T.write l.requests.next h data)).2.life =
        l.life := by simp
    have shows :=
      shows_enlist (r := .write h data callback) ((congrFun taken h).trans (life_of_some found))
    exact .turn (d := none) (e := none) (life_of_some found) ((shows _).after taken)
      (.write connected) (.inl (decide_eq_true rfl))
  | @shutdown h x callback found connected =>
    have taken : (l.modifyHandle h .retain).life = l.life := by simp
    have shutting :=
      (shows_setState ((congrFun taken h).trans (life_of_some found)) .shuttingDown).after taken
    have asked :
        (((l.modifyHandle h .retain).setState h .shuttingDown).ask
          (T.shutdown l.requests.next h)).2.life =
          ((l.modifyHandle h .retain).setState h .shuttingDown).life := rfl
    have shows := shows_enlist (r := .shutdown h callback) ((congrFun asked h).trans shutting.here)
    exact .turn (d := none) (e := none) (life_of_some found)
      (shutting.trans ((shows _).after asked)) (.beginShutdown connected)
      (.inl (decide_eq_true rfl))
  | @connect h x address found idle =>
    have taken : ((l.modifyHandle h .retain).ask (T.connect l.requests.next h address)).2.life =
        l.life := by simp
    have entered :=
      shows_enlist (r := .connect h) ((congrFun taken h).trans (life_of_some found)) none
    have connecting := shows_setState entered.here .connecting
    exact .turn (d := some .connect) (e := none) (life_of_some found)
      ((entered.after taken).trans connecting) (.beginConnect idle) (.inl (decide_eq_true rfl))
  | close found unmarked =>
    exact .turn (d := some .close) (e := none) (life_of_some found) (shows_retire T b found _)
      (.close unmarked) (.inl (decide_eq_true rfl))
  | stop same | forgetWake same => exact .still (funext (life_agrees same))

/-- No operation moves a stream in another way. -/
theorem shifts_issue (T : Transport H.Net H.Script) (b : l.Balanced held due)
    (o : Operation H.Closure) :
    l.Shifts (o.names ·) (o.deed? (l.issue T o).1) none (l.issue T o).2 := by
  obtain ⟨l₀, l₁, before, effect, after⟩ := issues_issue T l o
  obtain ⟨moves, stays⟩ := effect.shifts (b.agrees before)
  constructor
  · intro h
    rw [life_agrees after, ← life_agrees before]
    exact moves h
  · intro k s unnamed alive dormant
    rw [life_agrees after]
    exact stays k s unnamed ((life_agrees before k).trans alive) dormant

/-- A call of `listen` that got as far as telling its listeners. -/
theorem shifts_beginListen {backlog : Option Nat} {c : H.Closure}
    (begun : l.beginListen T h backlog c = (.ok (), l')) :
    l.Shifts (fun k => (Call.listen (H := H) h backlog c).names k) (some (h, .listen))
      (some (h, .listening)) l' := by
  obtain ⟨x, found, idle, -, -, agrees⟩ := effect_of_beginListen begun
  have taken :
      ((l.ask (T.listen h (backlog.getD l.options.defaultBacklog))).2.modifyHandle h .retain).life =
        l.life := by
    simp
  have shows := shows_modifyHandle (f := ({ · with listenRef := true, state := .listening }))
    ({ · with listening := true, state := .listening }) (fun _ => rfl)
    ((congrFun taken h).trans (life_of_some found))
  have agreed := funext (life_agrees agrees)
  rw [life_addListener] at agreed
  exact .turn (d := some .listen) (e := some .listening) (life_of_some found)
    ((shows.after taken).before agreed) (.listen idle) (.inl (decide_eq_true rfl))

/-- A request that is pending counts in the stance of its stream. -/
theorem pending_pos {s : Stance} {req : RequestId} {r : Request H.Closure}
    (pending : l.requests.get? req = some r) (before : l.life r.handle = .alive s) :
    0 < match r.kind with
      | .write => s.writes
      | .shutdown => s.shutdowns
      | .connect => s.connects := by
  obtain ⟨x, found, rfl⟩ := exists_of_life before
  have counted := (l.pendingOf_pos_iff r.kind r.handle).2 ⟨req, r, pending, rfl, rfl⟩
  cases r <;> exact counted

/-- A stream on which a request is pending is not dormant. -/
theorem not_dormant_of_pending {s : Stance} {req : RequestId} {r : Request H.Closure}
    (pending : l.requests.get? req = some r) (before : l.life r.handle = .alive s) :
    ¬s.Dormant := by
  intro dormant
  have counted := pending_pos pending before
  simp only [dormant.writes, dormant.shutdowns, dormant.connects] at counted
  cases r <;> cases counted

/-- What a shutdown's outcome means for its stream. -/
theorem moves_settleShutdown {s : Stance} (before : l.life h = .alive s) (ok : Bool) :
    ∃ state, (s.state = .shuttingDown ∧ (state = .shutDown ∨ state = .connected) ∨
      s.state ≠ .shuttingDown ∧ state = s.state) ∧
        l.Shows h { s with state } (Machine.settleShutdown l h ok) := by
  have shows := shows_setState before
  obtain ⟨x, found, rfl⟩ := exists_of_life before
  unfold Machine.settleShutdown
  simp only [found]
  split
  case isTrue shutting =>
    refine ⟨if ok then .shutDown else .connected, .inl ⟨shutting, ?_⟩, shows _⟩
    cases ok
    case true => exact .inl rfl
    case false => exact .inr rfl
  case isFalse other =>
    refine ⟨x.state, .inr ⟨other, rfl⟩, fun k => ?_⟩
    split
    case isTrue same => rw [← same]; exact before
    case isFalse => rfl

end Loop

namespace Machine

variable {x y : Machine H} {l : Loop H} {h : HandleId}

/-- Whether the next step is a call that names a handle. -/
def names (m : Machine H) (h : HandleId) : Bool :=
  match m.control with
  | .run (.call c _) => c.names h
  | _ => false

/-- What the next step does with a stream, as far as it matters for what is told. -/
def deed? (T : Transport H.Net H.Script) (m : Machine H) : Option (HandleId × Deed) :=
  match m.control with
  | .run (.call (.issue o) _) => o.deed? (m.loop.issue T o).1
  | .run (.call (.listen h backlog c) _) =>
    ((m.loop.meter h .listen .dispatched).beginListen T h backlog c).1.toOption.map fun _ =>
      (h, .listen)
  | _ => none

/-- The event that is about to be told. -/
def told? (m : Machine H) : Option (HandleId × Event) :=
  match m.control with
  | .emit h e => some (h, e)
  | _ => none

/-- A request that is pending is one of a stream that is alive. -/
theorem life_of_pending (b : x.Balanced) {req : RequestId} {r : Request H.Closure}
    (pending : x.loop.requests.get? req = some r) : ∃ s, x.loop.life r.handle = .alive s := by
  obtain ⟨z, found⟩ := Option.isSome_iff_exists.1 (Loop.Balanced.requested b pending)
  exact ⟨_, Loop.life_of_some found⟩

/-- That a handle is in a state shows in its stance. -/
theorem hasState_iff {s : Stance} (before : l.life h = .alive s) (state : StreamState) :
    hasState l h state = true ↔ s.state = state := by
  obtain ⟨x, found, rfl⟩ := Loop.exists_of_life before
  simp only [hasState, found, Option.any_some, decide_eq_true_eq]
  rfl

/-- A handle that is in a state has a stream with a stance of that state. -/
theorem life_of_hasState {state : StreamState} (has : hasState l h state = true) :
    ∃ s, l.life h = .alive s ∧ s.state = state := by
  obtain ⟨x, found, same⟩ := (Option.any_eq_true _ _).1 has
  exact ⟨_, Loop.life_of_some found, of_decide_eq_true same⟩

/-- Telling an outcome moves no stream, and tells no event. -/
@[simp] theorem life_deliver (l : Loop H) (stack : List (Frame H)) (req : RequestId) (h : HandleId)
    (callback : Callback H.Closure) (outcome : RequestOutcome) :
    (deliver l stack req h callback outcome).loop.life = l.life ∧
      (deliver l stack req h callback outcome).told? = none := by
  cases callback with
  | closure => exact ⟨rfl, rfl⟩
  | promise => exact ⟨Loop.life_release _ _, rfl⟩

/-- Each rule takes every stream one step further in its life, or leaves it where it is. -/
theorem Rule.shifts (b : x.Balanced) (rule : Rule T enter x y) :
    x.loop.Shifts x.names (x.deed? T) y.told? y.loop := by
  cases rule with
  | finish | ask | tick | runLoop | poll | script | survey | note | recallShared | update | enter
    | emit | nextListener | endEmission | beginParting | skipParting | endParting | noteResult
    | endListen | failListen | collect | firstPass | nextPass | beginReclaims | endTick | skipReport
    | dropConnection | skipRead | refuseRead | skipReclaim | breach | ticked | runFailed | endRun
    | runAgain | pollFailed | endPoll => exact .still rfl
  | issue => exact Loop.shifts_issue T b _
  | @refuseListen l stack h backlog c next e l' begun =>
    have refused : deed? T ⟨l, stack, .run (.call (.listen h backlog c) next)⟩ = none := by
      simp only [deed?, begun]
      rfl
    rw [refused]
    obtain rfl | rfl := Loop.effect_of_refused_beginListen begun
    · exact .still rfl
    · exact .still rfl
  | @beginListen l stack h backlog c next l' begun =>
    have listens : deed? T ⟨l, stack, .run (.call (.listen h backlog c) next)⟩ =
        some (h, .listen) := by
      simp only [deed?, begun]
      rfl
    rw [listens]
    have shifts := Loop.shifts_beginListen begun
    exact ⟨shifts.moves, shifts.stays⟩
  | endDelivery | endConnect => exact .still (Loop.life_release _ _)
  | endLoan => exact .still (Loop.life_expose _ _ _)
  | pausePoll => exact .still (by split <;> rfl)
  | @completeWrite l stack t c stage req status h data callback here report pending =>
    obtain ⟨s, before⟩ := life_of_pending b pending
    have shows := Loop.shows_remove pending before
    obtain ⟨life, untold⟩ := life_deliver _ _ _ _ _ _
    rw [untold]
    exact .turn (d := none) (e := none) before (shows.before life) .finishWrite
      (.inr (Loop.not_dormant_of_pending pending before))
  | @completeShutdown l stack t c stage req status h callback here report pending =>
    obtain ⟨s, before⟩ := life_of_pending b pending
    let ok := (outcomeAt "after_shutdown" status).isOk
    have left : l.Shows h (s.settle .shutdown)
        (({ l with requests := l.requests.remove req } : Loop H).meterAsync h .shutdown ok) :=
      Loop.shows_remove pending before
    obtain ⟨state, cases, settled⟩ := Loop.moves_settleShutdown left.here ok
    obtain ⟨life, untold⟩ := life_deliver _ _ _ _ _ _
    have shows := (left.trans settled).before life
    have busy := Loop.not_dormant_of_pending pending before
    rw [untold]
    obtain ⟨shutting, outcome⟩ | ⟨past, rfl⟩ := cases
    · exact .turn (d := none) (e := none) before shows
        (.finishShutdown shutting outcome) (.inr busy)
    · exact .turn (d := none) (e := none) before shows
        (.dropShutdown (Loop.pending_pos pending before) past) (.inr busy)
  | @completeConnect l stack t c stage req h here report pending state =>
    obtain ⟨s, before⟩ := life_of_pending b pending
    have left := Loop.shows_remove pending before
    have connected := Loop.shows_setState left.here .connected
    exact .turn (d := none) (e := some .connect) before (left.trans connected)
      (.connect ((hasState_iff before _).1 state))
      (.inr (Loop.not_dormant_of_pending pending before))
  | @failConnect l stack t c stage req status h here report pending state =>
    obtain ⟨s, before⟩ := life_of_pending b pending
    have left := Loop.shows_remove pending before
    have idle := Loop.shows_setState left.here .idle
    exact .turn (d := none) (e := some _) before (left.trans idle)
      (.failConnect ((hasState_iff before _).1 state))
      (.inr (Loop.not_dormant_of_pending pending before))
  | @dropConnect l stack t c stage req status h here report pending state =>
    obtain ⟨s, before⟩ := life_of_pending b pending
    have left : l.Shows h (s.settle .connect)
        ((({ l with requests := l.requests.remove req } : Loop H).meterAsync h .connect
          (outcomeAt "after_connect" status).isOk).release h) :=
      (Loop.shows_remove pending before).before (Loop.life_release _ _)
    refine .turn (d := none) (e := none) before left
      (.dropConnect (Loop.pending_pos pending before) fun connecting => ?_)
      (.inr (Loop.not_dormant_of_pending pending before))
    exact Bool.false_ne_true (state.symm.trans ((hasState_iff before _).2 connecting))
  | @connection l stack t stage server status here state =>
    obtain ⟨s, before, listening⟩ := life_of_hasState state
    refine .one (d := none) (e := some (connectionEvent status))
      (fun _ _ => rfl) ?_ (.inr fun _ alive _ => alive)
    rw [Loop.life_meterAsync, before]
    refine .connection listening ?_
    cases status with
    | ok => exact .inl rfl
    | error status => exact .inr ⟨status, rfl⟩
  | readNothing here found reading free read =>
    obtain rfl := congrArg Prod.snd read
    exact .still (Loop.life_fillBuffer _ _ _ _)
  | @readData l stack t passes h rest productive x n bytes l' here found reading free read =>
    obtain rfl := congrArg Prod.snd read
    have same :
        (expose
          ((fillBuffer (l.ask (T.read t.waker h (readBuffer l x).size)).2 h (readBuffer l x)
            bytes).meterAsync h .read true) h true).life = l.life := by
      simp
    refine .one (d := none) (e := some (.data _))
      (fun k _ => congrFun same k) ?_ (.inr fun _ alive _ => ?_)
    · simp only [same]
      rw [Loop.life_of_some found]
      exact .data reading
    · exact (congrFun same h).trans alive
  | @readEof l stack t passes h rest productive x bytes l' here found reading free read =>
    obtain rfl := congrArg Prod.snd read
    have filled :
        (fillBuffer (l.ask (T.read t.waker h (readBuffer l x).size)).2 h (readBuffer l x)
          bytes).life = l.life := by
      simp
    have ended :=
      Loop.shows_endReading T ((congrFun filled h).trans (Loop.life_of_some found)) .ended (by simp)
    exact .turn (d := none) (e := some .endOfStream) (Loop.life_of_some found) (ended.after filled)
      (.endOfStream reading) (.inr fun dormant => by cases reading.symm.trans dormant.reading)
  | @readFailed l stack t passes h rest productive x status bytes l' here found reading free read =>
    obtain rfl := congrArg Prod.snd read
    have filled :
        ((fillBuffer (l.ask (T.read t.waker h (readBuffer l x).size)).2 h (readBuffer l x)
          bytes).meterAsync h .read false).life = l.life := by
      simp
    have ended :=
      Loop.shows_endReading T ((congrFun filled h).trans (Loop.life_of_some found)) .ended (by simp)
    exact .turn (d := none) (e := some (.error ⟨status, "on_read"⟩)) (Loop.life_of_some found)
      (ended.after filled) (.failRead reading)
      (.inr fun dormant => by cases reading.symm.trans dormant.reading)
  | @reclaim l stack t h batch x here found closing free =>
    have lives := Loop.life_reclaim found
    refine .one (d := none) (e := some .close) (h := h)
      (fun k other => ?_) ?_ (.inr fun s alive dormant => ?_)
    · exact (lives k).trans (if_neg other)
    · rw [Loop.life_of_some (l := l) found, Loop.life_meterAsync, lives, if_pos rfl]
      exact .reclaim closing
    · obtain rfl := Life.alive.inj ((Loop.life_of_some found).symm.trans alive)
      cases closing.symm.trans dormant.marked

/-- Whatever comes after a machine, every stream has gone one step further in its
life, or is where it was. -/
theorem Next.shifts (b : x.Balanced) (next : Next T enter x y) :
    x.loop.Shifts x.names (x.deed? T) y.told? y.loop := by
  cases next with
  | step taken => exact (rule_of_step? taken).2.shifts b
  | resume p rest =>
    obtain ⟨⟨failure, control⟩, -⟩ := atRest_iff.1 rest
    have idle : x.deed? T = none := by simp [deed?, control]
    rw [idle]
    exact .still rfl

/-- Whatever comes next, every stream goes at most one step in its life. -/
theorem Next.moves (b : x.Balanced) (next : Next T enter x y) :
    x.loop.Moves (x.deed? T) y.told? y.loop := (next.shifts b).moves

/-- On a run in which no call names a stream that was dormant at its start the
stream stays as it is. -/
theorem Run.dormant {s : Stance} {past : List (Machine H)} (run : Run T enter x past y)
    (b : x.Balanced) (alive : x.loop.life h = .alive s) (dormant : s.Dormant)
    (unnamed : ∀ z ∈ past, z.names h = false) :
    y.loop.life h = .alive s := by
  induction run with
  | refl => exact alive
  | @snoc past z w first next ih =>
    have here := ih fun z hz => unnamed z (List.mem_append_left _ hz)
    have balanced := first.keeps (fun _ _ b next => b.next next) b
    exact (next.shifts balanced).stays h s (unnamed z (by simp)) here dormant

end Machine

end Reactor
