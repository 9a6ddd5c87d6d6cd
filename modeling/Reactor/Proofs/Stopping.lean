import Mathlib.Data.List.Induction
import Reactor.Proofs.Loop.Asides
import Reactor.Proofs.Machine.Steps
import Reactor.Proofs.Memory.Coupling

/-!
# A loop that is told to stop

One flag says that the run in progress is to return after its tick. It is up from a call to stop
until a tick of a run, or of an iteration for a task, comes to its end without an error; nothing
else raises it or takes it down. So a run that was told to stop returns after its tick, unless a run
that a handler has started inside this tick returns before it; and no run is cut short by what an
earlier one was told, unless the earlier one has failed.
-/

namespace Reactor

variable {H : Host} {T : Transport H.Net H.Script} {enter : Handlers H}

/-- Whether an operation is the one to stop. -/
def Operation.isStop {κ : Type} : Operation κ → Bool
  | .stop => true
  | _ => false

namespace Loop

variable {l l' : Loop H}

/-- The flag to stop is part of what stands beside the streams. -/
theorem stopping_of_aside (same : l'.aside = l.aside) : l'.stopping = l.stopping :=
  (Prod.mk.inj (Prod.mk.inj same).2).2

/-- A tracked operation leaves the flag to stop alone if its body leaves alone what
stands beside the streams. -/
theorem stopping_tracked {α : Type} (l : Loop H) (h : HandleId) (op : StreamOp)
    {body : Loop H → Except LoopError α × Loop H} (quiet : ∀ l, (body l).2.aside = l.aside) :
    (l.tracked h op body).2.stopping = l.stopping := by
  have kept : (body (l.meter h op .dispatched)).2.stopping = l.stopping :=
    (stopping_of_aside (quiet _) :)
  unfold tracked
  split
  case h_1 ended =>
    rw [ended] at kept
    exact kept
  case h_2 ended =>
    rw [ended] at kept
    exact kept

/-- No operation but the one to stop touches the flag. -/
theorem stopping_issue (T : Transport H.Net H.Script) (l : Loop H) (o : Operation H.Closure) :
    (l.issue T o).2.stopping = (o.isStop || l.stopping) := by
  cases o with
  | newHandle kind => exact stopping_of_aside (aside_newHandle l kind)
  | on h event c => exact stopping_of_aside (aside_on l h event c)
  | accept server client =>
    exact stopping_tracked l server .accept (aside_acceptUntracked · server client)
  | adopt h => exact stopping_of_aside (aside_adopt l h)
  | bind h address => exact stopping_of_aside (aside_bind l h address)
  | readStart h => exact stopping_tracked l h .readStart (aside_readStartUntracked · h)
  | readStop h => exact stopping_tracked l h .readStop (aside_readStopUntracked · h)
  | bufferWrite h offset data => exact stopping_of_aside (aside_bufferWrite l h offset data)
  | keptWrite h offset data => exact stopping_of_aside (aside_keptWrite l h offset data)
  | write h data callback =>
    exact stopping_tracked l h .write (aside_writeUntracked · h data callback)
  | shutdown h callback =>
    exact stopping_tracked l h .shutdown (aside_shutdownUntracked · h callback)
  | connect h address => exact stopping_tracked l h .connect (aside_connectUntracked · h address)
  | close h onClose => exact stopping_tracked l h .close (aside_closeUntracked · h onClose)
  | stop => rfl
  | forgetWake => rfl

end Loop

namespace Machine

variable {x y m : Machine H} {past : List (Machine H)}

/-- Whether the next step is a call to stop. -/
def stops (m : Machine H) : Bool :=
  match m.control with
  | .run (.call (.issue o) _) => o.isStop
  | _ => false

/-- Whether a tick of a run, or of an iteration for a task, has come to its end without an error. -/
def settles (m : Machine H) : Bool :=
  match m.control, m.stack with
  | .ticked (.ok _), .running .. :: _ | .ticked (.ok _), .polling .. :: _ => true
  | _, _ => false

/-- A call to stop ends no tick. -/
theorem not_settles_of_stops (stops : m.stops = true) : m.settles ≠ true := by
  unfold Machine.stops at stops
  split at stops
  case h_1 control => simp [settles, control]
  case h_2 => cases stops

/-- There was a call to stop, and no run or iteration has come to the end of a tick
without an error since. -/
def Unheeded (past : List (Machine H)) : Prop :=
  ∃ before x between, past = before ++ x :: between ∧ x.stops = true ∧
    ∀ z ∈ between, z.settles = false

namespace Unheeded

/-- At the beginning there was no call to stop. -/
theorem nil : ¬Unheeded ([] : List (Machine H)) := by
  rintro ⟨before, x, between, split, -⟩
  simp at split

/-- A call to stop is unheeded if it is the last step, or if it was so before and the last step is
not the end of a tick without an error. -/
theorem concat_iff : Unheeded (past ++ [x]) ↔
    x.stops = true ∨ Unheeded past ∧ x.settles = false := by
  constructor
  · rintro ⟨before, z, between, split, stops, kept⟩
    rcases List.eq_nil_or_concat between with rfl | ⟨between, w, rfl⟩
    · obtain rfl : x = z := by simpa using (List.append_inj' split rfl).2
      exact .inl stops
    · have split : past ++ [x] = (before ++ z :: between) ++ [w] := by simpa using split
      obtain ⟨rfl, last⟩ := List.append_inj' split rfl
      obtain rfl : x = w := by simpa using last
      exact .inr ⟨⟨before, z, between, rfl, stops, fun u hu => kept u (by simp [hu])⟩,
        kept x (by simp)⟩
  · rintro (stops | ⟨⟨before, z, between, rfl, stops, kept⟩, unsettled⟩)
    · exact ⟨past, x, [], rfl, stops, by simp⟩
    · refine ⟨before, z, between ++ [x], by simp, stops, fun u hu => ?_⟩
      rcases List.mem_append.1 hu with hu | hu
      · exact kept u hu
      · rwa [List.mem_singleton.1 hu]

/-- Once a tick has come to its end without an error, only a later call to stop is unheeded. -/
theorem of_settles {before between : List (Machine H)} {z : Machine H} (settles : z.settles = true)
    (unheeded : Unheeded (before ++ z :: between)) : ∃ w ∈ between, w.stops = true := by
  induction between using List.reverseRecOn with
  | nil =>
    obtain stops | ⟨-, unsettled⟩ := concat_iff.1 unheeded
    · exact (not_settles_of_stops stops settles).elim
    · rw [settles] at unsettled
      cases unsettled
  | append_singleton between w ih =>
    have unheeded : Unheeded ((before ++ z :: between) ++ [w]) := by simpa using unheeded
    obtain stops | ⟨unheeded, -⟩ := concat_iff.1 unheeded
    · exact ⟨w, by simp, stops⟩
    · obtain ⟨w', hw', stops⟩ := ih unheeded
      exact ⟨w', by simp [hw'], stops⟩

end Unheeded

/-- A step that neither calls to stop nor ends a tick of a run leaves the flag alone. -/
theorem stopping_of_quiet (unasked : x.stops = false) (unsettled : x.settles = false)
    (same : y.loop.stopping = x.loop.stopping) :
    y.loop.stopping = (x.stops || x.loop.stopping && !x.settles) := by
  rw [unasked, unsettled, same, Bool.false_or, Bool.not_false, Bool.and_true]

/-- What a step makes of the flag. -/
theorem Rule.stopping (rule : Rule T enter x y) :
    y.loop.stopping = (x.stops || x.loop.stopping && !x.settles) := by
  cases rule with
  | finish | ask | tick | runLoop | poll | script | survey | note | recallShared | update | enter
    | emit | nextListener | endEmission | endLoan | beginParting | skipParting | endParting
    | noteResult | endListen | failListen | collect | firstPass | nextPass | beginReclaims | endTick
    | skipReport | connection | dropConnection | skipRead | refuseRead | completeConnect
    | failConnect | skipReclaim | breach | reclaim | runFailed | pollFailed =>
    exact stopping_of_quiet rfl rfl rfl
  | @ticked l stack next result => cases result <;> exact stopping_of_quiet rfl rfl rfl
  | @issue l stack o next =>
    refine (Loop.stopping_issue T l o).trans ?_
    simp [stops, settles]
  | @refuseListen l stack h backlog c next e l' begun =>
    have kept := Loop.aside_beginListen (T := T) (l.meter h .listen .dispatched) h backlog c
    rw [begun] at kept
    exact stopping_of_quiet rfl rfl (Loop.stopping_of_aside kept :)
  | @beginListen l stack h backlog c next l' begun =>
    have kept := Loop.aside_beginListen (T := T) (l.meter h .listen .dispatched) h backlog c
    rw [begun] at kept
    exact stopping_of_quiet rfl rfl (Loop.stopping_of_aside kept :)
  | endDelivery | endConnect | dropConnect =>
    exact stopping_of_quiet rfl rfl (Loop.stopping_of_aside (Loop.aside_release _ _) :)
  | completeWrite =>
    exact stopping_of_quiet rfl rfl (Loop.stopping_of_aside (aside_deliver _ _ _ _ _ _) :)
  | completeShutdown =>
    exact stopping_of_quiet rfl rfl ((Loop.stopping_of_aside (aside_deliver _ _ _ _ _ _)).trans
      (Loop.stopping_of_aside (aside_settleShutdown _ _ _)) :)
  | readNothing _ _ _ _ read | readData _ _ _ _ read =>
    obtain rfl := congrArg Prod.snd read
    exact stopping_of_quiet rfl rfl rfl
  | readEof _ _ _ _ read | readFailed _ _ _ _ read =>
    obtain rfl := congrArg Prod.snd read
    exact stopping_of_quiet rfl rfl (Loop.stopping_of_aside (Loop.aside_endReading _ _ _ _) :)
  | endRun | runAgain | endPoll => simp [stops, settles, beginTick, ofTick, Loop.beginTick]
  | @pausePoll l stack w next worked =>
    simp only [stops, settles, Bool.not_true, Bool.and_false, Bool.or_false]
    split <;> rfl

/-- What comes after a machine has the flag up if the machine calls to stop, or has the
flag up and ends no tick. -/
theorem Next.stopping (next : Next T enter x y) :
    y.loop.stopping = (x.stops || x.loop.stopping && !x.settles) := by
  cases next with
  | step taken => exact (rule_of_step? taken).2.stopping
  | resume p rest =>
    obtain ⟨⟨failure, control⟩, -⟩ := atRest_iff.1 rest
    exact stopping_of_quiet (by simp [stops, control]) (by simp [settles, control]) rfl

/-- The flag is up exactly as long as a call to stop is unheeded. -/
theorem Reached.stopping_iff (reached : Reached T enter past m) :
    m.loop.stopping = true ↔ Unheeded past := by
  refine reached.history (P := fun past m => m.loop.stopping = true ↔ Unheeded past) ?_ ?_
  · intro options net shared p
    exact ⟨fun up => (Bool.false_ne_true up).elim, fun unheeded => (Unheeded.nil unheeded).elim⟩
  · intro past x y _ ih next
    rw [Unheeded.concat_iff, ← ih, next.stopping]
    simp

/-- What a call to stop means for the runs of a loop: `past` are the machines that a run of the
machine has left behind, `m` is the one that it has come to. -/
structure StopEndsRun (T : Transport H.Net H.Script) (enter : Handlers H) (past : List (Machine H))
    (m : Machine H) :
    Prop where
  /-- The flag is up exactly as long as a call to stop is unheeded. -/
  flag : m.loop.stopping = true ↔ Unheeded past
  /-- A run that was told to stop begins no other tick when its tick returns: it returns
  as well. The call may have come from any handler, unless another run has come to the end
  of a tick in between. -/
  run_ends : ∀ before x between mode next base result y,
    past = before ++ x :: between → x.stops = true →
    (∀ z ∈ between, z.settles = false) → m.control = .ticked result →
    m.stack = .running mode next :: base → Next T enter m y →
    y.stack = base ∧ ∃ answer, y.control = .run (next answer)
  /-- So does an iteration for a task, and the task is done with the loop
  unless the tick has failed. -/
  poll_ends : ∀ before x between w next base result y,
    past = before ++ x :: between → x.stops = true →
    (∀ z ∈ between, z.settles = false) → m.control = .ticked result →
    m.stack = .polling w next :: base → Next T enter m y →
    y.stack = base ∧ y.control = .run (next (result.map fun _ => true))
  /-- A run goes on as long as its ticks find something to do and the loop is alive, if
  there was no call to stop since a tick of an earlier run, or of this one, has come to its
  end without an error. -/
  run_goes_on : ∀ before z between next base y, past = before ++ z :: between → z.settles = true →
    (∀ w ∈ between, w.stops = false) → m.control = .ticked (.ok true) →
    m.stack = .running .default next :: base → m.loop.alive = true → Next T enter m y →
    ∃ t, y.stack = .tick t :: m.stack ∧ y.control = .advance
  /-- In the same way a task is not done with a loop that is alive. -/
  poll_goes_on : ∀ before z between worked w next base y,
    past = before ++ z :: between → z.settles = true →
    (∀ u ∈ between, u.stops = false) → m.control = .ticked (.ok worked) →
    m.stack = .polling w next :: base → m.loop.alive = true → Next T enter m y →
    y.stack = base ∧ y.control = .run (next (.ok false))

/-- A run that was told to stop, or has failed, returns. -/
theorem Rule.ends_run {l : Loop H} {mode : RunMode} {next : Except LoopError Bool → Program H}
    {base : List (Frame H)} {result : Except LoopError Bool}
    (rule : Rule T enter ⟨l, .running mode next :: base, .ticked result⟩ y)
    (up : l.stopping = true) : y.stack = base ∧ ∃ answer, y.control = .run (next answer) := by
  cases rule with
  | runFailed | endRun => exact ⟨rfl, _, rfl⟩
  | runAgain on => simp [up] at on

/-- When a call to stop is in force an iteration for a task ends with its tick, and says
that the task is done. -/
theorem Rule.ends_poll {l : Loop H} {w : Waker} {next : Except LoopError Bool → Program H}
    {base : List (Frame H)} {result : Except LoopError Bool}
    (rule : Rule T enter ⟨l, .polling w next :: base, .ticked result⟩ y) (up : l.stopping = true) :
    y.stack = base ∧ y.control = .run (next (result.map fun _ => true)) := by
  cases rule with
  | pollFailed | endPoll => exact ⟨rfl, rfl⟩
  | pausePoll on => simp [up] at on

/-- A run that was not told to stop begins another tick when it has found something to do
and the loop is alive. -/
theorem Rule.goes_on_run {l : Loop H} {next : Except LoopError Bool → Program H}
    {base : List (Frame H)}
    (rule : Rule T enter ⟨l, .running .default next :: base, .ticked (.ok true)⟩ y)
    (down : l.stopping = false) (alive : l.alive = true) :
    ∃ t, y.stack = .tick t :: .running .default next :: base ∧ y.control = .advance := by
  have alive : Loop.alive { l with stopping := false } = true := alive
  cases rule with
  | endRun stop => simp [down, alive] at stop
  | runAgain => exact ⟨_, rfl, rfl⟩

/-- While the loop is alive and no call to stop is in force, an iteration for a task says that the
task is not done. -/
theorem Rule.goes_on_poll {l : Loop H} {w : Waker} {next : Except LoopError Bool → Program H}
    {base : List (Frame H)} {worked : Bool}
    (rule : Rule T enter ⟨l, .polling w next :: base, .ticked (.ok worked)⟩ y)
    (down : l.stopping = false) (alive : l.alive = true) :
    y.stack = base ∧ y.control = .run (next (.ok false)) := by
  have alive : Loop.alive { l with stopping := false } = true := alive
  cases rule with
  | endPoll stop => simp [down, alive] at stop
  | pausePoll => exact ⟨rfl, rfl⟩

/-- What comes after the end of a tick is a step. -/
theorem Next.rule_of_ticked (next : Next T enter m y) {result : Except LoopError Bool}
    (control : m.control = .ticked result) : Rule T enter m y := by
  cases next with
  | step taken => exact (rule_of_step? taken).2
  | resume p rest =>
    obtain ⟨⟨failure, returned⟩, -⟩ := atRest_iff.1 rest
    rw [returned] at control
    cases control

end Machine

open Machine

/-- Along every run of the machine, on any transport and with any handlers, a call to stop ends
the run in progress and no other: unless a handler has started another run inside the same tick, or
the tick has failed. -/
theorem stop_ends_run_in_progress {past : List (Machine H)} {m : Machine H}
    (reached : Reached T enter past m) :
    StopEndsRun T enter past m := by
  have flag := reached.stopping_iff
  have down {before between : List (Machine H)} {z : Machine H}
      (split : past = before ++ z :: between) (settles : z.settles = true)
        (unasked : ∀ w ∈ between, w.stops = false) : m.loop.stopping = false := by
    refine Bool.eq_false_iff.2 fun up => ?_
    obtain ⟨w, hw, stops⟩ := Unheeded.of_settles settles (split ▸ flag.1 up)
    rw [unasked w hw] at stops
    cases stops
  constructor
  case flag => exact flag
  case run_ends =>
    intro before x between mode next base result y split stops unsettled control stack after
    have up := flag.2 ⟨before, x, between, split, stops, unsettled⟩
    have rule := after.rule_of_ticked control
    obtain ⟨l, _, _⟩ := m
    obtain rfl : _ = _ := stack
    obtain rfl : _ = _ := control
    exact rule.ends_run up
  case poll_ends =>
    intro before x between w next base result y split stops unsettled control stack after
    have up := flag.2 ⟨before, x, between, split, stops, unsettled⟩
    have rule := after.rule_of_ticked control
    obtain ⟨l, _, _⟩ := m
    obtain rfl : _ = _ := stack
    obtain rfl : _ = _ := control
    exact rule.ends_poll up
  case run_goes_on =>
    intro before z between next base y split settles unasked control stack alive after
    have down := down split settles unasked
    have rule := after.rule_of_ticked control
    obtain ⟨l, _, _⟩ := m
    obtain rfl : _ = _ := stack
    obtain rfl : _ = _ := control
    exact rule.goes_on_run down alive
  case poll_goes_on =>
    intro before z between worked w next base y split settles unasked control stack alive after
    have down := down split settles unasked
    have rule := after.rule_of_ticked control
    obtain ⟨l, _, _⟩ := m
    obtain rfl : _ = _ := stack
    obtain rfl : _ = _ := control
    exact rule.goes_on_poll down alive

/-! ## Clients that stop -/

namespace Client

open Memory (Script)

/-- When a handler calls to stop, and what else it does. -/
inductive Stopper where
  /-- Calls to stop when it is told the byte 1. -/
  | simply
  /-- Calls to stop when it is told the byte 1, and fails. -/
  | failing
  /-- Begins to read once it is connected, calls to stop, and runs the loop for one tick. -/
  | running

/-- What such handlers do. -/
def stoppers : Handlers (Memory.host Unit Empty Stopper)
  | .simply, .event _ (.data [1]) => .call (.issue .stop) fun _ => .skip
  | .failing, .event _ (.data [1]) => .call (.issue .stop) fun _ => .done (some (.text "failed"))
  | .running, .event h .connect =>
    .call (.issue (.readStart h)) fun _ =>
      .call (.issue .stop) fun _ => .call (.run .noWait) fun _ => .skip
  | _, _ => .skip

/-- A client that is told three bytes, one in every tick, while it runs the loop twice. -/
def stopping (c : Stopper) : Program (Memory.host Unit Empty Stopper) :=
  .call (.issue (.newHandle .tcp)) fun (h : HandleId) =>
  .call (.issue (.on h .connect c)) fun _ =>
  .call (.issue (.on h .data c)) fun _ =>
  .call (.issue (.connect h (.v4 ⟨127, 0, 0, 1⟩ 80))) fun _ =>
  .call (.script (.pushData h [1])) fun _ =>
  .call (.script (.pushData h [2])) fun _ =>
  .call (.script (.pushData h [3])) fun _ =>
  .call (.run .default) fun _ =>
  .call (.issue (.readStart h)) fun _ =>
  .call (.run .default) fun _ =>
  .call (.run .default) fun _ => .skip

/-- The client after so many steps. -/
def stopped (c : Stopper) (steps : Nat) : Machine (Memory.host Unit Empty Stopper) :=
  (Machine.start (stopping c)
    (.fresh { Options.standard with maxReadPasses := ⟨1, by decide⟩ } Memory.initial ())).run
    Memory.transport stoppers steps

/-- The client after so many steps was reached through the steps before. -/
theorem reached_stopped (c : Stopper) (steps : Nat)
    (goes : (List.range steps).all (fun k =>
      ((stopped c k).step? Memory.transport stoppers).isSome) = true) :
    Reached Memory.transport stoppers ((List.range steps).map (stopped c)) (stopped c steps) :=
  ⟨_, _, _, _, Run.of_steps Memory.transport stoppers _ goes⟩

end Client

/-- The run of a client whose handler calls to stop returns after its tick, and
the next run goes on. -/
theorem stop_ends_run_in_progress_for_client :
    Reached Memory.transport Client.stoppers ((List.range 51).map (Client.stopped .simply))
      (Client.stopped .simply 51) ∧
      (Client.stopped .simply 30).stops = true ∧ (Client.stopped .simply 37).settles = true ∧
      (Client.stopped .simply 38).stack = [] ∧
      ∃ t, (Client.stopped .simply 52).stack = .tick t :: (Client.stopped .simply 51).stack := by
  have first := stop_ends_run_in_progress (Client.reached_stopped .simply 37 (by rfl))
  have second := stop_ends_run_in_progress (Client.reached_stopped .simply 51 (by rfl))
  have unasked : ∀ w ∈ (List.range' 38 13).map (Client.stopped .simply), w.stops = false := by
    intro w hw
    obtain ⟨k, hk, rfl⟩ := List.mem_map.1 hw
    have all : (List.range' 38 13).all (fun k => !(Client.stopped .simply k).stops) = true := by rfl
    simpa using List.all_eq_true.1 all k hk
  have unsettled : ∀ z ∈ (List.range' 31 6).map (Client.stopped .simply), z.settles = false := by
    intro w hw
    obtain ⟨k, hk, rfl⟩ := List.mem_map.1 hw
    have all : (List.range' 31 6).all (fun k => !(Client.stopped .simply k).settles) = true := by
      rfl
    simpa using List.all_eq_true.1 all k hk
  have ends :=
    first.run_ends ((List.range 30).map (Client.stopped .simply)) (Client.stopped .simply 30)
      ((List.range' 31 6).map (Client.stopped .simply)) .default _ [] (.ok true)
      (Client.stopped .simply 38) rfl rfl unsettled
      rfl rfl (.step rfl)
  obtain ⟨t, stack, -⟩ :=
    second.run_goes_on ((List.range 37).map (Client.stopped .simply)) (Client.stopped .simply 37)
      ((List.range' 38 13).map (Client.stopped .simply)) _ []
      (Client.stopped .simply 52) rfl rfl unasked rfl rfl rfl
      (.step rfl)
  exact ⟨Client.reached_stopped .simply 51 (by rfl), rfl, rfl, ends.1, t, stack⟩

/-- A call to stop in a tick that fails cuts the next run short: the run of the client has returned
with the error, and its second run returns after a tick that found something to do, while the loop
is alive and nobody has called to stop again. And a run that a handler starts takes the call for
itself: the run of the other client goes on with another tick, though one of its handlers has called
to stop in the tick before. -/
theorem stop_misses_its_run :
    ((List.range 52).filter (fun k => (Client.stopped .failing k).stops) = [30] ∧
      (Client.stopped .failing 37).control = .ticked (.error (.listener (.text "failed"))) ∧
      (∃ next, (Client.stopped .failing 37).stack = [.running .default next]) ∧
      (Client.stopped .failing 38).stack = [] ∧
      (Client.stopped .failing 51).control = .ticked (.ok true) ∧
      (Client.stopped .failing 51).loop.alive = true ∧
      (∃ next, (Client.stopped .failing 51).stack = [.running .default next]) ∧
      (Client.stopped .failing 52).stack = []) ∧
    ((Client.stopped .running 14).stops = true ∧
      (∃ f t next, (Client.stopped .running 14).stack =
        [f, .connecting 0 0, .tick t, .running .default next]) ∧
      (Client.stopped .running 44).control = .ticked (.ok true) ∧
      (∃ next, (Client.stopped .running 44).stack = [.running .default next]) ∧
      ∃ t next, (Client.stopped .running 45).stack = [.tick t, .running .default next]) :=
  ⟨⟨rfl, rfl, ⟨_, rfl⟩, rfl, rfl, rfl, ⟨_, rfl⟩, rfl⟩, rfl, ⟨_, _, _, rfl⟩, rfl,
    ⟨_, rfl⟩, _, _, rfl⟩

end Reactor
