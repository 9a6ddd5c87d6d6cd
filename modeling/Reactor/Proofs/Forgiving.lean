import Reactor.Proofs.Forgiving.Results
import Reactor.Proofs.Forgiving.Steps
import Reactor.Proofs.Memory.Drained
import Reactor.Proofs.Registry

/-!
# A listener that fails does not disturb the tick

An error of a listener is the tick's result and nothing more: with listeners forgiven the tick does
the same to all handlers, and leaves the same loop. This is so unless the listener was told of a
read, and there was more to read: its error breaks off the reads of the tick, those of other handles
too, and these are told nothing until the next tick.
-/

namespace Reactor

variable {H : Host} {T : Transport H.Net H.Script} {enter : Handlers H}

open Machine

/-! ## Nothing to read in memory -/

namespace Memory

variable {S N C : Type} {l : Loop (Memory.host S N C)} {w : Waker} {h : HandleId}

/-- Whether a handle does not read, or has a free buffer, nothing has arrived for it, and the one
who would ask is known. -/
def idles (l : Loop (Memory.host S N C)) (w : Waker) (h : HandleId) : Bool :=
  (l.handles.get? h).all fun x => !x.isReading ||
    (x.buffer.any (!·.exposed) && (l.net.endpoint h).incoming.isEmpty && l.net.waker = w)

/-- Reading where nothing has arrived finds nothing and changes nothing. -/
theorem read_of_empty {m : Memory} (empty : (m.endpoint h).incoming = []) (known : m.waker = w)
    (size : Nat) :
    Memory.read w h size m = quiet (.pending, []) m := by
  subst known
  unfold Memory.read
  simp only [empty]
  split <;> rfl

/-- A read of a handle for which nothing has arrived leaves the loop as it is. -/
theorem dry_of_idles (idle : idles l w h = true) : Dry Memory.transport l w h := by
  intro x found reading
  simp only [idles, found, reading, Option.all_some, Bool.not_true, Bool.false_or, Bool.and_eq_true,
    List.isEmpty_iff, decide_eq_true_eq] at idle
  obtain ⟨⟨buffered, empty⟩, known⟩ := idle
  obtain ⟨b, buffer, free⟩ := (Option.any_eq_true _ _).1 buffered
  have here : readBuffer l x = b := by simp [readBuffer, buffer]
  have read : l.ask (Memory.transport.read w h b.size) = ((.pending, []), l) := by
    change l.ask (Memory.read w h b.size) = _
    simp [Loop.ask, read_of_empty empty known, quiet]
  rw [here]
  refine ⟨by simpa using free, .pending, [], l, read, .inl rfl, ?_⟩
  have unwritten : b.overwrite 0 [] = b := by simp [ReadBuffer.overwrite, ReadBuffer.room]
  have same : l.handles.modify h (fun x => { x with buffer := some (b.overwrite 0 []) }) =
      l.handles := by
    refine Registry.modify_eq_self fun y there => ?_
    obtain rfl := Option.some.inj (found.symm.trans there)
    rw [unwritten, ← buffer]
  rw [fillBuffer, Loop.modifyHandle, same]

/-- Whether a listener fails only while there is nothing left to read. -/
def failsDry (m : Machine (Memory.host S N C)) : Bool :=
  match m.control, m.stack with
  | .returned (some _), [.tick t] =>
    match t.stage with
    | .reads _ rest _ => (rest ++ m.loop.handles.ids).all (idles m.loop t.waker)
    | _ => true
  | _, _ => true

/-- Where the check finds that a failing machine has nothing left to read, it has not. -/
theorem failsDry_of {m : Machine (Memory.host S N C)} (holds : failsDry m = true) :
    m.FailsDry Memory.transport := by
  intro cause t control stack passes rest productive here
  simp only [failsDry, control, stack, here, List.all_append, Bool.and_eq_true,
    List.all_eq_true] at holds
  exact ⟨fun h hh => dry_of_idles (holds.1 h hh), fun _ h hh => dry_of_idles (holds.2 h hh)⟩

end Memory

/-- In a tick that no handler starts again, and in which spared listeners are the last to be told of
their events, the errors show in the result, which is the first that comes up. If no spared listener
fails while there is something left to read, nothing else depends on whether spared listeners fail:
forgiven, they leave the same loop, the same is done to all handlers in the same order, and only
errors that come up anyhow come up. -/
theorem failing_listeners_leave_tick_alone {spared : H.Closure → Bool} {l l' : Loop H} {w : Waker}
    {past : List (Machine H)} {result : Except LoopError Bool}
    (ticked : Steps T enter (beginTick [] l w) past ⟨l', [], .ticked result⟩)
    (tame : ∀ x ∈ past, x.Tame spared) :
    errorOf result = (past.filterMap fault?).head? ∧
      (FailDry T spared past →
        ∃ past' result', Steps T (enter.sparing spared)
          (beginTick [] l w) past' ⟨l', [], .ticked result'⟩ ∧
          past'.filterMap act? = past.filterMap act? ∧
          errorOf result' = (past'.filterMap fault?).head? ∧
          (past'.filterMap fault?).Sublist (past.filterMap fault?)) := by
  refine ⟨ticked.errorOf_result fun x hx => (tame x hx).calm, fun dry => ?_⟩
  have begins : (beginTick [] l w).Counterpart false (beginTick [] l w) :=
    .strictly (.tick (.refl _)) .advance
  obtain ⟨past', m, steps, c, acts, faults, calm⟩ := ticked.counterpart begins tame dry
  cases c with
  | inside below => cases below
  | ended => exact ⟨past', _, steps, acts, steps.errorOf_result calm, faults⟩

/-! ## Clients of which one fails -/

namespace Client

open Memory (Script)

/-- Two clients that read. The first one is told a byte, and so is the second one if it is to. -/
def pair (both : Bool) : Program (Memory.host Unit Empty Bool) :=
  .call (.issue (.newHandle .tcp)) fun (first : HandleId) =>
  .call (.issue (.newHandle .tcp)) fun (second : HandleId) =>
  .call (.issue (.connect first (.v4 ⟨127, 0, 0, 1⟩ 80))) fun _ =>
  .call (.issue (.connect second (.v4 ⟨127, 0, 0, 1⟩ 80))) fun _ =>
  .call (.tick .idle) fun _ =>
  .call (.issue (.on first .data true)) fun _ =>
  .call (.issue (.on second .data false)) fun _ =>
  .call (.issue (.readStart first)) fun _ =>
  .call (.issue (.readStart second)) fun _ =>
  .call (.script (.pushData first [1])) fun _ =>
    if both then .call (.script (.pushData second [2])) fun _ => .skip else .skip

/-- Handlers of which one fails. -/
def careless : Handlers (Memory.host Unit Empty Bool)
  | true, _ => .done (some (.text "no"))
  | false, _ => .skip

/-- The clients before a tick. -/
def paired (both : Bool) : Loop (Memory.host Unit Empty Bool) :=
  ((Machine.start (pair both) (.fresh .standard Memory.initial ())).run Memory.transport
    careless 50).loop

/-- The clients after so many steps of a tick. -/
def told (enter : Handlers (Memory.host Unit Empty Bool)) (both : Bool) (steps : Nat) :
    Machine (Memory.host Unit Empty Bool) :=
  (beginTick [] (paired both) .idle).run Memory.transport enter steps

/-- A tick of the clients goes so far, and is over. -/
theorem ticked_told (enter : Handlers (Memory.host Unit Empty Bool)) (both : Bool) (steps : Nat)
    {result : Except LoopError Bool}
    (goes : (List.range steps).all (fun k =>
      ((told enter both k).step? Memory.transport enter).isSome) = true)
    (alone : (told enter both steps).stack = [])
    (returned : (told enter both steps).control = .ticked result) :
    Steps Memory.transport enter (beginTick [] (paired both) .idle)
      ((List.range steps).map (told enter both))
      ⟨(told enter both steps).loop, [], .ticked result⟩ := by
  have ended : told enter both steps = ⟨(told enter both steps).loop, [], .ticked result⟩ := by
    rw [← returned, ← alone]
  rw [← ended]
  exact Steps.of_run _ _ _ goes

/-- No handler starts a tick, and every listener is the last one that is told. -/
theorem tame_told (both : Bool) : ∀ x ∈ (List.range 12).map (told careless both), x.Tame id := by
  have calm : (List.range 12).all (fun k => !(told careless both k).reenters) = true := by
    cases both <;> rfl
  have acts : (List.range 12).filter (fun k => (told careless both k).act?.isSome) = [3, 5] := by
    cases both <;> rfl
  simp only [List.mem_map, List.mem_range]
  rintro x ⟨k, small, rfl⟩
  refine ⟨by simpa using List.all_eq_true.1 calm k (by simpa), fun c h e control _ _ => ?_⟩
  have here : k ∈ [3, 5] := by
    rw [← acts]
    simp [act?, control, small]
  obtain rfl | rfl : k = 3 ∨ k = 5 := by simpa using here
  · have told : (told careless both 3).control = .emit 0 (.data [1]) := by cases both <;> rfl
    cases told.symm.trans control
  · have event : (told careless both 5).control = .enter true (.event 0 (.data [1])) := by
      cases both <;> rfl
    have last : (told careless both 5).stack.head? = some (.emission 0 (.data [1]) []) := by
      cases both <;> rfl
    obtain ⟨rfl, told⟩ := Control.enter.inj (event.symm.trans control)
    obtain ⟨rfl, rfl⟩ := Occasion.event.inj told
    obtain ⟨rest, stack⟩ := List.head?_eq_some_iff.1 last
    exact ⟨rest, stack⟩

/-- When the listener fails and the second client has nothing to be told, there is
nothing left to read. -/
theorem failDry_told : FailDry Memory.transport id ((List.range 12).map (told careless false)) := by
  intro before x after split _
  have holds : (List.range 12).all (fun k => Memory.failsDry (told careless false k)) = true := by
    rfl
  have here : x ∈ (List.range 12).map (told careless false) := by simp [split]
  simp only [List.mem_map, List.mem_range] at here
  obtain ⟨k, small, rfl⟩ := here
  exact Memory.failsDry_of (List.all_eq_true.1 holds k (by simpa))

end Client

/-- The listener of the first client fails, and the second client, which reads as well, has nothing
to be told: forgiven or not, the tick leaves the same loop, and its result is the error. -/
theorem failing_listeners_leave_tick_alone_for_client :
    errorOf (.error (.listener (.text "no")) : Except LoopError Bool) =
        (((List.range 12).map (Client.told Client.careless false)).filterMap fault?).head? ∧
      ∃ past' result', Steps Memory.transport (Client.careless.sparing id)
        (beginTick [] (Client.paired false) .idle) past'
        ⟨(Client.told Client.careless false 12).loop, [], .ticked result'⟩ ∧
        past'.filterMap act? = [.tell 0 (.data [1]), .enter true (.event 0 (.data [1]))] := by
  have ticked := Client.ticked_told Client.careless false 12 (by rfl) (by rfl) (by rfl)
  obtain ⟨first, forgiven⟩ := failing_listeners_leave_tick_alone ticked (Client.tame_told false)
  obtain ⟨past', result', steps, acts, -⟩ := forgiven Client.failDry_told
  exact ⟨first, past', result', steps, acts.trans (by rfl)⟩

/-- When both clients have something to be told and the listener of the first one fails, the
second client is not told in this tick: the error breaks off the reads. It is told when the
listener is forgiven. -/
theorem failing_listener_starves_others :
    Steps Memory.transport Client.careless (beginTick [] (Client.paired true) .idle)
        ((List.range 12).map (Client.told Client.careless true))
        ⟨(Client.told Client.careless true 12).loop, [],
          .ticked (.error (.listener (.text "no")))⟩ ∧
      (∀ x ∈ (List.range 12).map (Client.told Client.careless true), x.Tame id) ∧
      ((List.range 12).map (Client.told Client.careless true)).filterMap act? =
        [.tell 0 (.data [1]), .enter true (.event 0 (.data [1]))] ∧
      Steps Memory.transport (Client.careless.sparing id) (beginTick [] (Client.paired true) .idle)
        ((List.range 23).map (Client.told (Client.careless.sparing id) true))
        ⟨(Client.told (Client.careless.sparing id) true 23).loop, [], .ticked (.ok true)⟩ ∧
      ((List.range 23).map (Client.told (Client.careless.sparing id) true)).filterMap act? =
        [.tell 0 (.data [1]), .enter true (.event 0 (.data [1])), .tell 1 (.data [2]),
          .enter false (.event 1 (.data [2]))] :=
  ⟨Client.ticked_told _ true 12 (by rfl) (by rfl) (by rfl), Client.tame_told true, by rfl,
    Client.ticked_told _ true 23 (by rfl) (by rfl) (by rfl), by rfl⟩

end Reactor
