import Reactor.Proofs.Buffers
import Reactor.Proofs.Closing
import Reactor.Proofs.Stream

/-!
# After the last callback

Once the last callback of a handle has returned, no event of the handle is told any more, and none
of its callbacks is entered. What may still run are listeners of an event that was being told at
that time: whoever tells an event goes through the listeners that there were when it began, and a
tick inside one of them may reclaim the handle before the others have had their turn.
-/

namespace Reactor

variable {H : Host} {T : Transport H.Net H.Script} {enter : Handlers H}

/-- The handle whose listeners a frame goes through. -/
def Frame.tells? : Frame H → Option HandleId
  | .emission h _ _ => some h
  | _ => none

/-- Whatever is being told of a handle in a stack was being told in an earlier one, on top of the
same work, and the listeners that are left were left there. -/
def Remains (h : HandleId) (earlier stack : List (Frame H)) : Prop :=
  ∀ e rest base, .emission h e rest :: base <:+ stack →
    ∃ left, .emission h e left :: base <:+ earlier ∧ rest <:+ left

namespace Remains

variable {h : HandleId} {earlier stack : List (Frame H)} {f : Frame H}

/-- What is being told in a stack is being told in it. -/
theorem refl (stack : List (Frame H)) : Remains h stack stack :=
  fun _ rest _ there => ⟨rest, there, List.suffix_rfl⟩

/-- Work that tells the handle nothing may come on top. -/
theorem push (remains : Remains h earlier stack) (f : Frame H) (other : f.tells? ≠ some h) :
    Remains h earlier (f :: stack) := by
  intro e rest base there
  rcases List.suffix_cons_iff.1 there with same | there
  · obtain ⟨rfl, -⟩ := List.cons.inj same
    exact absurd rfl other
  · exact remains e rest base there

/-- The work on top may go. -/
theorem pop (remains : Remains h earlier (f :: stack)) : Remains h earlier stack :=
  fun e rest base there => remains e rest base (there.trans (List.suffix_cons f stack))

/-- The next listener has its turn. -/
theorem next {k : HandleId} {e : Event} {c : H.Closure} {rest : List H.Closure}
    (remains : Remains h earlier (.emission k e (c :: rest) :: stack)) :
    Remains h earlier (.emission k e rest :: stack) := by
  intro e' rest' base there
  rcases List.suffix_cons_iff.1 there with same | there
  · cases same
    obtain ⟨left, there, suffix⟩ := remains e (c :: rest) stack List.suffix_rfl
    exact ⟨left, there, (List.suffix_cons c rest).trans suffix⟩
  · exact remains e' rest' base (there.trans (List.suffix_cons _ _))

end Remains

namespace Machine

variable {x y i m : Machine H} {past later : List (Machine H)} {h : HandleId}
  {earlier : List (Frame H)}

/-- Entering a callback or settling a future begins to tell no event. -/
theorem remains_deliver {l : Loop H} {stack : List (Frame H)} {req : RequestId} {k : HandleId}
    {callback : Callback H.Closure} {outcome : RequestOutcome} (remains : Remains h earlier stack) :
    Remains h earlier (deliver l stack req k callback outcome).stack := by
  cases callback with
  | closure => exact remains.push _ (by simp [Frame.tells?])
  | promise => exact remains

/-- As long as no event of a handle begins to be told, only what was being told of
it before is told on. -/
theorem Rule.remains (rule : Rule T enter x y) (untold : ∀ e, x.control ≠ .emit h e)
    (remains : Remains h earlier x.stack) : Remains h earlier y.stack := by
  cases rule with
  | finish | ask | issue | refuseListen | script | survey | note | recallShared | update | enter =>
    exact remains
  | beginListen => exact remains.push _ (by simp [Frame.tells?])
  | tick | runLoop | poll =>
    exact (remains.push _ (by simp [Frame.tells?])).push _ (by simp [Frame.tells?])
  | @emit l stack k e =>
    refine remains.push _ fun same => untold e ?_
    rw [Option.some.inj same]
  | nextListener => exact remains.next
  | endEmission | endDelivery | endConnect | endLoan | endParting | endListen | failListen | endTick
    | ticked | runFailed | endRun | pollFailed | endPoll | pausePoll => exact remains.pop
  | completeWrite | completeShutdown =>
    exact remains_deliver (remains.pop.push _ (by simp [Frame.tells?]))
  | completeConnect | failConnect | readData | reclaim =>
    exact (remains.pop.push _ (by simp [Frame.tells?])).push _ (by simp [Frame.tells?])
  | runAgain => exact (remains.pop.push _ (by simp [Frame.tells?])).push _ (by simp [Frame.tells?])
  | _ => exact remains.pop.push _ (by simp [Frame.tells?])

/-- A listener is entered as the next one of those that are left. -/
theorem Rule.hears (rule : Rule T enter x y) {c : H.Closure} {e : Event}
    (entered : y.control = .enter c (.event h e)) :
    ∃ rest base, x.stack = .emission h e (c :: rest) :: base ∧
      y.stack = .emission h e rest :: base := by
  cases rule with
  | nextListener => cases entered; exact ⟨_, _, rfl, rfl⟩
  | @completeWrite _ _ _ _ _ _ _ _ _ callback => cases callback <;> cases entered
  | @completeShutdown _ _ _ _ _ _ _ _ callback => cases callback <;> cases entered
  | _ => cases entered

/-- Nothing is told of a handle that is gone. -/
theorem Next.untold (b : x.Balanced) (gone : x.Gone h) (next : Next T enter x y) (e : Event) :
    y.control ≠ .emit h e := by
  intro control
  have step := next.moves b h
  have told : about h y.told? = some e := about_eq_some_iff.2 (by rw [told?, control])
  have ended : x.loop.life h = .gone := by simp [Loop.life, gone.1, gone.2]
  rw [told, ended] at step
  generalize about h (x.deed? T) = did at step
  cases step

/-- Nothing comes after the last callback of a handle but what was being told of
it when that returned. -/
structure LastWord (i m : Machine H) (h : HandleId) : Prop where
  /-- No event of the handle begins to be told, neither its last callback nor that of a
  request of it is entered. -/
  silent : ∀ e, m.control ≠ .emit h e
  parted : ∀ c, m.control ≠ .enter c (.closed h)
  completed : ∀ c outcome, m.control ≠ .enter c (.completed h outcome)
  /-- A listener that is entered was left to be told an event that was being told when
  the callback returned. -/
  left : ∀ c e, m.control = .enter c (.event h e) →
    ∃ rest base left, m.stack = .emission h e rest :: base ∧
    .emission h e left :: base <:+ i.stack ∧ c :: rest <:+ left
  /-- None is entered if nothing was being told of the handle. -/
  quiet : (∀ f ∈ i.stack, f.tells? ≠ some h) → ∀ c e, m.control ≠ .enter c (.event h e)

/-- From the return of the last callback on, the handle is gone, nothing begins to be told of it,
and once that return is past the end of the handle is over. -/
theorem Run.remains (run : Run T enter i later m) (reached : Reached T enter past i)
    {emitted failure : Option ListenerError} {rest : List (Frame H)}
    (stack : i.stack = .parting h emitted :: rest) (control : i.control = .returned failure) :
    m.Gone h ∧ (m = i ∨ m.Over h) ∧ (∀ e, m.control ≠ .emit h e) ∧ Remains h i.stack m.stack := by
  induction run with
  | refl =>
    exact ⟨reached.ending (f := .parting h emitted) (by simp [stack]) rfl, .inl rfl,
      by simp [control], .refl _⟩
  | @snoc later x y first next ih =>
    obtain ⟨gone, before, untold, remains⟩ := ih
    have here : Reached T enter (past ++ later) x := by
      obtain ⟨options, net, shared, p, run⟩ := reached
      exact ⟨options, net, shared, p, run.trans first⟩
    have ended : y.Over h := by
      obtain rfl | ended := before
      · exact here.over stack control next
      · exact (here.turn next).over ended
    refine ⟨ended.1, .inr ended, next.untold (Balanced.of_reached here) gone, ?_⟩
    cases next with
    | step taken => exact (rule_of_step? taken).2.remains untold remains
    | resume p rests => exact fun e rest base there => absurd (List.suffix_nil.1 there) (by simp)

end Machine

open Machine

/-- The last callback is the last word on a handle, but for the listeners of an event that was being
told of it: along every run, on any transport and with any handlers, once the callback has
returned at a machine of the past. -/
theorem last_callback_comes_last {before after : List (Machine H)} {i m : Machine H} {h : HandleId}
    {emitted failure : Option ListenerError} {rest : List (Frame H)}
    (reached : Reached T enter (before ++ i :: after) m)
    (stack : i.stack = .parting h emitted :: rest) (control : i.control = .returned failure) :
    LastWord i m h := by
  obtain ⟨first, run⟩ := reached.cut
  have gone : m.Gone h := (run.remains first stack control).1
  generalize hlater : i :: after = later at run
  cases run with
  | refl => cases hlater
  | @snoc later x _ run next =>
    obtain ⟨gone', ended, -, remains⟩ := run.remains first stack control
    have here : Reached T enter (before ++ later) x := by
      obtain ⟨options, net, shared, p, start⟩ := first
      exact ⟨options, net, shared, p, start.trans run⟩
    have left (c : H.Closure) (e : Event) (entered : m.control = .enter c (.event h e)) :
        ∃ rest base left,
        m.stack = .emission h e rest :: base ∧ .emission h e left :: base <:+ i.stack ∧
          c :: rest <:+ left := by
      cases next with
      | step taken =>
        obtain ⟨rest, base, stack, stack'⟩ := (rule_of_step? taken).2.hears entered
        obtain ⟨left, there, suffix⟩ := remains e (c :: rest) base ⟨[], stack.symm⟩
        exact ⟨rest, base, left, stack', there, suffix⟩
      | resume => cases entered
    constructor
    case silent => exact next.untold (Balanced.of_reached here) gone'
    case parted =>
      intro c entered
      obtain ⟨_, _, reclaiming, -⟩ := (here.turn next).parts entered
      obtain rfl | ended := ended
      · rw [stack] at reclaiming
        cases reclaiming
      · exact ended.2 _ (by rw [reclaiming]; exact List.mem_cons_self) rfl
    case completed =>
      intro c outcome entered
      obtain ⟨-, x, found, -⟩ := reached.completed entered
      rw [gone.2] at found
      cases found
    case left => exact left
    case quiet =>
      intro none c e entered
      obtain ⟨_, _, _, -, there, -⟩ := left c e entered
      exact none _ (there.subset List.mem_cons_self) rfl

namespace Client

open Memory (Script)

/-- A client with two listeners for bytes, of which the first closes the handle and has
it reclaimed by a tick. -/
def sharing : Program (Echo.host Memory Script) :=
  .call (.issue (.newHandle .tcp)) fun (h : HandleId) =>
  .call (.issue (.connect h (.v4 ⟨127, 0, 0, 1⟩ 80))) fun _ =>
  .call (.tick .idle) fun _ =>
  .call (.issue (.on h .data Echo.Closure.onData)) fun _ =>
  .call (.issue (.on h .data Echo.Closure.onEnd)) fun _ =>
  .call (.issue (.readStart h)) fun _ =>
  .call (.script (Script.pushData h [120])) fun _ =>
  .call (.tick .idle) fun _ => .skip

/-- The client after so many steps: after 37 the last callback has returned, after 44 the second
listener is entered. -/
def shared (steps : Nat) : Machine (Echo.host Memory Script) :=
  (Machine.start sharing (.fresh .standard Memory.initial ())).run Memory.transport
    leavesEarly steps

/-- The client that shares its events is reached at step 44, and was at step 37 before. -/
theorem reached_shared :
    ∃ before after, Reached Memory.transport leavesEarly (before ++ shared 37 :: after)
      (shared 44) := by
  obtain ⟨before, first, -⟩ := Run.exists_of_run Memory.transport leavesEarly
    (Machine.start sharing (.fresh .standard Memory.initial ())) 37
  obtain ⟨later, second, -⟩ := Run.exists_of_run Memory.transport leavesEarly (shared 37) 7
  have moved : (shared 37).stack.length ≠ (shared 44).stack.length := by decide
  cases later with
  | nil => exact absurd (congrArg (·.stack.length) second.eq_of_nil) moved
  | cons x after =>
    obtain rfl := second.uncons.1
    exact ⟨before, after, .standard, Memory.initial, (), sharing, first.trans second⟩

end Client

/-- The second listener of a client hears of bytes after the last callback of
their handle has returned. -/
theorem listener_comes_after_last_callback :
    ∃ before after rest,
      Reached Memory.transport Client.leavesEarly (before ++ Client.shared 37 :: after)
        (Client.shared 44) ∧
      (Client.shared 37).stack = .parting 0 none :: rest ∧
      (Client.shared 37).control = .returned none ∧
      (Client.shared 44).control = .enter .onEnd (.event 0 (.data [120])) := by
  obtain ⟨before, after, reached⟩ := Client.reached_shared
  exact ⟨before, after, _, reached, by rfl, by rfl, by rfl⟩

/-- That listener is the only one left of those that were there when the bytes began to be told. -/
theorem last_callback_comes_last_for_client :
    ∃ rest base left, (Client.shared 44).stack = .emission 0 (.data [120]) rest :: base ∧
      .emission 0 (.data [120]) left :: base <:+ (Client.shared 37).stack ∧
      Echo.Closure.onEnd :: rest <:+ left := by
  obtain ⟨before, after, reached⟩ := Client.reached_shared
  have word : LastWord (Client.shared 37) (Client.shared 44) 0 :=
    last_callback_comes_last reached
      (show (Client.shared 37).stack = .parting 0 none :: (Client.shared 37).stack.tail by rfl)
      (show (Client.shared 37).control = .returned none by rfl)
  exact word.left .onEnd (.data [120]) (by rfl)

end Reactor
