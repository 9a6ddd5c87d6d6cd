import Reactor.Echo.Server
import Reactor.Proofs.Drivers.Polling
import Reactor.Proofs.Drivers.Running

/-!
# A run and a task drive a loop alike

A run decides by what a tick has done whether another follows; a task polls again when it was woken.
Both go through the same ticks, whatever they do on the way, and come to the same end.
-/

namespace Reactor

variable {S N C : Type} {enter : Handlers (Memory.host S N C)}

namespace Machine

variable {l k : Loop (Memory.host S N C)} {trace : List (Machine (Memory.host S N C))} {n : Nat}
  {v : Verdict}

/-- A run of the loop returns. -/
def Runs (enter : Handlers (Memory.host S N C)) (l : Loop (Memory.host S N C))
    (trace : List (Machine (Memory.host S N C))) (answer : Except LoopError Bool)
    (l' : Loop (Memory.host S N C)) : Prop :=
  Returns enter (fun next => .call (.run .default) next) l trace answer l'

/-- A task that polls the loop again whenever it was woken hears of an error, or hears that it is
done with the loop, or is left asleep without being done, after as many polls as it takes. -/
def Polled (enter : Handlers (Memory.host S N C)) (l : Loop (Memory.host S N C))
    (trace : List (Machine (Memory.host S N C))) (answer : Except LoopError Bool)
    (l' : Loop (Memory.host S N C)) : Prop :=
  ∃ n, ∀ left, n ≤ left →
    Returns enter (Program.pollWhileWoken · left 0) l trace (answer.map (⟨·, n⟩)) l'

/-- The loop had been told to stop when the last tick returned. -/
def Stopped (trace : List (Machine (Memory.host S N C))) : Prop :=
  ∃ m, trace.getLast? = some m ∧ m.loop.stopping = true

/-- A run that ends in a machine was stopped just when the flag is set there. -/
theorem stopped_concat {before : List (Machine (Memory.host S N C))}
    {m : Machine (Memory.host S N C)} :
    Stopped (trace ++ (before ++ [m.hush])) ↔ m.loop.stopping = true := by
  simp [Stopped, hush, Loop.hush]

/-- What the last tick means shows in the loop that is left and in the machines that
the ticks went through. -/
theorem Ends.shows (ends : Ends enter l n trace v k) :
    (v = .finished → k.alive = false ∨ Stopped trace) ∧
      (v = .idle → k.alive = true ∧ ¬Stopped trace) := by
  cases ends with
  | @last _ _ _ _ l₁ _ result _ _ round verdict =>
    obtain ⟨past, -, rfl⟩ := round
    rw [stopped_concat, Loop.alive_settle]
    constructor
    · rintro rfl
      exact (Loop.verdict?_eq_finished verdict).symm
    · rintro rfl
      obtain ⟨-, unstopped, alive⟩ := Loop.verdict?_eq_idle.1 verdict
      exact ⟨alive, by simp [unstopped]⟩

/-- A run that leaves nothing alive, or was stopped, is at the end of its work. -/
theorem Ends.eq_finished {alive : Bool} (ends : Ends enter l n trace v k)
    (answer : .ok alive = v.ofRun k.alive) (ended : alive = false ∨ Stopped trace) :
    v = .finished := by
  cases v with
  | failed => cases answer
  | finished => rfl
  | idle =>
    obtain rfl : alive = k.alive := Except.ok.inj answer
    obtain ⟨lives, unstopped⟩ := ends.shows.2 rfl
    rw [lives] at ended
    exact absurd (ended.resolve_left (by simp)) unstopped

/-- A run that leaves the loop alive without having been stopped has found nothing to do. -/
theorem Ends.eq_idle (ends : Ends enter l n trace v k) (answer : .ok true = v.ofRun k.alive)
    (unstopped : ¬Stopped trace) :
    v = .idle := by
  cases v with
  | failed => cases answer
  | idle => rfl
  | finished =>
    have lives : true = k.alive := Except.ok.inj answer
    have ended := ends.shows.1 rfl
    rw [← lives] at ended
    exact absurd (ended.resolve_left (by simp)) unstopped

/-- Run or polled from a task, a loop goes through the same ticks: the same machines, with the same
handlers entered and the same events told. It comes to the same state, but for those to wake and
whether the task was woken. -/
structure DriversAgree (enter : Handlers (Memory.host S N C)) (l : Loop (Memory.host S N C)) :
    Prop where
  /-- A run fails just when the task hears of that error. -/
  fails : ∀ trace e k, (∃ l', Runs enter l trace (.error e) l' ∧ l'.hush = k) ↔
    ∃ l', Polled enter l trace (.error e) l' ∧ l'.hush = k
  /-- A run leaves nothing alive, or returns because it was stopped, just when the task
  is done with the loop. -/
  finishes : ∀ trace k,
    (∃ alive l', Runs enter l trace (.ok alive) l' ∧ (alive = false ∨ Stopped trace) ∧
      l'.hush = k) ↔
      ∃ l', Polled enter l trace (.ok true) l' ∧ l'.hush = k
  /-- A run leaves the loop alive without having been stopped just when the last poll leaves the
  task waiting and nobody has woken it. -/
  pauses : ∀ trace k, (∃ l', Runs enter l trace (.ok true) l' ∧ ¬Stopped trace ∧ l'.hush = k) ↔
    ∃ l', Polled enter l trace (.ok false) l' ∧ l'.woken = false ∧ l'.hush = k
  /-- A run that has not returned has gone through the machines that the polls go through. -/
  begins : ∀ trace, Begins enter (fun next => .call (.run .default) next) l trace ↔
    ∃ n, ∀ left, n ≤ left → Begins enter (Program.pollWhileWoken · left 0) l trace

end Machine

open Machine

/-- Whatever state a loop is in, and whatever work it is called from, handlers cannot make a
difference between a run of the loop and a task that polls it while it is woken. What they do
follows from the loop, the transport and what they remember; whom to wake and whether the task was
woken is known to the driver alone, unless they poll the loop themselves. -/
theorem drivers_agree (handlers : ∀ c o, (enter c o).Deaf false) (l : Loop (Memory.host S N C)) :
    DriversAgree enter l := by
  constructor
  case fails =>
    intro trace e k
    constructor
    · rintro ⟨l', runs, rfl⟩
      obtain ⟨n, v, ends, answer⟩ := runs.ends_of_run
      obtain rfl : v = .failed e := by cases v <;> cases answer; rfl
      obtain ⟨l'', same, -, returns⟩ := ends.poll handlers
      exact ⟨l'', ⟨n, returns⟩, same.symm⟩
    · rintro ⟨l', ⟨n, returns⟩, rfl⟩
      obtain ⟨polls, v, ends, -, answer⟩ := Returns.ends_of_poll returns
      obtain rfl : v = .failed e := by cases v <;> cases answer; rfl
      obtain ⟨l'', same, runs⟩ := ends.run handlers
      exact ⟨l'', runs, same.symm⟩
  case finishes =>
    intro trace k
    constructor
    · rintro ⟨alive, l', runs, ended, rfl⟩
      obtain ⟨n, v, ends, answer⟩ := runs.ends_of_run
      obtain rfl := ends.eq_finished answer ended
      obtain ⟨l'', same, -, returns⟩ := ends.poll handlers
      exact ⟨l'', ⟨n, returns⟩, same.symm⟩
    · rintro ⟨l', ⟨n, returns⟩, rfl⟩
      obtain ⟨polls, v, ends, -, answer⟩ := Returns.ends_of_poll returns
      obtain rfl : v = .finished := by cases v <;> cases answer; rfl
      obtain ⟨l'', same, runs⟩ := ends.run handlers
      exact ⟨l'.alive, l'', runs, ends.shows.1 rfl, same.symm⟩
  case pauses =>
    intro trace k
    constructor
    · rintro ⟨l', runs, unstopped, rfl⟩
      obtain ⟨n, v, ends, answer⟩ := runs.ends_of_run
      obtain rfl := ends.eq_idle answer unstopped
      obtain ⟨l'', same, asleep, returns⟩ := ends.poll handlers
      exact ⟨l'', ⟨n, returns⟩, asleep rfl, same.symm⟩
    · rintro ⟨l', ⟨n, returns⟩, asleep, rfl⟩
      obtain ⟨polls, v, ends, -, answer⟩ := Returns.ends_of_poll returns
      obtain rfl : v = .idle := by cases v <;> cases answer; rfl
      obtain ⟨alive, unstopped⟩ := ends.shows.2 rfl
      obtain ⟨l'', same, runs⟩ := ends.run handlers
      rw [alive] at runs
      exact ⟨l'', runs, unstopped, same.symm⟩
  case begins =>
    intro trace
    constructor
    · intro begins
      exact (begins.begun_of_run).poll handlers
    · rintro ⟨n, begins⟩
      exact (begins n (Nat.le_refl n)).begun_of_poll.run handlers

/-! ## An echo server, run or polled -/

/-- The executable machine goes through a tick. -/
theorem Machine.exists_round {k : Loop (Memory.host S N C)} {w : Waker}
    {result : Except LoopError Bool} {fuel : Nat}
    (outermost : ((beginTick [] k w).run Memory.transport enter fuel).stack = [])
    (returned : ((beginTick [] k w).run Memory.transport enter fuel).control = .ticked result) :
    ∃ trace, Round enter k w trace result
      ((beginTick [] k w).run Memory.transport enter fuel).loop := by
  obtain ⟨past, steps⟩ := exists_steps Memory.transport enter (beginTick [] k w) fuel
  generalize (beginTick [] k w).run Memory.transport enter fuel = m at *
  obtain ⟨l, stack, control⟩ := m
  subst outermost returned
  exact ⟨_, past, steps, rfl⟩

namespace Echo

/-- Registering a listener does not let a program listen for wake-ups. -/
theorem deaf_register {h : HandleId} {event : EventName} {c : Closure}
    {next : Program (Memory.host Unit Empty Closure)} (deaf : next.Deaf false) :
    (register id h event c next : Program (Memory.host Unit Empty Closure)).Deaf false :=
  Program.deaf_issue (fun a => by exact Program.deaf_orRefuse (fun _ => deaf) a) false

/-- The handlers of the server do not listen for wake-ups. -/
theorem deaf_handlers (c : Closure) (o : Occasion) :
    (handlers Memory Memory.Script c o : Program (Memory.host Unit Empty Closure)).Deaf false := by
  have skip : (Program.skip : Program (Memory.host Unit Empty Closure)).Deaf false := trivial
  have quietly (client : HandleId) :
      (closeQuietly id client : Program (Memory.host Unit Empty Closure)).Deaf false :=
    Program.deaf_issue (fun _ => skip) false
  unfold handlers enter
  split
  case h_1 =>
    refine Program.deaf_issue (fun _ => Program.deaf_issue (fun accepted => ?_) false) false
    refine Program.deaf_orRefuse (fun _ =>
      deaf_register (deaf_register (deaf_register ?_))) accepted
    exact Program.deaf_issue (fun started => by exact Program.deaf_orRefuse (fun _ => skip) started)
      false
  case h_2 | h_3 | h_4 =>
    exact Program.deaf_issue (fun answer => by exact Program.deaf_orRefuse (fun _ => skip) answer)
      false
  case h_5 | h_6 => exact quietly _
  case h_7 => exact skip

namespace Server

/-- A server with a connection on which a byte waits to be echoed. -/
def visited : Server :=
  (((empty .standard).perform 40 (openProgram (.v4 ⟨127, 0, 0, 1⟩ 80))).perform 80
    (scriptProgram (.pushConnection listener))).perform 3
      (.call (.script (.pushData 1 [120])) fun _ => .skip)

/-- The server after a tick of so many steps. -/
def tick (steps : Nat) (s : Server) : Server :=
  ((beginTick [] s .idle).run Memory.transport (handlers _ _) steps).loop

end Server

end Echo

/-- The byte is echoed in the first of three ticks; after the last the run returns, and
the task is left asleep. -/
theorem drivers_agree_for_server :
    ∃ trace k, ((k : Echo.Server).net.endpoint 1).written = [120] ∧
      (∃ l', Runs (Echo.handlers _ _) Echo.Server.visited trace (.ok true) l' ∧ ¬Stopped trace ∧
        l'.hush = k) ∧
      ∃ l', Polled (Echo.handlers _ _) Echo.Server.visited trace (.ok false) l' ∧ l'.woken = false ∧
        l'.hush = k := by
  have agree := drivers_agree Echo.deaf_handlers Echo.Server.visited
  have first :
      ∃ trace, Round (Echo.handlers _ _) Echo.Server.visited .idle trace (.ok true)
        (Echo.Server.visited.tick 17) :=
    exists_round (by rfl) (by rfl)
  have second :
      ∃ trace, Round (Echo.handlers _ _) (Echo.Server.visited.tick 17) .idle trace (.ok true)
      ((Echo.Server.visited.tick 17).tick 11) := exists_round (by rfl) (by rfl)
  have third :
      ∃ trace, Round (Echo.handlers _ _)
      ((Echo.Server.visited.tick 17).tick 11) .idle trace (.ok false)
        (((Echo.Server.visited.tick 17).tick 11).tick 7) := exists_round (by rfl) (by rfl)
  obtain ⟨_, first⟩ := first
  obtain ⟨_, second⟩ := second
  obtain ⟨_, third⟩ := third
  have ends :=
    Ends.last (.more (.more (.outset rfl) first (by rfl) (by rfl)) second (by rfl) (by rfl)) third
      (v := .idle) (by rfl)
  obtain ⟨alive, unstopped⟩ := ends.shows.2 rfl
  obtain ⟨l', same, runs⟩ := ends.run Echo.deaf_handlers
  rw [alive] at runs
  exact ⟨_, _, by rfl, ⟨l', runs, unstopped, same.symm⟩,
    (agree.pauses _ _).1 ⟨l', runs, unstopped, same.symm⟩⟩

end Reactor
