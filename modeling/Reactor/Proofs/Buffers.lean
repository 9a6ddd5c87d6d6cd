import Reactor.Proofs.Buffers.Dispatches
import Reactor.Echo.Server

/-!
# The guard of read buffers

While listeners hear of bytes in a read buffer nobody can change them: not the transport, not a tick
inside a listener, and not a write, even when the handle of the buffer has been closed and reclaimed
meanwhile. When the listeners have returned, the buffer can be written again.
-/

namespace Reactor

variable {H : Host} {T : Transport H.Net H.Script} {enter : Handlers H}

namespace Loop

/-- A write into the buffer of a handle went through: as many bytes as fit were replaced from the
offset on, and nothing else in any buffer. -/
structure Written (l : Loop H) (h : HandleId) (offset : Nat) (data : List UInt8) (b : ReadBuffer)
    (result : Except LoopError (Option Nat) × Loop H) : Prop where
  answer : result.1 = .ok (some (min data.length (b.size - offset)))
  bytes : ∃ b', result.2.buffer? h = some b' ∧ b'.size = b.size ∧ b'.exposed = false ∧
    b'.bytes = b.bytes.take offset ++ data.take (min data.length (b.size - offset)) ++
      b.bytes.drop (offset + min data.length (b.size - offset))
  elsewhere : ∀ k, k ≠ h → result.2.buffer? k = l.buffer? k

variable {l : Loop H} {h : HandleId} {b : ReadBuffer} {x : Handle H.Closure} (offset : Nat)
  (data : List UInt8)

/-- What is put into a buffer that is not exposed. -/
theorem written_of_free {l' : Loop H} {answer : Except LoopError (Option Nat)}
    (free : b.exposed = false) (answered : answer = .ok (some (b.room offset data)))
    (buffers : ∀ k, l'.buffer? k = if h = k then some (b.overwrite offset data) else l.buffer? k) :
    l.Written h offset data b (answer, l') where
  answer := answered
  bytes := by
    refine ⟨b.overwrite offset data, (buffers h).trans (if_pos rfl),
      b.size_overwrite offset data, ?_, b.bytes_overwrite offset data⟩
    rw [b.exposed_overwrite, free]
  elsewhere k other := (buffers k).trans (if_neg (Ne.symm other))

/-- Through a buffer that was had before a write goes in, if the buffer is not lent out. -/
theorem keptWrite_of_free (there : l.buffer? h = some b) (free : b.exposed = false) :
    l.Written h offset data b (l.keptWrite h offset data) := by
  simp only [keptWrite, there, ReadBuffer.write?, free, Bool.false_eq_true, if_false]
  refine written_of_free offset data free rfl fun k => (buffer?_modifyBuffer l h _ k).trans ?_
  split
  case isTrue same => rw [← same, there]; rfl
  case isFalse => rfl

/-- Through its handle a write goes into a buffer that is not lent out. -/
theorem bufferWrite_of_free (found : l.handles.get? h = some x) (there : x.buffer = some b)
    (free : b.exposed = false) :
    l.Written h offset data b (l.bufferWrite h offset data) := by
  simp only [bufferWrite, handle?, found, there, ReadBuffer.write?, free,
    Bool.false_eq_true, if_false]
  exact written_of_free offset data free rfl (buffer?_setBuffer found rfl)

/-- Through a buffer that was had before nothing is written while the buffer is lent out. -/
theorem keptWrite_of_exposed (there : l.buffer? h = some b) (exposed : b.exposed = true) :
    l.keptWrite h offset data = (.error .bufferExposed, l) := by
  simp only [keptWrite, there, ReadBuffer.write?, exposed, if_true]

/-- Through its handle nothing is written into a buffer that is lent out. -/
theorem bufferWrite_of_exposed (found : l.handles.get? h = some x) (there : x.buffer = some b)
    (exposed : b.exposed = true) : l.bufferWrite h offset data = (.error .bufferExposed, l) := by
  simp only [bufferWrite, handle?, found, there, ReadBuffer.write?, exposed, if_true]

end Loop

namespace Machine

variable {m : Machine H} {past : List (Machine H)}

/-- What guards the read buffers at a machine of a run. -/
structure GuardsBuffers (T : Transport H.Net H.Script) (enter : Handlers H)
    (past : List (Machine H)) (m : Machine H) :
    Prop where
  /-- A buffer is exposed while a dispatch of its bytes is on the stack, and only then. -/
  exposed : ∀ h b, m.loop.buffer? h = some b → (b.exposed = true ↔ m.Lent h)
  /-- No second dispatch of a buffer is on the stack. -/
  once : (m.loans.map (·.1)).Nodup
  /-- A loan is on the stack for no longer than its bytes are told of. -/
  telling : ∀ above h view base, m.stack = above ++ .lending h view :: base →
    (above = [] ∧ (m.control = .emit h (.data view) ∨ ∃ failure, m.control = .returned failure)) ∨
      ∃ above' rest, above = above' ++ [.emission h (.data view) rest]
  /-- What is told of in a dispatch lies at the start of the buffer, whether the
  handle is there or not. -/
  view : ∀ h view, .lending h view ∈ m.stack →
    ∃ b, m.loop.buffer? h = some b ∧ b.view view.length = view
  /-- Each listener hears of the bytes that the innermost dispatch has lent out. -/
  heard : ∀ c h view, m.control = .enter c (.event h (.data view)) →
    ∃ rest base, m.stack = .emission h (.data view) rest :: .lending h view :: base
  /-- Since any machine from which on the dispatch was on the stack, the buffer has not changed. -/
  bytes : ∀ before x between h, past = before ++ x :: between →
    (∀ i ∈ x :: between ++ [m], i.Lent h) → m.loop.buffer? h = x.loop.buffer? h
  /-- During a dispatch every write into the buffer is refused, through the handle while it
  is there or without it. -/
  refuses : ∀ h offset data, m.Lent h →
    m.loop.keptWrite h offset data = (.error .bufferExposed, m.loop) ∧
    m.loop.bufferWrite h offset data =
      (.error (if (m.loop.handles.get? h).isSome then .bufferExposed else .badHandle h), m.loop)
  /-- A tick in a dispatch that comes to the handle while it reads breaks off its reads without a
  call of the transport. It can return nothing but that error, or the one that it had failed with
  before; and it does return if no handler is left to be entered. -/
  nested : ∀ t base passes h rest productive x, m.control = .advance → m.stack = .tick t :: base →
    t.stage = .reads passes (h :: rest) productive → m.loop.handles.get? h = some x →
    x.isReading = true → m.Lent h →
    m.step? T enter = some (ofTick base (t.record .bufferExposed).abandonReads m.loop) ∧
    (∀ during m', Run T enter m during m' → (∀ z ∈ during, base.length < z.stack.length) →
      m'.stack = base → m'.control = .ticked (.error (t.error.getD .bufferExposed))) ∧
    (m.loop.closing = [] →
      m.run T enter 3 =
        { loop := m.loop, stack := base
          control := .ticked (.error (t.error.getD .bufferExposed)) })
  /-- Whatever the listeners returned, the buffer is given back with its bytes at the end of the
  dispatch. -/
  ends : ∀ failure h view base, m.control = .returned failure → m.stack = .lending h view :: base →
    ∃ y b, m.step? T enter = some y ∧ y.stack = base ∧ y.control = .returned failure ∧ ¬y.Lent h ∧
      m.loop.buffer? h = some b ∧ y.loop.buffer? h = some { b with exposed := false }
  /-- Outside of its dispatches a buffer can be written. -/
  writable : ∀ h b offset data, m.loop.buffer? h = some b → ¬m.Lent h →
    m.loop.Written h offset data b (m.loop.keptWrite h offset data) ∧
    ((m.loop.handles.get? h).isSome →
      m.loop.Written h offset data b (m.loop.bufferWrite h offset data))

variable {h : HandleId} {x : Handle H.Closure} {t : Tick} {base : List (Frame H)} {passes : Nat}
  {rest : List HandleId} {productive : Bool}

/-- The buffer of a handle that is lent out is there, and exposed. -/
theorem Reached.exposed (reached : Reached T enter past m) (lent : m.Lent h) :
    ∃ b, m.loop.buffer? h = some b ∧ b.exposed = true :=
  reached.guarded.exists_of_mem (lent_iff.1 lent)

/-- A read of a handle whose buffer is lent out breaks off the reads of the tick. -/
theorem Reached.step?_of_lent (reached : Reached T enter past m) (control : m.control = .advance)
    (stack : m.stack = .tick t :: base) (here : t.stage = .reads passes (h :: rest) productive)
    (found : m.loop.handles.get? h = some x) (reading : x.isReading = true) (lent : m.Lent h) :
    m.step? T enter = some (ofTick base (t.record .bufferExposed).abandonReads m.loop) := by
  obtain ⟨b, there, exposed⟩ := reached.exposed lent
  rw [Loop.buffer?_of_found found] at there
  have sound : m.loop.breach.isSome = false := by rw [(Balanced.of_reached reached).sound]; rfl
  simp only [step?, sound, control, stack, advance, here, readOne, found, reading, there,
    Option.getD_some, exposed, Bool.false_eq_true, if_false, Bool.not_true, if_true]

/-- Such a tick returns when no handle is due to be reclaimed. -/
theorem Reached.run_of_lent (reached : Reached T enter past m) (control : m.control = .advance)
    (stack : m.stack = .tick t :: base) (here : t.stage = .reads passes (h :: rest) productive)
    (found : m.loop.handles.get? h = some x) (reading : x.isReading = true) (lent : m.Lent h)
    (none_due : m.loop.closing = []) :
    m.run T enter 3 =
      { loop := m.loop, stack := base
        control := .ticked (.error (t.error.getD .bufferExposed)) } := by
  have first := reached.step?_of_lent control stack here found reading lent
  have sound : m.loop.breach.isSome = false := by rw [(Balanced.of_reached reached).sound]; rfl
  have same : ({ m.loop with closing := [] } : Loop H) = m.loop := by rw [← none_due]
  rw [run_succ first]
  simp [run, step?, sound, ofTick, advance, Tick.abandonReads, Tick.record, Loop.beginReclaims,
    none_due, same, Tick.result]

end Machine

open Machine

/-- Along every run, on any transport and with any handlers, the guard of the
read buffers is exact. -/
theorem buffers_are_guarded {past : List (Machine H)} {m : Machine H}
    (reached : Reached T enter past m) :
    GuardsBuffers T enter past m := by
  have guarded := reached.guarded
  constructor
  case exposed => intro h b there; rw [lent_iff]; exact guarded.exposed h b there
  case once => exact guarded.once
  case telling => intro above h view base stack; exact reached.telling stack
  case view => intro h view lent; exact guarded.views h view (mem_loans_iff.2 lent)
  case heard => intro c h view control; exact reached.lending control
  case bytes =>
    rintro before x between h rfl lent
    exact reached.cut.1.lent reached.cut.2 lent
  case refuses =>
    intro h offset data lent
    obtain ⟨b, there, exposed⟩ := reached.exposed lent
    refine ⟨Loop.keptWrite_of_exposed offset data there exposed, ?_⟩
    cases found : m.loop.handles.get? h with
    | none => simp [Loop.bufferWrite, Loop.handle?, found]
    | some x =>
      rw [Loop.buffer?_of_found found] at there
      exact Loop.bufferWrite_of_exposed offset data found there exposed
  case nested =>
    intro t base passes h rest productive x control stack here found reading lent
    have first := reached.step?_of_lent control stack here found reading lent
    refine ⟨first, fun during m' run busy back => ?_,
      reached.run_of_lent control stack here found reading lent⟩
    cases during with
    | nil =>
      obtain rfl := run.eq_of_nil
      simp [stack] at back
    | cons z during =>
      obtain ⟨rfl, y, next, later⟩ := run.uncons
      obtain rfl : y = _ := by
        cases next with
        | step taken => exact Option.some.inj (taken.symm.trans first)
        | resume p rest => simp [(atRest_iff.1 rest).2] at stack
      have failed : ((t.record .bufferExposed).abandonReads).error =
          some (t.error.getD .bufferExposed) := rfl
      exact (later.fails (.ticking [] _ rfl failed) fun z hz =>
        busy z (List.mem_cons_of_mem _ hz)).ticked back
  case ends =>
    intro failure h view base control stack
    have sound : m.loop.breach.isSome = false := by rw [(Balanced.of_reached reached).sound]; rfl
    have lent : m.Lent h := ⟨view, by rw [stack]; exact List.mem_cons_self⟩
    obtain ⟨b, there, -⟩ := reached.exposed lent
    have loans : m.loans = (h, view) :: base.filterMap Frame.loan? := by rw [loans, stack]; rfl
    have taken : m.step? T enter =
        some { loop := expose m.loop h false, stack := base, control := .returned failure } := by
      simp only [step?, sound, control, stack, return?, Bool.false_eq_true, if_false]
    refine ⟨_, b, taken, rfl, rfl, fun again => ?_, there, ?_⟩
    · exact guarded.ne_of_cons loans (lent_iff.1 again) rfl
    · rw [show (expose m.loop h false).buffer? h = _ from Loop.buffer?_modifyBuffer _ _ _ _,
        if_pos rfl, there]
      rfl
  case writable =>
    intro h b offset data there free
    have free : b.exposed = false := Bool.eq_false_iff.2 fun exposed =>
      free (lent_iff.2 ((guarded.exposed h b there).1 exposed))
    refine ⟨Loop.keptWrite_of_free offset data there free, fun found => ?_⟩
    obtain ⟨x, found⟩ := Option.isSome_iff_exists.1 found
    rw [Loop.buffer?_of_found found] at there
    exact Loop.bufferWrite_of_free offset data found there free

namespace Client

open Memory (Script)

/-- When it hears of bytes, the client closes its handle, has it reclaimed by a tick, and writes
into the buffer in which the bytes lie. -/
def leavesEarly : Handlers (Echo.host Memory Script)
  | .onData, .event h (.data _) =>
    .call (.issue (.close h Echo.Closure.afterClose)) fun _ =>
    .call (.tick .idle) fun _ =>
    .call (.issue (.keptWrite h 0 [9])) fun _ => .skip
  | _, _ => .skip

/-- A client that hears of two bytes, and writes into their buffer after that as well. -/
def listening : Program (Echo.host Memory Script) :=
  .call (.issue (.newHandle .tcp)) fun (h : HandleId) =>
  .call (.issue (.connect h (.v4 ⟨127, 0, 0, 1⟩ 80))) fun _ =>
  .call (.tick .idle) fun _ =>
  .call (.issue (.on h .data Echo.Closure.onData)) fun _ =>
  .call (.issue (.readStart h)) fun _ =>
  .call (.script (Script.pushData h [1, 2])) fun _ =>
  .call (.tick .idle) fun _ =>
  .call (.issue (.keptWrite h 0 [9])) fun _ => .skip

/-- The client after so many steps: after 40 it writes while it hears of the bytes, after 49 when
the tick has returned. -/
def listened (steps : Nat) : Machine (Echo.host Memory Script) :=
  (Machine.start listening (.fresh .standard Memory.initial ())).run Memory.transport
    leavesEarly steps

/-- The client whose listener leaves early is a reached machine at each of its steps. -/
theorem reached_listened (steps : Nat) :
    ∃ past, Reached Memory.transport leavesEarly past (listened steps) := by
  obtain ⟨past, run, -⟩ := Run.exists_of_run Memory.transport leavesEarly
    (Machine.start listening (.fresh .standard Memory.initial ())) steps
  exact ⟨past, .standard, Memory.initial, (), listening, run⟩

end Client

/-- While a client hears of its bytes the write is refused, though the handle is gone; later the
write goes through. -/
theorem buffers_are_guarded_for_client :
    ((Client.listened 40).loop.handles.get? 0 = none ∧
      (Client.listened 40).loop.keptWrite 0 0 [9] =
        (.error .bufferExposed, (Client.listened 40).loop)) ∧
      ∃ b, (Client.listened 49).loop.buffer? 0 = some b ∧ b.front = [1, 2] ∧
        (Client.listened 49).loop.Written 0 0 [9] b
          ((Client.listened 49).loop.keptWrite 0 0 [9]) := by
  constructor
  · obtain ⟨past, reached⟩ := Client.reached_listened 40
    have lent : (Client.listened 40).loans = [(0, [1, 2])] := by rfl
    have dispatch : (Client.listened 40).Lent 0 := lent_iff.2 (by simp [lent])
    exact ⟨by rfl, ((buffers_are_guarded reached).refuses 0 0 [9] dispatch).1⟩
  · obtain ⟨past, reached⟩ := Client.reached_listened 49
    have lent : (Client.listened 49).loans = [] := by rfl
    have there : ((Client.listened 49).loop.buffer? 0).map (·.front) = some [1, 2] := by rfl
    obtain ⟨b, there, front⟩ := Option.map_eq_some_iff.1 there
    have free : ¬(Client.listened 49).Lent 0 := fun dispatch => by
      simpa [lent] using lent_iff.1 dispatch
    exact ⟨b, there, front, ((buffers_are_guarded reached).writable 0 b 0 [9] there free).1⟩

end Reactor
