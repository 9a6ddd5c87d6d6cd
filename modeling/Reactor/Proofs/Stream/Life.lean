import Mathlib.Logic.Relation
import Reactor.Event

/-!
# The life of a stream

A stream as a small transition system of its own: it is created, it is alive in one stance after
another, and it is gone. A step is seen from outside by a call that succeeds and by an event that is
told. Every stance that a stream comes to is sound: its state agrees with its mark, its read
session, its listening and its pending requests.
-/

namespace Reactor

/-- What a handle shows of its stream: its state, its read session, its listening, its mark, and how
many requests of each kind are pending on it. -/
structure Stance where
  state : StreamState := .idle
  reading : Bool := false
  listening : Bool := false
  marked : Bool := false
  writes : Nat := 0
  shutdowns : Nat := 0
  connects : Nat := 0

/-- Where a stream is in its life. -/
inductive Life where
  | unborn
  | alive (s : Stance)
  | gone

/-- A call that succeeded, of those on which it depends what may be told of a stream. -/
inductive Deed where
  | listen
  | connect
  | readStart
  | readStop
  | close
  deriving DecidableEq, Repr

/-- The ways in which the state of a stream goes on. -/
inductive StreamState.Goes : StreamState → StreamState → Prop where
  | listen : Goes .idle .listening
  | beginConnect : Goes .idle .connecting
  | attach : Goes .idle .connected
  | connect : Goes .connecting .connected
  | failConnect : Goes .connecting .idle
  | beginShutdown : Goes .connected .shuttingDown
  | shutdown : Goes .shuttingDown .shutDown
  | failShutdown : Goes .shuttingDown .connected
  | close {s : StreamState} (unclosed : s ≠ .closing) : Goes s .closing

/-- A step in the life of a stream, with the call that succeeds and the event that is told in it. -/
inductive Life.Step : Life → Option Deed → Option Event → Life → Prop where
  | still {p} : Step p none none p
  | create : Step .unborn none none (.alive {})
  /-- A stream that is connected already is taken over or accepted. -/
  | attach {s} (idle : s.state = .idle) :
      Step (.alive s) none none (.alive { s with state := .connected })
  | listen {s} (idle : s.state = .idle) :
    Step (.alive s) (some .listen) (some .listening)
      (.alive { s with state := .listening, listening := true })
  | beginConnect {s} (idle : s.state = .idle) :
    Step (.alive s) (some .connect) none
      (.alive { s with state := .connecting, connects := s.connects + 1 })
  | readStart {s} (readable : s.state.canRead = true) (unmarked : s.marked = false) :
    Step (.alive s) (some .readStart) none (.alive { s with reading := true })
  | readStop {s} : Step (.alive s) (some .readStop) none (.alive { s with reading := false })
  | write {s} (connected : s.state = .connected) :
    Step (.alive s) none none (.alive { s with writes := s.writes + 1 })
  | beginShutdown {s} (connected : s.state = .connected) :
    Step (.alive s) none none
      (.alive { s with state := .shuttingDown, shutdowns := s.shutdowns + 1 })
  | close {s} (unmarked : s.marked = false) :
    Step (.alive s) (some .close) none
      (.alive { s with state := .closing, reading := false, listening := false, marked := true })
  | connection {s e} (listening : s.state = .listening)
    (server : e = .connection ∨ ∃ status, e = .error ⟨status, "on_connection"⟩) :
    Step (.alive s) none (some e) (.alive s)
  | finishWrite {s} : Step (.alive s) none none (.alive { s with writes := s.writes - 1 })
  | finishShutdown {s state} (shutting : s.state = .shuttingDown)
      (outcome : state = .shutDown ∨ state = .connected) :
    Step (.alive s) none none (.alive { s with state, shutdowns := s.shutdowns - 1 })
  | dropShutdown {s} (pending : 0 < s.shutdowns) (past : s.state ≠ .shuttingDown) :
    Step (.alive s) none none (.alive { s with shutdowns := s.shutdowns - 1 })
  | connect {s} (connecting : s.state = .connecting) :
    Step (.alive s) none (some .connect)
      (.alive { s with state := .connected, connects := s.connects - 1 })
  | failConnect {s status} (connecting : s.state = .connecting) :
    Step (.alive s) none (some (.error ⟨status, "after_connect"⟩))
      (.alive { s with state := .idle, connects := s.connects - 1 })
  | dropConnect {s} (pending : 0 < s.connects) (past : s.state ≠ .connecting) :
    Step (.alive s) none none (.alive { s with connects := s.connects - 1 })
  | data {s view} (reading : s.reading = true) : Step (.alive s) none (some (.data view)) (.alive s)
  | endOfStream {s} (reading : s.reading = true) :
    Step (.alive s) none (some .endOfStream) (.alive { s with reading := false })
  | failRead {s status} (reading : s.reading = true) :
    Step (.alive s) none (some (.error ⟨status, "on_read"⟩)) (.alive { s with reading := false })
  | reclaim {s} (marked : s.marked = true) : Step (.alive s) none (some .close) .gone

/-- Nothing is under way on a stream: it neither listens nor connects nor reads, no request of it is
pending, and it was not closed. -/
structure Stance.Dormant (s : Stance) : Prop where
  state : s.state = .idle ∨ s.state = .connected
  reading : s.reading = false
  marked : s.marked = false
  writes : s.writes = 0
  shutdowns : s.shutdowns = 0
  connects : s.connects = 0

/-- The state of a stream agrees with what stands behind it. -/
structure Stance.Sound (s : Stance) : Prop where
  closing : s.state = .closing ↔ s.marked = true
  rests : s.marked = true → s.reading = false ∧ s.listening = false
  listens : s.marked = false → (s.state = .listening ↔ s.listening = true)
  connects : s.marked = false → s.connects = if s.state = .connecting then 1 else 0
  shutdowns : s.marked = false → s.shutdowns = if s.state = .shuttingDown then 1 else 0
  carries : s.marked = false → s.reading = true ∨ 0 < s.writes → s.state.canRead = true

/-- A stream on which nothing is under way is idle or connected. -/
theorem Stance.Dormant.not_state {s : Stance} (dormant : s.Dormant) {state : StreamState}
    (idle : state ≠ .idle) (connected : state ≠ .connected) : s.state ≠ state := by
  rintro rfl
  exact dormant.state.elim idle connected

namespace Stance.Sound

variable {s : Stance}

/-- A stream whose state is another than closing is not marked. -/
theorem unmarked (sound : s.Sound) (unclosed : s.state ≠ .closing) : s.marked = false :=
  Bool.eq_false_iff.2 fun marked => unclosed (sound.closing.2 marked)

/-- A stream that cannot carry bytes neither reads nor writes. -/
theorem silent (sound : s.Sound) (unmarked : s.marked = false) (mute : s.state.canRead = false) :
    s.reading = false ∧ s.writes = 0 := by
  have none : ¬(s.reading = true ∨ 0 < s.writes) := fun carries => by
    rw [sound.carries unmarked carries] at mute
    cases mute
  rw [not_or, Nat.not_lt, Nat.le_zero] at none
  exact ⟨Bool.eq_false_iff.2 none.1, none.2⟩

/-- A stream that reads is not closing. -/
theorem unclosed_of_reading (sound : s.Sound) (reading : s.reading = true) :
    s.state ≠ .closing := by
  intro closing
  rw [(sound.rests (sound.closing.1 closing)).1] at reading
  cases reading

end Stance.Sound

namespace Life

/-- A stream that is alive is in a sound stance. -/
def Sound : Life → Prop
  | alive s => s.Sound
  | _ => True

variable {p q : Life} {d : Option Deed} {e : Option Event}

/-- Every step leads from a sound stance to a sound one. -/
theorem Step.sound (step : Step p d e q) (sound : p.Sound) : q.Sound := by
  cases step with
  | still => exact sound
  | create => constructor <;> simp
  | attach idle | listen idle | beginConnect idle =>
    have unmarked := Stance.Sound.unmarked sound (by simp [idle])
    have silent := Stance.Sound.silent sound unmarked (by simp [idle, StreamState.canRead])
    have connects := Stance.Sound.connects sound unmarked
    have shutdowns := Stance.Sound.shutdowns sound unmarked
    have listens := Stance.Sound.listens sound unmarked
    constructor <;> simp_all [StreamState.canRead]
  | readStart readable unmarked =>
    have state := Stance.Sound.closing sound
    exact { sound with
      rests := fun marked => by simp [unmarked] at marked
      carries := fun _ _ => readable }
  | readStop =>
    have carries := Stance.Sound.carries sound
    exact { sound with
      rests := fun marked => ⟨rfl, (Stance.Sound.rests sound marked).2⟩
      carries := fun unmarked writes => carries unmarked (.inr (by simpa using writes)) }
  | write connected =>
    exact { sound with carries := fun _ _ => by simp [connected, StreamState.canRead] }
  | beginShutdown connected =>
    have unmarked := Stance.Sound.unmarked sound (by simp [connected])
    have connects := Stance.Sound.connects sound unmarked
    have shutdowns := Stance.Sound.shutdowns sound unmarked
    have listens := Stance.Sound.listens sound unmarked
    constructor <;> simp_all [StreamState.canRead]
  | close unmarked => constructor <;> simp
  | connection => exact sound
  | finishWrite =>
    have carries := Stance.Sound.carries sound
    exact { sound with
      carries := fun unmarked carried => carries unmarked (carried.imp_right fun left => by
        simp only at left
        omega) }
  | finishShutdown shutting outcome =>
    have unmarked := Stance.Sound.unmarked sound (by simp [shutting])
    have connects := Stance.Sound.connects sound unmarked
    have shutdowns := Stance.Sound.shutdowns sound unmarked
    have listens := Stance.Sound.listens sound unmarked
    rcases outcome with rfl | rfl <;> constructor <;> simp_all [StreamState.canRead]
  | dropShutdown pending past =>
    have marked : _ = true := Bool.of_not_eq_false fun unmarked => by
      have shutdowns := Stance.Sound.shutdowns sound unmarked
      rw [if_neg past] at shutdowns
      omega
    exact { sound with shutdowns := fun unmarked => by simp [marked] at unmarked }
  | connect connecting | failConnect connecting =>
    have unmarked := Stance.Sound.unmarked sound (by simp [connecting])
    have silent := Stance.Sound.silent sound unmarked (by simp [connecting, StreamState.canRead])
    have connects := Stance.Sound.connects sound unmarked
    have shutdowns := Stance.Sound.shutdowns sound unmarked
    have listens := Stance.Sound.listens sound unmarked
    constructor <;> simp_all [StreamState.canRead]
  | dropConnect pending past =>
    have marked : _ = true := Bool.of_not_eq_false fun unmarked => by
      have connects := Stance.Sound.connects sound unmarked
      rw [if_neg past] at connects
      omega
    exact { sound with connects := fun unmarked => by simp [marked] at unmarked }
  | data => exact sound
  | endOfStream | failRead =>
    have carries := Stance.Sound.carries sound
    exact { sound with
      rests := fun marked => ⟨rfl, (Stance.Sound.rests sound marked).2⟩
      carries := fun unmarked writes => carries unmarked (.inr (by simpa using writes)) }
  | reclaim => trivial

/-- Without a call nothing is told of a stream unless something is under way on it. -/
theorem Step.untold (step : Step p none e q) (dormant : ∀ s, p = .alive s → s.Dormant) :
    e = none := by
  cases step with
  | still | create | attach | write | beginShutdown | finishWrite | finishShutdown | dropShutdown
    | dropConnect => rfl
  | connection state | connect state | failConnect state =>
    cases (dormant _ rfl).not_state (by simp) (by simp) state
  | data reading | endOfStream reading | failRead reading =>
    cases reading.symm.trans (dormant _ rfl).reading
  | reclaim marked => cases marked.symm.trans (dormant _ rfl).marked

/-- Nothing comes before the creation of a stream. -/
theorem Step.unborn (step : Step p d e .unborn) : p = .unborn := by
  cases step
  rfl

/-- The state of a stream that stays alive stays the same or goes on in one of the ways. -/
theorem Step.goes {s s' : Stance} (step : Step (.alive s) d e (.alive s')) (sound : s.Sound) :
    s'.state = s.state ∨ s.state.Goes s'.state := by
  cases step with
  | still | readStart | readStop | write | connection | finishWrite | dropShutdown | dropConnect
    | data | endOfStream | failRead => exact .inl rfl
  | attach idle => exact .inr (idle ▸ .attach)
  | listen idle => exact .inr (idle ▸ .listen)
  | beginConnect idle => exact .inr (idle ▸ .beginConnect)
  | beginShutdown connected => exact .inr (connected ▸ .beginShutdown)
  | close unmarked =>
    refine .inr (.close fun closing => ?_)
    rw [sound.closing.1 closing] at unmarked
    cases unmarked
  | finishShutdown shutting outcome =>
    rcases outcome with rfl | rfl
    · exact .inr (shutting ▸ .shutdown)
    · exact .inr (shutting ▸ .failShutdown)
  | connect connecting => exact .inr (connecting ▸ .connect)
  | failConnect connecting => exact .inr (connecting ▸ .failConnect)

/-- A stream that was not alive before is idle. -/
theorem Step.starts {s : Stance} (step : Step p d e (.alive s)) (new : ∀ s, p ≠ .alive s) :
    s.state = .idle := by
  cases step with
  | create => rfl
  | still | attach | listen | beginConnect | readStart | readStop | write | beginShutdown | close
    | connection | finishWrite | finishShutdown | dropShutdown | connect | failConnect | dropConnect
    | data | endOfStream | failRead =>
    exact (new _ rfl).elim

/-- A stream that is there has come to its state from this one. -/
def GoesOnFrom (first : StreamState) : Life → Prop
  | unborn => False
  | alive s => Relation.ReflTransGen StreamState.Goes first s.state
  | gone => True

/-- With every step a stream goes on. -/
theorem Step.goesOnFrom {first : StreamState} (step : Step p d e q) (sound : p.Sound)
    (since : p.GoesOnFrom first) :
    q.GoesOnFrom first := by
  cases p with
  | unborn => exact since.elim
  | gone => cases step; trivial
  | alive s =>
    cases q with
    | unborn => cases step
    | gone => trivial
    | alive s' =>
      obtain same | goes := step.goes sound
      · rw [GoesOnFrom, same]
        exact since
      · exact since.tail goes

end Life

end Reactor
