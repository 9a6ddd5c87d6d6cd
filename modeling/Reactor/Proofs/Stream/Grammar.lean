import Reactor.Proofs.Stream.Life

/-!
# The grammar of events

The story of a stream is what has been done with it and told of it, in order. Since every step of a
life is one of a few, the story tells where the stream stands: whether a read session is open, a
connect is awaited, or the stream serves. Hence what may be told next is decided by the story alone.
-/

namespace Reactor

/-- A sign of a stream's life: a call on it that succeeded, or the start of
telling an event of it. -/
inductive Sign where
  | did (d : Deed)
  | told (e : Event)
  deriving DecidableEq, Repr

/-- Whether an event reports on a read session. -/
@[simp] def Event.isOfReading : Event → Bool
  | .data _ | .endOfStream => true
  | .error f => f.place = "on_read"
  | _ => false

/-- Whether an event reports on a server that listens. -/
@[simp] def Event.isOfServing : Event → Bool
  | .connection => true
  | .error f => f.place = "on_connection"
  | _ => false

/-- Whether an event reports the outcome of a connect. -/
@[simp] def Event.isOfConnecting : Event → Bool
  | .connect => true
  | .error f => f.place = "after_connect"
  | _ => false

namespace Sign

/-- A read session ends by a call that stops it, by a close, by the end of the
stream, or by an error. -/
@[simp] def endsReading : Sign → Bool
  | did .readStop | did .close | told .endOfStream => true
  | told (.error f) => f.place = "on_read"
  | _ => false

/-- A connect is over when its outcome was told, or by a close. -/
@[simp] def endsConnecting : Sign → Bool
  | did .close => true
  | told e => e.isOfConnecting
  | _ => false

end Sign

/-- In a story, one sign has come and none of those that end what it began have come after it. -/
def Since (begins : Sign) (ends : Sign → Bool) (story : List Sign) : Prop :=
  ∃ first last, story = first ++ begins :: last ∧ ∀ s ∈ last, ends s = false

namespace Since

variable {begins : Sign} {ends : Sign → Bool} {story : List Sign}

/-- In an empty story nothing has begun. -/
@[simp] theorem not_nil : ¬Since begins ends [] := by
  rintro ⟨first, last, split, -⟩
  simp at split

/-- The last sign begins, or it does not end what was begun before. -/
@[simp] theorem concat_iff (s : Sign) :
    Since begins ends (story ++ [s]) ↔ s = begins ∨ Since begins ends story ∧ ends s = false := by
  constructor
  · rintro ⟨first, last, split, open_⟩
    rcases List.eq_nil_or_concat last with rfl | ⟨last, z, rfl⟩
    · obtain ⟨-, hs⟩ := List.append_inj' split rfl
      exact .inl (by simpa using hs)
    · have split : story ++ [s] = (first ++ begins :: last) ++ [z] := by simpa using split
      obtain ⟨rfl, hs⟩ := List.append_inj' split rfl
      obtain rfl : s = z := by simpa using hs
      exact .inr ⟨⟨first, last, rfl, fun s hs => open_ s (by simp [hs])⟩, open_ s (by simp)⟩
  · rintro (rfl | ⟨⟨first, last, rfl, open_⟩, on⟩)
    · exact ⟨story, [], rfl, by simp⟩
    · refine ⟨first, last ++ [s], by simp, fun z hz => ?_⟩
      rcases List.mem_append.1 hz with hz | hz
      · exact open_ z hz
      · rwa [List.mem_singleton.1 hz]

/-- After a sign that ends what was begun, it must have begun anew. -/
theorem begins_mem {before after : List Sign} {s : Sign}
    (since : Since begins ends (before ++ s :: after)) (closes : ends s = true)
    (other : s ≠ begins) : begins ∈ after := by
  obtain ⟨first, last, split, open_⟩ := since
  obtain ⟨middle, rfl, rest⟩ | ⟨middle, rfl, rest⟩ := List.append_eq_append_iff.1 split
  · cases middle with
    | nil => exact (other (List.cons.inj rest).1).elim
    | cons z middle =>
      obtain ⟨rfl, rfl⟩ := List.cons.inj rest
      simp
  · cases middle with
    | nil => exact (other (List.cons.inj rest).1.symm).elim
    | cons z middle =>
      obtain ⟨rfl, rfl⟩ := List.cons.inj rest
      have ended := open_ s (by simp)
      rw [closes] at ended
      cases ended

end Since

/-- In a story, a read session is open. -/
abbrev InSession : List Sign → Prop := Since (.did .readStart) Sign.endsReading

/-- In a story, the outcome of a connect is awaited. -/
abbrev Awaits : List Sign → Prop := Since (.did .connect) Sign.endsConnecting

/-- In a story, the stream listens. -/
abbrev Listens : List Sign → Prop := Since (.did .listen) fun s => s = .did .close

/-- What may be told of a stream after its story so far. -/
structure MayTell (story : List Sign) (e : Event) : Prop where
  /-- Nothing comes after the end. -/
  last : .told .close ∉ story
  /-- Once the stream was closed, nothing but its end comes. -/
  closed : .did .close ∈ story → e = .close
  /-- Bytes, the end of the stream, and an error in reading come in a read session. -/
  reading : e.isOfReading = true → InSession story
  /-- That the stream listens is told once, right after the call that made it listen. -/
  listening : e = .listening → .told .listening ∉ story ∧ story.getLast? = some (.did .listen)
  /-- Connections, and errors in place of them, come as long as the stream listens. -/
  serving : e.isOfServing = true → Listens story
  /-- The outcome of a connect comes when it is awaited, and success comes once. -/
  connecting : e.isOfConnecting = true → Awaits story ∧ (e = .connect → .told .connect ∉ story)
  /-- Every error is in one of these places. -/
  places : ∀ f, e = .error f → f.place ∈ ["on_read", "on_connection", "after_connect"]

namespace Life

/-- The signs along a life from its beginning. -/
inductive Story : List Sign → Life → Prop where
  | start : Story [] .unborn
  | step {story p d e q} : Story story p → Step p d e q →
    Story (story ++ (d.toList.map .did ++ e.toList.map .told)) q

/-- What a story tells of the stance that the stream is in. -/
structure Tells (story : List Sign) (s : Stance) : Prop where
  reading : InSession story ↔ s.reading = true
  connecting : Awaits story ↔ s.state = .connecting
  serving : Listens story ↔ s.state = .listening
  untried : s.state = .idle ∨ s.state = .connecting →
    .told .listening ∉ story ∧ .told .connect ∉ story
  closed : .did .close ∈ story ↔ s.state = .closing
  open_ : .told .close ∉ story

/-- What a story tells of the place in life that the stream has come to. -/
def Recalls (story : List Sign) : Life → Prop
  | unborn => story = []
  | alive s => Tells story s
  | gone => True

variable {story : List Sign} {p q : Life} {d : Option Deed} {e : Option Event}

namespace Tells

variable {s s' : Stance}

/-- A stream that is not closing was not closed. -/
theorem unclosed (tells : Tells story s) (unclosed : s.state ≠ .closing) : .did .close ∉ story :=
  fun close => unclosed (tells.closed.1 close)

/-- A step without a sign changes nothing that the story tells. -/
theorem silent (tells : Tells story s) (reading : s'.reading = s.reading)
    (connecting : s'.state = .connecting ↔ s.state = .connecting)
    (serving : s'.state = .listening ↔ s.state = .listening)
    (untried : s'.state = .idle ∨ s'.state = .connecting → s.state = .idle ∨ s.state = .connecting)
    (closed : s'.state = .closing ↔ s.state = .closing) : Tells story s' where
  reading := by rw [reading]; exact tells.reading
  connecting := tells.connecting.trans connecting.symm
  serving := tells.serving.trans serving.symm
  untried idle := tells.untried (untried idle)
  closed := tells.closed.trans closed.symm
  open_ := tells.open_

/-- A sign begins, goes on with, or ends what the story tells. -/
theorem concat (tells : Tells story s) (z : Sign)
    (reading : s'.reading = true ↔ z = .did .readStart ∨ s.reading = true ∧ z.endsReading = false)
    (connecting : s'.state = .connecting ↔
      z = .did .connect ∨ s.state = .connecting ∧ z.endsConnecting = false)
    (serving : s'.state = .listening ↔ z = .did .listen ∨ s.state = .listening ∧ z ≠ .did .close)
    (untried : s'.state = .idle ∨ s'.state = .connecting →
      (s.state = .idle ∨ s.state = .connecting) ∧ z ≠ .told .listening ∧ z ≠ .told .connect)
    (closed : s'.state = .closing ↔ s.state = .closing ∨ z = .did .close)
    (open_ : z ≠ .told .close) : Tells (story ++ [z]) s' where
  reading :=
    (Since.concat_iff z).trans ((or_congr_right (and_congr_left' tells.reading)).trans reading.symm)
  connecting :=
    (Since.concat_iff z).trans
      ((or_congr_right (and_congr_left' tells.connecting)).trans connecting.symm)
  serving := by
    refine (Since.concat_iff z).trans ((or_congr_right (and_congr_left' tells.serving)).trans ?_)
    rw [serving, decide_eq_false_iff_not]
  untried idle := by
    obtain ⟨before, silent, unconnected⟩ := untried idle
    obtain ⟨untold, unconnected'⟩ := tells.untried before
    simp [untold, unconnected', Ne.symm silent, Ne.symm unconnected]
  closed := by rw [closed, List.mem_append, List.mem_singleton, tells.closed, eq_comm (a := z)]
  open_ := by simp [tells.open_, Ne.symm open_]

end Tells

/-- What a step tells may be told after the story so far. -/
theorem Step.mayTell {e : Event} (step : Step p d (some e) q) (sound : p.Sound)
    (recalls : Recalls story p) :
    MayTell (story ++ d.toList.map .did) e := by
  cases step with
  | listen idle =>
    obtain ⟨untold, -⟩ := recalls.untried (.inl idle)
    have unclosed := recalls.unclosed (by simp [idle])
    constructor <;> simp [recalls.open_, untold, unclosed]
  | connection listening server =>
    have listens := recalls.serving.2 listening
    have unclosed := recalls.unclosed (by simp [listening])
    rcases server with rfl | ⟨status, rfl⟩ <;> constructor <;>
        simp [recalls.open_, unclosed, listens]
  | connect connecting | failConnect connecting =>
    obtain ⟨-, untold⟩ := recalls.untried (.inr connecting)
    have awaits := recalls.connecting.2 connecting
    have unclosed := recalls.unclosed (by simp [connecting])
    constructor <;> simp [recalls.open_, unclosed, untold, awaits]
  | data reading | endOfStream reading | failRead reading =>
    have open_ := recalls.reading.2 reading
    have unclosed := recalls.unclosed (Stance.Sound.unclosed_of_reading sound reading)
    constructor <;> simp [recalls.open_, unclosed, open_]
  | reclaim => constructor <;> simp [recalls.open_]

/-- After a step its signs tell where the stream stands. -/
theorem Step.recalls (step : Step p d e q) (recalls : Recalls story p) :
    Recalls (story ++ (d.toList.map .did ++ e.toList.map .told)) q := by
  cases step with
  | still => simpa using recalls
  | create =>
    obtain rfl : story = [] := recalls
    constructor <;> simp
  | reclaim => trivial
  | attach state | write state | beginShutdown state =>
    change Recalls (story ++ []) _
    rw [List.append_nil]
    exact Tells.silent recalls rfl (by simp [state]) (by simp [state]) (by simp [state])
      (by simp [state])
  | finishShutdown state outcome =>
    change Recalls (story ++ []) _
    rw [List.append_nil]
    rcases outcome with rfl | rfl <;>
      exact Tells.silent recalls rfl (by simp [state]) (by simp [state]) (by simp [state])
        (by simp [state])
  | finishWrite | dropShutdown | dropConnect =>
    change Recalls (story ++ []) _
    rw [List.append_nil]
    exact Tells.silent recalls rfl Iff.rfl Iff.rfl id Iff.rfl
  | @listen s idle =>
    -- The call comes first, and what it tells right after it.
    have called : Tells (story ++ [.did .listen])
        { s with state := .listening, listening := true } :=
      Tells.concat recalls _ (by simp) (by simp [idle]) (by simp) (by simp)
        (by simp [idle]) (by simp)
    have told : Tells (story ++ [.did .listen] ++ [.told .listening])
        { s with state := .listening, listening := true } :=
      called.concat _ (by simp) (by simp) (by simp) (by simp) (by simp) (by simp)
    rwa [List.append_assoc] at told
  | beginConnect state | connect state | failConnect state =>
    exact Tells.concat recalls _ (by simp) (by simp [state]) (by simp [state]) (by simp [state])
      (by simp [state]) (by simp)
  | readStart | readStop | close | data | endOfStream | failRead =>
    exact Tells.concat recalls _ (by simp) (by simp) (by simp) (by simp) (by simp) (by simp)
  | connection listening server =>
    rcases server with rfl | ⟨status, rfl⟩ <;>
      exact Tells.concat recalls _ (by simp) (by simp [listening]) (by simp) (by simp)
        (by simp) (by simp)

/-- A story tells where it has come to. -/
theorem Story.recalls (life : Story story p) : Recalls story p := by
  induction life with
  | start => rfl
  | step _ step ih => exact step.recalls ih

/-- The stances along a life are sound. -/
theorem Story.sound (life : Story story p) : p.Sound := by
  induction life with
  | start => trivial
  | step _ step ih => exact step.sound ih

end Life

end Reactor
