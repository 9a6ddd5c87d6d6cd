import Reactor.Proofs.Metrics.Samples

/-!
# What the samples of a step add up to

A request is called and then pending until its result arrives, a handle is closed and then closing
until it is gone, and what is read is told at once. So in every step the samples of calls, with what
was open before it, are as many as the samples of results, with what is open after it.
-/

namespace Reactor

variable {H : Host} {T : Transport H.Net H.Script} {enter : Handlers H}

/-- Requests of two kinds are sampled under two names. -/
@[simp] theorem RequestKind.op_inj {kind kind' : RequestKind} :
    kind.op = kind'.op ↔ kind = kind' := by
  cases kind <;> cases kind' <;> simp [op]

/-- The samples of a kind of requests are not about listening, reading or closing. -/
@[simp] theorem RequestKind.op_ne (kind : RequestKind) :
    kind.op ≠ .listen ∧ kind.op ≠ .read ∧ kind.op ≠ .close := by
  cases kind <;> simp [op]

/-- A result that arrives later is neither the start of a call nor its end. -/
theorem Progress.arrived_ne (ok : Bool) :
    arrived ok ≠ .dispatched ∧ arrived ok ≠ .completed ∧
      ∀ refused, arrived ok ≠ .ended refused := by
  cases ok <;> simp [arrived, ended]

/-! ## Closing -/

/-- Whether a stream is closing and not gone yet, as a number. -/
def Life.closing : Life → Nat
  | alive s => if s.state = .closing then 1 else 0
  | _ => 0

/-- A stream is closing from its close until it is told that it is gone. -/
theorem Life.Step.closing {p q : Life} {d : Option Deed} {e : Option Event}
    (step : Life.Step p d e q) (sound : p.Sound) :
    (if d = some .close then 1 else 0) + p.closing =
      (if e = some .close then 1 else 0) + q.closing := by
  cases step with
  | close unmarked =>
    have unclosed := mt (Stance.Sound.closing sound).1 (by simp [unmarked])
    simp [Life.closing, unclosed]
  | reclaim marked => simp [Life.closing, (Stance.Sound.closing sound).2 marked]
  | finishShutdown shutting outcome =>
    rcases outcome with rfl | rfl <;> simp [Life.closing, shutting]
  | connection listening server => rcases server with rfl | ⟨status, rfl⟩ <;> simp
  | _ => simp_all [Life.closing]

/-- Whether a stream is closing is its state alone. -/
theorem Loop.closing_life (l : Loop H) (h : HandleId) :
    (l.life h).closing = if Machine.hasState l h .closing then 1 else 0 := by
  unfold life Machine.hasState
  cases l.handles.get? h with
  | some x => by_cases closing : x.state = .closing <;>
    simp [Life.closing, stance, Handle.stance, closing]
  | none => simp only; split <;> simp [Life.closing]

/-! ## Calls -/

namespace Operation

variable {κ : Type}

/-- A call is sampled as completed exactly if it was not refused. -/
theorem count_completed (o : Operation κ) (a : o.Answer) (h : HandleId) (op : StreamOp) :
    (o.samples a).count ⟨h, op, .completed⟩ =
      if o.metered? = some (h, op) ∧ o.failure? a = none then 1 else 0 := by
  unfold samples
  cases o.metered? with
  | none => simp
  | some called =>
    cases o.failure? a with
    | none => simp [List.count_cons, Progress.ended, Prod.ext_iff]
    | some e => simp [Progress.ended]

/-- A call of the kind of a request that was not refused has issued one. -/
theorem issued?_iff (o : Operation κ) (a : o.Answer) (kind : RequestKind) (h : HandleId) :
    o.metered? = some (h, kind.op) ∧ o.failure? a = none ↔
      ∃ r ∈ o.issued? a, r.2.handle = h ∧ r.2.kind = kind := by
  cases o <;> cases a <;> cases kind <;>
    simp [metered?, failure?, errorOf, issued?, Except.toOption, RequestKind.op, Request.handle,
      Request.kind]

/-- A call is sampled as completed once for every request that it issues. -/
theorem count_issued (o : Operation κ) (a : o.Answer) (kind : RequestKind) (h : HandleId) :
    (o.samples a).count ⟨h, kind.op, .completed⟩ =
      (o.issued? a).toList.countP fun r => r.2.handle = h && r.2.kind = kind := by
  rw [count_completed]
  simp only [issued?_iff]
  cases o.issued? a with
  | none => simp
  | some r => simp [List.countP_singleton]

/-- A call to close completes exactly if the handle is closed by it. -/
theorem count_closed (o : Operation κ) (a : o.Answer) (h : HandleId) :
    (o.samples a).count ⟨h, .close, .completed⟩ =
      if about h (o.deed? a) = some .close then 1 else 0 := by
  rw [count_completed]
  cases o <;> cases a <;> simp [metered?, failure?, errorOf, deed?, Except.toOption]

end Operation

namespace Machine

variable {x y : Machine H} {s : Sample}

/-! ## Where a sample comes from -/

/-- The samples of a call are those of an operation, or they are about listening. -/
theorem metered_cases (T : Transport H.Net H.Script) (m : Machine H) :
    (∃ o next, m.control = .run (.call (.issue o) next) ∧
      m.metered T = o.samples (m.loop.issue T o).1) ∨
      (∀ o next, m.control ≠ .run (.call (.issue o) next)) ∧
        ∀ s ∈ m.metered T, s.op = .listen ∧
          (s.progress = .dispatched ∨ ∃ refused, s.progress = .ended refused) := by
  obtain ⟨l, stack, control⟩ := m
  cases control with
  | run p =>
    cases p with
    | done failure => exact .inr ⟨nofun, nofun⟩
    | call c next =>
      cases c with
      | issue o => exact .inl ⟨o, next, rfl, rfl⟩
      | listen h backlog c =>
        refine .inr ⟨nofun, fun s called => ?_⟩
        rcases List.mem_cons.1 called with rfl | ended
        · exact ⟨rfl, .inl rfl⟩
        · split at ended
          case h_1 => cases ended
          case h_2 => rw [List.mem_singleton.1 ended]; exact ⟨rfl, .inr ⟨true, rfl⟩⟩
      | _ => exact .inr ⟨nofun, nofun⟩
  | returned failure =>
    cases stack with
    | nil => exact .inr ⟨nofun, nofun⟩
    | cons f stack =>
      cases f with
      | listening h next =>
        refine .inr ⟨nofun, fun s ended => ?_⟩
        rw [List.mem_singleton.1 ended]
        exact ⟨rfl, .inr ⟨_, rfl⟩⟩
      | _ => exact .inr ⟨nofun, nofun⟩
  | _ => exact .inr ⟨nofun, nofun⟩

/-- The samples of a call are about its start and its end. -/
theorem progress_of_metered (called : s ∈ x.metered T) :
    s.progress = .dispatched ∨ ∃ refused, s.progress = .ended refused := by
  obtain ⟨o, next, -, samples⟩ | ⟨-, listens⟩ := metered_cases T x
  · rw [samples, Operation.samples] at called
    split at called
    case h_1 => rcases List.mem_pair.1 called with rfl | rfl <;> simp
    case h_2 => cases called
  · exact (listens s called).2

/-- The sample of a completion is about the result of a request. -/
theorem of_answered? (answered : x.answered? = some s) :
    ∃ kind : RequestKind, s.op = kind.op ∧ ∃ ok, s.progress = .arrived ok := by
  obtain ⟨report, -, told⟩ := Option.bind_eq_some_iff.1 answered
  obtain ⟨r, -, rfl⟩ := Option.map_eq_some_iff.1 told
  exact ⟨r.kind, rfl, _, rfl⟩

/-- The sample of an event is about listening, reading or closing. -/
theorem of_tiding? (told : x.tiding? = some s) :
    (s.op = .listen ∨ s.op = .read ∨ s.op = .close) ∧ ∃ ok, s.progress = .arrived ok := by
  obtain ⟨⟨h, e⟩, -, told⟩ := Option.bind_eq_some_iff.1 told
  cases e with
  | listening | connect | endOfStream => cases told
  | connection | data | close => cases told; exact ⟨by simp, true, rfl⟩
  | error failure =>
    simp only [Event.sample?] at told
    split at told
    case isTrue => cases told; exact ⟨by simp, false, rfl⟩
    case isFalse =>
      split at told
      case isTrue => cases told; exact ⟨by simp, false, rfl⟩
      case isFalse => cases told

/-- The samples of a step are those of a call, of the outcome that is told, and of the event that is
about to be told. -/
theorem count_sampled (x y : Machine H) (s : Sample) :
    (x.sampled T y).count s = (x.metered T).count s + x.answered?.toList.count s +
      y.tiding?.toList.count s := by
  simp [sampled, Nat.add_assoc]

/-- The samples of calls are none of outcomes. -/
theorem count_metered_arrived (x : Machine H) (h : HandleId) (op : StreamOp) (ok : Bool) :
    (x.metered T).count ⟨h, op, .arrived ok⟩ = 0 :=
  List.count_eq_zero.2 fun called => by
    obtain ⟨undispatched, -, unended⟩ := Progress.arrived_ne ok
    obtain dispatched | ⟨refused, ended⟩ := progress_of_metered called
    · exact undispatched dispatched
    · exact unended refused ended

/-- A call that completed is sampled by itself. -/
theorem count_sampled_completed (x y : Machine H) (h : HandleId) (op : StreamOp) :
    (x.sampled T y).count ⟨h, op, .completed⟩ = (x.metered T).count ⟨h, op, .completed⟩ := by
  have unanswered : x.answered?.toList.count ⟨h, op, .completed⟩ = 0 :=
    List.count_eq_zero.2 fun answered => by
      obtain ⟨-, -, ok, arrived⟩ := of_answered? (by simpa using answered)
      exact (Progress.arrived_ne ok).2.1 arrived.symm
  have untold : y.tiding?.toList.count ⟨h, op, .completed⟩ = 0 :=
    List.count_eq_zero.2 fun told => by
      obtain ⟨-, ok, arrived⟩ := of_tiding? (by simpa using told)
      exact (Progress.arrived_ne ok).2.1 arrived.symm
  rw [count_sampled, unanswered, untold]
  rfl

/-- The result of a request is sampled by its completion. -/
theorem count_sampled_request (x y : Machine H) (h : HandleId) (kind : RequestKind) (ok : Bool) :
    (x.sampled T y).count ⟨h, kind.op, .arrived ok⟩ =
      x.answered?.toList.count ⟨h, kind.op, .arrived ok⟩ := by
  have untold : y.tiding?.toList.count ⟨h, kind.op, .arrived ok⟩ = 0 :=
    List.count_eq_zero.2 fun told => by
      obtain ⟨about, -⟩ := of_tiding? (by simpa using told)
      simp at about
  rw [count_sampled, count_metered_arrived, untold, Nat.zero_add]
  rfl

/-- A result that is not one of a request is sampled by the event that tells it. -/
theorem count_sampled_event (x y : Machine H) (h : HandleId) {op : StreamOp}
    (other : ∀ kind : RequestKind, op ≠ kind.op) (ok : Bool) :
    (x.sampled T y).count ⟨h, op, .arrived ok⟩ =
      if y.tiding? = some ⟨h, op, .arrived ok⟩ then 1 else 0 := by
  have unanswered : x.answered?.toList.count ⟨h, op, .arrived ok⟩ = 0 :=
    List.count_eq_zero.2 fun answered => by
      obtain ⟨kind, same, -⟩ := of_answered? (by simpa using answered)
      exact other kind same
  rw [count_sampled, count_metered_arrived, unanswered, Nat.zero_add]
  cases y.tiding? <;> simp [List.count_singleton]

/-! ## Requests -/

/-- The calls that completed are the requests that were issued. -/
theorem count_metered_request (x : Machine H) (kind : RequestKind) (h : HandleId) :
    (x.metered T).count ⟨h, kind.op, .completed⟩ =
      (x.issued? T).toList.countP fun r => r.2.handle = h && r.2.kind = kind := by
  obtain ⟨o, next, control, samples⟩ | ⟨unissued, listens⟩ := metered_cases T x
  · rw [samples, issued?, control]
    exact o.count_issued _ kind h
  · have none : x.issued? T = none := by
      unfold issued?
      split
      case h_1 o next control => exact (unissued o next control).elim
      case h_2 => rfl
    rw [none, List.count_eq_zero.2 fun called => kind.op_ne.1 (listens _ called).1]
    rfl

/-- In each step the requests that were pending with those that are issued are the ones that are
answered with those that stay pending. -/
theorem Traffic.tally (traffic : Traffic T x y) (kind : RequestKind) (h : HandleId) :
    ((x.issued? T).toList.countP fun r => r.2.handle = h && r.2.kind = kind) +
      x.loop.pendingOf kind h =
      (x.answered?.toList.countP fun s => s.handle = h && s.op = kind.op) +
        y.loop.pendingOf kind h := by
  have answers {req : RequestId} {status : Outcome} {r : Request H.Closure}
      (reported : x.reported? = some (req, status)) (pending : x.loop.requests.get? req = some r)
      (requests : y.loop.requests = x.loop.requests.remove req) :
      x.loop.pendingOf kind h =
        (x.answered?.toList.countP fun s => s.handle = h && s.op = kind.op) +
          y.loop.pendingOf kind h := by
    rw [Loop.pendingOf_remove pending requests, Nat.add_comm]
    simp [answered?, reported, pending]
  cases traffic with
  | quiet issued reported requests =>
    simp [issued, answered?, reported, Loop.pendingOf_congr requests]
  | issue issued reported requests =>
    rw [Loop.pendingOf_add requests, Nat.add_comm]
    simp [issued, answered?, reported]
  | skip issued reported gone drops =>
    obtain ⟨t, c, stage, rest, -, -, rfl⟩ := drops
    simp [issued, answered?, reported, gone]
  | tell issued reported pending _ requests | settle issued reported pending _ requests
    | connected issued reported pending _ requests =>
    rw [issued]
    simpa using answers reported pending requests

/-- A completion is sampled once, by whether its result is an error. -/
theorem count_answered (x : Machine H) (kind : RequestKind) (h : HandleId) :
    (x.answered?.toList.countP fun s => s.handle = h && s.op = kind.op) =
      x.answered?.toList.count ⟨h, kind.op, .completedAsync⟩ +
        x.answered?.toList.count ⟨h, kind.op, .errorAsync⟩ := by
  cases answered : x.answered? with
  | none => rfl
  | some s =>
    obtain ⟨-, -, ok, arrived⟩ := of_answered? answered
    obtain ⟨k, op, progress⟩ := s
    obtain rfl : progress = .arrived ok := arrived
    cases ok <;> simp [Progress.arrived, List.countP_singleton, List.count_singleton]

/-! ## Events -/

/-- Whether the event that is about to be told is data of a handle. -/
def tellsData (h : HandleId) (m : Machine H) : Bool :=
  match m.told? with
  | some (k, .data _) => k = h
  | _ => false

/-- Whether the event that is about to be told is an error of reading from a handle. -/
def tellsReadError (h : HandleId) (m : Machine H) : Bool :=
  match m.told? with
  | some (k, .error failure) => k = h && failure.place = "on_read"
  | _ => false

/-- The close event is sampled as the completion of a close. -/
theorem tiding?_eq_close_iff (y : Machine H) (h : HandleId) :
    y.tiding? = some ⟨h, .close, .completedAsync⟩ ↔ about h y.told? = some .close := by
  rw [about_eq_some_iff, tiding?]
  cases y.told? with
  | none => simp
  | some told =>
    obtain ⟨k, e⟩ := told
    cases e <;> simp [Event.sample?]
    split <;> simp

/-- Data is sampled as the completion of a read. -/
theorem tiding?_eq_data_iff (y : Machine H) (h : HandleId) :
    y.tiding? = some ⟨h, .read, .completedAsync⟩ ↔ y.tellsData h = true := by
  unfold tiding? tellsData
  cases y.told? with
  | none => simp
  | some told =>
    obtain ⟨k, e⟩ := told
    cases e <;> simp [Event.sample?]
    split <;> simp

/-- An error of reading is sampled as the failure of a read. -/
theorem tiding?_eq_error_iff (y : Machine H) (h : HandleId) :
    y.tiding? = some ⟨h, .read, .errorAsync⟩ ↔ y.tellsReadError h = true := by
  unfold tiding? tellsReadError
  cases y.told? with
  | none => simp
  | some told =>
    obtain ⟨k, e⟩ := told
    cases e <;> simp [Event.sample?]
    case error failure => split <;> simp_all [and_comm]

/-! ## Steps -/

/-- A call to close completes exactly in the step that closes the handle. -/
theorem count_metered_close (x : Machine H) (h : HandleId) :
    (x.metered T).count ⟨h, .close, .completed⟩ =
      if about h (x.deed? T) = some .close then 1 else 0 := by
  obtain ⟨o, next, control, samples⟩ | ⟨unissued, listens⟩ := metered_cases T x
  · rw [samples, deed?, control]
    exact o.count_closed _ h
  · have other : about h (x.deed? T) ≠ some .close := by
      rw [Ne, about_eq_some_iff]
      unfold deed?
      split
      case h_1 o next control => exact (unissued o next control).elim
      case h_2 => simp
      case h_3 => simp
    rw [if_neg other, List.count_eq_zero.2 fun called => absurd (listens _ called).1 (by simp)]

/-- What the samples of a step add up to, with what was open before it and what is open after it. -/
structure Tallies (T : Transport H.Net H.Script) (x y : Machine H) : Prop where
  requests : ∀ kind h, (x.sampled T y).count ⟨h, kind.op, .completed⟩ + x.loop.pendingOf kind h =
    (x.sampled T y).count ⟨h, kind.op, .completedAsync⟩ +
      (x.sampled T y).count ⟨h, kind.op, .errorAsync⟩ + y.loop.pendingOf kind h
  closes : ∀ h, (x.sampled T y).count ⟨h, .close, .completed⟩ + (x.loop.life h).closing =
    (x.sampled T y).count ⟨h, .close, .completedAsync⟩ + (y.loop.life h).closing
  data : ∀ h, (x.sampled T y).count ⟨h, .read, .completedAsync⟩ = if y.tellsData h then 1 else 0
  errors : ∀ h, (x.sampled T y).count ⟨h, .read, .errorAsync⟩ = if y.tellsReadError h then 1 else 0

/-- The samples of every step add up. -/
theorem Next.tallies (b : x.Balanced) (sound : ∀ h, (x.loop.life h).Sound)
    (next : Next T enter x y) :
    Tallies T x y := by
  constructor
  case requests =>
    intro kind h
    have completed : (x.sampled T y).count ⟨h, kind.op, .completedAsync⟩ = _ :=
      count_sampled_request x y h kind true
    have failed : (x.sampled T y).count ⟨h, kind.op, .errorAsync⟩ = _ :=
      count_sampled_request x y h kind false
    have tally := (traffic_of_next next).tally kind h
    rw [count_answered, ← count_metered_request, ← count_sampled_completed x y] at tally
    rw [completed, failed]
    exact tally
  case closes =>
    intro h
    have gone : (x.sampled T y).count ⟨h, .close, .completedAsync⟩ = _ :=
      count_sampled_event x y h (fun kind => Ne.symm kind.op_ne.2.2) true
    have told : y.tiding? = some ⟨h, .close, .arrived true⟩ ↔ _ := tiding?_eq_close_iff y h
    rw [gone, count_sampled_completed, count_metered_close]
    simp only [told]
    exact (next.moves b h).closing (sound h)
  case data =>
    intro h
    have read : (x.sampled T y).count ⟨h, .read, .completedAsync⟩ = _ :=
      count_sampled_event x y h (fun kind => Ne.symm kind.op_ne.2.1) true
    have told : y.tiding? = some ⟨h, .read, .arrived true⟩ ↔ _ := tiding?_eq_data_iff y h
    rw [read]
    simp only [told]
  case errors =>
    intro h
    have failed : (x.sampled T y).count ⟨h, .read, .errorAsync⟩ = _ :=
      count_sampled_event x y h (fun kind => Ne.symm kind.op_ne.2.1) false
    have told : y.tiding? = some ⟨h, .read, .arrived false⟩ ↔ _ := tiding?_eq_error_iff y h
    rw [failed]
    simp only [told]

end Machine

end Reactor
