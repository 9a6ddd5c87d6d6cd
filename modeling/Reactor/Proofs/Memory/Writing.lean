import Reactor.Proofs.Memory.Outcomes

/-!
# What was written is what went through

Along a run on the transport in memory each endpoint has been sent the bytes of the writes that went
through, in the order in which they were issued, whether they went through at once or with a flush.
-/

namespace Reactor

variable {S N C : Type} {enter : Handlers (Memory.host S N C)}

namespace Machine

variable {x y m : Machine (Memory.host S N C)} {past : List (Machine (Memory.host S N C))}
  {p : RequestId × Outcome}

/-- The writes that were issued on a handle, in order. -/
def writes (past : List (Machine (Memory.host S N C))) (h : HandleId) :
    List (RequestId × List UInt8) :=
  past.flatMap fun x => Memory.issuedOn x.wrote? h

/-- The outcomes of writes that are there: those that ticks have taken, and
those that are queued. -/
def outcomes (past : List (Machine (Memory.host S N C))) (m : Machine (Memory.host S N C)) :
    Outcomes :=
  past.filterMap taken? ++ m.queued

/-- With one more machine the writes issued are those before and the one that it issues. -/
theorem writes_snoc (past : List (Machine (Memory.host S N C))) (x : Machine (Memory.host S N C))
    (h : HandleId) :
    writes (past ++ [x]) h = writes past h ++ Memory.issuedOn x.wrote? h := by
  simp [writes]

/-- With one more machine the outcomes there are those taken before, the one that it takes, and
those queued after it. -/
theorem mem_outcomes_snoc :
    p ∈ outcomes (past ++ [x]) y ↔
      p ∈ past.filterMap taken? ∨ p ∈ x.taken?.toList ∨ p ∈ y.queued := by
  rw [outcomes, List.filterMap_append, List.append_assoc, List.mem_append, List.mem_append]
  cases taken : x.taken? <;> simp [taken]

/-! ## Outcomes and requests -/

/-- The outcomes that are queued are those of the completions under way. -/
theorem queued_eq (m : Machine (Memory.host S N C)) :
    m.queued = (m.loop.underway m.batches).filterMap Completion.written? := by
  rw [queued, Loop.outcomes, Loop.underway, List.filterMap_append (l := _ ++ _)]

/-- A step that takes the outcome of a write takes a completion that reports it. -/
theorem reported?_of_taken? (taken : x.taken? = some p) : x.reported? = some p := by
  unfold taken? at taken
  unfold reported?
  split at taken
  case h_1 t stack control stack' =>
    obtain ⟨⟨d, stage⟩, here, written⟩ := Option.bind_eq_some_iff.1 taken
    simp only [control, stack', here, Option.bind_some]
    cases d <;> first | exact written | cases written
  case h_2 => cases taken

/-- What a tick takes next is queued. -/
theorem mem_queued_of_taken? (taken : x.taken? = some p) : p ∈ x.queued := by
  unfold taken? at taken
  split at taken
  case h_1 t stack control stack' =>
    obtain ⟨⟨d, stage⟩, here, written⟩ := Option.bind_eq_some_iff.1 taken
    refine List.mem_append_right _ (List.mem_filterMap.2 ⟨d, ?_, written⟩)
    simp [batches, stack', Frame.batch, Stage.batch_of_pop? here]
  case h_2 => cases taken

/-- What is taken was there before. -/
theorem mem_outcomes_of_taken (taken : p ∈ (past ++ [x]).filterMap taken?) :
    p ∈ outcomes past x := by
  obtain ⟨z, hz, taken⟩ := List.mem_filterMap.1 taken
  rcases List.mem_append.1 hz with hz | hz
  · exact List.mem_append_left _ (List.mem_filterMap.2 ⟨z, hz, taken⟩)
  · rw [List.mem_singleton.1 hz] at taken
    exact List.mem_append_right _ (mem_queued_of_taken? taken)

/-- A write whose outcome is queued is pending. -/
theorem Coupled.pending (c : m.Coupled) (queued : p ∈ m.queued) :
    ∃ h data callback, m.loop.requests.get? p.1 = some (.write h data callback) := by
  rw [queued_eq] at queued
  obtain ⟨d, hd, written⟩ := List.mem_filterMap.1 queued
  have fits := c.fits hd
  cases d <;> first | cases written; exact fits | cases written

/-- A write has one outcome in the queue at most. -/
theorem Coupled.single_queued (c : m.Coupled) {req : RequestId} {o o' : Outcome}
    (queued : (req, o) ∈ m.queued) (queued' : (req, o') ∈ m.queued) : o = o' := by
  obtain ⟨h, data, callback, pending⟩ := c.pending queued
  have once : namings (m.loop.underway m.batches) req ≤ 1 := c.once pending ▸ Nat.le_add_left _ _
  rw [queued_eq] at queued queued'
  obtain ⟨d, hd, written⟩ := List.mem_filterMap.1 queued
  obtain ⟨d', hd', written'⟩ := List.mem_filterMap.1 queued'
  have names {d : Completion} {o : Outcome} (written : d.written? = some (req, o)) :
      d.names req = true := by
    cases d <;> cases written
    exact decide_eq_true rfl
  obtain rfl := eq_of_namings once hd (names written) hd' (names written')
  cases written.symm.trans written'
  rfl

/-- The step that issues a write gives out its number. -/
theorem issued_of_wrote? {h : HandleId} {req : RequestId} {data : List UInt8}
    (wrote : x.wrote? = some (h, req, data)) :
    ∃ callback, x.issued? Memory.transport = some (req, .write h data callback) := by
  obtain ⟨⟨req', r⟩, issued, write⟩ := Option.bind_eq_some_iff.1 wrote
  cases r with
  | write h' data' callback => cases write; exact ⟨callback, issued⟩
  | shutdown | connect => cases write

/-- What the step from one machine to the next does to the writes. -/
theorem Next.records (c : x.Coupled) (next : Next Memory.transport enter x y) : x.Records y := by
  cases next with
  | step taken => exact (rule_of_step? taken).2.records c
  | resume p rest =>
    obtain ⟨l, _, _⟩ := x
    obtain ⟨⟨failure, rfl⟩, rfl⟩ := atRest_iff.1 rest
    exact .of_eq rfl rfl rfl rfl rfl

/-! ## The account of a run -/

/-- The writes and outcomes of a run, and how they stand to the endpoints and to the requests. -/
structure Booked (past : List (Machine (Memory.host S N C))) (m : Machine (Memory.host S N C)) :
    Prop where
  ledger : m.loop.net.Ledger (writes past) (outcomes past m)
  issued : ∀ h, ∀ w ∈ writes past h, w.1 < m.loop.requests.next
  known : ∀ p ∈ outcomes past m, p.1 < m.loop.requests.next
  gone : ∀ p ∈ past.filterMap taken?, m.loop.requests.get? p.1 = none
  single : ∀ {req o o'}, (req, o) ∈ outcomes past m → (req, o') ∈ outcomes past m → o = o'
  final : ∀ z ∈ past, ∀ h, (z.loop.net.endpoint h).Over →
    (m.loop.net.endpoint h).sent.toList = (z.loop.net.endpoint h).sent.toList ∧
      (m.loop.net.endpoint h).Over

/-- A write whose outcome was taken is pending no longer. -/
theorem Booked.passed (booked : Booked past x) (traffic : Traffic Memory.transport x y)
    (taken : p ∈ (past ++ [x]).filterMap taken?) : y.loop.requests.get? p.1 = none := by
  obtain ⟨z, hz, taken'⟩ := List.mem_filterMap.1 taken
  rcases List.mem_append.1 hz with hz | hz
  · refine Option.eq_none_iff_forall_not_mem.2 fun r waiting => ?_
    have waited := traffic.waited (booked.known p (mem_outcomes_of_taken taken)) waiting
    rw [booked.gone p (List.mem_filterMap.2 ⟨z, hz, taken'⟩)] at waited
    cases waited
  · rw [List.mem_singleton.1 hz] at taken'
    exact traffic.gone (reported?_of_taken? taken')

/-- Each step keeps the account. -/
theorem Booked.next (booked : Booked past x) (c : x.Coupled) (c' : y.Coupled)
    (next : Next Memory.transport enter x y) :
    Booked (past ++ [x]) y := by
  obtain ⟨new, brings, moves⟩ := next.records c
  have traffic := traffic_of_next next
  have le := traffic.next_le
  have pending {z : Machine (Memory.host S N C)} {p} (c : z.Coupled) (queued : p ∈ z.queued) :
      ∃ r, z.loop.requests.get? p.1 = some r := by
    obtain ⟨_, _, _, pending⟩ := c.pending queued
    exact ⟨_, pending⟩
  have gone (p) (taken : p ∈ (past ++ [x]).filterMap taken?) := booked.passed traffic taken
  have there {p} : p ∈ outcomes (past ++ [x]) y ↔
      p ∈ (past ++ [x]).filterMap taken? ∨ p ∈ y.queued := List.mem_append
  constructor
  case ledger =>
    rw [funext (writes_snoc past x)]
    refine booked.ledger.move moves (fun h req data wrote => ?_) fun p => ?_
    · obtain ⟨callback, issued⟩ := issued_of_wrote? wrote
      obtain ⟨rfl, -⟩ := traffic.issued_eq issued
      refine ⟨fun k w hw => Nat.ne_of_lt (booked.issued k w hw), Bool.eq_false_iff.2 fun has => ?_⟩
      obtain ⟨outcome, known⟩ := Outcomes.has_iff.1 has
      exact Nat.lt_irrefl _ (booked.known _ known)
    · have brought := brings p
      rw [mem_outcomes_snoc, outcomes, List.mem_append]
      grind
  case issued =>
    intro h w hw
    rw [writes_snoc] at hw
    rcases List.mem_append.1 hw with hw | hw
    · exact Nat.lt_of_lt_of_le (booked.issued h w hw) le
    · obtain ⟨callback, issued⟩ := issued_of_wrote? (Memory.mem_issuedOn.1 hw)
      obtain ⟨number, requests, -⟩ := traffic.issued_eq issued
      rw [requests, number]
      exact Nat.lt_succ_self _
  case known =>
    intro p hp
    obtain taken | queued := there.1 hp
    · exact Nat.lt_of_lt_of_le (booked.known p (mem_outcomes_of_taken taken)) le
    · obtain ⟨r, waiting⟩ := pending c' queued
      exact Registry.lt_next_of_get? waiting
  case gone => exact gone
  case single =>
    intro req o o' hp hp'
    have apart {o o' : Outcome} (taken : (req, o) ∈ (past ++ [x]).filterMap taken?)
        (queued : (req, o') ∈ y.queued) : False := by
      obtain ⟨r, waiting⟩ := pending c' queued
      rw [gone _ taken] at waiting
      cases waiting
    obtain taken | queued := there.1 hp <;> obtain taken' | queued' := there.1 hp'
    · exact booked.single (mem_outcomes_of_taken taken) (mem_outcomes_of_taken taken')
    · exact (apart taken queued').elim
    · exact (apart taken' queued).elim
    · exact c'.single_queued queued queued'
  case final =>
    have goes {h} (ended : (x.loop.net.endpoint h).Over) := moves.final booked.ledger ended
    intro z hz h ended
    rcases List.mem_append.1 hz with hz | hz
    · obtain ⟨same, ended⟩ := booked.final z hz h ended
      exact ⟨(goes ended).1.trans same, (goes ended).2⟩
    · rw [List.mem_singleton.1 hz] at ended ⊢
      exact goes ended

/-- Every run has such an account. -/
theorem Booked.of_run {options : Options} {shared : S} {p : Program (Memory.host S N C)}
    (run : Run Memory.transport enter (start p (.fresh options Memory.initial shared)) past m) :
    Booked past m := by
  induction run with
  | refl =>
    refine ⟨⟨fun _ => rfl, fun _ => rfl, fun _ => .nil, fun _ some => (some rfl).elim,
      fun _ _ => rfl⟩, ?_, ?_, ?_, ?_, ?_⟩
    · intro h w hw
      cases hw
    · intro p hp
      cases hp
    · intro p hp
      cases hp
    · intro req o o' hp
      cases hp
    · intro z hz
      cases hz
  | snoc first next ih => exact ih.next (.of_run first) (.of_run (first.snoc next)) next

/-- What the endpoints have of the writes that a run has issued. -/
structure WritesThrough (past : List (Machine (Memory.host S N C)))
    (m : Machine (Memory.host S N C)) : Prop where
  /-- A write has one outcome at most. -/
  single : ∀ req o o', (req, o) ∈ outcomes past m → (req, o') ∈ outcomes past m → o = o'
  /-- To each handle those writes on it were written, in the order of issue, that have gone through,
  and nothing else. -/
  written : ∀ h, (m.loop.net.endpoint h).written =
    ((writes past h).filter ((outcomes past m).succeeded ·.1)).flatMap (·.2)
  /-- Those writes on it are held back, in the order of issue, that have no outcome yet. -/
  held : ∀ h, (m.loop.net.endpoint h).held.toList =
    (writes past h).filter (!(outcomes past m).has ·.1)
  /-- The length of its queue is that of all that is held back. -/
  queue : ∀ h, m.loop.answer Memory.transport (.writeQueueSize h) =
    (m.loop.handle? h).map fun _ =>
      (((writes past h).filter (!(outcomes past m).has ·.1)).flatMap (·.2)).length
  /-- An outcome that a tick takes is what the callback of its write hears, or
  what its future shows. -/
  delivers : ∀ before x y after req outcome,
    past ++ [m] = before ++ x :: y :: after → x.taken? = some (req, outcome) →
    ∃ h data callback, (req, data) ∈ writes before h ∧
      x.loop.requests.get? req = some (.write h data callback) ∧
      y.Shows Memory.transport req none
        ((Request.write h data callback).settlement (outcomeAt "after_write" outcome))
        ((Request.write h data callback).delivery req (outcomeAt "after_write" outcome))
  /-- Nothing more is written to a handle once its stream was shut or closed. -/
  final : ∀ z ∈ past,
    ∀ h, (z.loop.net.endpoint h).shut = true ∨ (z.loop.net.endpoint h).closed = true →
    (m.loop.net.endpoint h).written = (z.loop.net.endpoint h).written

end Machine

open Machine

/-- Whatever an embedder, its handlers and a script do, what was written to a handle is what the
outcomes of the writes on it say. -/
theorem writes_match_outcomes {options : Options} {shared : S} {p : Program (Memory.host S N C)}
    {past : List (Machine (Memory.host S N C))} {m : Machine (Memory.host S N C)}
    (run : Run Memory.transport enter (start p (.fresh options Memory.initial shared)) past m) :
    WritesThrough past m := by
  have booked := Booked.of_run run
  constructor
  case single =>
    intro req o o'
    exact booked.single
  case written =>
    intro h
    rw [Endpoint.written, booked.ledger.sent, List.flatMap_def]
  case held => exact booked.ledger.held
  case queue =>
    intro h
    rw [← booked.ledger.held]
    rfl
  case delivers =>
    intro before x y after req outcome split taken
    obtain ⟨first, next⟩ := run.pair split
    have reached : Reached Memory.transport enter before x :=
      ⟨options, Memory.initial, shared, p, first⟩
    obtain ⟨h, data, callback, pending⟩ :=
      (Coupled.of_run first).pending (mem_queued_of_taken? taken)
    obtain ⟨i, hi, issued⟩ := reached.issued pending
    refine ⟨h, data, callback, List.mem_flatMap.2 ⟨i, hi, ?_⟩, pending, ?_⟩
    · rw [Memory.mem_issuedOn, wrote?, issued]
      rfl
    · exact (traffic_of_next next).ends (reached.waits pending) (reported?_of_taken? taken)
  case final =>
    intro z hz h ended
    rw [Endpoint.written, Endpoint.written, (booked.final z hz h ended).1]

/-- The client that holds back its writes, when its tick has answered them. -/
def Client.answered : Machine (Echo.host Memory Memory.Script) :=
  (Machine.start Client.patient (.fresh .standard Memory.initial ())).run Memory.transport
    (Echo.handlers _ _) 33

/-- Of the two writes that a client holds back none has an outcome before the flush; in the end both
have gone through, in order. -/
theorem writes_match_outcomes_for_client :
    (∃ past, Run Memory.transport (Echo.handlers _ _)
      (start Client.patient (.fresh .standard Memory.initial ())) past
        Client.holding ∧
      (Client.holding.loop.net.endpoint 0).written = [] ∧
      (writes past 0).filter (!(outcomes past Client.holding).has ·.1) = [(1, [1]), (2, [2])]) ∧
    ∃ past, Run Memory.transport (Echo.handlers _ _)
      (start Client.patient (.fresh .standard Memory.initial ())) past
        Client.answered ∧
      (Client.answered.loop.net.endpoint 0).written = [1, 2] ∧
      ((writes past 0).filter ((outcomes past Client.answered).succeeded ·.1)).flatMap (·.2) =
        [1, 2] := by
  constructor
  · obtain ⟨past, run, -⟩ := Run.exists_of_run Memory.transport (Echo.handlers _ _)
      (start Client.patient (.fresh .standard Memory.initial ())) 18
    exact ⟨past, run, by rfl, (writes_match_outcomes run).held 0 ▸ by rfl⟩
  · obtain ⟨past, run, -⟩ := Run.exists_of_run Memory.transport (Echo.handlers _ _)
      (start Client.patient (.fresh .standard Memory.initial ())) 33
    have written : (Client.answered.loop.net.endpoint 0).written = [1, 2] := by rfl
    exact ⟨past, run, written, ((writes_match_outcomes run).written 0).symm.trans written⟩

end Reactor
