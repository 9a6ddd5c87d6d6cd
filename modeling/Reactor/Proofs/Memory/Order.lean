import Reactor.Proofs.Memory.Turns
import Reactor.Proofs.Memory.Writing

/-!
# Callbacks in the order of issue

As long as no handler starts a tick inside a tick, the writes on a handle that the transport
has taken are answered in the order in which they were issued, whatever is held back,
flushed, failed or closed in between; and a shutdown that goes through is answered after all
those that were issued before it.
-/

namespace Reactor

variable {S N C : Type} {enter : Handlers (Memory.host S N C)}

namespace Machine

variable {x y m : Machine (Memory.host S N C)} {past : List (Machine (Memory.host S N C))}
  {h : HandleId} {req : RequestId} {done waiting : List (RequestId × Callback C)}

/-! ## The history of a handle -/

/-- The write on a handle that the next step issues, and that the transport does not refuse: its
number and its callback. -/
def accepts? (h : HandleId) (m : Machine (Memory.host S N C)) : Option (RequestId × Callback C) :=
  match m.issued? Memory.transport with
  | some (req, .write k data callback) =>
    if k = h ∧ (Memory.write req k data m.loop.net).answer.isOk then some (req, callback) else none
  | _ => none

/-- The writes on a handle that were issued and not refused, in the order of issue. -/
def accepted (past : List (Machine (Memory.host S N C))) (h : HandleId) :
    List (RequestId × Callback C) :=
  past.filterMap (accepts? h)

/-- Whether a number is that of a write on a handle that was issued and not refused. -/
def took (past : List (Machine (Memory.host S N C))) (h : HandleId) (req : RequestId) : Bool :=
  (accepted past h).any (·.1 = req)

/-- Those writes in the order in which ticks have taken up their outcomes. -/
def answered (past : List (Machine (Memory.host S N C))) (h : HandleId) : List RequestId :=
  ((past.filterMap reported?).map (·.1)).filter (took past h)

/-- The callbacks of those writes in the order in which they were entered, the
last machine included. -/
def called (past : List (Machine (Memory.host S N C))) (m : Machine (Memory.host S N C))
    (h : HandleId) :
    List (RequestId × C) :=
  (((past ++ [m]).filterMap delivered?).map fun d => (d.req, d.closure)).filter (took past h ·.1)

/-- The closure that hears of a write, unless a future does. -/
def hears? : RequestId × Callback C → Option (RequestId × C)
  | (req, .closure c) => some (req, c)
  | (_, .promise) => none

/-- A step accepts a write when it issues one that the transport does not refuse. -/
theorem accepts?_eq_some {callback : Callback C} : m.accepts? h = some (req, callback) ↔
    ∃ data, m.issued? Memory.transport = some (req, .write h data callback) ∧
      (Memory.write req h data m.loop.net).answer.isOk = true := by
  unfold accepts?
  constructor
  · intro accepts
    split at accepts
    case h_1 issued =>
      split at accepts
      case isTrue here =>
        cases accepts
        obtain ⟨rfl, ok⟩ := here
        exact ⟨_, issued, ok⟩
      case isFalse => cases accepts
    case h_2 => cases accepts
  · rintro ⟨data, issued, ok⟩
    simp [issued, ok]

/-- A step that issues nothing accepts nothing. -/
theorem accepts?_of_unissued (unissued : m.issued? Memory.transport = none) :
    m.accepts? h = none := by
  simp [accepts?, unissued]

/-- With one more machine the writes accepted are those before and the one that it accepts. -/
theorem accepted_snoc (past : List (Machine (Memory.host S N C))) (x : Machine (Memory.host S N C))
    (h : HandleId) :
    accepted (past ++ [x]) h = accepted past h ++ (x.accepts? h).toList := by
  cases accepts : x.accepts? h <;> simp [accepted, accepts]

/-- The numbers that are taken up are those of writes that were accepted. -/
theorem took_iff : took past h req = true ↔ ∃ callback, (req, callback) ∈ accepted past h := by
  simp [took]

/-- A write that is issued now is none of those before. -/
theorem took_snoc {r : RequestId} (before : r < x.loop.requests.next)
    (traffic : Traffic Memory.transport x y) : took (past ++ [x]) h r = took past h r := by
  unfold took
  rw [accepted_snoc, List.any_append]
  cases accepts : x.accepts? h with
  | none => simp
  | some w =>
    obtain ⟨data, issued, -⟩ := accepts?_eq_some.1 accepts
    obtain ⟨number, -⟩ := traffic.issued_eq issued
    have other : w.1 ≠ r := Nat.ne_of_gt (number ▸ before)
    simp [other]

/-! ## What a run has of each handle -/

/-- The writes on a handle: those that are done, each answered and its callback entered in the order
of issue, and those that wait, each pending. -/
structure InTurn (past : List (Machine (Memory.host S N C))) (m : Machine (Memory.host S N C))
    (h : HandleId) (done waiting : List (RequestId × Callback C)) : Prop where
  accepted : accepted past h = done ++ waiting
  answered : answered past h = done.map (·.1)
  called : called past m h = done.filterMap hears?
  gone : ∀ w ∈ done, m.loop.requests.get? w.1 = none
  pends : ∀ w ∈ waiting, ∃ data, m.loop.requests.get? w.1 = some (.write h data w.2)

/-- What holds along a run in which there is one tick at a time. -/
structure Ordered (past : List (Machine (Memory.host S N C))) (m : Machine (Memory.host S N C)) :
    Prop where
  lone : m.Lone
  sorted : ∀ h, (m.line h).Pairwise (· < ·)
  /-- What is due without the transport are refusals. -/
  refused : ∀ d ∈ m.deferrals,
    ∃ req status, d = .write req (.error status) ∧ ∀ h, took past h req = false
  increasing : ∀ h, (accepted past h).Pairwise (·.1 < ·.1)
  known : ∀ h, ∀ w ∈ accepted past h, w.1 < m.loop.requests.next
  reported : ∀ p ∈ past.filterMap reported?, p.1 < m.loop.requests.next
  told : ∀ d ∈ (past ++ [m]).filterMap delivered?, d.req < m.loop.requests.next
  turns : ∀ h, ∃ done waiting, InTurn past m h done waiting

namespace Ordered

/-- What was not refused is not due without the transport. -/
theorem transported (ordered : Ordered past m) (took : took past h req = true) :
    ∀ d ∈ m.deferrals, d.names req = false := by
  intro d hd
  obtain ⟨req', status, rfl, refused⟩ := ordered.refused d hd
  refine Bool.eq_false_iff.2 fun names => ?_
  obtain rfl : req' = req := by simpa [Completion.names, Completion.report?] using names
  exact Bool.false_ne_true ((refused h).symm.trans took)

/-! ## One step -/

/-- The write that a tick takes up the outcome of, if it was not refused when it was issued, is the
first that waits. -/
theorem first (ordered : Ordered past x) (c : x.Coupled) (turn : InTurn past x h done waiting)
    {status : Outcome} (reported : x.reported? = some (req, status))
    (took : took past h req = true) :
    ∃ data callback rest, x.loop.requests.get? req = some (.write h data callback) ∧
      waiting = (req, callback) :: rest := by
  have transported := ordered.transported took
  obtain ⟨d, report, names, fits, leads⟩ := c.first reported transported
  obtain ⟨r, pending⟩ := fits.pending names
  -- It is pending, so it waits.
  obtain ⟨callback, issued⟩ := took_iff.1 took
  have waits : (req, callback) ∈ waiting := by
    rw [turn.accepted] at issued
    rcases List.mem_append.1 issued with past | waits
    · have gone : x.loop.requests.get? req = none := turn.gone _ past
      cases pending.symm.trans gone
    · exact waits
  obtain ⟨data, write⟩ := turn.pends _ waits
  -- It is the first in line, and all that wait are in line.
  obtain ⟨outcome, rfl⟩ := fits.write_of_names names write
  obtain ⟨tail, line⟩ := leads h (Completion.turn?_of_pending write outcome).1
  have least (w) (hw : w ∈ waiting) : req ≤ w.1 := by
    obtain ⟨data', pends⟩ := turn.pends w hw
    have mine : Machine.took past h w.1 = true :=
      took_iff.2 ⟨w.2, by rw [turn.accepted]; exact List.mem_append_right _ hw⟩
    have inLine := c.mem_line pends (ordered.transported mine)
    have sorted := ordered.sorted h
    rw [line] at inLine sorted
    rcases List.mem_cons.1 inLine with same | later
    · exact Nat.le_of_eq same.symm
    · exact Nat.le_of_lt ((List.pairwise_cons.1 sorted).1 _ later)
  -- They wait in the order of their numbers.
  have increasing := ordered.increasing h
  rw [turn.accepted] at increasing
  have increasing := (List.pairwise_append.1 increasing).2.1
  cases waiting with
  | nil => cases waits
  | cons w rest =>
    have same : (req, callback) = w := by
      rcases List.mem_cons.1 waits with same | later
      · exact same
      · exact absurd ((List.pairwise_cons.1 increasing).1 _ later)
          (Nat.not_lt_of_le (least w List.mem_cons_self))
    exact ⟨data, callback, rest, write, by rw [same]⟩

/-- A tick takes up the outcome of a request whose number was given out. -/
theorem reported_lt (c : x.Coupled) {status : Outcome}
    (reported : x.reported? = some (req, status)) :
    req < x.loop.requests.next := by
  obtain ⟨_, _, d, _, -, -, -, -, names, fits⟩ := c.fits_reported reported
  obtain ⟨r, pending⟩ := fits.pending names
  exact Registry.lt_next_of_get? pending

/-- A callback that is about to be entered is that of a request issued before. -/
theorem delivered_lt (traffic : Traffic Memory.transport x y) {d : Delivery C}
    (told : y.delivered? = some d) :
    d.req < x.loop.requests.next := by
  obtain ⟨r, pending, -⟩ := traffic.delivered told
  exact Registry.lt_next_of_get? pending

/-- With one more machine the writes answered are those before and the one
whose outcome it takes. -/
theorem answered_snoc (ordered : Ordered past x) (c : x.Coupled)
    (traffic : Traffic Memory.transport x y) (h : HandleId) :
    answered (past ++ [x]) h = answered past h ++
      (x.reported?.toList.map (·.1)).filter (took past h) := by
  have numbers : (past ++ [x]).filterMap reported? =
      past.filterMap reported? ++ x.reported?.toList := by
    cases reported : x.reported? <;> simp [reported]
  rw [answered, answered, numbers, List.map_append, List.filter_append]
  congr 1
  · refine List.filter_congr fun r hr => took_snoc ?_ traffic
    obtain ⟨p, hp, rfl⟩ := List.mem_map.1 hr
    exact ordered.reported p hp
  · refine List.filter_congr fun r hr => took_snoc ?_ traffic
    obtain ⟨p, hp, rfl⟩ := List.mem_map.1 hr
    exact reported_lt c (Option.mem_toList.1 hp)

/-- With one more machine the callbacks entered are those before and the one that is about to be. -/
theorem called_snoc (ordered : Ordered past x) (traffic : Traffic Memory.transport x y)
    (h : HandleId) :
    called (past ++ [x]) y h =
      called past x h ++ (y.delivered?.toList.map fun d => (d.req, d.closure)).filter
        (took past h ·.1) := by
  have entries : (past ++ [x] ++ [y]).filterMap delivered? =
      (past ++ [x]).filterMap delivered? ++ y.delivered?.toList := by
    rw [List.filterMap_append]
    cases told : y.delivered? <;> simp [told]
  rw [called, called, entries, List.map_append, List.filter_append]
  congr 1
  · refine List.filter_congr fun p hp => took_snoc ?_ traffic
    obtain ⟨d, hd, rfl⟩ := List.mem_map.1 hp
    exact ordered.told d hd
  · refine List.filter_congr fun p hp => took_snoc ?_ traffic
    obtain ⟨d, hd, rfl⟩ := List.mem_map.1 hp
    exact delivered_lt traffic (Option.mem_toList.1 hd)

/-- A tick takes up the outcome of a request: if that is a write that was not refused, it is the
next one, and the closure that hears of it is entered. -/
theorem answers (ordered : Ordered past x) (c : x.Coupled) (traffic : Traffic Memory.transport x y)
    {status : Outcome} {r : Request C} (unissued : x.issued? Memory.transport = none)
    (reported : x.reported? = some (req, status)) (pending : x.loop.requests.get? req = some r)
    (requests : y.loop.requests = x.loop.requests.remove req)
    (heard : y.delivered?.map (fun d => (d.req, d.closure)) = r.callback?.bind fun callback =>
      hears? (req, callback))
    (h : HandleId) : ∃ done waiting, InTurn (past ++ [x]) y h done waiting := by
  obtain ⟨done, waiting, turn⟩ := ordered.turns h
  have accepts := accepted_snoc past x h
  have answers := ordered.answered_snoc c traffic h
  have calls := ordered.called_snoc traffic h
  rw [accepts?_of_unissued unissued, Option.toList_none, List.append_nil] at accepts
  rw [reported] at answers
  have keys : y.delivered?.toList.map (fun d => (d.req, d.closure)) =
      (r.callback?.bind fun callback => hears? (req, callback)).toList := by
    rw [← heard]
    cases y.delivered? <;> rfl
  rw [keys] at calls
  have gone (w) (hw : w ∈ done) : y.loop.requests.get? w.1 = none := by
    rw [requests, Registry.get?_remove, turn.gone w hw, ite_self]
  have pends (w) (hw : w ∈ waiting) (other : w.1 ≠ req) :
      ∃ data, y.loop.requests.get? w.1 = some (.write h data w.2) := by
    rw [requests, Registry.get?_remove, if_neg (Ne.symm other)]
    exact turn.pends w hw
  cases mine : took past h req with
  | true =>
    obtain ⟨data, callback, rest, write, rfl⟩ := ordered.first c turn reported mine
    obtain rfl := Option.some.inj (pending.symm.trans write)
    have increasing := ordered.increasing h
    rw [turn.accepted] at increasing
    have later := (List.pairwise_cons.1 (List.pairwise_append.1 increasing).2.1).1
    refine ⟨done ++ [(req, callback)], rest, ?_, ?_, ?_, fun w hw => ?_, fun w hw => ?_⟩
    · rw [accepts, turn.accepted, List.append_assoc, List.singleton_append]
    · rw [answers, turn.answered]
      simp [mine]
    · rw [calls, turn.called, List.filterMap_append]
      cases callback <;> simp [Request.callback?, hears?, mine]
    · rcases List.mem_append.1 hw with hw | hw
      · exact gone w hw
      · rw [List.mem_singleton.1 hw, requests, Registry.get?_remove, if_pos rfl]
    · exact pends w (List.mem_cons_of_mem _ hw) (Nat.ne_of_gt (later w hw))
  | false =>
    refine ⟨done, waiting, accepts.trans turn.accepted, ?_, ?_, gone, fun w hw => pends w hw ?_⟩
    · rw [answers, turn.answered]
      simp [mine]
    · rw [calls, turn.called]
      cases r.callback? with
      | none => simp
      | some callback => cases callback <;> simp [hears?, mine]
    · rintro rfl
      have others : took past h w.1 = true :=
        took_iff.2 ⟨w.2, turn.accepted ▸ List.mem_append_right _ hw⟩
      exact Bool.false_ne_true (mine.symm.trans others)

/-- Each step keeps the turns of a handle. -/
theorem turns_next (ordered : Ordered past x) (c : x.Coupled)
    (traffic : Traffic Memory.transport x y) (h : HandleId) :
    ∃ done waiting, InTurn (past ++ [x]) y h done waiting := by
  have step := traffic
  cases traffic with
  | quiet unissued unreported requests _ untold =>
    obtain ⟨done, waiting, turn⟩ := ordered.turns h
    have accepts := accepted_snoc past x h
    have answers := ordered.answered_snoc c step h
    have calls := ordered.called_snoc step h
    rw [accepts?_of_unissued unissued, Option.toList_none, List.append_nil] at accepts
    rw [unreported] at answers
    rw [untold] at calls
    refine ⟨done, waiting, accepts.trans turn.accepted, ?_, ?_, fun w hw => ?_, fun w hw => ?_⟩
    · simpa [turn.answered] using answers
    · simpa [turn.called] using calls
    · rw [requests]
      exact turn.gone w hw
    · rw [requests]
      exact turn.pends w hw
  | @issue r issued unreported requests _ untold =>
    obtain ⟨done, waiting, turn⟩ := ordered.turns h
    have answers := ordered.answered_snoc c step h
    have calls := ordered.called_snoc step h
    rw [unreported] at answers
    rw [untold] at calls
    have old (w) (hw : w ∈ done ++ waiting) :
        y.loop.requests.get? w.1 = x.loop.requests.get? w.1 := by
      rw [requests, Registry.get?_add,
        if_neg (Nat.ne_of_lt (ordered.known h w (turn.accepted ▸ hw)))]
    refine ⟨done, waiting ++ (x.accepts? h).toList, ?_, ?_, ?_, fun w hw => ?_, fun w hw => ?_⟩
    · rw [accepted_snoc, turn.accepted, List.append_assoc]
    · simpa [turn.answered] using answers
    · simpa [turn.called] using calls
    · rw [old w (List.mem_append_left _ hw)]
      exact turn.gone w hw
    · rcases List.mem_append.1 hw with hw | hw
      · rw [old w (List.mem_append_right _ hw)]
        exact turn.pends w hw
      · obtain ⟨data, issued', -⟩ := accepts?_eq_some.1 (Option.mem_toList.1 hw)
        obtain ⟨number, write⟩ := Prod.mk.inj (Option.some.inj (issued.symm.trans issued'))
        exact ⟨data, by rw [requests, Registry.get?_add, if_pos number.symm, write]⟩
  | skip _ reported gone =>
    obtain ⟨_, _, d, _, -, -, -, -, names, fits⟩ := c.fits_reported reported
    obtain ⟨r, pending⟩ := fits.pending names
    cases gone.symm.trans pending
  | tell unissued reported pending callback requests _ told =>
    exact ordered.answers c step unissued reported pending requests (by rw [told, callback]; rfl) h
  | settle unissued reported pending callback requests _ untold
  | connected unissued reported pending callback requests _ untold =>
    exact ordered.answers c step unissued reported pending requests
      (by rw [untold, callback]; rfl) h

end Ordered

/-! ## Runs -/

/-- Each step keeps the order, unless a handler starts a tick inside a tick. -/
theorem Ordered.next (ordered : Ordered past x) (c : x.Coupled) (withheld : x.loop.Withheld)
    (calm : x.reenters = true → x.depth = 0) (next : Next Memory.transport enter x y) :
    Ordered (past ++ [x]) y := by
  have traffic := traffic_of_next next
  have le := traffic.next_le
  have number {h : HandleId} {w : RequestId × Callback C} (accepts : x.accepts? h = some w) :
      w.1 = x.loop.requests.next := by
    obtain ⟨data, issued, -⟩ := accepts?_eq_some.1 accepts
    exact (traffic.issued_eq issued).1
  constructor
  case lone =>
    cases next with
    | step taken => exact ordered.lone.rule calm (rule_of_step? taken).2
    | resume => exact ⟨Nat.zero_le 1, fun _ _ => rfl, rfl⟩
  case sorted =>
    intro h
    cases next with
    | step taken =>
      refine List.Pairwise.sublist ((rule_of_step? taken).2.line c withheld ordered.lone) ?_
      refine List.pairwise_append.2 ⟨ordered.sorted h, List.pairwise_singleton _ _,
        fun r hr r' hr' => ?_⟩
      rw [List.mem_singleton.1 hr']
      exact Loop.lt_next_of_line hr
    | resume p rest =>
      have sorted := ordered.sorted h
      rwa [line, reports, (atRest_iff.1 rest).2] at sorted
  case refused =>
    intro d hd
    have before : d ∈ x.deferrals →
        ∃ req status, d = .write req (.error status) ∧ ∀ h, took (past ++ [x]) h req = false := by
      intro hd
      obtain ⟨req, status, rfl, refused⟩ := ordered.refused d hd
      obtain ⟨_, _, _, pending⟩ := c.fits (mem_underway_iff.2 (.inr hd))
      refine ⟨req, status, rfl, fun h => ?_⟩
      rw [took_snoc (Registry.lt_next_of_get? pending) traffic]
      exact refused h
    cases next with
    | step taken =>
      obtain hd | ⟨h, data, callback, status, issued, answer, rfl⟩ :=
        (rule_of_step? taken).2.deferrals hd
      · exact before hd
      · refine ⟨_, status, rfl, fun k => Bool.eq_false_iff.2 fun mine => ?_⟩
        obtain ⟨callback', accepts⟩ := took_iff.1 mine
        rw [accepted_snoc] at accepts
        rcases List.mem_append.1 accepts with earlier | now
        · exact Nat.lt_irrefl _ (ordered.known k _ earlier)
        · obtain ⟨data', issued', ok⟩ := accepts?_eq_some.1 (Option.mem_toList.1 now)
          cases issued.symm.trans issued'
          rw [answer] at ok
          cases ok
    | resume p rest =>
      refine before ?_
      rwa [deferrals, (atRest_iff.1 rest).2]
  case increasing =>
    intro h
    rw [accepted_snoc]
    refine List.pairwise_append.2 ⟨ordered.increasing h, ?_, fun w hw w' hw' => ?_⟩
    · cases x.accepts? h <;> simp
    · rw [number (Option.mem_toList.1 hw')]
      exact ordered.known h w hw
  case known =>
    intro h w hw
    rw [accepted_snoc] at hw
    rcases List.mem_append.1 hw with hw | hw
    · exact Nat.lt_of_lt_of_le (ordered.known h w hw) le
    · obtain ⟨data, issued, -⟩ := accepts?_eq_some.1 (Option.mem_toList.1 hw)
      obtain ⟨number, requests, -⟩ := traffic.issued_eq issued
      rw [requests, number]
      exact Nat.lt_succ_self _
  case reported =>
    intro p hp
    rw [List.filterMap_append, List.mem_append] at hp
    refine Nat.lt_of_lt_of_le ?_ le
    rcases hp with hp | hp
    · exact ordered.reported p hp
    · obtain ⟨z, hz, reported⟩ := List.mem_filterMap.1 hp
      rw [List.mem_singleton.1 hz] at reported
      exact reported_lt c reported
  case told =>
    intro d hd
    rw [List.filterMap_append, List.mem_append] at hd
    refine Nat.lt_of_lt_of_le ?_ le
    rcases hd with hd | hd
    · exact ordered.told d hd
    · obtain ⟨z, hz, told⟩ := List.mem_filterMap.1 hd
      rw [List.mem_singleton.1 hz] at told
      exact delivered_lt traffic told
  case turns => exact ordered.turns_next c traffic

/-- Whether a handler is about to start a tick inside a tick. -/
def nests {H : Host} (m : Machine H) : Bool := m.reenters && m.stack.any Frame.isTick

/-- A handler that starts a tick where no ticks nest starts the only one. -/
theorem depth_of_calm (calm : m.nests = false) (reenters : m.reenters = true) : m.depth = 0 := by
  rw [nests, reenters, Bool.true_and] at calm
  exact List.countP_eq_zero.2 fun f hf tick =>
    Bool.false_ne_true (calm.symm.trans (List.any_eq_true.2 ⟨f, hf, tick⟩))

/-- What is said of runs without nested ticks holds along them. -/
theorem Ordered.of_run {options : Options} {shared : S} {p : Program (Memory.host S N C)}
    (run : Run Memory.transport enter (start p (.fresh options Memory.initial shared)) past m)
    (calm : ∀ z ∈ past, z.nests = false) : Ordered past m := by
  induction run with
  | refl =>
    refine ⟨⟨Nat.zero_le 1, fun _ _ => rfl, rfl⟩, fun h => .nil, ?_, fun h => .nil, ?_, ?_, ?_,
      fun h => ⟨[], [], ?_⟩⟩
    · intro d hd
      cases hd
    · intro h w hw
      cases hw
    · intro p hp
      cases hp
    · intro d hd
      cases hd
    · exact ⟨rfl, rfl, rfl, fun w hw => (List.not_mem_nil hw).elim,
        fun w hw => (List.not_mem_nil hw).elim⟩
  | @snoc before x y first next ih =>
    have ordered := ih fun z hz => calm z (List.mem_append_left _ hz)
    exact ordered.next (.of_run first)
      (Booked.of_run first).ledger.holding (depth_of_calm (calm x (by simp))) next

/-- What a shutdown that goes through finds waiting was issued after it. -/
theorem Ordered.waits_behind (ordered : Ordered past m) (c : m.Coupled)
    (turn : InTurn past m h done waiting) (reported : m.reported? = some (req, .ok ()))
    {callback : Callback C} (pending : m.loop.requests.get? req = some (.shutdown h callback)) :
    ∀ w ∈ waiting, req < w.1 := by
  have transported (d) (hd : d ∈ m.deferrals) : d.names req = false := by
    obtain ⟨req', status, rfl, -⟩ := ordered.refused d hd
    obtain ⟨_, _, _, write⟩ := c.fits (mem_underway_iff.2 (.inr hd))
    refine Bool.eq_false_iff.2 fun names => ?_
    obtain rfl : req' = req := by simpa [Completion.names, Completion.report?] using names
    cases pending.symm.trans write
  obtain ⟨d, report, names, fits, leads⟩ := c.first reported transported
  obtain rfl := fits.shutdown_of_report report pending
  obtain ⟨tail, line⟩ := leads h (Completion.turn?_of_pending pending (.ok ())).2
  intro w hw
  obtain ⟨data, write⟩ := turn.pends w hw
  have mine : took past h w.1 = true := took_iff.2 ⟨w.2, turn.accepted ▸ List.mem_append_right _ hw⟩
  have inLine := c.mem_line write (ordered.transported mine)
  have sorted := ordered.sorted h
  rw [line] at inLine sorted
  rcases List.mem_cons.1 inLine with same | later
  · rw [same] at write
    cases pending.symm.trans write
  · exact (List.pairwise_cons.1 sorted).1 _ later

/-- A request is pending when its outcome is taken up. -/
theorem Reached.pending_of_reported {before after : List (Machine (Memory.host S N C))}
    {i : Machine (Memory.host S N C)} {r : Request C} {status : Outcome}
    (reached : Reached Memory.transport enter (before ++ i :: after) m) (c : m.Coupled)
    (issued : i.issued? Memory.transport = some (req, r))
    (reported : m.reported? = some (req, status)) :
    m.loop.requests.get? req = some r := by
  obtain ⟨-, waits⟩ | ⟨_, _, _, _, _, split, answered⟩ := reached.answered issued
  · exact (waits m (by simp)).waiting
  · obtain ⟨_, shows⟩ := answered.last split
    obtain ⟨_, _, d, _, -, -, -, -, names, fits⟩ := c.fits_reported reported
    obtain ⟨r, pending⟩ := fits.pending names
    cases shows.waiting.symm.trans pending

/-- When a shutdown goes through, the writes that were issued before it are done. -/
theorem Ordered.done_before {options : Options} {shared : S} {p : Program (Memory.host S N C)}
    {early late : List (Machine (Memory.host S N C))} {s : Machine (Memory.host S N C)}
    {callback : Callback C}
    (run : Run Memory.transport enter (start p (.fresh options Memory.initial shared))
      (early ++ s :: late) m)
    (calm : ∀ z ∈ early ++ s :: late, z.nests = false)
    (turn : InTurn (early ++ s :: late) m h done waiting)
    (issued : s.issued? Memory.transport = some (req, .shutdown h callback))
    (reported : m.reported? = some (req, .ok ())) : accepted early h <+: done := by
  have ordered := Ordered.of_run run calm
  have c := Coupled.of_run run
  have pending :=
    Reached.pending_of_reported ⟨options, Memory.initial, shared, p, run⟩ c issued reported
  have behind := ordered.waits_behind c turn reported pending
  obtain ⟨first, rest⟩ := run.cut
  obtain ⟨-, y, next, -⟩ := rest.uncons
  have early_ordered := Ordered.of_run first fun z hz => calm z (List.mem_append_left _ hz)
  have number := ((traffic_of_next next).issued_eq issued).1
  have all : accepted early h <+: done ++ waiting := by
    rw [← turn.accepted, accepted, accepted, List.filterMap_append]
    exact List.prefix_append _ _
  obtain within | beyond := List.prefix_or_prefix_of_prefix all (List.prefix_append done waiting)
  · exact within
  · -- What is beyond those that are done would wait, but was issued before.
    obtain ⟨more, split⟩ := beyond
    cases more with
    | nil =>
      rw [List.append_nil] at split
      exact split ▸ List.prefix_rfl
    | cons w more =>
      rw [← split] at all
      have waits : w ∈ waiting := by
        have within : w :: more <+: waiting := (List.prefix_append_right_inj done).1 all
        exact within.subset List.mem_cons_self
      have known := early_ordered.known h w (by rw [← split]; simp)
      exact absurd (behind w waits) (Nat.not_lt_of_le (Nat.le_of_lt (number ▸ known)))

/-- The closure of a request is entered by the step that takes up its outcome. -/
theorem Traffic.told_by (traffic : Traffic Memory.transport x y) {d : Delivery C}
    (told : y.delivered? = some d) :
    ∃ status, x.issued? Memory.transport = none ∧ x.reported? = some (d.req, status) ∧
      (d.outcome = .ok () → status = .ok ()) := by
  cases traffic with
  | quiet _ _ _ _ untold | issue _ _ _ _ untold | settle _ _ _ _ _ _ untold
      | connected _ _ _ _ _ _ untold =>
    cases untold.symm.trans told
  | skip _ _ _ drops =>
    obtain ⟨t, c, stage, rest, -, -, rfl⟩ := drops
    cases told
  | @tell req status r c unissued reported _ _ _ _ told' =>
    obtain rfl := Option.some.inj (told'.symm.trans told)
    refine ⟨status, unissued, reported, fun ok => ?_⟩
    cases status with
    | ok => rfl
    | error => cases ok

/-- The order of callbacks along a run: `past` are the machines that it left behind, `m` is the one
it has come to. -/
structure KeepsOrder (past : List (Machine (Memory.host S N C))) (m : Machine (Memory.host S N C)) :
    Prop where
  /-- Of the writes on a handle that were not refused when they were issued, in the order of issue,
  the outcomes of the first ones were taken up, in this order, and their closures were entered, in
  this order, and no others. -/
  writes : ∀ h, ∃ done waiting,
    accepted past h = done ++ waiting ∧ answered past h = done.map (·.1) ∧
      called past m h = done.filterMap hears?
  /-- Callbacks of requests are entered one after another. -/
  alone : ∀ d, m.delivered? = some d → ∀ req h, .delivering req h ∉ m.stack.tail
  /-- When a shutdown goes through, all those of them were answered, and their closures entered,
  that were issued before it, whether a closure or a future hears of the shutdown. -/
  shutdowns : ∀ early s late req h callback, past = early ++ s :: late →
    s.issued? Memory.transport = some (req, .shutdown h callback) →
    m.reported? = some (req, .ok ()) → (accepted early h).map (·.1) <+: answered past h ∧
      (accepted early h).filterMap hears? <+: called past m h
  /-- So when the closure of a shutdown is entered with success, the closures of all those of them
  were entered that were issued before it. -/
  closures : ∀ early s late h callback d, past = early ++ s :: late →
    s.issued? Memory.transport = some (d.req, .shutdown h callback) → m.delivered? = some d →
    d.outcome = .ok () → (accepted early h).filterMap hears? <+: called past m h

end Machine

open Machine

/-- Along every run on a transport in memory in which no handler starts a tick inside a tick,
whatever handlers and scripts do besides, the callbacks of writes run in the order of issue, and
that of a shutdown that goes through after those of all writes before it. -/
theorem callbacks_keep_order {options : Options} {shared : S} {p : Program (Memory.host S N C)}
    {past : List (Machine (Memory.host S N C))} {m : Machine (Memory.host S N C)}
    (run : Run Memory.transport enter (start p (.fresh options Memory.initial shared)) past m)
    (calm : ∀ z ∈ past, z.nests = false) : KeepsOrder past m := by
  have ordered := Ordered.of_run run calm
  constructor
  case writes =>
    intro h
    obtain ⟨done, waiting, turn⟩ := ordered.turns h
    exact ⟨done, waiting, turn.accepted, turn.answered, turn.called⟩
  case alone =>
    intro d told req h
    exact ordered.lone.alone told req h
  case shutdowns =>
    rintro early s late req h callback rfl issued reported
    obtain ⟨done, waiting, turn⟩ := ordered.turns h
    have before := Ordered.done_before run calm turn issued reported
    rw [turn.answered, turn.called]
    exact ⟨before.map _, before.filterMap _⟩
  case closures =>
    rintro early s late h callback d split issued told ok
    cases run with
    | refl => cases told
    | @snoc before x _ first next =>
      have calm₁ := fun z hz => calm z (List.mem_append_left _ hz)
      have traffic := traffic_of_next next
      obtain ⟨status, unissued, reported, success⟩ := traffic.told_by told
      obtain rfl := success ok
      -- The shutdown was issued before the step that takes up its outcome.
      rcases List.eq_nil_or_concat late with rfl | ⟨late, x', rfl⟩
      · obtain rfl : x = s := by simpa using (List.append_inj' split rfl).2
        cases issued.symm.trans unissued
      · have split' : before ++ [x] = (early ++ s :: late) ++ [x'] := by simpa using split
        obtain ⟨rfl, same⟩ := List.append_inj' split' rfl
        obtain rfl : x = x' := by simpa using same
        have ordered₁ := Ordered.of_run first calm₁
        obtain ⟨done, waiting, turn⟩ := ordered₁.turns h
        have before := Ordered.done_before first calm₁ turn issued reported
        rw [ordered₁.called_snoc traffic, turn.called]
        exact (before.filterMap _).trans (List.prefix_append _ _)

/-- The client that holds back its writes, after so many steps. -/
def Client.patiently (steps : Nat) : Machine (Echo.host Memory Memory.Script) :=
  (Machine.start Client.patient (.fresh .standard Memory.initial ())).run Memory.transport
    (Echo.handlers _ _) steps

/-- When the shutdown of a client goes through, its two writes were answered in order, though all
three were held back. -/
theorem callbacks_keep_order_for_client :
    Run Memory.transport (Echo.handlers _ _) (Client.patiently 0)
      ((List.range 27).map Client.patiently) (Client.patiently 27) ∧
      (∀ z ∈ (List.range 27).map Client.patiently, z.nests = false) ∧
      KeepsOrder ((List.range 27).map Client.patiently) (Client.patiently 27) ∧
      (Client.patiently 27).reported?.map (·.1) = some 3 ∧
      (accepted ((List.range 27).map Client.patiently) 0).map (·.1) = [1, 2] ∧
      answered ((List.range 27).map Client.patiently) 0 = [1, 2] ∧
      (called ((List.range 27).map Client.patiently) (Client.patiently 27) 0).map (·.1) = [1] := by
  have goes : (List.range 27).all (fun k =>
      ((Client.patiently k).step? Memory.transport (Echo.handlers _ _)).isSome) = true := by
    decide +kernel
  have run : Run Memory.transport (Echo.handlers _ _) (Client.patiently 0)
      ((List.range 27).map Client.patiently) (Client.patiently 27) := .of_steps _ _ _ goes
  have calm : ∀ z ∈ (List.range 27).map Client.patiently, z.nests = false := by
    intro z hz
    obtain ⟨k, less, rfl⟩ := List.mem_map.1 hz
    have calm : ∀ k < 27, (Client.patiently k).nests = false := by decide +kernel
    exact calm k (List.mem_range.1 less)
  exact ⟨run, calm, callbacks_keep_order run calm, by decide +kernel, by decide +kernel,
    by decide +kernel, by decide +kernel⟩

end Reactor
