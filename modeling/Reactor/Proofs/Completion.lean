import Reactor.Proofs.Completion.Traffic
import Reactor.Proofs.References

/-!
# A request is answered once

The life of a request along a run: nothing is known of its number before the call that issues it;
then it waits until the first report that names it; that report enters its callback or settles its
future; and from then on every report that names it is dropped.
-/

namespace Reactor

variable {H : Host} {T : Transport H.Net H.Script} {enter : Handlers H}

/-- A poll of a future is answered with the outcome that its request was settled with. -/
theorem Loop.answer_future (l : Loop H) (f : Future) :
    l.answer T (.future f) = l.settled.lookup f.request := rfl

/-- What the future of a request shows once its outcome is there. -/
def Request.settlement {κ : Type} (r : Request κ) (outcome : RequestOutcome) :
    Option RequestOutcome :=
  match r.callback? with
  | some .promise => some outcome
  | _ => none

/-- The entering of a request's callback with its outcome, if it has one. -/
def Request.delivery {κ : Type} (r : Request κ) (req : RequestId) (outcome : RequestOutcome) :
    Option (Delivery κ) :=
  match r.callback? with
  | some (.closure c) => some ⟨req, r.handle, c, outcome⟩
  | _ => none

namespace Machine

/-- What a machine shows of the request with a number: the request while it waits, what a poll of
its future answers, and the entering of its callback. -/
structure Shows (m : Machine H) (T : Transport H.Net H.Script) (req : RequestId)
    (waiting : Option (Request H.Closure)) (future : Option RequestOutcome)
    (told : Option (Delivery H.Closure)) : Prop where
  waiting : m.loop.requests.get? req = waiting
  future : ∀ f : Future, f.request = req → m.loop.answer T (.future f) = future
  told : m.delivered?.filter (·.req = req) = told

/-- The next step takes no completion that names the request. -/
def Ignores (m : Machine H) (req : RequestId) : Prop := ∀ status, m.reported? ≠ some (req, status)

variable {x y m : Machine H} {past : List (Machine H)} {req : RequestId} {r : Request H.Closure}
  {future : Option RequestOutcome} {told : Option (Delivery H.Closure)}

namespace Shows

variable {waiting : Option (Request H.Closure)}

/-- A future is answered from the outcomes that the loop keeps. -/
theorem of_lookup (pending : m.loop.requests.get? req = waiting)
    (settled : m.loop.settled.lookup req = future)
    (delivered : m.delivered?.filter (·.req = req) = told) :
    m.Shows T req waiting future told where
  waiting := pending
  future := by
    rintro f rfl
    rw [Loop.answer_future, settled]
  told := delivered

/-- What a poll answers is the outcome that the loop keeps. -/
theorem settled (shows : m.Shows T req waiting future told) :
    m.loop.settled.lookup req = future :=
  shows.future ⟨req, ""⟩ rfl

end Shows

/-! ## One step -/

namespace Traffic

/-- A step takes back no number that was given out. -/
theorem next_le (traffic : Traffic T x y) : x.loop.requests.next ≤ y.loop.requests.next := by
  cases traffic with
  | quiet _ _ requests => exact Nat.le_of_eq (by rw [requests])
  | issue _ _ requests => rw [requests]; exact Nat.le_succ _
  | skip _ _ _ drops =>
    obtain ⟨t, c, stage, rest, -, -, rfl⟩ := drops
    exact Nat.le_refl _
  | tell _ _ _ _ requests | settle _ _ _ _ requests | connected _ _ _ _ requests =>
    exact Nat.le_of_eq (by rw [requests]; rfl)

/-- A step that neither issues a request nor takes its completion changes
nothing that is shown of it. -/
theorem keeps {waiting : Option (Request H.Closure)} (traffic : Traffic T x y)
    (shows : x.Shows T req waiting future told) (other : ∀ r, x.issued? T ≠ some (req, r))
    (quiet : waiting = none ∨ x.Ignores req) : y.Shows T req waiting future none := by
  obtain rfl := shows.waiting
  obtain rfl := shows.settled
  have apart {req' : RequestId} {status : Outcome} {r : Request H.Closure}
      (reported : x.reported? = some (req', status))
        (pending : x.loop.requests.get? req' = some r) : req' ≠ req := by
    rintro rfl
    obtain gone | ignored := quiet
    · rw [gone] at pending
      cases pending
    · exact ignored status reported
  cases traffic with
  | quiet _ _ requests settled untold =>
    exact .of_lookup (by rw [requests]) (by rw [settled]) (by rw [untold]; rfl)
  | issue issued _ requests settled untold =>
    have new : req ≠ x.loop.requests.next := fun heq => other _ (by rw [heq]; exact issued)
    exact .of_lookup (by rw [requests, Registry.get?_add, if_neg new]) (by rw [settled])
      (by rw [untold]; rfl)
  | skip _ _ _ drops =>
    obtain ⟨t, c, stage, rest, -, -, rfl⟩ := drops
    exact .of_lookup rfl rfl rfl
  | tell _ reported pending _ requests settled told =>
    have apart := apart reported pending
    exact .of_lookup (by rw [requests, Registry.get?_remove, if_neg apart]) (by rw [settled])
      (by rw [told]; simp [apart])
  | settle _ reported pending _ requests settled untold =>
    have apart := apart reported pending
    refine .of_lookup (by rw [requests, Registry.get?_remove, if_neg apart]) ?_
      (by rw [untold]; rfl)
    rw [settled, List.lookup_cons, beq_eq_false_iff_ne.2 (Ne.symm apart)]
  | connected _ reported pending _ requests settled untold =>
    have apart := apart reported pending
    exact .of_lookup (by rw [requests, Registry.get?_remove, if_neg apart]) (by rw [settled])
      (by rw [untold]; rfl)

/-- A step gives out no number but the next one. -/
theorem issued_eq (traffic : Traffic T x y) (issued : x.issued? T = some (req, r)) :
    req = x.loop.requests.next ∧ y.loop.requests = x.loop.requests.add r ∧
      y.loop.settled = x.loop.settled ∧ y.delivered? = none := by
  cases traffic with
  | issue issued' _ requests settled untold =>
    rw [issued'] at issued
    cases issued
    exact ⟨rfl, requests, settled, untold⟩
  | quiet issued' | skip issued' | tell issued' | settle issued' | connected issued' =>
    rw [issued'] at issued
    cases issued

/-- A number that is not given out yet stays unknown, unless the step gives it out. -/
theorem unknown (traffic : Traffic T x y) (shows : x.Shows T req none none told)
    (unissued : y.loop.requests.next ≤ req) :
    y.Shows T req none none none := by
  refine traffic.keeps shows (fun r issued => ?_) (.inl rfl)
  obtain ⟨rfl, requests, -⟩ := traffic.issued_eq issued
  rw [requests] at unissued
  exact Nat.not_succ_le_self _ unissued

/-- The step that issues a request leaves it waiting. -/
theorem starts (traffic : Traffic T x y) (shows : x.Shows T req none none told)
    (issued : x.issued? T = some (req, r)) :
    y.Shows T req (some r) none none := by
  obtain ⟨rfl, requests, settled, untold⟩ := traffic.issued_eq issued
  exact .of_lookup (by rw [requests, Registry.get?_add, if_pos rfl])
    (by rw [settled, shows.settled]) (by rw [untold]; rfl)

/-- A request waits until it is reported. -/
theorem waits (traffic : Traffic T x y) (shows : x.Shows T req (some r) future told)
    (quiet : x.Ignores req) :
    y.Shows T req (some r) future none := by
  refine traffic.keeps shows (fun r' issued => ?_) (.inr quiet)
  obtain ⟨rfl, -⟩ := traffic.issued_eq issued
  exact Nat.lt_irrefl _ (Registry.lt_next_of_get? shows.waiting)

/-- Nothing more comes of a request that was answered. -/
theorem rests (traffic : Traffic T x y) (shows : x.Shows T req none future told)
    (issued : req < x.loop.requests.next) :
    y.Shows T req none future none := by
  refine traffic.keeps shows (fun r' issued' => ?_) (.inl rfl)
  obtain ⟨rfl, -⟩ := traffic.issued_eq issued'
  exact Nat.lt_irrefl _ issued

/-- A request that waits after a step, and whose number was given out before it,
has waited before it. -/
theorem waited (traffic : Traffic T x y) (issued : req < x.loop.requests.next)
    (waiting : y.loop.requests.get? req = some r) : x.loop.requests.get? req = some r := by
  cases traffic with
  | quiet _ _ requests => rwa [requests] at waiting
  | issue _ _ requests => rwa [requests, Registry.get?_add, if_neg (Nat.ne_of_lt issued)] at waiting
  | skip _ _ _ drops =>
    obtain ⟨t, c, stage, rest, -, -, rfl⟩ := drops
    exact waiting
  | tell _ _ _ _ requests | settle _ _ _ _ requests | connected _ _ _ _ requests =>
    rw [requests] at waiting
    exact (Registry.get?_of_remove waiting).2

/-- The first report of a request ends its waiting. -/
theorem ends (traffic : Traffic T x y) {status : Outcome} (shows : x.Shows T req (some r) none told)
    (reported : x.reported? = some (req, status)) :
    y.Shows T req none (r.settlement (outcomeAt r.place status))
      (r.delivery req (outcomeAt r.place status)) := by
  have there := shows.waiting
  have same {req' : RequestId} {status' : Outcome} {r' : Request H.Closure}
      (reported' : x.reported? = some (req', status'))
      (pending : x.loop.requests.get? req' = some r') : req' = req ∧ status' = status ∧ r' = r := by
    obtain ⟨rfl, rfl⟩ := Prod.mk.inj (Option.some.inj (reported'.symm.trans reported))
    exact ⟨rfl, rfl, Option.some.inj (pending.symm.trans there)⟩
  cases traffic with
  | quiet _ reported' | issue _ reported' =>
    rw [reported'] at reported
    cases reported
  | skip _ reported' gone =>
    rw [reported'] at reported
    cases reported
    rw [gone] at there
    cases there
  | tell _ reported' pending callback requests settled told =>
    obtain ⟨rfl, rfl, rfl⟩ := same reported' pending
    refine .of_lookup (by rw [requests, Registry.get?_remove, if_pos rfl]) ?_ ?_
    · rw [settled, shows.settled, Request.settlement, callback]
    · rw [told, Request.delivery, callback]
      simp
  | settle _ reported' pending callback requests settled untold =>
    obtain ⟨rfl, rfl, rfl⟩ := same reported' pending
    refine .of_lookup (by rw [requests, Registry.get?_remove, if_pos rfl]) ?_ ?_
    · rw [settled, Request.settlement, callback, List.lookup_cons_self]
    · rw [untold, Request.delivery, callback]
      rfl
  | connected _ reported' pending callback requests settled untold =>
    obtain ⟨rfl, rfl, rfl⟩ := same reported' pending
    refine .of_lookup (by rw [requests, Registry.get?_remove, if_pos rfl]) ?_ ?_
    · rw [settled, shows.settled, Request.settlement, callback]
    · rw [untold, Request.delivery, callback]
      rfl

end Traffic

/-! ## Runs -/

/-- A request that is reported is pending no longer. -/
theorem Traffic.gone (traffic : Traffic T x y) {status : Outcome}
    (reported : x.reported? = some (req, status)) :
    y.loop.requests.get? req = none := by
  cases traffic with
  | quiet _ reported' | issue _ reported' =>
    rw [reported'] at reported
    cases reported
  | skip _ reported' gone drops =>
    rw [reported'] at reported
    cases reported
    obtain ⟨t, c, stage, rest, -, -, rfl⟩ := drops
    exact gone
  | tell _ reported' _ _ requests | settle _ reported' _ _ requests
      | connected _ reported' _ _ requests =>
    rw [reported'] at reported
    cases reported
    rw [requests, Registry.get?_remove, if_pos rfl]

/-- A run takes back no number that was given out. -/
theorem Run.next_le {later : List (Machine H)} (run : Run T enter x later y) :
    x.loop.requests.next ≤ y.loop.requests.next :=
  run.keeps (fun _ _ le next => Nat.le_trans le (traffic_of_next next).next_le) (Nat.le_refl _)

/-- Nothing is known of a number that no call has returned yet. -/
theorem Reached.unknown (reached : Reached T enter past m) (unissued : m.loop.requests.next ≤ req) :
    m.Shows T req none none none := by
  refine reached.history (P := fun _ m => m.loop.requests.next ≤ req → m.Shows T req none none none)
    ?_ ?_ unissued
  · intro options net shared p _
    exact .of_lookup rfl rfl rfl
  · intro past x y _ ih next unissued
    have traffic := traffic_of_next next
    exact traffic.unknown (ih (Nat.le_trans traffic.next_le unissued)) unissued

/-- A request that waits was issued by a call. -/
theorem Reached.issued (reached : Reached T enter past m)
    (waiting : m.loop.requests.get? req = some r) :
    ∃ i ∈ past, i.issued? T = some (req, r) := by
  refine reached.history (P := fun past m =>
    m.loop.requests.get? req = some r → ∃ i ∈ past, i.issued? T = some (req, r))
    ?_ ?_ waiting
  · intro options net shared p pending
    cases pending
  · intro past x y _ ih next pending
    have earlier (pending : x.loop.requests.get? req = some r) :
        ∃ i ∈ past ++ [x], i.issued? T = some (req, r) := by
      obtain ⟨i, hi, issued⟩ := ih pending
      exact ⟨i, List.mem_append_left _ hi, issued⟩
    cases traffic_of_next next with
    | quiet _ _ requests => exact earlier (by rwa [requests] at pending)
    | issue issued _ requests =>
      rw [requests, Registry.get?_add] at pending
      split at pending
      case isTrue heq =>
        cases pending
        exact ⟨x, by simp, by rw [heq]; exact issued⟩
      case isFalse => exact earlier pending
    | skip _ _ _ drops =>
      obtain ⟨t, c, stage, rest, -, -, rfl⟩ := drops
      exact earlier pending
    | tell _ _ _ _ requests | settle _ _ _ _ requests | connected _ _ _ _ requests =>
      rw [requests] at pending
      exact earlier (Registry.get?_of_remove pending).2

/-- The part of a run in which a request is answered. It waits, through machines whose steps ignore
it and then the machine `d` that takes the first report of it; `y` comes after the report, and
`later` after that. -/
structure Answered (T : Transport H.Net H.Script) (req : RequestId) (r : Request H.Closure)
    (status : Outcome) (waiting : List (Machine H)) (d y : Machine H) (later : List (Machine H)) :
    Prop where
  ignored : ∀ x ∈ waiting, x.Ignores req
  reported : d.reported? = some (req, status)
  waits : ∀ x ∈ waiting ++ [d], x.Shows T req (some r) none none
  answers : y.Shows T req none (r.settlement (outcomeAt r.place status))
    (r.delivery req (outcomeAt r.place status))
  rests : ∀ x ∈ later, x.Shows T req none (r.settlement (outcomeAt r.place status)) none

/-- The last machine of a run in which a request was answered shows the answer. -/
theorem Answered.last {status : Outcome} {before waiting later : List (Machine H)} {d z : Machine H}
    (answered : Answered T req r status waiting d z later)
    (split : before ++ [m] = waiting ++ d :: z :: later) :
    ∃ told, m.Shows T req none (r.settlement (outcomeAt r.place status)) told := by
  rcases List.eq_nil_or_concat later with rfl | ⟨later, w, rfl⟩
  · have last : before ++ [m] = (waiting ++ [d]) ++ [z] := by simpa using split
    obtain rfl : m = z := by simpa using (List.append_inj' last rfl).2
    exact ⟨_, answered.answers⟩
  · have last : before ++ [m] = (waiting ++ d :: z :: later) ++ [w] := by simpa using split
    obtain rfl : m = w := by simpa using (List.append_inj' last rfl).2
    exact ⟨_, answered.rests m (by simp)⟩

/-- A request that waits goes on to wait, or is answered once. -/
theorem Run.answered {later : List (Machine H)} (run : Run T enter x later y)
    (waits : x.Shows T req (some r) none none) :
    (∀ z ∈ later, z.Ignores req) ∧ (∀ z ∈ later ++ [y], z.Shows T req (some r) none none) ∨
      ∃ waiting d z rest status,
        later ++ [y] = waiting ++ d :: z :: rest ∧ Answered T req r status waiting d z rest := by
  induction run with
  | refl => exact .inl ⟨by simp, by simpa using waits⟩
  | @snoc later x₁ x₂ first next ih =>
    have traffic := traffic_of_next next
    obtain ⟨ignored, waited⟩ | ⟨waiting, d, z, rest, status, split, answered⟩ := ih
    · have shows := waited x₁ (by simp)
      by_cases quiet : x₁.Ignores req
      · refine .inl ⟨fun z hz => ?_, fun z hz => ?_⟩
        · rcases List.mem_append.1 hz with hz | hz
          · exact ignored z hz
          · rwa [List.mem_singleton.1 hz]
        · rcases List.mem_append.1 hz with hz | hz
          · exact waited z hz
          · rw [List.mem_singleton.1 hz]
            exact traffic.waits shows quiet
      · obtain ⟨status, reported⟩ : ∃ status, x₁.reported? = some (req, status) := by
          simpa [Ignores] using quiet
        exact .inr ⟨later, x₁, x₂, [], status, by simp, ignored, reported, waited,
          traffic.ends shows reported, by simp⟩
    · refine .inr ⟨waiting, d, z, rest ++ [x₂], status, by simp [split], answered.ignored,
        answered.reported, answered.waits, answered.answers, fun z' hz' => ?_⟩
      rcases List.mem_append.1 hz' with hz' | hz'
      · exact answered.rests z' hz'
      · rw [List.mem_singleton.1 hz']
        obtain ⟨told, shows⟩ := answered.last split
        exact traffic.rests shows
          (Nat.lt_of_lt_of_le (Registry.lt_next_of_get? waits.waiting) first.next_le)

/-- From the call that issued it on, a request waits, or is answered once. -/
theorem Reached.answered {before after : List (Machine H)} {i : Machine H}
    (reached : Reached T enter (before ++ i :: after) m) (issued : i.issued? T = some (req, r)) :
    (∀ z ∈ after, z.Ignores req) ∧ (∀ z ∈ after ++ [m], z.Shows T req (some r) none none) ∨
      ∃ waiting d z rest status,
        after ++ [m] = waiting ++ d :: z :: rest ∧ Answered T req r status waiting d z rest := by
  obtain ⟨first, run⟩ := reached.cut
  obtain ⟨-, y, next, rest⟩ := run.uncons
  have traffic := traffic_of_next next
  have unknown := first.unknown (Nat.le_of_eq (traffic.issued_eq issued).1.symm)
  exact rest.answered (traffic.starts unknown issued)

/-- Nothing but its waiting is shown of a request that waits. -/
theorem Reached.waits (reached : Reached T enter past m)
    (waiting : m.loop.requests.get? req = some r) :
    m.Shows T req (some r) none none := by
  obtain ⟨i, hi, issued⟩ := reached.issued waiting
  obtain ⟨before, after, rfl⟩ := List.append_of_mem hi
  obtain ⟨-, waits⟩ | ⟨_, d, z, later, status, split, answered⟩ := reached.answered issued
  · exact waits m (by simp)
  · obtain ⟨told, shows⟩ := answered.last split
    rw [shows.waiting] at waiting
    cases waiting

/-- A callback of a request is entered only above the frame of its delivery. -/
theorem Rule.completed {c : H.Closure} {h : HandleId} {outcome : RequestOutcome}
    (rule : Rule T enter x y) (entered : y.control = .enter c (.completed h outcome)) :
    ∃ req rest, y.stack = .delivering req h :: rest := by
  cases rule with
  | @completeWrite l stack t _ stage req status h' data callback =>
    cases callback with
    | closure c' => cases entered; exact ⟨_, _, rfl⟩
    | promise => cases entered
  | @completeShutdown l stack t _ stage req status h' callback =>
    cases callback with
    | closure c' => cases entered; exact ⟨_, _, rfl⟩
    | promise => cases entered
  | _ => cases entered

/-- When the callback of a request is entered, its handle is there, and referenced. -/
theorem Reached.completed (reached : Reached T enter past m) {c : H.Closure} {h : HandleId}
    {outcome : RequestOutcome} (entered : m.control = .enter c (.completed h outcome)) :
    (∃ req, m.delivered? = some ⟨req, h, c, outcome⟩) ∧
      ∃ x, m.loop.handles.get? h = some x ∧ 1 ≤ x.refs := by
  obtain ⟨req, rest, stack⟩ : ∃ req rest, m.stack = .delivering req h :: rest := by
    refine reached.history (P := fun _ m => m.control = .enter c (.completed h outcome) →
      ∃ req rest, m.stack = .delivering req h :: rest) ?_ ?_ entered
    · intro options net shared p entered
      cases entered
    · intro past x y _ _ next entered
      cases next with
      | step taken => exact (rule_of_step? taken).2.completed entered
      | resume => cases entered
  refine ⟨⟨req, by simp [delivered?, entered, stack]⟩, ?_⟩
  have balanced := Balanced.of_reached reached
  rw [Balanced, stack] at balanced
  obtain ⟨x, found⟩ := Option.isSome_iff_exists.1 (balanced.present List.mem_cons_self)
  have counted := balanced.refs found
  exact ⟨x, found, by rw [counted, List.flatMap_cons]; simp [Frame.held]; omega⟩

/-! ## The whole run -/

/-- What a run makes of the requests: `past` are the machines that it left behind, `m` is
the one it has come to. -/
structure AnswersOnce (T : Transport H.Net H.Script) (past : List (Machine H)) (m : Machine H) :
    Prop where
  /-- A call that issues a request hands it to the transport under the number it returns. Up to the
  call nothing is known of the number. After it the request waits until its first report, which
  answers it for good. -/
  calls : ∀ before i after req r, past = before ++ i :: after → i.issued? T = some (req, r) →
    (∀ x ∈ before ++ [i], x.Shows T req none none none) ∧
    (∀ y rest, after ++ [m] = y :: rest → i.loop.Hands T req r y.loop) ∧
    ((∀ x ∈ after, x.Ignores req) ∧ (∀ x ∈ after ++ [m], x.Shows T req (some r) none none) ∨
      ∃ waiting d y later status, after ++ [m] = waiting ++ d :: y :: later ∧
        Answered T req r status waiting d y later)
  /-- A report that names no waiting request, because it was answered or never
  issued, changes nothing. -/
  reports : ∀ before x y after req status, past ++ [m] = before ++ x :: y :: after →
    x.reported? = some (req, status) →
    x.Drops y ∨ ∃ r, x.loop.requests.get? req = some r ∧ ∃ i ∈ before, i.issued? T = some (req, r)
  /-- A call that issues no request leaves the requests and the futures alone
  and enters no callback. -/
  refusals : ∀ before x y after o next, past ++ [m] = before ++ x :: y :: after →
    x.control = .run (.call (.issue o) next) → o.issued? (x.loop.issue T o).1 = none →
    y.loop.requests = x.loop.requests ∧
      (∀ f : Future, y.loop.answer T (.future f) = x.loop.answer T (.future f)) ∧
      y.delivered? = none
  /-- A program that polls a future goes on with what is shown of its request. -/
  polls : ∀ before x y after f next, past ++ [m] = before ++ x :: y :: after →
    x.control = .run (.call (.ask (.future f)) next) →
    y = { x with control := .run (next (x.loop.answer T (.future f))) }
  /-- A callback is entered only for the call that was given it. -/
  deliveries : ∀ before y after d, past ++ [m] = before ++ y :: after → y.delivered? = some d →
    ∃ i ∈ before, ∃ r, i.issued? T = some (d.req, r) ∧ r.callback? = some (.closure d.closure) ∧
      r.handle = d.handle
  /-- When a callback is entered, the handle of its request is there, and referenced. -/
  handles : ∀ c h outcome, m.control = .enter c (.completed h outcome) →
    (∃ req, m.delivered? = some ⟨req, h, c, outcome⟩) ∧
      ∃ x, m.loop.handles.get? h = some x ∧ 1 ≤ x.refs

/-- A step that issues a request hands it to the transport. -/
theorem Next.hands (next : Next T enter x y) (issued : x.issued? T = some (req, r)) :
    x.loop.Hands T req r y.loop := by
  cases next with
  | step taken =>
    cases (rule_of_step? taken).2 with
    | issue => exact Loop.hands_issue T _ _ issued
    | _ => cases issued
  | resume p rest =>
    obtain ⟨⟨failure, control⟩, -⟩ := atRest_iff.1 rest
    simp [issued?, control] at issued

/-- A program that polls a future is given the answer, and nothing else happens. -/
theorem Next.polls (next : Next T enter x y) {f : Future} {go : Option RequestOutcome → Program H}
    (control : x.control = .run (.call (.ask (.future f)) go)) :
    y = { x with control := .run (go (x.loop.answer T (.future f))) } := by
  cases next with
  | step taken =>
    cases (rule_of_step? taken).2 with
    | ask => cases control; rfl
    | _ => cases control
  | resume p rest =>
    obtain ⟨⟨failure, ended⟩, -⟩ := atRest_iff.1 rest
    rw [ended] at control
    cases control

/-- Two machines that follow each other in a run were reached, the second from the first. -/
theorem Reached.next {before after : List (Machine H)} (reached : Reached T enter past m)
    (split : past ++ [m] = before ++ x :: y :: after) :
    Reached T enter before x ∧ Next T enter x y := by
  obtain ⟨options, net, shared, p, run⟩ := reached
  obtain ⟨first, next⟩ := run.pair split
  exact ⟨⟨options, net, shared, p, first⟩, next⟩

/-- A machine that enters a handler comes after another one. -/
theorem Reached.previous (reached : Reached T enter past m) {c : H.Closure} {o : Occasion}
    (entered : m.control = .enter c o) :
    ∃ before x, past = before ++ [x] ∧ Reached T enter before x ∧ Next T enter x m := by
  obtain ⟨options, net, shared, p, run⟩ := reached
  cases run with
  | refl => cases entered
  | @snoc before x _ first next => exact ⟨before, x, rfl, ⟨options, net, shared, p, first⟩, next⟩

/-- A callback that is entered is the one of a request that waited until then. -/
theorem Traffic.delivered (traffic : Traffic T x y) {d : Delivery H.Closure}
    (told : y.delivered? = some d) :
    ∃ r, x.loop.requests.get? d.req = some r ∧ r.callback? = some (.closure d.closure) ∧
      r.handle = d.handle := by
  cases traffic with
  | quiet _ _ _ _ untold | issue _ _ _ _ untold | settle _ _ _ _ _ _ untold
      | connected _ _ _ _ _ _ untold =>
    rw [untold] at told
    cases told
  | skip _ _ _ drops =>
    obtain ⟨t, c, stage, rest, -, -, rfl⟩ := drops
    cases told
  | tell _ _ pending callback _ _ told' =>
    rw [told'] at told
    cases told
    exact ⟨_, pending, callback, rfl⟩

end Machine

open Machine

/-- Along every run, on any transport and with any handlers, each request that was issued is
answered at most once, by the first report that names it, and no other report has an effect. -/
theorem requests_answered_once {past : List (Machine H)} {m : Machine H}
    (reached : Reached T enter past m) :
    AnswersOnce T past m where
  calls before i after req r split issued := by
    subst split
    obtain ⟨first, run⟩ := reached.cut
    obtain ⟨-, y, next, rest⟩ := run.uncons
    refine ⟨fun x hx => ?_, fun y' rest' split => ?_, reached.answered issued⟩
    · obtain ⟨rfl, -⟩ := (traffic_of_next next).issued_eq issued
      rcases List.mem_append.1 hx with hx | hx
      · obtain ⟨a, b, rfl⟩ := List.append_of_mem hx
        obtain ⟨reached, run⟩ := first.cut
        exact reached.unknown run.next_le
      · rw [List.mem_singleton.1 hx]
        exact first.unknown (Nat.le_refl _)
    · obtain rfl := rest.head_eq split
      exact next.hands issued
  reports before x y after req status split reported := by
    obtain ⟨reached, next⟩ := reached.next split
    cases traffic_of_next next with
    | quiet _ reported' | issue _ reported' =>
      rw [reported'] at reported
      cases reported
    | skip _ _ _ drops => exact .inl drops
    | tell _ reported' pending | settle _ reported' pending | connected _ reported' pending =>
      rw [reported'] at reported
      cases reported
      exact .inr ⟨_, pending, reached.issued pending⟩
  refusals before x y after o next split control refused := by
    obtain ⟨-, next⟩ := reached.next split
    have silent : x.reported? = none := by simp [reported?, control]
    cases traffic_of_next next with
    | quiet _ _ requests settled untold =>
      exact ⟨requests, fun f => by rw [Loop.answer_future, Loop.answer_future, settled], untold⟩
    | issue issued =>
      rw [issued?, control] at issued
      simp only [refused] at issued
      cases issued
    | skip _ reported | tell _ reported | settle _ reported | connected _ reported =>
      rw [silent] at reported
      cases reported
  polls before x y after f next split control := (reached.next split).2.polls control
  deliveries before y after d split told := by
    rcases List.eq_nil_or_concat before with rfl | ⟨before, x, rfl⟩
    · obtain ⟨options, net, shared, p, run⟩ := reached
      obtain rfl := run.head_eq split
      cases told
    · obtain ⟨reached, next⟩ := reached.next (by simpa using split)
      obtain ⟨r, pending, callback, handle⟩ := (traffic_of_next next).delivered told
      obtain ⟨i, hi, issued⟩ := reached.issued pending
      exact ⟨i, by simp [hi], r, issued, callback, handle⟩
  handles c h outcome entered := reached.completed entered

namespace Client

open Memory (Script)

/-- A client that connects and writes twice, for a callback and for a future, and polls the future
before the next tick and after it. It fails unless the future is ready the second time only. -/
def polling : Program (Echo.host Memory Script) :=
  .call (.issue (.newHandle .tcp)) fun (h : HandleId) =>
  .call (.issue (.connect h (.v4 ⟨127, 0, 0, 1⟩ 80))) fun _ =>
  .call (.tick .idle) fun _ =>
  .call (.issue (.write h [1] (.closure Echo.Closure.afterWrite))) fun _ =>
  .call (.issue (.write h [2] .promise)) <| Program.orRefuse fun (req : RequestId) =>
  .call (.ask (.future ⟨req, "after_write"⟩)) fun (early : Option RequestOutcome) =>
  .call (.tick .idle) fun _ =>
  .call (.ask (.future ⟨req, "after_write"⟩)) fun (late : Option RequestOutcome) =>
  match early, late with
  | none, some (.ok ()) => .skip
  | _, _ => .refuse (.badHandle h)

/-- The client that polls after so many steps; its second write is issued in the step after 15. -/
def polled (steps : Nat) : Machine (Echo.host Memory Script) :=
  (start polling (.fresh .standard Memory.initial ())).run Memory.transport (Echo.handlers _ _)
    steps

/-- What the client comes to from one of its machines on. -/
theorem run_polled (steps more : Nat) :
    (polled steps).run Memory.transport (Echo.handlers _ _) more = polled (steps + more) :=
  (run_add Memory.transport (Echo.handlers _ _)
    (start polling (.fresh .standard Memory.initial ())) steps more).symm

end Client

/-- The client that polls comes to its end without a failure. The future of its second write is not
ready at any poll up to the first report of that write, and at every poll after it the outcome is
there; the callback of its first write is entered for a call that is past. -/
theorem requests_answered_once_for_client :
    (∃ before after,
      Reached Memory.transport (Echo.handlers _ _) (before ++ Client.polled 15 :: after)
        (Client.polled 32) ∧
      (Client.polled 15).issued? Memory.transport = some (2, .write 0 [2] .promise) ∧
      (Client.polled 32).control = .returned none ∧
      ∃ waiting d y later status,
        after ++ [Client.polled 32] = waiting ++ d :: y :: later ∧
        d.reported? = some (2, status) ∧
        (∀ x ∈ waiting ++ [d],
          x.loop.answer Memory.transport (.future ⟨2, "after_write"⟩) = none) ∧
        ∀ x ∈ y :: later,
          x.loop.answer Memory.transport (.future ⟨2, "after_write"⟩) = some (.ok ())) ∧
    ∃ past,
      Reached Memory.transport (Echo.handlers _ _) past (Client.polled 20) ∧
      (Client.polled 20).delivered? = some ⟨1, 0, .afterWrite, .ok ()⟩ ∧
      ∃ i ∈ past, ∃ r, i.issued? Memory.transport = some (1, r) ∧ r.handle = 0 := by
  constructor
  · obtain ⟨before, (first : Run _ _ _ before (Client.polled 15)), -⟩ :=
      Run.exists_of_run Memory.transport (Echo.handlers _ _)
        (start Client.polling (.fresh .standard Memory.initial ())) 15
    obtain ⟨after, second, -⟩ := Run.exists_of_run Memory.transport (Echo.handlers _ _)
      (Client.polled 16) 16
    have taken : (Client.polled 15).step? Memory.transport (Echo.handlers _ _) =
        some (Client.polled 16) := by rfl
    rw [Client.run_polled] at second
    have run : Run Memory.transport (Echo.handlers _ _)
        (start Client.polling (.fresh .standard Memory.initial ()))
        (before ++ Client.polled 15 :: after) (Client.polled 32) := by
      simpa using (first.snoc (.step taken)).trans second
    have reached : Reached Memory.transport (Echo.handlers _ _)
        (before ++ Client.polled 15 :: after) (Client.polled 32) :=
      ⟨.standard, Memory.initial, (), Client.polling, run⟩
    have issued : (Client.polled 15).issued? Memory.transport =
        some (2, .write 0 [2] .promise) := by rfl
    have ready : (Client.polled 32).loop.answer Memory.transport (.future ⟨2, "after_write"⟩) =
        some (.ok ()) := by rfl
    obtain ⟨-, -, ⟨-, waits⟩ | ⟨waiting, d, y, later, status, split, answered⟩⟩ :=
      (requests_answered_once reached).calls before _ after 2 _ rfl issued
    · have early := (waits (Client.polled 32) (by simp)).future ⟨2, "after_write"⟩ rfl
      rw [ready] at early
      cases early
    · -- The last machine shows the outcome that all machines after the report show.
      obtain ⟨told, shows⟩ := answered.last split
      have outcome := (shows.future ⟨2, "after_write"⟩ rfl).symm.trans ready
      refine ⟨before, after, reached, issued, by rfl, waiting, d, y, later, status, split,
        answered.reported, fun x hx => (answered.waits x hx).future _ rfl, fun x hx => ?_⟩
      rcases List.mem_cons.1 hx with rfl | hx
      · exact (answered.answers.future _ rfl).trans outcome
      · exact ((answered.rests x hx).future _ rfl).trans outcome
  · obtain ⟨past, run, -⟩ := Run.exists_of_run Memory.transport (Echo.handlers _ _)
      (start Client.polling (.fresh .standard Memory.initial ())) 20
    have reached : Reached Memory.transport (Echo.handlers _ _) past (Client.polled 20) :=
      ⟨.standard, Memory.initial, (), Client.polling, run⟩
    have told : (Client.polled 20).delivered? = some ⟨1, 0, .afterWrite, .ok ()⟩ := by rfl
    obtain ⟨i, hi, r, issued, -, handle⟩ :=
      (requests_answered_once reached).deliveries past _ [] _ rfl told
    exact ⟨past, reached, told, i, hi, r, issued, handle⟩

end Reactor
