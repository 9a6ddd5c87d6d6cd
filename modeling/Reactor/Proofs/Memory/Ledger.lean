import Reactor.Proofs.Memory.Places

/-!
# The writes that a transport in memory has a record of

A write goes through at once, fails, or is held back; what is held back goes through with a flush or
is canceled with a close. The ledger compares what an endpoint has with the writes that were issued
and the outcomes that were reported: it was sent what went through, in the order of issue, and holds
back what has no outcome yet.
-/

namespace Reactor

/-- The outcome of a write, under the number of the write, that a completion reports. -/
def Completion.written? : Completion → Option (RequestId × Outcome)
  | .write req outcome => some (req, outcome)
  | _ => none

/-- Outcomes of writes, each under the number of its write. -/
abbrev Outcomes := List (RequestId × Outcome)

namespace Outcomes

/-- Whether a write has an outcome. -/
def has (outcomes : Outcomes) (req : RequestId) : Bool := outcomes.any (·.1 = req)

/-- Whether a write has gone through. -/
def succeeded (outcomes : Outcomes) (req : RequestId) : Bool :=
  outcomes.any fun p => p.1 = req && p.2.isOk

variable {outcomes outcomes' : Outcomes} {req : RequestId}

/-- A write has an outcome when one is recorded under its number. -/
theorem has_iff : outcomes.has req = true ↔ ∃ outcome, (req, outcome) ∈ outcomes := by
  simp [has]

/-- A write has gone through when success is recorded under its number. -/
theorem succeeded_iff : outcomes.succeeded req = true ↔ (req, .ok ()) ∈ outcomes := by
  simp only [succeeded, List.any_eq_true, Bool.and_eq_true, decide_eq_true_eq]
  constructor
  · rintro ⟨⟨_, outcome⟩, there, rfl, ok⟩
    cases outcome with
    | ok => exact there
    | error => cases ok
  · intro there
    exact ⟨_, there, rfl, rfl⟩

/-- A write that has gone through has an outcome. -/
theorem has_of_succeeded (succeeded : outcomes.succeeded req = true) : outcomes.has req = true :=
  has_iff.2 ⟨_, succeeded_iff.1 succeeded⟩

/-- A write without an outcome has not gone through. -/
theorem unsent (open_ : outcomes.has req = false) : outcomes.succeeded req = false :=
  Bool.eq_false_iff.2 fun sent => Bool.false_ne_true (open_.symm.trans (has_of_succeeded sent))

end Outcomes

/-- Nothing is written to an endpoint, and it holds the same writes back. It may be shut when it
holds none back. -/
structure Endpoint.Calm (e e' : Endpoint) : Prop where
  sent : e'.sent = e.sent
  held : e'.held = e.held
  closed : e'.closed = e.closed
  shut : e.shut = true → e'.shut = true
  shuts : e'.shut = true → e.shut = true ∨ e.held.toList = []

/-- An endpoint is calm when nothing happens to it. -/
theorem Endpoint.Calm.refl (e : Endpoint) : e.Calm e := ⟨rfl, rfl, rfl, id, .inl⟩

/-- No more can be written to the stream behind an endpoint. -/
def Endpoint.Over (e : Endpoint) : Prop := e.shut = true ∨ e.closed = true

namespace Memory

/-- Nothing is written, and the same is held back. -/
structure Calm (m m' : Memory) : Prop where
  endpoint : ∀ k, (m.endpoint k).Calm (m'.endpoint k)
  holding : m.holding = true → m'.holding = true

namespace Calm

variable {m m' m'' : Memory} {h : HandleId}

/-- Doing nothing is calm. -/
theorem refl (m : Memory) : m.Calm m := ⟨fun _ => .refl _, id⟩

/-- Calm moves compose. -/
theorem trans (first : m.Calm m') (second : m'.Calm m'') : m.Calm m'' := by
  refine ⟨fun k => ?_, second.holding ∘ first.holding⟩
  have a := first.endpoint k
  have b := second.endpoint k
  refine ⟨b.sent.trans a.sent, b.held.trans a.held, b.closed.trans a.closed, b.shut ∘ a.shut,
    fun shut => ?_⟩
  obtain before | none := b.shuts shut
  · exact a.shuts before
  · exact .inr (a.held ▸ none)

/-- Changing an endpoint calmly is a calm move. -/
theorem update {f : Endpoint → Endpoint} (same : (m.endpoint h).Calm (f (m.endpoint h))) :
    m.Calm (m.update h f) := by
  refine ⟨fun k => ?_, id⟩
  rw [endpoint_update]
  split
  case isTrue hk => rwa [hk]
  case isFalse => exact .refl _

/-- It does not matter what a reply answers. -/
theorem quiet {α : Type} (calm : m.Calm m') (answer : α) :
    m.Calm (Memory.quiet answer m').net := calm

/-- Handing over completions is calm. -/
theorem finish {α : Type} (calm : m.Calm m') (answer : α) (done : List Completion) :
    m.Calm (Memory.finish answer done m').net := by
  refine ⟨fun k => ?_, fun holding => ?_⟩
  · rw [endpoint_finish]
    exact calm.endpoint k
  · unfold Memory.finish
    split
    case isTrue => exact calm.holding holding
    case isFalse => exact calm.holding holding

/-- Listening is calm. -/
theorem listen (backlog : Nat) : m.Calm (Memory.listen h backlog m).net := by
  unfold Memory.listen
  split
  case h_1 => exact ⟨fun _ => .refl _, id⟩
  case h_2 =>
    apply quiet
    apply update
    exact ⟨rfl, rfl, rfl, id, .inl⟩

/-- Binding is calm. -/
theorem bind (address : SocketAddress) : m.Calm (Memory.bind h address m).net := by
  apply quiet
  apply update
  exact ⟨rfl, rfl, rfl, id, .inl⟩

/-- Accepting is calm. -/
theorem accept : m.Calm (Memory.accept h m).net := by
  unfold Memory.accept
  split
  case isTrue => exact .refl _
  case isFalse =>
    apply quiet
    apply update
    exact ⟨rfl, rfl, rfl, id, .inl⟩

/-- Starting or stopping to read is calm. -/
theorem setReading (reading : Bool) : m.Calm (Memory.setReading reading h m).net := by
  apply quiet
  apply update
  exact ⟨rfl, rfl, rfl, id, .inl⟩

/-- Reading is calm. -/
theorem read (w : Waker) (size : Nat) : m.Calm (Memory.read w h size m).net := by
  unfold Memory.read
  simp only
  split
  case isTrue => exact .refl _
  case isFalse =>
    split
    case h_1 => exact ⟨fun _ => .refl _, id⟩
    case h_2 | h_3 | h_4 =>
      apply quiet
      apply update
      exact ⟨rfl, rfl, rfl, id, .inl⟩

/-- A shutdown shuts its endpoint only when nothing is held back. -/
theorem shutdown (req : RequestId) : m.Calm (Memory.shutdown req h m).net := by
  unfold Memory.shutdown
  split
  case h_1 =>
    apply finish
    exact ⟨fun _ => .refl _, id⟩
  case h_2 =>
    split
    case isTrue empty =>
      rw [Queue.isEmpty_eq, List.isEmpty_iff] at empty
      apply finish
      apply update
      exact ⟨rfl, rfl, rfl, fun _ => rfl, fun _ => .inr empty⟩
    case isFalse =>
      apply quiet
      apply update
      exact ⟨rfl, rfl, rfl, id, .inl⟩

/-- Connecting is calm. -/
theorem connect (req : RequestId) (address : SocketAddress) :
    m.Calm (Memory.connect req h address m).net := by
  unfold Memory.connect
  split
  case h_1 =>
    apply finish
    exact ⟨fun _ => .refl _, id⟩
  case h_2 =>
    apply finish
    apply update
    exact ⟨rfl, rfl, rfl, id, .inl⟩

/-- Of all scripts only the flush writes. -/
theorem perform {s : Script} (other : s ≠ .flushWrites) : m.Calm (Memory.perform s m).net := by
  have arrive (k : HandleId) (i : Incoming) : m.Calm (Memory.arrive k i m).net := by
    have arrived : m.Calm (m.update k fun e => { e with incoming := e.incoming ++ [i] }) := by
      apply update
      exact ⟨rfl, rfl, rfl, id, .inl⟩
    exact ⟨arrived.endpoint, id⟩
  cases s with
  | pushConnection server =>
    apply finish
    apply update
    exact ⟨rfl, rfl, rfl, id, .inl⟩
  | pushConnectionError =>
    apply finish
    exact .refl _
  | pushData | pushEof | pushReadError => exact arrive _ _
  | failNextListen | failNextWrite | refuseNextWrite | failNextShutdown | failNextConnect =>
    exact ⟨fun _ => .refl _, id⟩
  | holdWrites => exact ⟨fun _ => .refl _, fun _ => rfl⟩
  | flushWrites => exact (other rfl).elim

end Calm

/-- What one move does to the writes: which write it issues, if any, and
which outcomes it brings. -/
inductive Writes (m : Memory) :
    Option (HandleId × RequestId × List UInt8) → Outcomes → Memory → Prop where
  | still {m'} (calm : m.Calm m') : Writes m none [] m'
  | fail {h req data status m'} (calm : m.Calm m') :
      Writes m (some (h, req, data)) [(req, .error status)] m'
  | hold {h req data m'} (unfinished : ¬ (m.endpoint h).Over) (holds : m'.holding = true)
    (elsewhere : ∀ k, k ≠ h → m'.endpoint k = m.endpoint k)
    (here : m'.endpoint h = { m.endpoint h with held := (m.endpoint h).held.push (req, data) }) :
    Writes m (some (h, req, data)) [] m'
  | send {h req data m'} (unfinished : ¬ (m.endpoint h).Over) (loose : m.holding = false)
    (elsewhere : ∀ k, k ≠ h → m'.endpoint k = m.endpoint k)
    (here : m'.endpoint h = { m.endpoint h with sent := (m.endpoint h).sent.push data }) :
    Writes m (some (h, req, data)) [(req, .ok ())] m'
  | flush {outcomes m'} (flushed : ∀ k, m'.endpoint k = Memory.flush (m.endpoint k))
    (brings : ∀ p, p ∈ outcomes ↔ ∃ k, ∃ w ∈ (m.endpoint k).held.toList, p = (w.1, .ok ())) :
    Writes m none outcomes m'
  | cancel {h status outcomes m'} (holds : m.holding = true → m'.holding = true)
    (elsewhere : ∀ k, k ≠ h → (m.endpoint k).Calm (m'.endpoint k))
    (sent : (m'.endpoint h).sent = (m.endpoint h).sent) (left : (m'.endpoint h).held.toList = [])
    (closed : (m'.endpoint h).closed = true)
    (apart : ∀ k, ∀ w ∈ (m.endpoint k).held.toList,
      ∀ w' ∈ (m.endpoint h).held.toList, w.1 = w'.1 → k = h)
    (brings : ∀ p, p ∈ outcomes ↔ ∃ w ∈ (m.endpoint h).held.toList, p = (w.1, .error status)) :
      Writes m none outcomes m'

/-- What was issued on a handle when one more write was. -/
def issuedOn (issue : Option (HandleId × RequestId × List UInt8)) (k : HandleId) :
    List (RequestId × List UInt8) :=
  match issue with
  | some (h, req, data) => if h = k then [(req, data)] else []
  | none => []

/-- The endpoints are in agreement with the writes that were issued on each handle, in this order,
and with the outcomes that were reported. -/
structure Ledger (writes : HandleId → List (RequestId × List UInt8)) (outcomes : Outcomes)
    (m : Memory) : Prop where
  /-- Each write that went through was sent, in the order of issue, and nothing else was. -/
  sent : ∀ h, (m.endpoint h).sent.toList = ((writes h).filter (outcomes.succeeded ·.1)).map (·.2)
  /-- Each write without an outcome is held back, in the order of issue, and nothing else is. -/
  held : ∀ h, (m.endpoint h).held.toList = (writes h).filter (!outcomes.has ·.1)
  /-- No write has gone through that was issued after one that has no outcome. -/
  order : ∀ h, (writes h).Pairwise fun w w' =>
    outcomes.has w.1 = false → outcomes.succeeded w'.1 = false
  /-- Writes are held back only until a flush. -/
  holding : ∀ h, (m.endpoint h).held.toList ≠ [] → m.holding = true
  /-- A stream that is over holds none back. -/
  emptied : ∀ h, (m.endpoint h).Over → (m.endpoint h).held.toList = []

variable {m m' : Memory} {h : HandleId} {writes : HandleId → List (RequestId × List UInt8)}
  {outcomes outcomes' new : Outcomes} {issue : Option (HandleId × RequestId × List UInt8)}

/-- Of a list in which no later member satisfies the first test once one has satisfied the
second, the members that satisfy either are those that satisfy the first, and then those
that satisfy the second. -/
theorem filter_or_of_pairwise {α : Type} {p q : α → Bool} {as : List α}
    (order : as.Pairwise fun a b => q a = true → p b = false)
    (apart : ∀ a ∈ as, q a = true → p a = false) :
    as.filter (fun a => p a || q a) = as.filter p ++ as.filter q := by
  induction as with
  | nil => rfl
  | cons a as ih =>
    obtain ⟨first, order⟩ := List.pairwise_cons.1 order
    have rest := ih order fun b hb => apart b (List.mem_cons_of_mem _ hb)
    have none (ha : q a = true) : as.filter p = [] :=
      List.filter_eq_nil_iff.2 fun b hb => by simp [first b hb ha]
    cases hq : q a with
    | false => cases hp : p a <;> simp [hp, hq, rest]
    | true => simp [hq, apart a List.mem_cons_self hq, rest, none hq]

/-- What was issued on a handle is the write that was issued, if it was on this handle. -/
theorem mem_issuedOn {w : RequestId × List UInt8} {k : HandleId} :
    w ∈ issuedOn issue k ↔ issue = some (k, w.1, w.2) := by
  obtain ⟨req, data⟩ := w
  unfold issuedOn
  split
  case h_1 h req' data' =>
    by_cases hk : h = k
    · simp [hk, eq_comm]
    · simp [hk]
  case h_2 => simp

/-- A write on a handle was issued on it. -/
theorem issuedOn_self (h : HandleId) (req : RequestId) (data : List UInt8) :
    issuedOn (some (h, req, data)) h = [(req, data)] := if_pos rfl

/-- A write on a handle was issued on no other. -/
theorem issuedOn_other {k : HandleId} (other : k ≠ h) (req : RequestId) (data : List UInt8) :
    issuedOn (some (h, req, data)) k = [] := if_neg (Ne.symm other)

namespace Ledger

/-- The writes that an endpoint holds back are those issued on its handle that have no outcome. -/
theorem mem_held (ledger : m.Ledger writes outcomes) {k : HandleId} {w : RequestId × List UInt8} :
    w ∈ (m.endpoint k).held.toList ↔ w ∈ writes k ∧ outcomes.has w.1 = false := by
  rw [ledger.held, List.mem_filter, Bool.not_eq_true']

/-- Outcomes that say the same of every write that was issued. -/
theorem say (ledger : m.Ledger writes outcomes)
    (same : ∀ k, ∀ w ∈ writes k,
      outcomes'.has w.1 = outcomes.has w.1 ∧ outcomes'.succeeded w.1 = outcomes.succeeded w.1) :
    m.Ledger writes outcomes' where
  sent h := by
    rw [ledger.sent, List.filter_congr fun w hw => (same h w hw).2.symm]
  held h := by
    rw [ledger.held, List.filter_congr fun w hw => congrArg _ (same h w hw).1.symm]
  order h := by
    refine (ledger.order h).imp_of_mem fun {w w'} hw hw' order => ?_
    rw [(same h w hw).1, (same h w' hw').2]
    exact order
  holding := ledger.holding
  emptied := ledger.emptied

/-- One more write is issued at most, and what the endpoints have more is what is said of it. -/
theorem add (ledger : m.Ledger writes outcomes)
    (sent : ∀ k, (m'.endpoint k).sent.toList =
      (m.endpoint k).sent.toList ++ ((issuedOn issue k).filter (outcomes.succeeded ·.1)).map (·.2))
    (held : ∀ k, (m'.endpoint k).held.toList =
      (m.endpoint k).held.toList ++ (issuedOn issue k).filter (!outcomes.has ·.1))
    (order : ∀ k, ∀ w ∈ issuedOn issue k,
      outcomes.succeeded w.1 = true → (m.endpoint k).held.toList = [])
    (holding : ∀ k, (m'.endpoint k).held.toList ≠ [] → m'.holding = true)
    (emptied : ∀ k, (m'.endpoint k).Over → (m'.endpoint k).held.toList = []) :
    m'.Ledger (fun k => writes k ++ issuedOn issue k) outcomes where
  sent k := by rw [sent, ledger.sent, List.filter_append, List.map_append]
  held k := by rw [held, ledger.held, List.filter_append]
  order k := by
    refine List.pairwise_append.2 ⟨ledger.order k, ?_, fun w hw w' hw' unanswered => ?_⟩
    · unfold issuedOn
      split
      case h_1 => split <;> simp
      case h_2 => simp
    · apply Bool.eq_false_iff.2
      intro succeeded
      have none := order k w' hw' succeeded
      rw [ledger.held, List.filter_eq_nil_iff] at none
      simpa [unanswered] using none w hw
  holding := holding
  emptied := emptied

/-- After a calm move writes are held back only where the transport holds writes back. -/
theorem holding_of_calm (ledger : m.Ledger writes outcomes) (calm : m.Calm m') (k : HandleId)
    (some : (m'.endpoint k).held.toList ≠ []) : m'.holding = true := by
  rw [(calm.endpoint k).held] at some
  exact calm.holding (ledger.holding k some)

/-- After a calm move nothing is held back on a stream that is over. -/
theorem over_of_calm (ledger : m.Ledger writes outcomes) {k : HandleId}
    (calm : (m.endpoint k).Calm (m'.endpoint k)) (ended : (m'.endpoint k).Over) :
    (m'.endpoint k).held.toList = [] := by
  rw [calm.held]
  obtain shut | closed := ended
  · obtain shut | none := calm.shuts shut
    · exact ledger.emptied k (.inl shut)
    · exact none
  · rw [calm.closed] at closed
    exact ledger.emptied k (.inr closed)

/-- A write that fails, or none, leaves the endpoints as they are. -/
theorem calm (ledger : m.Ledger writes outcomes) (calm : m.Calm m')
    (failed : ∀ k, ∀ w ∈ issuedOn issue k,
      outcomes.has w.1 = true ∧ outcomes.succeeded w.1 = false) :
    m'.Ledger (fun k => writes k ++ issuedOn issue k) outcomes := by
  refine ledger.add (fun k => ?_) (fun k => ?_) (fun k w hw succeeded => ?_)
    (ledger.holding_of_calm calm)
    fun k => ledger.over_of_calm (calm.endpoint k)
  · have none : (issuedOn issue k).filter (outcomes.succeeded ·.1) = [] :=
      List.filter_eq_nil_iff.2 fun w hw => by simp [(failed k w hw).2]
    rw [(calm.endpoint k).sent, none]
    simp
  · have none : (issuedOn issue k).filter (!outcomes.has ·.1) = [] :=
      List.filter_eq_nil_iff.2 fun w hw => by simp [(failed k w hw).1]
    rw [(calm.endpoint k).held, none]
    simp
  · rw [(failed k w hw).2] at succeeded
    cases succeeded

/-- A write is held back behind the others. -/
theorem hold {req : RequestId} {data : List UInt8} (ledger : m.Ledger writes outcomes)
    (open_ : outcomes.has req = false) (unfinished : ¬ (m.endpoint h).Over)
    (holds : m'.holding = true) (elsewhere : ∀ k, k ≠ h → m'.endpoint k = m.endpoint k)
    (here : m'.endpoint h = { m.endpoint h with held := (m.endpoint h).held.push (req, data) }) :
    m'.Ledger (fun k => writes k ++ issuedOn (some (h, req, data)) k) outcomes := by
  have unsent := Outcomes.unsent open_
  refine ledger.add (fun k => ?_) (fun k => ?_) (fun k w hw succeeded => ?_)
    (fun _ _ => holds) fun k ended => ?_
  case refine_1 =>
    by_cases hk : k = h
    · simp [hk, here, issuedOn_self, unsent]
    · simp [elsewhere k hk, issuedOn_other hk]
  case refine_2 =>
    by_cases hk : k = h
    · simp [hk, here, issuedOn_self, open_]
    · simp [elsewhere k hk, issuedOn_other hk]
  case refine_3 =>
    cases mem_issuedOn.1 hw
    rw [unsent] at succeeded
    cases succeeded
  case refine_4 =>
    by_cases hk : k = h
    · rw [hk, here] at ended
      exact (unfinished ended).elim
    · rw [elsewhere k hk] at ended ⊢
      exact ledger.emptied k ended

/-- A write goes through when none is held back. -/
theorem send {req : RequestId} {data : List UInt8} (ledger : m.Ledger writes outcomes)
    (sent : outcomes.succeeded req = true) (loose : m.holding = false)
    (elsewhere : ∀ k, k ≠ h → m'.endpoint k = m.endpoint k)
    (here : m'.endpoint h = { m.endpoint h with sent := (m.endpoint h).sent.push data }) :
    m'.Ledger (fun k => writes k ++ issuedOn (some (h, req, data)) k) outcomes := by
  have none (k : HandleId) : (m.endpoint k).held.toList = [] :=
    Decidable.byContradiction fun some => by simp [ledger.holding k some] at loose
  have none' (k : HandleId) : (m'.endpoint k).held.toList = [] := by
    by_cases hk : k = h
    · rw [hk, here]
      exact none h
    · rw [elsewhere k hk]
      exact none k
  refine ledger.add (fun k => ?_) (fun k => ?_) (fun k _ _ _ => none k)
    (fun k some => (some (none' k)).elim)
    fun k _ => none' k
  case refine_1 =>
    by_cases hk : k = h
    · simp [hk, here, issuedOn_self, sent]
    · simp [elsewhere k hk, issuedOn_other hk]
  case refine_2 =>
    rw [none, none']
    by_cases hk : k = h
    · simp [hk, issuedOn_self, Outcomes.has_of_succeeded sent]
    · simp [issuedOn_other hk]

/-- What is held back anywhere goes through. -/
theorem flush (ledger : m.Ledger writes outcomes)
    (flushed : ∀ k, m'.endpoint k = Memory.flush (m.endpoint k))
    (has : ∀ k, ∀ w ∈ writes k, outcomes'.has w.1 = true)
    (succeeded : ∀ k, ∀ w ∈ writes k,
      outcomes'.succeeded w.1 = (outcomes.succeeded w.1 || !outcomes.has w.1)) :
    m'.Ledger writes outcomes' := by
  have none (k : HandleId) : (m'.endpoint k).held.toList = [] := by
    rw [flushed]
    rfl
  refine ⟨fun k => ?_, fun k => ?_, fun k => ?_, fun k some => (some (none k)).elim,
    fun k _ => none k⟩
  case refine_1 =>
    -- What was held back was issued after all that had gone through.
    have split : (writes k).filter (outcomes'.succeeded ·.1) =
        (writes k).filter (outcomes.succeeded ·.1) ++ (writes k).filter (!outcomes.has ·.1) := by
      rw [List.filter_congr (succeeded k)]
      refine filter_or_of_pairwise ((ledger.order k).imp fun order open_ =>
        order (by simpa using open_)) fun w _ open_ => ?_
      exact Outcomes.unsent (by simpa using open_)
    rw [flushed, split, List.map_append, ← ledger.sent, ← ledger.held]
    simp [Memory.flush]
  case refine_2 =>
    rw [none]
    exact (List.filter_eq_nil_iff.2 fun w hw => by simp [has k w hw]).symm
  case refine_3 =>
    refine (ledger.order k).imp_of_mem fun {w w'} hw _ _ open_ => ?_
    rw [has k w hw] at open_
    cases open_

/-- What one endpoint holds back is canceled. -/
theorem cancel (ledger : m.Ledger writes outcomes) (holds : m.holding = true → m'.holding = true)
    (elsewhere : ∀ k, k ≠ h → (m.endpoint k).Calm (m'.endpoint k))
    (sent : (m'.endpoint h).sent = (m.endpoint h).sent) (left : (m'.endpoint h).held.toList = [])
    (has : ∀ k, ∀ w ∈ writes k, outcomes'.has w.1 = (outcomes.has w.1 || decide (k = h)))
    (succeeded : ∀ k, ∀ w ∈ writes k, outcomes'.succeeded w.1 = outcomes.succeeded w.1) :
    m'.Ledger writes outcomes' := by
  refine ⟨fun k => ?_, fun k => ?_, fun k => ?_, fun k some => ?_, fun k ended => ?_⟩
  case refine_1 =>
    have same : (m'.endpoint k).sent = (m.endpoint k).sent := by
      by_cases hk : k = h
      · rw [hk, sent]
      · exact (elsewhere k hk).sent
    rw [same, ledger.sent, List.filter_congr fun w hw => (succeeded k w hw).symm]
  case refine_2 =>
    rw [List.filter_congr fun w hw => congrArg _ (has k w hw)]
    by_cases hk : k = h
    · rw [hk, left]
      simp
    · rw [(elsewhere k hk).held, ledger.held]
      simp [hk]
  case refine_3 =>
    refine (ledger.order k).imp_of_mem fun {w w'} hw hw' order open_ => ?_
    rw [succeeded k w' hw']
    rw [has k w hw] at open_
    exact order (by simpa using (Bool.or_eq_false_iff.1 open_).1)
  case refine_4 =>
    by_cases hk : k = h
    · rw [hk, left] at some
      exact (some rfl).elim
    · rw [(elsewhere k hk).held] at some
      exact holds (ledger.holding k some)
  case refine_5 =>
    by_cases hk : k = h
    · rw [hk, left]
    · exact ledger.over_of_calm (elsewhere k hk) ended

/-- One move keeps the ledger. -/
theorem move (ledger : m.Ledger writes outcomes) (moves : m.Writes issue new m')
    (fresh : ∀ h req data, issue = some (h, req, data) →
      (∀ k, ∀ w ∈ writes k, w.1 ≠ req) ∧ outcomes.has req = false)
    (brings : ∀ p, p ∈ outcomes' ↔ p ∈ new ∨ p ∈ outcomes) :
      m'.Ledger (fun k => writes k ++ issuedOn issue k) outcomes' := by
  have has (req : RequestId) : outcomes'.has req = (new.has req || outcomes.has req) := by
    rw [Bool.eq_iff_iff]
    simp [Outcomes.has_iff, brings, exists_or]
  have succeeded (req : RequestId) :
      outcomes'.succeeded req = (new.succeeded req || outcomes.succeeded req) := by
    rw [Bool.eq_iff_iff]
    simp [Outcomes.succeeded_iff, brings]
  have said (other : ∀ k, ∀ w ∈ writes k, new.has w.1 = false) : m.Ledger writes outcomes' := by
    exact ledger.say fun k w hw =>
      ⟨by simp [has, other k w hw], by simp [succeeded, Outcomes.unsent (other k w hw)]⟩
  have nothing (k : HandleId) : writes k ++ issuedOn none k = writes k := List.append_nil _
  cases moves with
  | still calm => exact (said fun _ _ _ => rfl).calm calm fun k w hw => by cases hw
  | @fail h req data status _ calm =>
    obtain ⟨apart, open_⟩ := fresh h req data rfl
    refine (said fun k w hw => ?_).calm calm fun k w hw => ?_
    · simp [Outcomes.has, Ne.symm (apart k w hw)]
    · cases mem_issuedOn.1 hw
      refine ⟨Outcomes.has_iff.2 ⟨_, (brings _).2 (.inl (List.mem_singleton.2 rfl))⟩, ?_⟩
      rw [succeeded, Outcomes.unsent open_, Bool.or_false]
      exact Bool.eq_false_iff.2 fun sent => by simpa using Outcomes.succeeded_iff.1 sent
  | hold unfinished holds elsewhere here =>
    obtain ⟨-, open_⟩ := fresh _ _ _ rfl
    refine (said fun _ _ _ => rfl).hold ?_ unfinished holds elsewhere here
    rw [has, open_]
    rfl
  | @send h req data _ unfinished loose elsewhere here =>
    obtain ⟨apart, open_⟩ := fresh h req data rfl
    refine (said fun k w hw => ?_).send ?_ loose elsewhere here
    · simp [Outcomes.has, Ne.symm (apart k w hw)]
    · exact Outcomes.succeeded_iff.2 ((brings _).2 (.inl (List.mem_singleton.2 rfl)))
  | @flush _ _ flushed flushes =>
    simp only [nothing]
    have goes {k : HandleId} {w : RequestId × List UInt8} (hw : w ∈ writes k)
        (open_ : outcomes.has w.1 = false) :
        new.succeeded w.1 = true :=
      Outcomes.succeeded_iff.2 ((flushes _).2 ⟨k, w, ledger.mem_held.2 ⟨hw, open_⟩, rfl⟩)
    have stays {req : RequestId} (answered : outcomes.has req = true) :
        new.succeeded req = false := by
      apply Bool.eq_false_iff.2
      intro sent
      obtain ⟨k, w, hw, same⟩ := (flushes _).1 (Outcomes.succeeded_iff.1 sent)
      cases same
      rw [(ledger.mem_held.1 hw).2] at answered
      cases answered
    refine ledger.flush flushed (fun k w hw => ?_) fun k w hw => ?_
    · cases answered : outcomes.has w.1 with
      | true => simp [has, answered]
      | false => simp [has, Outcomes.has_of_succeeded (goes hw answered)]
    · cases answered : outcomes.has w.1 with
      | true => simp [succeeded, stays answered]
      | false => simp [succeeded, goes hw answered]
  | @cancel h status _ _ holds elsewhere sent left closed apart cancels =>
    simp only [nothing]
    refine ledger.cancel holds elsewhere sent left (fun k w hw => ?_) fun k w hw => ?_
    · cases answered : outcomes.has w.1 with
      | true => simp [has, answered]
      | false =>
        have held := ledger.mem_held.2 ⟨hw, answered⟩
        rw [has, answered, Bool.or_false, Bool.false_or, Bool.eq_iff_iff, decide_eq_true_eq,
          Outcomes.has_iff]
        constructor
        · rintro ⟨outcome, there⟩
          obtain ⟨w', hw', same⟩ := (cancels _).1 there
          exact apart k w held w' hw' (Prod.mk.inj same).1
        · rintro rfl
          exact ⟨_, (cancels _).2 ⟨w, held, rfl⟩⟩
    · have unsent : new.succeeded w.1 = false := by
        apply Bool.eq_false_iff.2
        intro sent
        obtain ⟨w', hw', same⟩ := (cancels _).1 (Outcomes.succeeded_iff.1 sent)
        cases congrArg Prod.snd same
      simp [succeeded, unsent]

end Ledger

/-- Nothing more is written to a stream that is over, and it stays so. -/
theorem Writes.final (moves : m.Writes issue new m') (ledger : m.Ledger writes outcomes)
    (ended : (m.endpoint h).Over) :
    (m'.endpoint h).sent.toList = (m.endpoint h).sent.toList ∧ (m'.endpoint h).Over := by
  have quiet {k : HandleId} (calm : (m.endpoint k).Calm (m'.endpoint k))
      (ended : (m.endpoint k).Over) :
      (m'.endpoint k).sent.toList = (m.endpoint k).sent.toList ∧ (m'.endpoint k).Over :=
    ⟨by rw [calm.sent], ended.imp calm.shut calm.closed.trans⟩
  cases moves with
  | still calm | fail calm => exact quiet (calm.endpoint h) ended
  | hold unfinished _ elsewhere | send unfinished _ elsewhere =>
    rw [elsewhere h (by rintro rfl; exact unfinished ended)]
    exact ⟨rfl, ended⟩
  | flush flushed =>
    rw [flushed]
    refine ⟨by simp [Memory.flush, ledger.emptied h ended], ended.imp (fun shut => ?_) id⟩
    simp [Memory.flush, shut]
  | @cancel h' _ _ _ _ elsewhere sent left closed =>
    by_cases hh : h = h'
    · rw [hh, sent]
      exact ⟨rfl, .inr closed⟩
    · exact quiet (elsewhere h hh) ended

end Memory

end Reactor
