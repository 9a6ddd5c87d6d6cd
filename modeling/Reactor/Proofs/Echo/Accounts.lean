import Reactor.Proofs.Echo.Survival
import Reactor.Proofs.Memory.Accepting

/-!
# What an echo server has been told and has written

As long as nothing goes wrong, the bytes that a server was told of a client are those that its
transport has accepted for it. The end of a stream is told once, behind all of them, and no stream
is closed before the last of them is written.
-/

namespace Reactor

/-- The tokens that handlers learn of a handle. -/
def News.tokens (c : HandleId) : News → List Token
  | .told h e => if h = c then e.tokens else []
  | .answered .. => []

/-- A stream that was closed, whether it is still there or not. -/
def Life.closed : Life → Prop
  | .unborn => False
  | .alive s => s.marked = true
  | .gone => True

namespace Echo.Server

open Machine

/-- The tokens that news tell of a handle, in order. -/
def toldOf (news : List News) (c : HandleId) : List Token := news.flatMap (News.tokens c)

/-- How the requests of a server stand to what its transport holds back and reports. -/
structure Tracked (o : Outline Hosted) (batch : List Completion) : Prop where
  /-- A shutdown that is reported is reported as one, and waits no longer. -/
  reported : ∀ d ∈ ahead o batch, ∀ req outcome c, d.report? = some (req, outcome) →
    o.requests.get? req = some (finale c) →
    d = .shutdown req outcome ∧ (o.net.endpoint c).heldShutdown = none
  /-- What is reported is pending. -/
  known : ∀ d ∈ ahead o batch,
    ∀ req outcome, d.report? = some (req, outcome) → o.requests.get? req ≠ none
  /-- A shutdown that waits is a request of its handle. -/
  slot : ∀ c req, (o.net.endpoint c).heldShutdown = some req →
    ∃ callback, o.requests.get? req = some (.shutdown c callback)
  silent : ∀ req c, o.requests.get? req = some (finale c) → (o.life c).spent
  /-- Writes are held back only until a flush. -/
  holding : ∀ c, (o.net.endpoint c).held.toList ≠ [] → Memory.holding o.net = true
  emptied : ∀ c, (o.net.endpoint c).shut = true → (o.net.endpoint c).held.toList = []

/-- Nothing has gone wrong, and nothing is about to. -/
structure Flawless (o : Outline Hosted) (batch : List Completion) : Prop where
  faultless : Memory.Faultless o.net
  succeed : ∀ d ∈ ahead o batch, ∀ req outcome, d.report? = some (req, outcome) → outcome = .ok ()
  /-- A shutdown that is reported is done. -/
  shuts : ∀ req outcome c, .shutdown req outcome ∈ ahead o batch →
    o.requests.get? req = some (finale c) → (o.net.endpoint c).shut = true

/-- What was told of each client was accepted for it, and what was closed was shut before. -/
structure Echoed (news : List News) (o : Outline Hosted) : Prop where
  bytes : ∀ c, c = listener ∨ ¬(o.life c).spent →
    toldOf news c = (o.net.endpoint c).accepted.map .byte
  ended : ∀ c, c ≠ listener → (o.life c).spent →
    toldOf news c = (o.net.endpoint c).accepted.map .byte ++ [.endOfStream]
  shut : ∀ c, c ≠ listener → (o.life c).closed → (o.net.endpoint c).shut = true

variable {allowed : Memory.Script → Prop} {o o' : Outline Hosted}
  {batch batch' done : List Completion} {news new : List News} {c k : HandleId} {s : Stance}
  {more : HandleId → List UInt8}

/-- A client that was closed reads no more. -/
theorem Attends.spent_of_closed (attends : Attends o batch) (closed : (o.life c).closed) :
    c ≠ listener ∧ (o.life c).spent := by
  cases life : o.life c with
  | unborn =>
    rw [life] at closed
    exact closed.elim
  | alive s =>
    rw [life] at closed
    have client := attends.client_of_marked life closed
    exact ⟨client, (attends.clients c s client life).silent closed⟩
  | gone =>
    refine ⟨?_, trivial⟩
    rintro rfl
    obtain ⟨s, there, -⟩ := attends.listens
    cases life.symm.trans there

/-! ## What is ahead -/

/-- What is ahead of a server is finished, due, or in the batch of the tick. -/
theorem mem_ahead {d : Completion} :
    d ∈ ahead o batch ↔ d ∈ o.net.finished.toList ∨ d ∈ o.deferred ∨ d ∈ batch := by
  simp [ahead]

/-- What is ahead was ahead before, or has finished now. -/
theorem ahead_of_finished {d : Completion}
    (finished : o'.net.finished.toList = o.net.finished.toList ++ done)
    (deferred : o'.deferred = o.deferred) (fewer : batch' ⊆ batch) (hd : d ∈ ahead o' batch') :
    d ∈ ahead o batch ∨ d ∈ done := by
  rw [mem_ahead, finished, deferred, List.mem_append] at hd
  rw [mem_ahead]
  obtain (hd | hd) | hd | hd := hd
  · exact .inl (.inl hd)
  · exact .inr hd
  · exact .inl (.inr (.inl hd))
  · exact .inl (.inr (.inr (fewer hd)))

/-- What is reported is what was, or has gone well and is done. -/
theorem Flawless.keep (flawless : Flawless o batch) (tracked : Tracked o batch)
    (net : Memory.Accepts o.net o'.net more done) (deferred : o'.deferred = o.deferred)
    (fewer : batch' ⊆ batch)
    (requests : ∀ req c, o'.requests.get? req = some (finale c) → o.requests.get? req ≠ none →
      o.requests.get? req = some (finale c))
    (reports : ∀ d ∈ done, ∀ req outcome, d.report? = some (req, outcome) → outcome = .ok () ∧
      (d = .shutdown req outcome →
        ∀ c, o'.requests.get? req = some (finale c) → (o'.net.endpoint c).shut = true)) :
    Flawless o' batch' where
  faultless := net.faultless
  succeed d hd req outcome report := by
    rcases ahead_of_finished net.finished deferred fewer hd with before | new
    · exact flawless.succeed d before req outcome report
    · exact (reports d new req outcome report).1
  shuts req outcome c hd pending := by
    rcases ahead_of_finished net.finished deferred fewer hd with before | new
    · have pending := requests req c pending (tracked.known _ before req outcome rfl)
      exact net.shut c (flawless.shuts req outcome c before pending)
    · exact (reports _ new req outcome rfl).2 rfl c pending

/-- Nothing is reported that was not before. -/
theorem Flawless.quiet (flawless : Flawless o batch) (tracked : Tracked o batch)
    (net : Memory.Accepts o.net o'.net more []) (deferred : o'.deferred = o.deferred)
    (fewer : batch' ⊆ batch) (requests : ∀ req c,
    o'.requests.get? req = some (finale c) → o.requests.get? req = some (finale c)) :
    Flawless o' batch' :=
  flawless.keep tracked net deferred fewer (fun req c pending _ => requests req c pending)
    fun _ hd => (List.not_mem_nil hd).elim

/-! ## What is told -/

/-- What a client was told in two stretches is what it was told in each. -/
theorem toldOf_append (news new : List News) (c : HandleId) :
    toldOf (news ++ new) c = toldOf news c ++ toldOf new c :=
  List.flatMap_append

/-- News of an event tells its bytes to the client it is about, and nothing to others. -/
theorem toldOf_told (c : HandleId) (e : Event) (k : HandleId) :
    toldOf [.told c e] k = if c = k then e.tokens else [] :=
  List.append_nil _

/-- As many bytes are accepted for each client as are told of it. No other client reads no more, and
none is closed that was not shut. -/
theorem Echoed.keep (echoed : Echoed news o) (net : Memory.Accepts o.net o'.net more done)
    (told : ∀ k, toldOf new k = (more k).map .byte) (reads : ∀ k, more k ≠ [] → ¬(o.life k).spent)
    (stays : ∀ k, (o.life k).spent → (o'.life k).spent)
    (spent : ∀ k, k ≠ listener → (o'.life k).spent → (o.life k).spent)
    (closed : ∀ k, k ≠ listener → (o'.life k).closed →
      (o.life k).closed ∨ (o.net.endpoint k).shut = true) :
    Echoed (news ++ new) o' where
  bytes k going := by
    have before := echoed.bytes k (going.imp_right fun goes spent => goes (stays k spent))
    rw [toldOf_append, before, told, net.accepted, List.map_append]
  ended k client spent' := by
    have before := spent k client spent'
    have none : more k = [] := Decidable.byContradiction fun some => reads k some before
    rw [toldOf_append, echoed.ended k client before, told, net.accepted, none, List.append_nil,
      List.map_nil, List.append_nil]
  shut k client closed' := net.shut k ((closed k client closed').elim (echoed.shut k client) id)

/-- A client is told that its stream has ended, and reads no more. -/
theorem Echoed.finish {s' : Stance} (echoed : Echoed news o)
    (net : Memory.Accepts o.net o'.net Memory.nothing done) (client : c ≠ listener)
    (before : ¬(o.life c).spent) (life : o'.life = (o.turn c (.alive s')).life)
    (silent : s'.reading = false) (unmarked : s'.marked = false) :
    Echoed (news ++ [.told c .endOfStream]) o' := by
  have accepted (k : HandleId) : (o'.net.endpoint k).accepted = (o.net.endpoint k).accepted :=
    (net.accepted k).trans (List.append_nil _)
  have here : o'.life c = .alive s' := (congrFun life c).trans (if_pos rfl)
  have elsewhere {k : HandleId} (other : c ≠ k) : o'.life k = o.life k :=
    (congrFun life k).trans (if_neg other)
  constructor
  case bytes =>
    intro k going
    have other : c ≠ k := by
      rintro rfl
      rw [here] at going
      exact going.elim client fun goes => goes silent
    rw [elsewhere other] at going
    rw [toldOf_append, toldOf_told, if_neg other, List.append_nil, accepted]
    exact echoed.bytes k going
  case ended =>
    intro k client spent
    rw [toldOf_append, toldOf_told, accepted]
    by_cases same : c = k
    · subst same
      rw [if_pos rfl, echoed.bytes c (.inr before)]
      rfl
    · rw [elsewhere same] at spent
      rw [if_neg same, List.append_nil]
      exact echoed.ended k client spent
  case shut =>
    intro k client closed
    by_cases same : c = k
    · rw [← same, here] at closed
      cases unmarked.symm.trans closed
    · rw [elsewhere same] at closed
      exact net.shut k (echoed.shut k client closed)

/-! ## Turns -/

/-- Where all streams are after one of them has gone on. -/
theorem of_turn {P : Life → Prop} {Q : Prop} {p : Life} (holds : P ((o.turn c p).life k))
    (here : c = k → P p → Q) (elsewhere : P (o.life k) → Q) : Q := by
  change P (if c = k then p else o.life k) at holds
  split at holds
  case isTrue same => exact here same holds
  case isFalse => exact elsewhere holds

/-- Where all streams are after one of them was closed, if it was not closed before. -/
theorem of_close {P : Life → Prop} {Q : Prop} (holds : P ((o.close Memory.transport c s).life k))
    (here : c = k → Q) (elsewhere : P (o.life k) → Q) : Q := by
  unfold Outline.close at holds
  split at holds
  case isTrue => exact elsewhere holds
  case isFalse => exact of_turn holds (fun same _ => here same) elsewhere

/-- Closing a client leaves the requests as they were. -/
theorem requests_close (o : Outline Hosted) (c : HandleId) (s : Stance) :
    (o.close Memory.transport c s).requests = o.requests := by
  unfold Outline.close
  split <;> rfl

/-- Closing a client adds nothing to what is due. -/
theorem deferred_close (o : Outline Hosted) (c : HandleId) (s : Stance) :
    (o.close Memory.transport c s).deferred = o.deferred := by
  unfold Outline.close
  split <;> rfl

/-- Nothing is taken back when a client is closed for which nothing is held back. -/
theorem accepts_close (f : Memory.Faultless o.net) (silent : s.reading = false)
    (none : (o.net.endpoint c).held.toList = [])
    (slot : (o.net.endpoint c).heldShutdown = Option.none) :
    Memory.Accepts o.net (o.close Memory.transport c s).net Memory.nothing [] := by
  unfold Outline.close
  split
  case isTrue => exact .refl f
  case isFalse =>
    change Memory.Accepts o.net (Memory.close c (if s.reading then _ else o.net)).net
      Memory.nothing []
    rw [silent]
    exact .close f none slot

/-- Nothing is taken back when a client stops reading. -/
theorem accepts_endReading (f : Memory.Faultless o.net) (c : HandleId) (s : Stance) :
    Memory.Accepts o.net (o.endReading Memory.transport c s).net Memory.nothing [] := by
  unfold Outline.endReading
  split
  case isTrue => exact .setReading f false
  case isFalse => exact .refl f

/-- A request that is pending and was before is not the one that was entered. -/
theorem pending_of_add {req : RequestId} {r r' : Request Hosted.Closure}
    (pending : (o.requests.add r).get? req = some r') (known : o.requests.get? req ≠ none) :
    o.requests.get? req = some r' := by
  rw [Registry.get?_add] at pending
  split at pending
  case isTrue fresh =>
    exact (known (Registry.get?_eq_none_of_next_le _ (Nat.le_of_eq fresh.symm))).elim
  case isFalse => exact pending

/-- Nothing is told but what was accepted, and no stream ends or is closed. -/
theorem Echoed.still (echoed : Echoed news o)
    (net : Memory.Accepts o.net o'.net Memory.nothing done) (told : ∀ k, toldOf new k = [])
    (life : o'.life = o.life) : Echoed (news ++ new) o' := by
  refine echoed.keep net told (fun _ some => (some rfl).elim) ?_ ?_ ?_
  all_goals rw [life]
  · exact fun _ spent => spent
  · exact fun _ _ spent => spent
  · exact fun _ _ => .inl

/-- A client goes on, reads as before, and is not closed. -/
theorem Echoed.goOn {s' : Stance} (echoed : Echoed news o)
    (net : Memory.Accepts o.net o'.net more done) (alive : o.life c = .alive s)
    (life : o'.life = (o.turn c (.alive s')).life) (reading : s'.reading = s.reading)
    (marked : s'.marked = s.marked) (told : ∀ k, toldOf new k = (more k).map .byte)
    (reads : ∀ k, more k ≠ [] → ¬(o.life k).spent) : Echoed (news ++ new) o' := by
  have spent : (Life.alive s').spent → (o.life c).spent := by
    rw [alive]
    exact reading.symm.trans
  have spent' : (o.life c).spent → (Life.alive s').spent := by
    rw [alive]
    exact reading.trans
  have closed : (Life.alive s').closed → (o.life c).closed := by
    rw [alive]
    exact marked.symm.trans
  refine echoed.keep net told reads (fun k before => ?_) (fun k _ after => ?_) fun k _ after => ?_
  all_goals rw [life] at *
  · exact spent_turn before fun same => spent' (same ▸ before)
  · exact of_turn after (fun same after => same ▸ spent after) id
  · exact of_turn after (fun same after => .inl (same ▸ closed after)) .inl

/-- A shutdown is answered that is done, and its client is closed behind all
that was written to it. -/
theorem exact_done {d : Completion} {req : RequestId} {status : Outcome} {state : StreamState}
    (tracked : Tracked o (d :: batch)) (flawless : Flawless o (d :: batch)) (echoed : Echoed news o)
    (report : d.report? = some (req, status)) (pending : o.requests.get? req = some (finale c))
    (alive : o.life c = .alive s)
    (after : o' =
      ((o.settle s req (finale c)).turn c (.alive { s.settle .shutdown with state })).close
        Memory.transport c { s.settle .shutdown with state })
    (stays : ∀ k, (o.life k).spent → (o'.life k).spent) (outcome : RequestOutcome) :
    Flawless o' batch ∧ Echoed (news ++ [.answered c outcome]) o' := by
  have there : d ∈ ahead o (d :: batch) := mem_ahead.2 (.inr (.inr List.mem_cons_self))
  obtain ⟨rfl, slot⟩ := tracked.reported d there req status c report pending
  have shut := flawless.shuts req status c there pending
  have spent := tracked.silent req c pending
  have silent : s.reading = false := by rwa [alive] at spent
  subst after
  have net :=
    accepts_close (o := (o.settle s req (finale c)).turn c
      (.alive { s.settle .shutdown with state })) (c := c)
        (s := { s.settle .shutdown with state }) flawless.faultless silent
          (tracked.emptied c shut) slot
  refine ⟨flawless.quiet tracked net (deferred_close _ _ _)
    (List.subset_cons_self _ _) fun req' c' pending => ?_,
    echoed.keep net (fun _ => rfl) (fun _ some => (some rfl).elim) stays (fun k _ spent' => ?_)
      fun k _ closed => ?_⟩
  · rw [requests_close] at pending
    exact (Registry.get?_of_remove pending).2
  · have here (same : c = k) : (o.life k).spent := same ▸ spent
    exact of_close spent' here fun spent => of_turn spent (fun same _ => here same) fun spent =>
      of_turn spent (fun same _ => here same) id
  · have here (same : c = k) : (o.life k).closed ∨ (o.net.endpoint k).shut = true :=
      .inr (same ▸ shut)
    exact of_close closed here fun closed => of_turn closed (fun same _ => here same) fun closed =>
      of_turn closed (fun same _ => here same) .inl

/-- The bytes that a client has sent are accepted for it. -/
theorem exact_echo {w : Waker} {size : Nat} {view : List UInt8} (tracked : Tracked o [])
    (flawless : Flawless o []) (echoed : Echoed news o) (alive : o.life c = .alive s)
    (reading : s.reading = true)
    (after : o' = ((o.ask (Memory.read w c size)).ask (Memory.write o.requests.next c view)).enlist
      s (echo c view)
      (Loop.refusalOf (.write o.requests.next)
        (Memory.write o.requests.next c view (Memory.read w c size o.net).net).answer)) :
    Flawless o' [] ∧ Echoed (news ++ [.told c (.data view)]) o' := by
  have first := Memory.Accepts.read (h := c) flawless.faultless w size
  have holds (some : ((Memory.read w c size o.net).net.endpoint c).held.toList ≠ []) :
      (Memory.read w c size o.net).net.holding = true := by
    have calm := Memory.Calm.read (m := o.net) (h := c) w size
    rw [(calm.endpoint c).held] at some
    exact calm.holding (tracked.holding c some)
  obtain ⟨taken, done, second, reports⟩ :=
    Memory.accepts_write first.faultless o.requests.next view holds
  have due : Loop.refusalOf (.write o.requests.next)
      (Memory.write o.requests.next c view _).answer = Option.none :=
    congrArg (Loop.refusalOf _) taken
  subst after
  refine ⟨flawless.keep tracked (first.trans second) ?_ (List.Subset.refl _)
    (fun _ _ pending known => pending_of_add pending known) fun d hd req outcome report => ?_,
    echoed.goOn (first.trans second) alive rfl rfl rfl (fun k => ?_) fun k some spent => ?_⟩
  · rw [due]
    exact List.append_nil _
  · obtain rfl := reports d hd
    cases report
    exact ⟨rfl, fun is => by cases is⟩
  · rw [toldOf_told]
    change _ = (if c = k then view else []).map Token.byte
    split <;> rfl
  · change (if c = k then view else []) ≠ [] at some
    split at some
    case isTrue same =>
      rw [← same, alive] at spent
      cases reading.symm.trans spent
    case isFalse => exact some rfl

/-- A client whose stream has ended is shut behind all that was accepted for it, at
once or with a flush. -/
theorem exact_finish {w : Waker} {size : Nat} (tracked : Tracked o []) (flawless : Flawless o [])
    (echoed : Echoed news o) (client : c ≠ listener) (alive : o.life c = .alive s)
    (reading : s.reading = true) (unmarked : s.marked = false)
    (after : o' = (((o.ask (Memory.read w c size)).endReading Memory.transport c s).ask
      (Memory.shutdown o.requests.next c)).enlist { s with reading := false, state :=
        .shuttingDown } (finale c)
          (Loop.refusalOf (.shutdown o.requests.next) (Memory.shutdown o.requests.next c
            ((o.ask (Memory.read w c size)).endReading Memory.transport c s).net).answer)) :
    Flawless o' [] ∧ Echoed (news ++ [.told c .endOfStream]) o' := by
  have first := Memory.Accepts.read (h := c) flawless.faultless w size
  have second := accepts_endReading (o := o.ask (Memory.read w c size)) first.faultless c s
  obtain ⟨taken, done, third, reports⟩ :=
    Memory.accepts_shutdown (h := c) second.faultless o.requests.next
  have net := (first.trans second).trans third
  have due : Loop.refusalOf (.shutdown o.requests.next)
      (Memory.shutdown o.requests.next c _).answer = Option.none :=
    congrArg (Loop.refusalOf _) taken
  have before : ¬(o.life c).spent := by
    rw [alive]
    exact fun silent => nomatch reading.symm.trans silent
  subst after
  refine ⟨flawless.keep tracked net ?_ (List.Subset.refl _)
    (fun _ _ pending known => pending_of_add pending known) fun d hd req outcome report => ?_,
    echoed.finish net client before (Outline.life_turn (o := o) rfl _) rfl unmarked⟩
  · rw [due]
    exact List.append_nil _
  · obtain ⟨rfl, shut⟩ := reports d hd
    cases report
    refine ⟨rfl, fun _ k pending => ?_⟩
    have entered := (Registry.get?_add o.requests (finale c) o.requests.next).trans (if_pos rfl)
    cases entered.symm.trans pending
    exact shut

/-- What a server echoes stays exact with every turn of which nobody learns that
something has failed. -/
theorem Turn.exact (turn : Turn (·.benign = true) o batch new o' batch') (attends : Attends o batch)
    (tracked : Tracked o batch) (flawless : Flawless o batch) (echoed : Echoed news o)
    (unharmed : ∀ c status, .failed status ∉ toldOf new c) :
    Flawless o' batch' ∧ Echoed (news ++ new) o' := by
  have faultless := flawless.faultless
  have stays (k : HandleId) := Turn.spent (k := k) turn
  cases turn with
  | still =>
    rw [List.append_nil]
    exact ⟨flawless, echoed⟩
  | script benign =>
    obtain ⟨done, net, reports⟩ := Memory.accepts_perform faultless benign
    refine ⟨flawless.keep tracked net rfl (List.Subset.refl _) (fun _ _ pending _ => pending)
      fun d hd req outcome report => ?_, echoed.still net (fun _ => rfl) rfl⟩
    obtain ⟨ok, shuts⟩ := reports d hd req outcome report
    refine ⟨ok, fun is c pending => ?_⟩
    obtain ⟨h, waits, shut⟩ := shuts is
    obtain ⟨callback, there⟩ := tracked.slot h req waits
    cases pending.symm.trans there
    exact shut
  | begin =>
    have same {d : Completion} (hd : d ∈ ahead { o with deferred := [] } o.deferred) :
        d ∈ ahead o [] := by
      simpa [mem_ahead] using hd
    refine ⟨⟨faultless, fun d hd => flawless.succeed d (same hd), fun req outcome c hd => ?_⟩, ?_⟩
    · exact flawless.shuts req outcome c (same hd)
    · exact echoed.still (.refl faultless) (fun _ => rfl) rfl
  | @collect w =>
    have same {d : Completion} (hd : d ∈ ahead (o.ask (Memory.collect w)) o.net.finished.toList) :
        d ∈ ahead o [] := by
      rw [mem_ahead] at hd ⊢
      rcases hd with hd | hd | hd
      · cases hd
      · exact .inr (.inl hd)
      · exact .inl hd
    refine ⟨⟨⟨faultless.1, faultless.2, faultless.3⟩, fun d hd => flawless.succeed d (same hd),
      fun req outcome c hd => ?_⟩, ?_⟩
    · exact flawless.shuts req outcome c (same hd)
    · rw [List.append_nil]
      exact ⟨echoed.bytes, echoed.ended, echoed.shut⟩
  | skip =>
    exact ⟨flawless.quiet tracked (.refl faultless) rfl (List.subset_cons_self _ _)
      fun _ _ pending => pending,
      echoed.still (.refl faultless) (fun _ => rfl) rfl⟩
  | fail =>
    refine ⟨flawless.quiet tracked (.refl faultless) rfl (List.subset_cons_self _ _)
      fun _ _ pending => pending,
      echoed.still (.refl faultless) (fun k => ?_) rfl⟩
    rw [toldOf_told]
    exact ite_self _
  | @greet c batch unborn =>
    have net : Memory.Accepts o.net (Server.greet o c).net Memory.nothing [] :=
      (Memory.Accepts.accept faultless).trans
        (.setReading (Memory.Accepts.accept faultless).faultless true)
    refine ⟨flawless.quiet tracked net rfl (List.subset_cons_self _ _) fun _ _ pending => pending,
      echoed.keep net (fun k => ?_) (fun _ some => (some rfl).elim) stays (fun k _ spent => ?_)
        fun k _ closed => ?_⟩
    · rw [toldOf_told]
      exact ite_self _
    · exact of_turn spent (fun _ reads => nomatch reads) id
    · exact of_turn closed (fun _ marked => nomatch marked) .inl
  | sent client report pending alive =>
    refine ⟨flawless.quiet tracked (.refl faultless) rfl (List.subset_cons_self _ _)
      fun _ _ pending => ?_, ?_⟩
    · exact (Registry.get?_of_remove pending).2
    · exact echoed.goOn (.refl faultless) alive rfl rfl rfl (fun _ => rfl) fun _ some =>
        (some rfl).elim
  | unsent client report =>
    cases flawless.succeed _ (mem_ahead.2 (.inr (.inr List.mem_cons_self))) _ _ report
  | done client report pending alive =>
    exact exact_done tracked flawless echoed report pending alive rfl stays _
  | @vain w h size =>
    have net := Memory.Accepts.read (h := h) faultless w size
    exact ⟨flawless.quiet tracked net rfl (List.Subset.refl _) fun _ _ pending => pending,
      echoed.still net (fun _ => rfl) rfl⟩
  | echo client alive connected reading =>
    exact exact_echo tracked flawless echoed alive reading rfl
  | finish client alive connected reading =>
    have unmarked := (attends.clients _ _ client alive).unmarked connected
    exact exact_finish tracked flawless echoed client alive reading unmarked rfl
  | @lose w c size status s client alive =>
    refine (unharmed c status ?_).elim
    rw [toldOf_told, if_pos rfl]
    exact List.mem_singleton.2 rfl
  | @part c s client alive marked =>
    have closed : (o.life c).closed := by
      rw [alive]
      exact marked
    have before := (attends.spent_of_closed closed).2
    refine ⟨flawless.quiet tracked (.refl faultless) rfl (List.Subset.refl _)
        fun _ _ pending => pending,
      echoed.keep (.refl faultless) (fun k => ?_) (fun _ some => (some rfl).elim) stays
        (fun k _ spent => ?_) fun k _ after => ?_⟩
    · rw [toldOf_told]
      exact ite_self _
    · exact of_turn spent (fun same _ => same ▸ before) id
    · exact of_turn after (fun same _ => .inl (same ▸ closed)) .inl

end Echo.Server

end Reactor
