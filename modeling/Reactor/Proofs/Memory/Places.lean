import Reactor.Proofs.Machine.Rules
import Reactor.Proofs.Registry
import Reactor.Transport.Memory

/-!
# Where the transport in memory keeps a request

The number of a request stands among the writes that an endpoint holds back, in the slot of
its shutdown, or in a completion. To flush or to close an endpoint turns everything that it
holds back into completions.
-/

namespace Reactor

/-- Whether a completion names a request. -/
def Completion.names (req : RequestId) (c : Completion) : Bool := c.report?.any (·.1 = req)

/-- A completion names one request at most. -/
theorem Completion.eq_of_names {c : Completion} {req req' : RequestId} (names : c.names req = true)
    (names' : c.names req' = true) : req = req' := by
  simp only [Completion.names, Option.any_eq_true, decide_eq_true_eq] at names names'
  obtain ⟨p, hp, rfl⟩ := names
  obtain ⟨q, hq, rfl⟩ := names'
  rw [hp] at hq
  rw [Option.some.inj hq]

/-- How many of some completions name a request. -/
def namings (cs : List Completion) (req : RequestId) : Nat := cs.countP (·.names req)

/-- No completions name no request. -/
@[simp] theorem namings_nil (req : RequestId) : namings [] req = 0 := rfl

/-- The namings in two lists add up. -/
@[simp] theorem namings_append (cs ds : List Completion) (req : RequestId) :
    namings (cs ++ ds) req = namings cs req + namings ds req := List.countP_append

/-- One more completion counts if it names the request. -/
theorem namings_cons (c : Completion) (cs : List Completion) (req : RequestId) :
    namings (c :: cs) req = namings cs req + if c.names req then 1 else 0 := List.countP_cons

/-- Completions name a request as often in one order as in another. -/
theorem namings_perm {cs ds : List Completion} (same : cs.Perm ds) (req : RequestId) :
    namings cs req = namings ds req :=
  same.countP_eq _

/-- A request is named nowhere when no completion names it. -/
theorem namings_eq_zero_iff {cs : List Completion} {req : RequestId} :
    namings cs req = 0 ↔ ∀ c ∈ cs, c.names req = false := by
  simp [namings, List.countP_eq_zero]

/-- Completions that name a request once have one that does. -/
theorem eq_of_namings {cs : List Completion} {req : RequestId} {c d : Completion}
    (once : namings cs req ≤ 1) (hc : c ∈ cs) (names : c.names req = true) (hd : d ∈ cs)
    (names' : d.names req = true) : c = d := by
  rw [namings, List.countP_eq_length_filter] at once
  have hc := List.mem_filter.2 ⟨hc, names⟩
  have hd := List.mem_filter.2 ⟨hd, names'⟩
  obtain ⟨e, only⟩ := List.length_eq_one_iff.1 (Nat.le_antisymm once (List.length_pos_of_mem hc))
  rw [only, List.mem_singleton] at hc hd
  rw [hc, hd]

/-- How often an endpoint holds the number of a request back. -/
def Endpoint.holds (e : Endpoint) (req : RequestId) : Nat :=
  e.held.toList.countP (·.1 = req) + if e.heldShutdown = some req then 1 else 0

/-- An endpoint does not hold a request back when it is neither among the writes nor
the shutdown held back. -/
theorem Endpoint.holds_eq_zero_iff {e : Endpoint} {req : RequestId} :
    e.holds req = 0 ↔ (∀ p ∈ e.held.toList, p.1 ≠ req) ∧ e.heldShutdown ≠ some req := by
  rw [Endpoint.holds, Nat.add_eq_zero_iff, List.countP_eq_zero]
  simp

/-- An endpoint that holds the same back as another and shows the same of its stream. -/
structure Endpoint.Like (e e' : Endpoint) : Prop where
  held : e'.held = e.held
  heldShutdown : e'.heldShutdown = e.heldShutdown
  reading : e'.reading = e.reading
  shut : e'.shut = e.shut
  closed : e'.closed = e.closed

/-- An endpoint is like itself. -/
theorem Endpoint.Like.refl (e : Endpoint) : e.Like e := ⟨rfl, rfl, rfl, rfl, rfl⟩

/-- How often a request is held back depends on what is held back alone. -/
theorem Endpoint.holds_congr {e e' : Endpoint} (held : e'.held = e.held)
    (slot : e'.heldShutdown = e.heldShutdown) (req : RequestId) : e'.holds req = e.holds req := by
  rw [Endpoint.holds, held, slot, ← Endpoint.holds]

namespace SortedMap

/-- Of lists that are made from the entries of a map, only that of one key gives anything
when the others do not. -/
theorem filterMap_flatMap {α β γ : Type} (m : SortedMap Nat α) (f : Nat × α → List β)
    (g : β → Option γ) (k : Nat)
    (elsewhere : ∀ j a, m.get? j = some a → j ≠ k → (f (j, a)).filterMap g = []) :
    (m.entries.flatMap f).filterMap g =
      ((m.get? k).map fun a => (f (k, a)).filterMap g).getD [] := by
  have entries : ∀ j a, (j, a) ∈ m.entries → j ≠ k → (f (j, a)).filterMap g = [] := fun j a ha =>
    elsewhere j a ((m.mem_entries_iff j a).1 ha)
  obtain ⟨l, sorted⟩ := m
  simp only [get?] at entries ⊢
  clear elsewhere
  induction l with
  | nil => rfl
  | cons y rest ih =>
    obtain ⟨j, a⟩ := y
    obtain ⟨first, sorted⟩ := List.pairwise_cons.1 sorted
    rw [List.flatMap_cons, List.filterMap_append]
    by_cases hj : j = k
    · subst hj
      have others : (rest.flatMap f).filterMap g = [] := by
        rw [List.filterMap_flatMap, List.flatMap_eq_nil_iff]
        intro z hz
        exact entries z.1 z.2 (List.mem_cons_of_mem _ hz) (Nat.ne_of_gt (first z hz))
      simp [others]
    · rw [entries j a List.mem_cons_self hj, List.nil_append,
        ih sorted fun i b hb => entries i b (List.mem_cons_of_mem _ hb)]
      have miss : (k == j) = false := by simp [Ne.symm hj]
      rw [List.lookup_cons, miss]

/-- Of lists that are made from the entries of a map, only that of one key counts
when the others do not. -/
theorem countP_flatMap {α β : Type} (m : SortedMap Nat α) (f : Nat × α → List β)
    (p : β → Bool) (k : Nat) (elsewhere : ∀ j a,
    m.get? j = some a → j ≠ k → (f (j, a)).countP p = 0) :
    (m.entries.flatMap f).countP p = ((m.get? k).map fun a => (f (k, a)).countP p).getD 0 := by
  simp only [List.countP_eq_length_filter, ← List.filterMap_eq_filter] at elsewhere ⊢
  rw [m.filterMap_flatMap f (Option.guard p) k fun j a ha hj =>
    List.length_eq_zero_iff.1 (elsewhere j a ha hj)]
  cases m.get? k <;> rfl

end SortedMap

namespace Memory

/-! ## Replies -/

/-- A quiet reply leaves the state that it was made for. -/
@[simp] theorem quiet_net {α : Type} (answer : α) (m : Memory) : (quiet answer m).net = m := rfl

/-- A reply that hands over completions answers what it was told to. -/
@[simp] theorem finish_answer {α : Type} (answer : α) (done : List Completion) (m : Memory) :
    (finish answer done m).answer = answer := by
  unfold finish
  split <;> rfl

/-- What is done waits after all that had finished before. -/
@[simp] theorem finished_finish {α : Type} (answer : α) (done : List Completion) (m : Memory) :
    (finish answer done m).net.finished.toList = m.finished.toList ++ done := by
  unfold finish
  split
  case isTrue none => simp [List.isEmpty_iff.1 none]
  case isFalse => simp [waking]

/-- Handing over completions touches no endpoint. -/
@[simp] theorem endpoint_finish {α : Type} (answer : α) (done : List Completion) (m : Memory)
    (h : HandleId) :
    (finish answer done m).net.endpoint h = m.endpoint h := by
  unfold finish
  split <;> rfl

/-- Changing an endpoint finishes nothing. -/
@[simp] theorem finished_update (m : Memory) (h : HandleId) (f : Endpoint → Endpoint) :
    (m.update h f).finished = m.finished := rfl

/-- A change of an endpoint that keeps what matters keeps what matters of every endpoint. -/
theorem like_update {m : Memory} {h : HandleId} {f : Endpoint → Endpoint}
    (like : ∀ e : Endpoint, e.Like (f e)) (k : HandleId) :
    (m.endpoint k).Like ((m.update h f).endpoint k) := by
  rw [endpoint_update]
  split
  case isTrue hk => rw [hk]; exact like _
  case isFalse => exact .refl _

/-! ## What is held back -/

/-- What is released names every request as often as it was held back. -/
theorem namings_releaseHeld (e : Endpoint) (outcome : Outcome) (req : RequestId) :
    namings (releaseHeld e outcome) req = e.holds req := by
  rw [releaseHeld, namings_append, Endpoint.holds]
  congr 1
  · rw [namings, List.countP_map]
    rfl
  · cases e.heldShutdown <;> simp [namings, Completion.names, Completion.report?, List.countP_cons]

/-- What is released are the writes held back and the shutdown held back, all
with the one outcome. -/
theorem mem_releaseHeld {e : Endpoint} {outcome : Outcome} {c : Completion} :
    c ∈ releaseHeld e outcome ↔
      (∃ p ∈ e.held.toList, c = .write p.1 outcome) ∨
        ∃ req, e.heldShutdown = some req ∧ c = .shutdown req outcome := by
  simp only [releaseHeld, List.mem_append, List.mem_map, Option.mem_toList]
  constructor
  · rintro (⟨p, hp, rfl⟩ | ⟨req, hreq, rfl⟩)
    · exact .inl ⟨p, hp, rfl⟩
    · exact .inr ⟨req, hreq, rfl⟩
  · rintro (⟨p, hp, rfl⟩ | ⟨req, hreq, rfl⟩)
    · exact .inl ⟨p, hp, rfl⟩
    · exact .inr ⟨req, hreq, rfl⟩

/-- The completions that a flush brings about. -/
def flushed (m : Memory) : List Completion :=
  m.endpoints.entries.flatMap fun (_, e) => releaseHeld e (.ok ())

/-- A flush flushes each endpoint. -/
theorem endpoint_flush (m : Memory) (h : HandleId) :
    ({ m with holding := false, endpoints := m.endpoints.map flush } : Memory).endpoint h =
      flush (m.endpoint h) := by
  rw [endpoint, SortedMap.get?_map, endpoint]
  cases m.endpoints.get? h <;> rfl

/-- A flushed endpoint holds nothing back. -/
@[simp] theorem holds_flush (e : Endpoint) (req : RequestId) : (flush e).holds req = 0 := rfl

/-- The far side's flush flushes each endpoint. -/
theorem endpoint_perform_flushWrites (m : Memory) (h : HandleId) :
    (perform .flushWrites m).net.endpoint h = flush (m.endpoint h) := by
  rw [perform, endpoint_finish, endpoint_flush]

/-- What a flush brings about was held back on some endpoint. -/
theorem mem_flushed {m : Memory} {c : Completion} (hc : c ∈ m.flushed) :
    ∃ h, c ∈ releaseHeld (m.endpoint h) (.ok ()) := by
  obtain ⟨⟨h, e⟩, he, hc⟩ := List.mem_flatMap.1 hc
  refine ⟨h, ?_⟩
  rwa [endpoint, (SortedMap.mem_entries_iff _ h e).1 he]

/-- A flush names a request as often as the only endpoint that may hold it back does. -/
theorem namings_flushed {m : Memory} {h : HandleId} {req : RequestId}
    (elsewhere : ∀ k, k ≠ h → (m.endpoint k).holds req = 0) :
    namings m.flushed req = (m.endpoint h).holds req := by
  have counted :=
    m.endpoints.countP_flatMap (fun x => releaseHeld x.2 (.ok ()))
      (·.names req) h fun k e he hk => by
        have none := elsewhere k hk
        rw [endpoint, he] at none
        exact (namings_releaseHeld e (.ok ()) req).trans none
  refine counted.trans ?_
  rw [endpoint]
  cases m.endpoints.get? h with
  | none => rfl
  | some e => exact namings_releaseHeld e (.ok ()) req

/-! ## Primitives -/

/-- A write is refused, is held back behind the others, or finishes. -/
theorem write_cases (req : RequestId) (h : HandleId) (data : List UInt8) (m : Memory) :
    (∃ status, (write req h data m).answer = .error status ∧
      (write req h data m).net.finished = m.finished ∧
      ∀ k, (write req h data m).net.endpoint k = m.endpoint k) ∨
    ((write req h data m).answer = .ok () ∧ (write req h data m).net.finished = m.finished ∧
      (∀ k, k ≠ h → (write req h data m).net.endpoint k = m.endpoint k) ∧
      (write req h data m).net.endpoint h =
        { m.endpoint h with held := (m.endpoint h).held.push (req, data) }) ∨
    ∃ outcome, (write req h data m).answer = .ok () ∧
      (write req h data m).net.finished.toList = m.finished.toList ++ [.write req outcome] ∧
      ∀ k, (m.endpoint k).Like ((write req h data m).net.endpoint k) := by
  unfold write
  split
  case h_1 status _ => exact .inl ⟨status, rfl, rfl, fun _ => rfl⟩
  case h_2 =>
    split
    case isTrue =>
      refine .inr (.inl ⟨rfl, rfl, fun k hk => ?_, ?_⟩)
      · rw [quiet_net, endpoint_update, if_neg hk]
      · rw [quiet_net, endpoint_update, if_pos rfl]
    case isFalse =>
      split
      case h_1 status _ =>
        refine .inr (.inr ⟨.error status, finish_answer _ _ _, finished_finish _ _ _, fun k => ?_⟩)
        rw [endpoint_finish]
        exact .refl _
      case h_2 =>
        refine .inr (.inr ⟨.ok (), finish_answer _ _ _, finished_finish _ _ _, fun k => ?_⟩)
        rw [endpoint_finish]
        refine like_update (fun _ => ?_) k
        exact ⟨rfl, rfl, rfl, rfl, rfl⟩

/-- A shutdown fails, shuts its endpoint, or waits in the slot. -/
theorem shutdown_cases (req : RequestId) (h : HandleId) (m : Memory) :
    (shutdown req h m).answer = .ok () ∧
      (∀ k, k ≠ h → (shutdown req h m).net.endpoint k = m.endpoint k) ∧
    ((∃ status, (shutdown req h m).net.finished.toList =
      m.finished.toList ++ [.shutdown req (.error status)] ∧
        (shutdown req h m).net.endpoint h = m.endpoint h) ∨
      ((shutdown req h m).net.finished.toList = m.finished.toList ++ [.shutdown req (.ok ())] ∧
        (shutdown req h m).net.endpoint h = { m.endpoint h with shut := true }) ∨
      (shutdown req h m).net.finished.toList = m.finished.toList ∧
        (shutdown req h m).net.endpoint h = { m.endpoint h with heldShutdown := some req }) := by
  unfold shutdown
  split
  case h_1 status _ =>
    refine ⟨finish_answer _ _ _, fun k _ => endpoint_finish _ _ _ k,
      .inl ⟨status, finished_finish _ _ _, ?_⟩⟩
    exact endpoint_finish _ _ _ h
  case h_2 =>
    split
    case isTrue =>
      refine ⟨finish_answer _ _ _, fun k hk => ?_, .inr (.inl ⟨finished_finish _ _ _, ?_⟩)⟩
      · rw [endpoint_finish, endpoint_update, if_neg hk]
      · rw [endpoint_finish, endpoint_update, if_pos rfl]
    case isFalse =>
      refine ⟨rfl, fun k hk => ?_, .inr (.inr ⟨rfl, ?_⟩)⟩
      · rw [quiet_net, endpoint_update, if_neg hk]
      · rw [quiet_net, endpoint_update, if_pos rfl]

/-- A connect finishes. -/
theorem connect_cases (req : RequestId) (h : HandleId) (address : SocketAddress) (m : Memory) :
    ∃ outcome, (connect req h address m).answer = .ok () ∧
      (connect req h address m).net.finished.toList = m.finished.toList ++ [.connect req outcome] ∧
      ∀ k, (m.endpoint k).Like ((connect req h address m).net.endpoint k) := by
  unfold connect
  split
  case h_1 status _ =>
    refine ⟨.error status, finish_answer _ _ _, finished_finish _ _ _, fun k => ?_⟩
    rw [endpoint_finish]
    exact .refl _
  case h_2 =>
    refine ⟨.ok (), finish_answer _ _ _, finished_finish _ _ _, fun k => ?_⟩
    rw [endpoint_finish]
    refine like_update (fun _ => ?_) k
    exact ⟨rfl, rfl, rfl, rfl, rfl⟩

/-- A call of `listen` finishes nothing and shows nothing. -/
theorem listen_like (h : HandleId) (backlog : Nat) (m : Memory) :
    (listen h backlog m).net.finished = m.finished ∧
      ∀ k, (m.endpoint k).Like ((listen h backlog m).net.endpoint k) := by
  unfold listen
  split
  case h_1 => exact ⟨rfl, fun k => .refl _⟩
  case h_2 => exact ⟨rfl, like_update fun _ => ⟨rfl, rfl, rfl, rfl, rfl⟩⟩

/-- A call of `accept` finishes nothing and shows nothing. -/
theorem accept_like (server : HandleId) (m : Memory) :
    (accept server m).net.finished = m.finished ∧
      ∀ k, (m.endpoint k).Like ((accept server m).net.endpoint k) := by
  unfold accept
  split
  case isTrue => exact ⟨rfl, fun k => .refl _⟩
  case isFalse => exact ⟨rfl, like_update fun _ => ⟨rfl, rfl, rfl, rfl, rfl⟩⟩

/-- A read finishes nothing and shows nothing. -/
theorem read_like (w : Waker) (h : HandleId) (size : Nat) (m : Memory) :
    (read w h size m).net.finished = m.finished ∧
      ∀ k, (m.endpoint k).Like ((read w h size m).net.endpoint k) := by
  unfold read
  simp only
  split
  case isTrue => exact ⟨rfl, fun k => .refl _⟩
  case isFalse =>
    split
    case h_1 => exact ⟨rfl, fun k => .refl _⟩
    case h_2 | h_3 | h_4 => exact ⟨rfl, like_update fun _ => ⟨rfl, rfl, rfl, rfl, rfl⟩⟩

/-- What a closed endpoint held back finishes as canceled. -/
theorem close_eq (h : HandleId) (m : Memory) :
    (close h m).net.finished.toList = m.finished.toList ++
      releaseHeld (m.endpoint h) (.error .ecanceled) ∧
      ∀ k, (close h m).net.endpoint k =
        if k = h then
          { m.endpoint h with
            closed := true, reading := false, incoming := [], held := {}, heldShutdown := none }
        else m.endpoint k := by
  unfold close
  refine ⟨finished_finish _ _ _, fun k => ?_⟩
  rw [endpoint_finish, endpoint_update]

/-- What is performed finishes what was held back, if it is a flush, or reports of connections. -/
theorem perform_cases (s : Script) (m : Memory) :
    (s = .flushWrites ∧ (perform s m).net.finished.toList = m.finished.toList ++ m.flushed ∧
      ∀ k, (perform s m).net.endpoint k = flush (m.endpoint k)) ∨
    ∃ done, (perform s m).net.finished.toList = m.finished.toList ++ done ∧
      (∀ d ∈ done, d.report? = none) ∧ ∀ k, (m.endpoint k).Like ((perform s m).net.endpoint k) := by
  have arrival (h : HandleId) (i : Incoming) (k : HandleId) :
      (m.endpoint k).Like ((arrive h i m).net.endpoint k) := by
    refine like_update (f := fun e => { e with incoming := e.incoming ++ [i] }) (fun _ => ?_) k
    exact ⟨rfl, rfl, rfl, rfl, rfl⟩
  cases s with
  | pushConnection server =>
    refine .inr ⟨[.connection server (.ok ())], finished_finish _ _ _, by simp [Completion.report?],
      fun k => ?_⟩
    rw [perform, endpoint_finish]
    refine like_update (fun _ => ?_) k
    exact ⟨rfl, rfl, rfl, rfl, rfl⟩
  | pushConnectionError server status =>
    refine .inr ⟨[.connection server (.error status)], finished_finish _ _ _,
      by simp [Completion.report?], fun k => ?_⟩
    rw [perform, endpoint_finish]
    exact .refl _
  | pushData h data => exact .inr ⟨[], (List.append_nil _).symm, by simp, arrival h (.data data)⟩
  | pushEof h => exact .inr ⟨[], (List.append_nil _).symm, by simp, arrival h .eof⟩
  | pushReadError h status =>
    exact .inr ⟨[], (List.append_nil _).symm, by simp, arrival h (.failed status)⟩
  | failNextListen | failNextWrite | refuseNextWrite | failNextShutdown | failNextConnect
      | holdWrites =>
    exact .inr ⟨[], (List.append_nil _).symm, by simp, fun k => .refl _⟩
  | flushWrites => exact .inl ⟨rfl, finished_finish _ _ _, endpoint_perform_flushWrites m⟩

end Memory

end Reactor
