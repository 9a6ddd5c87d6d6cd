import Mathlib.Algebra.BigOperators.Group.Finset.Piecewise
import Mathlib.Algebra.GroupWithZero.Nat
import Mathlib.Algebra.Order.BigOperators.Group.Finset
import Mathlib.Data.Prod.Lex
import Reactor.Echo
import Reactor.Proofs.Closing.Refusals
import Reactor.Proofs.Machine.Observers
import Reactor.Proofs.Memory.Lines
import Reactor.Proofs.Memory.Reading

/-!
# What is ahead of a loop in memory

A loop has a burden: all that can still arrive, byte by byte, and after that the entries of its
tables. Handlers that do not call the far side bring nothing more in. They may fill the tables on
what arrives, but not on the completion of a write or a shutdown, and not when a handle goes.
-/

namespace Reactor

/-- What one arrival weighs: it is to be taken once, and a byte at a time at worst. -/
def Incoming.weight : Incoming → Nat
  | .data bytes => bytes.length + 1
  | .eof | .failed _ => 1

/-- What all that has arrived on an endpoint weighs. -/
def Endpoint.load (e : Endpoint) : Nat := (e.incoming.map Incoming.weight).sum

/-- Whether a completion reports a connection. -/
def Completion.isConnection (c : Completion) : Bool := c.report?.isNone

/-- Whether a request is to connect. -/
def Request.connects {κ : Type} : Request κ → Bool
  | .connect _ => true
  | _ => false

/-- Only an operation that connects issues such a request. -/
theorem Operation.connects_of_issued? {κ : Type} {o : Operation κ} {a : o.Answer} {req : RequestId}
    {r : Request κ} (issued : o.issued? a = some (req, r))
    (other : ∀ h address, o ≠ .connect h address) : r.connects = false := by
  cases o with
  | connect h address => exact (other h address rfl).elim
  | write | shutdown =>
    cases a with
    | error => cases issued
    | ok => cases issued; rfl
  | _ => cases issued

namespace Memory

variable {m m' : Memory} {h : HandleId}

/-- What all that has arrived weighs. -/
def load (m : Memory) : Nat := (m.endpoints.entries.map fun x => x.2.load).sum

/-- The load is that of the endpoints up to a bound on those of which anything is kept. -/
theorem load_eq_sum {n : Nat} (bound : ∀ x ∈ m.endpoints.entries, x.1 < n) :
    m.load = ∑ h ∈ Finset.range n, (m.endpoint h).load := by
  unfold load endpoint SortedMap.get?
  generalize m.endpoints = table at bound ⊢
  obtain ⟨entries, sorted⟩ := table
  simp only at bound ⊢
  induction entries with
  | nil => simp [Endpoint.load]
  | cons x rest ih =>
    obtain ⟨k, e⟩ := x
    obtain ⟨first, sorted⟩ := List.pairwise_cons.1 sorted
    have split (h : HandleId) : ((List.lookup h ((k, e) :: rest)).getD {}).load =
        (if h = k then e.load else 0) + ((List.lookup h rest).getD {}).load := by
      by_cases here : h = k
      · have later : List.lookup h rest = none := by
          rw [List.lookup_eq_none_iff]
          intro x hx
          exact bne_iff_ne.2 (here ▸ Nat.ne_of_lt (first x hx))
        rw [List.lookup_cons, later]
        simp [here, Endpoint.load]
      · have miss : (h == k) = false := by simpa using here
        rw [List.lookup_cons, miss, if_neg here, Nat.zero_add]
    rw [List.map_cons, List.sum_cons, ih sorted fun x hx => bound x (List.mem_cons_of_mem _ hx)]
    rw [Finset.sum_congr rfl fun h _ => split h, Finset.sum_add_distrib, Finset.sum_ite_eq',
      if_pos (Finset.mem_range.2 (bound _ List.mem_cons_self))]

/-- Some number is above those of all endpoints of which anything is kept. -/
theorem exists_bound (m : Memory) : ∃ n, ∀ x ∈ m.endpoints.entries, x.1 < n :=
  ⟨(m.endpoints.entries.map (·.1)).sum + 1, fun _ hx =>
    Nat.lt_succ_of_le (List.le_sum_of_mem (List.mem_map_of_mem hx))⟩

/-- Where no endpoint has more to read the transport has not. -/
theorem load_le (below : ∀ k, (m'.endpoint k).load ≤ (m.endpoint k).load) : m'.load ≤ m.load := by
  obtain ⟨n, bound⟩ := m.exists_bound
  obtain ⟨n', bound'⟩ := m'.exists_bound
  rw [load_eq_sum (n := max n n') fun x hx => lt_max_of_lt_left (bound x hx),
    load_eq_sum (n := max n n') fun x hx => lt_max_of_lt_right (bound' x hx)]
  exact Finset.sum_le_sum fun k _ => below k

/-- Where no endpoint has more to read, and one has less, the transport has less. -/
theorem load_lt (below : ∀ k, (m'.endpoint k).load ≤ (m.endpoint k).load)
    (less : (m'.endpoint h).load < (m.endpoint h).load) : m'.load < m.load := by
  obtain ⟨n, bound⟩ := m.exists_bound
  obtain ⟨n', bound'⟩ := m'.exists_bound
  rw [load_eq_sum (n := max (h + 1) (max n n')) fun x hx =>
    lt_max_of_lt_right (lt_max_of_lt_left (bound x hx)),
    load_eq_sum (n := max (h + 1) (max n n')) fun x hx =>
      lt_max_of_lt_right (lt_max_of_lt_right (bound' x hx))]
  exact Finset.sum_lt_sum (fun k _ => below k) ⟨h,
    Finset.mem_range.2 (lt_max_of_lt_left (Nat.lt_succ_self h)), less⟩

/-- The load depends on nothing but what has arrived. -/
theorem load_congr (same : ∀ k, (m'.endpoint k).incoming = (m.endpoint k).incoming) :
    m'.load = m.load :=
  Nat.le_antisymm (load_le fun k => by rw [Endpoint.load, same, Endpoint.load])
    (load_le fun k => by rw [Endpoint.load, ← same, Endpoint.load])

/-- A read that finds anything lessens the load, and no read adds to it. -/
theorem load_read (w : Waker) (h : HandleId) {size : Nat} (room : 0 < size) (m : Memory) :
    (read w h size m).net.load ≤ m.load ∧
      ((read w h size m).answer.1 ≠ .pending → (read w h size m).net.load < m.load) := by
  have taken (incoming : List Incoming)
      (less : (incoming.map Incoming.weight).sum <
        ((m.endpoint h).incoming.map Incoming.weight).sum) :
      (m.update h ({ · with incoming })).load < m.load := by
    refine load_lt (h := h) (fun k => ?_) ?_
    · rw [endpoint_update]
      split
      case isTrue same => rw [same]; exact Nat.le_of_lt less
      case isFalse => exact Nat.le_refl _
    · rw [endpoint_update, if_pos rfl]
      exact less
  have finds (incoming : List Incoming)
      (less : (incoming.map Incoming.weight).sum <
      ((m.endpoint h).incoming.map Incoming.weight).sum) {P : Prop} :
      (m.update h ({ · with incoming })).load ≤ m.load ∧
        (P → (m.update h ({ · with incoming })).load < m.load) :=
    ⟨Nat.le_of_lt (taken incoming less), fun _ => taken incoming less⟩
  unfold read
  simp only
  split
  case isTrue => exact ⟨Nat.le_refl _, fun some => (some rfl).elim⟩
  case isFalse =>
    split
    case h_1 => exact ⟨Nat.le_refl _, fun some => (some rfl).elim⟩
    case h_2 bytes rest here =>
      refine finds _ ?_
      rw [here]
      split
      case isTrue => simp [Incoming.weight]
      case isFalse some =>
        have long : 0 < (bytes.drop size).length := List.length_pos_iff.2 (by simpa using some)
        rw [List.length_drop] at long
        simp only [List.map_cons, List.sum_cons, Incoming.weight, List.length_drop]
        omega
    case h_3 rest here => exact finds _ (by simp [here, Incoming.weight])
    case h_4 status rest here => exact finds _ (by simp [here, Incoming.weight])

end Memory

variable {S N C : Type} {enter : Handlers (Memory.host S N C)}

namespace Loop

variable {l l' : Loop (Memory.host S N C)}

/-- All that can still arrive: what there is to read, the connections that are reported, and the
outcomes of connects. -/
def arrivals (l : Loop (Memory.host S N C)) : Nat :=
  l.net.load + (l.net.finished.toList ++ l.deferred).countP Completion.isConnection +
    l.requests.values.countP Request.connects

/-- The number of entries in the tables of requests and of handles. -/
def holdings {H : Host} (l : Loop H) : Nat := l.requests.size + l.handles.size

/-- The burden of a loop with some completions under way: first what can still arrive, then
what is in the tables. -/
def burden (l : Loop (Memory.host S N C)) (batch : List Completion) : ℕ ×ₗ ℕ :=
  toLex (l.arrivals + batch.countP Completion.isConnection, l.holdings)

/-- What can still arrive depends on the transport, on the results that are
due, and on the requests. -/
theorem arrivals_congr (net : l'.net = l.net) (deferred : l'.deferred = l.deferred)
    (requests : l'.requests = l.requests) :
    l'.arrivals = l.arrivals := by
  rw [arrivals, net, deferred, requests, arrivals]

/-- The holdings depend on the requests and the handles. -/
theorem holdings_congr {H : Host} {l l' : Loop H} (requests : l'.requests = l.requests)
    (ids : l'.handles.ids = l.handles.ids) : l'.holdings = l.holdings := by
  rw [holdings, requests, Registry.size_eq_length_ids l'.handles, ids,
    ← Registry.size_eq_length_ids, holdings]

/-- No operation but to connect brings anything in. -/
theorem arrivals_issue (l : Loop (Memory.host S N C)) {o : Operation (Memory.host S N C).Closure}
    (other : ∀ h address, o ≠ .connect h address) :
    (l.issue Memory.transport o).2.arrivals ≤ l.arrivals := by
  have load : (l.issue Memory.transport o).2.net.load ≤ l.net.load := Memory.load_le fun k => by
    obtain same | ⟨-, none⟩ := incoming_issue l o k
    · rw [Endpoint.load, same, Endpoint.load]
    · simp [Endpoint.load, none]
  have finished : (l.issue Memory.transport o).2.net.finished.toList.countP
      Completion.isConnection =
      l.net.finished.toList.countP Completion.isConnection := by
    obtain ⟨done, finished, reports⟩ := finished_issue l o
    have silent : done.countP Completion.isConnection = 0 := List.countP_eq_zero.2 fun d hd => by
      simpa [Completion.isConnection, Option.isSome_iff_ne_none] using reports d hd
    rw [finished, List.countP_append, silent, Nat.add_zero]
  have deferred : (l.issue Memory.transport o).2.deferred.countP Completion.isConnection =
      l.deferred.countP Completion.isConnection := by
    obtain same | ⟨_, _, _, _, -, -, refused⟩ := refusals_issue l o
    · rw [same]
    · rw [refused, List.countP_append]
      rfl
  have requests : (l.issue Memory.transport o).2.requests.values.countP Request.connects =
      l.requests.values.countP Request.connects := by
    obtain ⟨⟨-, same⟩ | ⟨r, issued, added⟩, -⟩ := requests_issue Memory.transport l o
    · rw [same]
    · rw [added, Registry.countP_values_add]
      simp [Operation.connects_of_issued? issued other]
  rw [arrivals, arrivals, List.countP_append, List.countP_append, finished, deferred, requests]
  omega

/-- To close a handle puts nothing into the tables. -/
theorem holdings_close (l : Loop (Memory.host S N C)) (h : HandleId) (onClose : C) :
    (l.issue Memory.transport (.close h onClose)).2.holdings = l.holdings := by
  refine holdings_congr ?_ ?_
  · obtain ⟨⟨-, same⟩ | ⟨r, issued, -⟩, -⟩ := requests_issue Memory.transport l (.close h onClose)
    · exact same
    · cases issued
  · obtain ⟨l₀, l₁, before, effect, after⟩ := issues_issue Memory.transport l (.close h onClose)
    rw [after.ids, ← before.ids]
    generalize (l.issue Memory.transport (.close h onClose)).1 = a at effect
    cases effect with
    | refused => rfl
    | close => exact ids_retire ..

/-- A request that leaves its table leaves the burden. -/
theorem burden_remove {req : RequestId} {r : Request C} (pending : l.requests.get? req = some r) :
    ({ l with requests := l.requests.remove req } : Loop (Memory.host S N C)).arrivals +
      (if r.connects then 1 else 0) =
        l.arrivals ∧
      ({ l with requests := l.requests.remove req } : Loop (Memory.host S N C)).holdings + 1 =
        l.holdings := by
  have counted := Registry.countP_values_remove pending Request.connects
  have sized := Registry.size_remove pending
  simp only [arrivals, holdings]
  omega

/-- Giving a reference back brings nothing to arrive. -/
theorem arrivals_release (l : Loop (Memory.host S N C)) (h : HandleId) :
    (l.release h).arrivals = l.arrivals :=
  arrivals_congr (release_frame l h).2.2.2.2.1 (release_frame l h).2.2.2.2.2.1
    (release_frame l h).2.2.1

/-- Giving a reference back adds nothing to the tables. -/
theorem holdings_release {H : Host} (l : Loop H) (h : HandleId) :
    (l.release h).holdings = l.holdings :=
  holdings_congr (release_frame l h).2.2.1 (ids_release l h)

/-- The end of a read session brings nothing to arrive. -/
theorem arrivals_endReading (l : Loop (Memory.host S N C)) (h : HandleId) (next : ReadState) :
    (l.endReading Memory.transport h next).arrivals = l.arrivals := by
  obtain ⟨-, -, requests, -, deferred, -⟩ := endReading_frame Memory.transport l h next
  rw [arrivals, Memory.load_congr (incoming_endReading l h next), finished_endReading, deferred,
    requests, arrivals]

/-- A read that finds anything lessens what can still arrive, and no read adds to it. -/
theorem arrivals_read (l : Loop (Memory.host S N C)) (w : Waker) (h : HandleId) {size : Nat}
    (room : 0 < size) :
    (l.ask (Memory.transport.read w h size)).2.arrivals ≤ l.arrivals ∧
      ((l.ask (Memory.transport.read w h size)).1.1 ≠ .pending →
        (l.ask (Memory.transport.read w h size)).2.arrivals < l.arrivals) := by
  have finished : (Memory.read w h size l.net).net.finished = l.net.finished :=
    (Memory.read_like w h size l.net).1
  obtain ⟨less, finds⟩ := Memory.load_read w h room l.net
  have same : (l.ask (Memory.transport.read w h size)).2.arrivals + l.net.load =
      (Memory.read w h size l.net).net.load + l.arrivals := by
    simp only [arrivals, ask_frame, Memory.transport, finished]
    omega
  exact ⟨by omega, fun some => by have := finds some; omega⟩

/-- A loop beside another has the same to arrive. -/
theorem Beside.arrivals (beside : l.Beside l') : l'.arrivals = l.arrivals :=
  arrivals_congr beside.agrees.net beside.agrees.deferred beside.agrees.requests

/-- A loop beside another holds the same. -/
theorem Beside.holdings {H : Host} {l l' : Loop H} (beside : l.Beside l') :
    l'.holdings = l.holdings :=
  holdings_congr beside.agrees.requests beside.agrees.ids

end Loop

/-! ## Handlers -/

section

variable {H : Host}

/-- Whether a call is answered at once and asks for nothing of the far side. -/
def Call.modest : Call H → Bool
  | .issue (.connect ..) | .script _ => false
  | c => c.prompt

/-- Whether a call puts nothing into the tables of a loop: it closes a
handle, or it only observes. -/
def Call.frugal : Call H → Bool
  | .issue (.close ..) => true
  | c => c.observes

/-- A modest call is answered at once. -/
theorem Call.prompt_of_modest {c : Call H} (modest : c.modest = true) : c.prompt = true := by
  cases c <;> first | rfl | cases modest

/-- A frugal call is modest. -/
theorem Call.modest_of_frugal {c : Call H} (frugal : c.frugal = true) : c.modest = true := by
  cases c with
  | issue o => cases o <;> first | rfl | cases frugal
  | _ => first | rfl | cases frugal

/-- A call that only observes is frugal. -/
theorem Call.frugal_of_observes {c : Call H} (observes : c.observes = true) : c.frugal = true := by
  cases c <;> first | rfl | cases observes

/-- Each handler, whenever it is entered, only observes, or does what a handler of
the echo server does. -/
def Gentle (embed : Echo.Closure → H.Closure) (enter : Handlers H) : Prop :=
  ∀ c o, (enter c o).Observes (fun _ => True) ∨ ∃ k, enter c o = Echo.enter embed k o

namespace Echo

variable (embed : Closure → H.Closure)

/-- To register a handler and go on makes the one call more. -/
theorem makes_register {may : Call H → Prop} {h : HandleId} {event : EventName} {c : Closure}
    {next : Program H} (allowed : may (.issue (.on h event (embed c))))
    (goes : next.Makes may fun _ => True) :
    (register embed h event c next).Makes may fun _ => True :=
  .call allowed (.orRefuse fun _ => goes)

/-- The echo server asks for nothing of the far side. -/
theorem modest_enter (k : Closure) (o : Occasion) :
    (Echo.enter embed k o).Makes (·.modest = true) fun _ => True := by
  unfold Echo.enter
  split
  case h_1 server e =>
    refine .call rfl fun client => .call rfl (.orRefuse fun _ => ?_)
    refine makes_register embed rfl (makes_register embed rfl (makes_register embed rfl ?_))
    exact .call rfl (.orRefuse fun _ => .done trivial)
  case h_2 | h_3 | h_4 => exact .call rfl (.orRefuse fun _ => .done trivial)
  case h_5 | h_6 => exact .call rfl fun _ => .done trivial
  case h_7 => exact .done trivial

/-- When a request has completed or a handle is gone, the echo server does no more
than to close a handle. -/
theorem frugal_enter (k : Closure) {o : Occasion} (other : ∀ h e, o ≠ .event h e) :
    (Echo.enter embed k o).Makes (·.frugal = true) fun _ => True := by
  unfold Echo.enter
  split
  case h_1 | h_2 | h_3 | h_4 => exact (other _ _ rfl).elim
  case h_5 | h_6 => exact .call rfl fun _ => .done trivial
  case h_7 => exact .done trivial

end Echo

end

namespace Machine

variable {l l' : Loop (Memory.host S N C)} {embed : Echo.Closure → C} {h : HandleId}

/-- A modest call brings nothing in. -/
theorem arrivals_of_modest {stack : List (Frame (Memory.host S N C))} {c : Call (Memory.host S N C)}
    {next : c.Answer → Program (Memory.host S N C)} {y : Machine (Memory.host S N C)}
    (modest : c.modest = true)
    (rule : Rule Memory.transport enter ⟨l, stack, .run (.call c next)⟩ y) :
    y.loop.arrivals ≤ l.arrivals := by
  cases c with
  | issue o =>
    cases rule
    refine Loop.arrivals_issue l ?_
    rintro h address rfl
    cases modest
  | ask | survey | note | «recall» | update => cases rule; exact Nat.le_refl _
  | listen | tick | run | poll | script => cases modest

/-- A frugal call puts nothing into the tables. -/
theorem holdings_of_frugal {stack : List (Frame (Memory.host S N C))} {c : Call (Memory.host S N C)}
    {next : c.Answer → Program (Memory.host S N C)} {y : Machine (Memory.host S N C)}
    (frugal : c.frugal = true)
    (rule : Rule Memory.transport enter ⟨l, stack, .run (.call c next)⟩ y) :
    y.loop.holdings = l.holdings := by
  cases c with
  | issue o =>
    cases o with
    | close h onClose => cases rule; exact Loop.holdings_close l h onClose
    | _ => cases frugal
  | ask | survey | note | «recall» | update => cases rule; rfl
  | listen | tick | run | poll | script => cases frugal

end Machine

namespace Gentle

open Machine

variable {embed : Echo.Closure → C} {l : Loop (Memory.host S N C)} {h : HandleId}

/-- Whatever a gentle handler is entered for, it brings nothing in. -/
theorem modest (gentle : Gentle (H := Memory.host S N C) embed enter) (c : C) (o : Occasion)
    (l : Loop (Memory.host S N C)) :
    Finishes Memory.transport enter (fun l _ l' => l'.arrivals ≤ l.arrivals) l (enter c o) := by
  have makes : (enter c o).Makes (·.modest = true) fun _ => True := by
    obtain observes | ⟨k, same⟩ := gentle c o
    · exact observes.mono fun _ observes => Call.modest_of_frugal (Call.frugal_of_observes observes)
    · rw [same]
      exact Echo.modest_enter (H := Memory.host S N C) embed k o
  refine (finishes_of_makes (S := fun l l' => l'.arrivals ≤ l.arrivals) (fun _ => Nat.le_refl _)
    (fun first second => Nat.le_trans second first)
    (fun _ => Call.prompt_of_modest) arrivals_of_modest makes l).mono ?_
  exact fun _ _ done => done.1

/-- Unless it is told an event, a gentle handler puts nothing into the tables either. -/
theorem frugal (gentle : Gentle (H := Memory.host S N C) embed enter) (c : C) {o : Occasion}
    (other : ∀ h e, o ≠ .event h e) (l : Loop (Memory.host S N C)) :
    Finishes Memory.transport enter (fun l _ l' =>
      l'.arrivals ≤ l.arrivals ∧ l'.holdings = l.holdings) l (enter c o) := by
  have makes : (enter c o).Makes (·.frugal = true) fun _ => True := by
    obtain observes | ⟨k, same⟩ := gentle c o
    · exact observes.mono fun _ => Call.frugal_of_observes
    · rw [same]
      exact Echo.frugal_enter (H := Memory.host S N C) embed k other
  refine (finishes_of_makes (S := fun l l' => l'.arrivals ≤ l.arrivals ∧ l'.holdings = l.holdings)
    (fun _ => ⟨Nat.le_refl _, rfl⟩)
    (fun first second => ⟨Nat.le_trans second.1 first.1, second.2.trans first.2⟩)
    (fun _ frugal => Call.prompt_of_modest (Call.modest_of_frugal frugal))
    (fun frugal rule =>
      ⟨arrivals_of_modest (Call.modest_of_frugal frugal) rule, holdings_of_frugal frugal rule⟩)
      makes l).mono ?_
  exact fun _ _ done => done.1

/-- Told that a handle is gone, a gentle handler fails or leaves the loop as it is: all that the
echo server would do with the handle is refused. -/
theorem parting (gentle : Gentle (H := Memory.host S N C) embed enter) (c : C)
    (gone : l.handles.get? h = none) (created : h < l.handles.next) :
    Finishes Memory.transport enter (fun l failure l' =>
      l'.arrivals ≤ l.arrivals ∧ (failure = none → l.Beside l')) l
      (enter c (.event h .close)) := by
  have refused {α : Type} {a : Except LoopError α} {e : LoopError} (failed : errorOf a = some e) :
      a = .error e := by
    cases a with
    | ok => cases failed
    | error => rw [Option.some.inj failed]
  -- A handler that issues such an operation and makes nothing of its failure fails as well.
  have fails {l : Loop (Memory.host S N C)} {o : Operation C}
      {next : o.Answer → Program (Memory.host S N C)} {e : LoopError}
      (ends : next (l.issue Memory.transport o).1 = .refuse e)
      (other : ∀ k address, o ≠ .connect k address) :
      Finishes Memory.transport enter (fun l failure l' =>
        l'.arrivals ≤ l.arrivals ∧ failure ≠ none) l
        (.call (.issue o) next) := by
    refine (finishes_issue (R := fun l f l' => l' = l ∧ f ≠ none) ?_).mono ?_
    · rw [ends]
      exact (finishes_done _).mono fun _ _ done => ⟨done.1, by simp [done.2]⟩
    · rintro _ _ ⟨rfl, failed⟩
      exact ⟨Loop.arrivals_issue _ other, failed⟩
  have spares (failure : Option ListenerError) (l' : Loop (Memory.host S N C))
      (done : l'.arrivals ≤ l.arrivals ∧ failure ≠ none) :
      l'.arrivals ≤ l.arrivals ∧ (failure = none → l.Beside l') :=
    ⟨done.1, fun ended => (done.2 ended).elim⟩
  obtain observes | ⟨k, same⟩ := gentle c (.event h .close)
  · exact (finishes_of_observes observes l).mono fun _ _ done =>
      ⟨Nat.le_of_eq done.1.arrivals, fun _ => done.1⟩
  rw [same]
  cases k with
  | onConnection =>
    have gone' : (l.issue Memory.transport (.newHandle .tcp)).2.handles.get? h = none := by
      have added : (l.issue Memory.transport (.newHandle .tcp)).2.handles.get? h = _ :=
        l.handles.get?_add { kind := .tcp } h
      rw [added, if_neg (Nat.ne_of_lt created)]
      exact gone
    refine (finishes_issue
      (fails (e := .badHandle h) (o := .accept h l.handles.next) ?_ (by simp))).mono ?_
    · rw [refused (Loop.badHandle_issue (o := .accept h l.handles.next) gone' rfl)]
      rfl
    · exact fun f l' done =>
        spares f l' ⟨Nat.le_trans done.1 (Loop.arrivals_issue _ (by simp)), done.2⟩
  | onEnd =>
    refine (fails (o := .shutdown h _) (e := .badHandle h) ?_ (by simp)).mono spares
    rw [refused (Loop.badHandle_issue (o := .shutdown h _) gone rfl)]
    rfl
  | onError =>
    refine (fails (o := .close h _) (e := .badHandle h) ?_ (by simp)).mono spares
    rw [refused (Loop.badHandle_issue (o := .close h _) gone rfl)]
    rfl
  | onData | afterWrite | afterShutdown | afterClose =>
    exact (finishes_done none).mono fun _ _ done =>
      ⟨by rw [done.1], fun _ => by rw [done.1]; exact .refl l⟩

end Gentle

end Reactor
