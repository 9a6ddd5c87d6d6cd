import Mathlib.Data.List.Basic
import Reactor.Proofs.Memory.Ticks

/-!
# The line of a handle

The requests of one handle stand in line: those whose completions a tick is about to take, those
whose completions have finished, then those that the endpoint of the handle holds back. A shutdown
that fails steps out of the line, and so does what is canceled together with one. Nobody gets ahead
of another: an operation may send requests away, and a new one comes last.
-/

namespace Reactor

variable {S N C : Type}

namespace Completion

variable {κ : Type} {requests : Registry (Request κ)} {h : HandleId} {c : Completion}
  {req : RequestId}

/-- The number of a request of a handle that keeps its turn by a completion: that of a write, or of
a shutdown that has not failed. -/
def turn? (requests : Registry (Request κ)) (h : HandleId) : Completion → Option RequestId
  | .write req _ | .shutdown req (.ok ()) =>
    if (requests.get? req).any (·.handle = h) then some req else none
  | _ => none

/-- A completion that names no request keeps no turn. -/
theorem turn?_of_silent (silent : c.report? = none) : c.turn? requests h = none := by
  cases c <;> first | rfl | cases silent

/-- A completion by which a request keeps its turn names it. -/
theorem names_of_turn? (turn : c.turn? requests h = some req) : c.names req = true := by
  unfold turn? at turn
  split at turn
  case h_1 | h_2 =>
    split at turn
    case isTrue =>
      cases turn
      exact decide_eq_true rfl
    case isFalse => cases turn
  case h_3 => cases turn

/-- Who keeps a turn is a request of the handle. -/
theorem pending_of_turn? (turn : c.turn? requests h = some req) :
    ∃ r, requests.get? req = some r ∧ r.handle = h := by
  unfold turn? at turn
  split at turn
  case h_1 | h_2 =>
    split at turn
    case isTrue mine =>
      cases turn
      obtain ⟨r, pending, mine⟩ := (Option.any_eq_true _ _).1 mine
      exact ⟨r, pending, of_decide_eq_true mine⟩
    case isFalse => cases turn
  case h_3 => cases turn

/-- A write keeps its turn with any outcome, and a shutdown with success. -/
theorem turn?_of_pending {r : Request κ} (pending : requests.get? req = some r)
    (outcome : Outcome) :
    (Completion.write req outcome).turn? requests r.handle = some req ∧
      (Completion.shutdown req (.ok ())).turn? requests r.handle = some req := by
  simp [turn?, pending]

/-- A request keeps its turn on no other handle than its own. -/
theorem turn?_of_other {r : Request κ} (pending : requests.get? req = some r) (other : h ≠ r.handle)
    (named : c.names req = true) : c.turn? requests h = none := by
  refine Option.eq_none_iff_forall_not_mem.2 fun req' turn => other ?_
  obtain ⟨r', pending', rfl⟩ := pending_of_turn? turn
  obtain rfl := eq_of_names named (names_of_turn? turn)
  rw [Option.some.inj (pending.symm.trans pending')]

/-- A request more changes nothing for those that are there. -/
theorem turn?_add (fits : c.Fits requests) (r : Request κ) :
    c.turn? (requests.add r) h = c.turn? requests h := by
  have known {req : RequestId} {r' : Request κ} (pending : requests.get? req = some r') :
      (requests.add r).get? req = requests.get? req := by
    rw [Registry.get?_add, if_neg (Nat.ne_of_lt (Registry.lt_next_of_get? pending))]
  cases c with
  | connection | connect => rfl
  | write req =>
    obtain ⟨_, _, _, pending⟩ := fits
    simp only [turn?, known pending]
  | shutdown req outcome =>
    obtain ⟨_, _, pending⟩ := fits
    cases outcome with
    | ok => simp only [turn?, known pending]
    | error => rfl

/-- A request less takes nobody's turn but its own. -/
theorem turn?_remove : c.turn? (requests.remove req) h = (c.turn? requests h).filter (· ≠ req) := by
  have less (req' : RequestId) :
      (if ((requests.remove req).get? req').any (·.handle = h) then some req' else none) =
      Option.filter (· ≠ req)
        (if (requests.get? req').any (·.handle = h) then some req' else none) := by
    rw [Registry.get?_remove]
    by_cases here : req = req'
    · subst here
      rw [if_pos rfl]
      cases (requests.get? req).any (·.handle = h) <;> simp [Option.filter]
    · rw [if_neg here]
      cases (requests.get? req').any (·.handle = h) <;> simp [Option.filter, Ne.symm here]
  cases c with
  | connection | connect => rfl
  | write req' => exact less req'
  | shutdown req' outcome =>
    cases outcome with
    | ok => exact less req'
    | error => rfl

end Completion

namespace Memory

variable {m : Memory} {h : HandleId} {req : RequestId}

/-- Writes that are held back do not finish. -/
theorem finished_write_of_holding (holding : m.holding = true) (data : List UInt8) :
    (write req h data m).net.finished = m.finished := by
  unfold write
  split
  case h_1 => rfl
  case h_2 => simp [holding]

/-- A shutdown that waits for writes goes through for none of them. -/
theorem finished_shutdown_of_held (held : (m.endpoint h).held.toList ≠ []) :
    (shutdown req h m).net.finished.toList ≠ m.finished.toList ++ [.shutdown req (.ok ())] := by
  unfold shutdown
  split
  case h_1 => simp
  case h_2 =>
    rw [Queue.isEmpty_eq]
    simp [held]

/-- What an endpoint releases as canceled keeps no more turns than what it would release as done. -/
theorem turns_releaseHeld {κ : Type} (requests : Registry (Request κ)) (e : Endpoint)
    (outcome : Outcome) :
    ((releaseHeld e outcome).filterMap (·.turn? requests h)).Sublist
      ((releaseHeld e (.ok ())).filterMap (·.turn? requests h)) := by
  simp only [releaseHeld, List.filterMap_append, List.filterMap_map]
  refine List.Sublist.append (List.Sublist.refl _) ?_
  cases e.heldShutdown with
  | none => exact .refl _
  | some req =>
    cases outcome with
    | ok => exact .refl _
    | error => exact List.nil_sublist _

end Memory

namespace Loop

variable {l l' : Loop (Memory.host S N C)} {batch batches : List Completion} {h k : HandleId}

/-- What is to come of a handle when nothing goes wrong and its writes are flushed, after what a
tick has taken up. -/
def lineup (l : Loop (Memory.host S N C)) (batch : List Completion) (h : HandleId) :
    List Completion :=
  batch ++ l.net.finished.toList ++ Memory.releaseHeld (l.net.endpoint h) (.ok ())

/-- The requests of a handle in the order of their turns. -/
def line (l : Loop (Memory.host S N C)) (batch : List Completion) (h : HandleId) : List RequestId :=
  (l.lineup batch h).filterMap (·.turn? l.requests h)

/-- In every line some may have left, and nobody has come but the next
request, which stands last. -/
def LinesUp (l : Loop (Memory.host S N C)) (batch : List Completion)
    (l' : Loop (Memory.host S N C)) : Prop :=
  ∀ h, (l'.line batch h).Sublist (l.line batch h ++ [l.requests.next])

/-- Writes are held back only while the transport holds writes back. -/
def Withheld (l : Loop (Memory.host S N C)) : Prop :=
  ∀ k, (l.net.endpoint k).held.toList ≠ [] → l.net.holding = true

namespace Coupled

/-- Whatever is to come of a handle fits the requests. -/
theorem fits_lineup (c : l.Coupled (l.underway batches)) (within : ∀ d ∈ batch, d ∈ batches)
    {d : Completion} (hd : d ∈ l.lineup batch h) : d.Fits l.requests := by
  rcases List.mem_append.1 hd with hd | hd
  · refine c.fits ?_
    rcases List.mem_append.1 hd with hd | hd
    · exact List.mem_append_right _ (within d hd)
    · exact List.mem_append_left _ (List.mem_append_left _ hd)
  · exact c.fits_of_released hd

/-- What the endpoint of one handle releases has no turn on another. -/
theorem turns_elsewhere (c : l.Coupled (l.underway batches)) (other : h ≠ k) (outcome : Outcome) :
    (Memory.releaseHeld (l.net.endpoint k) outcome).filterMap (·.turn? l.requests h) = [] := by
  refine List.filterMap_eq_nil_iff.2 fun d hd => ?_
  obtain ⟨p, hp, rfl⟩ | ⟨req, waits, rfl⟩ := Memory.mem_releaseHeld.1 hd
  · obtain ⟨_, pending⟩ := c.held hp
    exact Completion.turn?_of_other pending other (decide_eq_true rfl)
  · obtain ⟨_, pending⟩ := c.heldShutdown waits
    exact Completion.turn?_of_other pending other (decide_eq_true rfl)

/-- No shutdown waits at the endpoint of a stream that is connected. -/
theorem slot_free_of_connected {x : Handle C} (c : l.Coupled (l.underway batches))
    (found : l.handles.get? h = some x) (connected : x.state = .connected) :
    (l.net.endpoint h).heldShutdown = none := by
  refine Option.eq_none_iff_forall_not_mem.2 fun req waits => ?_
  obtain ⟨callback, pending⟩ := c.heldShutdown waits
  exact c.no_shutdown found (by simp [connected]) (by simp [connected]) req callback pending

end Coupled

/-- The number of whoever is in line was given out. -/
theorem lt_next_of_line {req : RequestId} (waits : req ∈ l.line batch h) :
    req < l.requests.next := by
  obtain ⟨d, -, turn⟩ := List.mem_filterMap.1 waits
  obtain ⟨r, pending, -⟩ := Completion.pending_of_turn? turn
  exact Registry.lt_next_of_get? pending

/-! ## Changes of the line -/

/-- To start or stop to read an endpoint changes nothing of what it holds back. -/
theorem held_setReading (m : Memory) (reading : Bool) (h k : HandleId) :
    ((Memory.setReading reading h m).net.endpoint k).held = (m.endpoint k).held ∧
      ((Memory.setReading reading h m).net.endpoint k).heldShutdown =
        (m.endpoint k).heldShutdown := by
  rw [Memory.setReading, Memory.quiet_net, Memory.endpoint_update]
  split
  case isTrue hk => simp [hk]
  case isFalse => simp

/-- The end of a read session leaves alone what is held back. -/
theorem held_endReading (l : Loop (Memory.host S N C)) (h k : HandleId) (next : ReadState) :
    ((l.endReading Memory.transport h next).net.endpoint k).held = (l.net.endpoint k).held ∧
      ((l.endReading Memory.transport h next).net.endpoint k).heldShutdown =
        (l.net.endpoint k).heldShutdown := by
  unfold endReading
  split
  case h_1 => simp
  case h_2 =>
    simp only
    split
    case isTrue =>
      rw [(release_frame _ _).2.2.2.2.1]
      exact held_setReading l.net false h k
    case isFalse => simp

namespace LinesUp

/-- Lines in which some have left line up. -/
theorem of_sublist (fewer : ∀ h, (l'.line batch h).Sublist (l.line batch h)) : l.LinesUp batch l' :=
  fun h => (fewer h).trans (List.sublist_append_left _ _)

/-- The endpoints hold the same back, and what finishes has no turn. -/
theorem of_silent (done : List Completion) (requests : l'.requests = l.requests)
    (finished : l'.net.finished.toList = l.net.finished.toList ++ done)
    (silent : ∀ d ∈ done, d.report? = none)
    (held : ∀ k, (l'.net.endpoint k).held = (l.net.endpoint k).held ∧
      (l'.net.endpoint k).heldShutdown = (l.net.endpoint k).heldShutdown) : l.LinesUp batch l' := by
  refine of_sublist fun h => ?_
  have none : done.filterMap (·.turn? l.requests h) = [] :=
    List.filterMap_eq_nil_iff.2 fun d hd => Completion.turn?_of_silent (silent d hd)
  rw [line, line, lineup, lineup, requests, finished, Memory.releaseHeld, (held h).1, (held h).2,
    ← Memory.releaseHeld]
  simp [none]

/-- The endpoints hold the same back, and nothing finishes. -/
theorem of_quiet (requests : l'.requests = l.requests) (finished : l'.net.finished = l.net.finished)
    (held : ∀ k, (l'.net.endpoint k).held = (l.net.endpoint k).held ∧
      (l'.net.endpoint k).heldShutdown = (l.net.endpoint k).heldShutdown) : l.LinesUp batch l' :=
  of_silent [] requests (by rw [finished, List.append_nil]) (by simp) held

/-- A loop with the same requests and the same transport lines up. -/
theorem of_net (requests : l'.requests = l.requests) (net : l'.net = l.net) : l.LinesUp batch l' :=
  of_quiet requests (by rw [net]) fun k => by simp [net]

/-- A primitive that shows nothing is asked. -/
theorem of_like (requests : l'.requests = l.requests)
    (like : l'.net.finished = l.net.finished ∧ ∀ k, (l.net.endpoint k).Like (l'.net.endpoint k)) :
    l.LinesUp batch l' :=
  of_quiet requests like.1 fun k => ⟨(like.2 k).held, (like.2 k).heldShutdown⟩

/-- A request is entered, and some completions come in between those that are there. Those have no
turn, or one turn that comes last. -/
theorem of_enter {r : Request C} (c : l.Coupled (l.underway batches))
    (within : ∀ d ∈ batch, d ∈ batches) (requests : l'.requests = l.requests.add r)
    (comes : ∀ k, ∃ before new after,
      l.lineup batch k = before ++ after ∧ l'.lineup batch k = before ++ new ++ after ∧
      (new.filterMap (·.turn? l'.requests k) = [] ∨
        new.filterMap (·.turn? l'.requests k) = [l.requests.next] ∧
        after.filterMap (·.turn? l.requests k) = [])) :
    l.LinesUp batch l' := by
  intro k
  obtain ⟨before, new, after, there, here, turns⟩ := comes k
  have same (ds : List Completion) (known : ∀ d ∈ ds, d ∈ l.lineup batch k) :
      ds.filterMap (·.turn? l'.requests k) = ds.filterMap (·.turn? l.requests k) := by
    refine List.filterMap_congr fun d hd => ?_
    rw [requests]
    exact Completion.turn?_add (c.fits_lineup within (known d hd)) r
  have lead := same before fun d hd => by
    rw [there]
    exact List.mem_append_left _ hd
  have rest := same after fun d hd => by
    rw [there]
    exact List.mem_append_right _ hd
  rw [line, line, here, there]
  simp only [List.filterMap_append, lead, rest]
  obtain none | ⟨last, none⟩ := turns
  · rw [none, List.append_nil]
    exact List.sublist_append_left _ _
  · rw [last, none, List.append_nil, List.append_nil]

variable {x : Handle C}

/-- A write that is refused never gets in line; otherwise it comes last, held back behind the others
or finished when nothing is held back. -/
theorem write (c : l.Coupled (l.underway batches)) (within : ∀ d ∈ batch, d ∈ batches)
    (withheld : l.Withheld) (found : l.handles.get? h = some x) (connected : x.state = .connected)
    (data : List UInt8) (callback : Callback C)
    (requests : l'.requests = l.requests.add (.write h data callback))
    (net : l'.net = (Memory.write l.requests.next h data l.net).net) : l.LinesUp batch l' := by
  have pending : l'.requests.get? l.requests.next = some (.write h data callback) := by
    rw [requests, Registry.get?_add, if_pos rfl]
  have turned (outcome : Outcome) :
      (Completion.write l.requests.next outcome).turn? l'.requests h = some l.requests.next :=
    (Completion.turn?_of_pending pending outcome).1
  have free := c.slot_free_of_connected found connected
  have released {k : HandleId} (held : (l'.net.endpoint k).held = (l.net.endpoint k).held)
      (slot : (l'.net.endpoint k).heldShutdown = (l.net.endpoint k).heldShutdown) :
      Memory.releaseHeld (l'.net.endpoint k) (.ok ()) =
        Memory.releaseHeld (l.net.endpoint k) (.ok ()) := by
    rw [Memory.releaseHeld, held, slot, ← Memory.releaseHeld]
  refine of_enter c within requests fun k => ?_
  obtain ⟨status, -, finished, same⟩ | ⟨-, finished, elsewhere, here⟩
      | ⟨outcome, -, finished, like⟩ :=
    Memory.write_cases l.requests.next h data l.net
  case inl =>
    refine ⟨l.lineup batch k, [], [], by simp, ?_, .inl rfl⟩
    rw [lineup, released (by rw [net, same]) (by rw [net, same]), net, finished]
    simp [lineup]
  case inr.inl =>
    by_cases hk : k = h
    · subst hk
      refine ⟨l.lineup batch k, [.write l.requests.next (.ok ())], [], by simp, ?_, .inr ⟨?_, rfl⟩⟩
      · rw [lineup, net, finished, here]
        simp [lineup, Memory.releaseHeld, free]
      · simp [turned (.ok ())]
    · refine ⟨l.lineup batch k, [], [], by simp, ?_, .inl rfl⟩
      rw [lineup, released (by rw [net, elsewhere k hk]) (by rw [net, elsewhere k hk]),
        net, finished]
      simp [lineup]
  case inr.inr =>
    refine ⟨batch ++ l.net.finished.toList, [.write l.requests.next outcome],
      Memory.releaseHeld (l.net.endpoint k) (.ok ()), rfl, ?_, ?_⟩
    · rw [lineup, released (by rw [net, (like k).held]) (by rw [net, (like k).heldShutdown]),
        net, finished]
      simp
    · by_cases hk : k = h
      · subst hk
        have none : (l.net.endpoint k).held.toList = [] := Decidable.by_contra fun some => by
          rw [Memory.finished_write_of_holding (withheld k some)] at finished
          simp at finished
        refine .inr ⟨by simp [turned outcome], ?_⟩
        rw [Memory.releaseHeld, none, free]
        rfl
      · have elsewhere : (Completion.write l.requests.next outcome).turn? l'.requests k = none :=
          Completion.turn?_of_other pending hk (decide_eq_true rfl)
        exact .inl (by simp [elsewhere])

/-- A shutdown that fails never gets in line; otherwise it comes last, finished when nothing is held
back or in the slot behind what is. -/
theorem shutdown (c : l.Coupled (l.underway batches)) (within : ∀ d ∈ batch, d ∈ batches)
    (found : l.handles.get? h = some x) (connected : x.state = .connected) (callback : Callback C)
    (requests : l'.requests = l.requests.add (.shutdown h callback))
    (net : l'.net = (Memory.shutdown l.requests.next h l.net).net) : l.LinesUp batch l' := by
  have pending : l'.requests.get? l.requests.next = some (.shutdown h callback) := by
    rw [requests, Registry.get?_add, if_pos rfl]
  have turn : (Completion.shutdown l.requests.next (.ok ())).turn? l'.requests h =
      some l.requests.next :=
    (Completion.turn?_of_pending pending (.ok ())).2
  have other {k : HandleId} (hk : k ≠ h) :
      (Completion.shutdown l.requests.next (.ok ())).turn? l'.requests k = none :=
    Completion.turn?_of_other pending hk (decide_eq_true rfl)
  have free := c.slot_free_of_connected found connected
  refine of_enter c within requests fun k => ?_
  obtain ⟨-, elsewhere, outcome⟩ := Memory.shutdown_cases l.requests.next h l.net
  obtain ⟨status, finished, here⟩ | ⟨finished, here⟩ | ⟨finished, here⟩ := outcome
  case inl =>
    have same : l'.net.endpoint k = l.net.endpoint k := by
      rw [net]
      by_cases hk : k = h
      · rw [hk, here]
      · exact elsewhere k hk
    refine ⟨batch ++ l.net.finished.toList, [.shutdown l.requests.next (.error status)],
      Memory.releaseHeld (l.net.endpoint k) (.ok ()), rfl, ?_, .inl rfl⟩
    rw [lineup, same, net, finished]
    simp
  case inr.inl =>
    have same : Memory.releaseHeld (l'.net.endpoint k) (.ok ()) =
        Memory.releaseHeld (l.net.endpoint k) (.ok ()) := by
      rw [net]
      by_cases hk : k = h
      · rw [hk, here]
        rfl
      · rw [elsewhere k hk]
    refine ⟨batch ++ l.net.finished.toList, [.shutdown l.requests.next (.ok ())],
      Memory.releaseHeld (l.net.endpoint k) (.ok ()), rfl, ?_, ?_⟩
    · rw [lineup, same, net, finished]
      simp
    · by_cases hk : k = h
      · subst hk
        have none : (l.net.endpoint k).held.toList = [] := Decidable.by_contra fun some =>
          Memory.finished_shutdown_of_held some finished
        refine .inr ⟨by simp [turn], ?_⟩
        rw [Memory.releaseHeld, none, free]
        rfl
      · exact .inl (by simp [other hk])
  case inr.inr =>
    by_cases hk : k = h
    · subst hk
      refine ⟨l.lineup batch k, [.shutdown l.requests.next (.ok ())], [], by simp, ?_,
        .inr ⟨by simp [turn], rfl⟩⟩
      rw [lineup, net, finished, here]
      simp [lineup, Memory.releaseHeld, free]
    · refine ⟨l.lineup batch k, [], [], by simp, ?_, .inl rfl⟩
      rw [lineup, net, elsewhere k hk, finished]
      simp [lineup]

/-- A connect has no turn. -/
theorem connect (c : l.Coupled (l.underway batches)) (within : ∀ d ∈ batch, d ∈ batches)
    (address : SocketAddress) (requests : l'.requests = l.requests.add (.connect h))
    (net : l'.net = (Memory.connect l.requests.next h address l.net).net) : l.LinesUp batch l' := by
  obtain ⟨outcome, -, finished, like⟩ := Memory.connect_cases l.requests.next h address l.net
  refine of_enter c within requests fun k =>
    ⟨batch ++ l.net.finished.toList, [.connect l.requests.next outcome],
    Memory.releaseHeld (l.net.endpoint k) (.ok ()), rfl, ?_, .inl rfl⟩
  rw [lineup, net, finished, Memory.releaseHeld, (like k).held, (like k).heldShutdown,
    ← Memory.releaseHeld]
  simp

/-- What a closed endpoint held back is canceled where it stood; only its
shutdown leaves the line. -/
theorem close (c : l.Coupled (l.underway batches)) {m : Memory}
    (requests : l'.requests = l.requests) (finished : m.finished = l.net.finished)
    (held : ∀ k, (m.endpoint k).held = (l.net.endpoint k).held ∧
      (m.endpoint k).heldShutdown = (l.net.endpoint k).heldShutdown)
    (net : l'.net = (Memory.close h m).net) : l.LinesUp batch l' := by
  obtain ⟨canceled, endpoints⟩ := Memory.close_eq h m
  have same (k : HandleId) (outcome : Outcome) :
      Memory.releaseHeld (m.endpoint k) outcome =
        Memory.releaseHeld (l.net.endpoint k) outcome := by
    rw [Memory.releaseHeld, (held k).1, (held k).2, ← Memory.releaseHeld]
  refine of_sublist fun k => ?_
  rw [line, line, lineup, lineup, requests, net, canceled, endpoints, finished, same]
  simp only [List.filterMap_append, List.append_assoc]
  refine List.Sublist.append (.refl _) (List.Sublist.append (.refl _) ?_)
  split
  case isTrue hk =>
    subst hk
    have empty : Memory.releaseHeld { m.endpoint k with
        closed := true, reading := false, incoming := [], held := {}, heldShutdown :=
          none } (.ok ()) = [] := rfl
    rw [empty, List.filterMap_nil, List.append_nil]
    exact Memory.turns_releaseHeld _ _ _
  case isFalse hk =>
    rw [c.turns_elsewhere hk, same, List.nil_append]

/-- A flush lets everybody through in turn. -/
theorem flush (c : l.Coupled (l.underway batches)) (requests : l'.requests = l.requests)
    (finished : l'.net.finished.toList = l.net.finished.toList ++ l.net.flushed)
    (endpoints : ∀ k, l'.net.endpoint k = Memory.flush (l.net.endpoint k)) :
    l.LinesUp batch l' := by
  refine of_sublist fun k => ?_
  have none : Memory.releaseHeld (Memory.flush (l.net.endpoint k)) (.ok ()) = [] := rfl
  have through : l.net.flushed.filterMap (·.turn? l.requests k) =
      (Memory.releaseHeld (l.net.endpoint k) (.ok ())).filterMap (·.turn? l.requests k) := by
    refine (l.net.endpoints.filterMap_flatMap _ _ k fun j e he hj => ?_).trans ?_
    · have elsewhere := c.turns_elsewhere (k := j) (Ne.symm hj) (.ok ())
      rwa [Memory.endpoint, he] at elsewhere
    · rw [Memory.endpoint]
      cases l.net.endpoints.get? k <;> rfl
  rw [line, line, lineup, lineup, requests, finished, endpoints, none]
  simp [List.filterMap_append, through]

end LinesUp

/-- What an operation does to the lines. -/
theorem Effect.linesUp {o : Operation (Memory.host S N C).Closure} {a : o.Answer}
    (c : l.Coupled (l.underway batches)) (within : ∀ d ∈ batch, d ∈ batches) (withheld : l.Withheld)
    (effect : Effect Memory.transport l o a l') :
    l.LinesUp batch l' := by
  cases effect with
  | refused | newHandle | on | refuseAdopt | adopt | markedReadStart | noBuffer | bufferWrite
      | noKept | keptWrite =>
    exact .of_net rfl rfl
  | refuseAccept | accept => exact .of_like rfl (Memory.accept_like _ _)
  | refuseBind | bind =>
    refine .of_like rfl ⟨rfl, Memory.like_update fun _ => ?_⟩
    exact ⟨rfl, rfl, rfl, rfl, rfl⟩
  | refuseReadStart | readStart => exact .of_quiet rfl rfl (held_setReading _ _ _)
  | readStop => exact .of_quiet (by simp) (finished_endReading _ _ _) fun k =>
    held_endReading _ _ k _
  | write found connected => exact .write c within withheld found connected _ _ rfl rfl
  | shutdown found connected => exact .shutdown c within found connected _ rfl rfl
  | @refuseConnect h x address =>
    obtain ⟨outcome, answer, -⟩ := Memory.connect_cases l.requests.next h address l.net
    rename_i asked
    cases answer.symm.trans asked
  | connect => exact .connect c within _ rfl rfl
  | @close h x onClose =>
    exact .close c (by simp) (finished_endReading l h .stopped) (held_endReading l h · .stopped)
      (net_retire l h onClose)
  | stop same | forgetWake same => exact .of_net same.requests same.net

/-- Every operation keeps the lines. -/
theorem linesUp_issue (c : l.Coupled (l.underway batches)) (within : ∀ d ∈ batch, d ∈ batches)
    (withheld : l.Withheld) (o : Operation (Memory.host S N C).Closure) :
    l.LinesUp batch (l.issue Memory.transport o).2 := by
  obtain ⟨l₀, l₁, before, effect, after⟩ := issues_issue Memory.transport l o
  have withheld₀ : l₀.Withheld := by
    unfold Withheld
    rw [before.net]
    exact withheld
  have moved := effect.linesUp (c.agrees before) within withheld₀
  unfold LinesUp line lineup at moved ⊢
  rwa [before.net, before.requests, ← after.net, ← after.requests] at moved

/-- What a script does to the lines. -/
theorem linesUp_perform (c : l.Coupled (l.underway batches)) (s : Memory.Script) :
    l.LinesUp batch (l.ask (Memory.transport.perform s)).2 := by
  obtain ⟨-, finished, endpoints⟩ | ⟨done, finished, silent, like⟩ := Memory.perform_cases s l.net
  · exact .flush c rfl finished endpoints
  · exact .of_silent _ rfl finished silent fun k => ⟨(like k).held, (like k).heldShutdown⟩

/-! ## What is due without the transport -/

/-- An operation makes nothing due but the refusal of the write that it issues. -/
theorem Effect.refusals {o : Operation (Memory.host S N C).Closure} {a : o.Answer}
    (effect : Effect Memory.transport l o a l') :
    l'.deferred = l.deferred ∨ ∃ h data callback status,
      o.issued? a = some (l.requests.next, .write h data callback) ∧
      (Memory.write l.requests.next h data l.net).answer = .error status ∧
      l'.deferred = l.deferred ++ [.write l.requests.next (.error status)] := by
  cases effect with
  | refused | newHandle | on | refuseAdopt | adopt | markedReadStart | noBuffer | bufferWrite
    | noKept | keptWrite | refuseAccept | accept | refuseBind | bind | refuseReadStart | readStart
    | refuseConnect => exact .inl rfl
  | readStop | close => exact .inl (by simp)
  | connect => exact .inl (List.append_nil _)
  | @write h x data callback =>
    cases answer : (Memory.write l.requests.next h data l.net).answer with
    | ok =>
      refine .inl ?_
      rw [show (Memory.transport.write l.requests.next h data l.net).answer = .ok () from answer]
      exact List.append_nil _
    | error status =>
      refine .inr ⟨h, data, callback, status, rfl, answer, ?_⟩
      rw [show (Memory.transport.write l.requests.next h data l.net).answer = .error status
        from answer]
      rfl
  | @shutdown h x callback =>
    refine .inl ?_
    rw [show (Memory.transport.shutdown l.requests.next h l.net).answer = .ok () from
      (Memory.shutdown_cases l.requests.next h l.net).1]
    exact List.append_nil _
  | stop same | forgetWake same => exact .inl same.deferred

/-- An operation defers no result but that of a write that the transport refuses,
under the next number. -/
theorem refusals_issue (l : Loop (Memory.host S N C)) (o : Operation (Memory.host S N C).Closure) :
    (l.issue Memory.transport o).2.deferred = l.deferred ∨ ∃ h data callback status,
      o.issued? (l.issue Memory.transport o).1 = some (l.requests.next, .write h data callback) ∧
      (Memory.write l.requests.next h data l.net).answer = .error status ∧
      (l.issue Memory.transport o).2.deferred =
        l.deferred ++ [.write l.requests.next (.error status)] := by
  obtain ⟨l₀, l₁, before, effect, after⟩ := issues_issue Memory.transport l o
  have made := effect.refusals
  rwa [before.deferred, before.requests, before.net, ← after.deferred] at made

end Loop

end Reactor
