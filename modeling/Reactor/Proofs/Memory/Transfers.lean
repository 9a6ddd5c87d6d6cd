import Reactor.Proofs.Memory.Coupling

/-!
# Requests between the loop and its transport in memory

A request is entered together with its completion, is held back instead of its
completion, turns into a completion when it is let go, and leaves with its completion.
Each of these keeps the coupling.
-/

namespace Reactor.Loop.Coupled

variable {S N C : Type} {l l' : Loop (Memory.host S N C)} {queued queued' : List Completion}
  {h : HandleId}

/-- A request is entered together with its completion. That of a shutdown finds its handle shutting
down, and no other shutdown of it; it fails only if the stream is not shut. -/
theorem enter (c : l.Coupled queued) {r : Request C} {d : Completion}
    (requests : l'.requests = l.requests.add r) (handles : l'.handles = l.handles)
    (net : l'.net = l.net) (names : d.names l.requests.next = true)
    (fits : d.Fits (l.requests.add r))
    (shuts : ∀ k callback, r = .shutdown k callback →
      (∃ x, l.handles.get? k = some x ∧ x.state = .shuttingDown) ∧
      (∀ req callback, l.requests.get? req ≠ some (.shutdown k callback)) ∧
      (l.net.endpoint k).shut = false) :
    l'.Coupled (d :: queued) := by
  have unknown : l.requests.get? l.requests.next = none := l.requests.get?_next
  have kept {req : RequestId} {r' : Request C} (pending : l.requests.get? req = some r') :
      l'.requests.get? req = some r' := by
    have other : req ≠ l.requests.next := fun heq => by
      rw [heq, unknown] at pending
      cases pending
    rw [requests, Registry.get?_add, if_neg other]
    exact pending
  have cases_ {req : RequestId} {r' : Request C} (pending : l'.requests.get? req = some r') :
      req = l.requests.next ∧ r' = r ∨ l.requests.get? req = some r' := by
    rw [requests, Registry.get?_add] at pending
    split at pending
    case isTrue heq => exact .inl ⟨heq, (Option.some.inj pending).symm⟩
    case isFalse => exact .inr pending
  constructor
  case once =>
    intro req r' pending
    rw [net, namings_cons]
    obtain ⟨rfl, rfl⟩ | pending := cases_ pending
    · have unheld : (l.net.endpoint r'.handle).holds l.requests.next = 0 :=
        c.unheld fun r'' there => by
          rw [unknown] at there
          cases there
      rw [unheld, c.unnamed unknown, names]
      rfl
    · have other : d.names req = false := Bool.eq_false_iff.2 fun named => by
        rw [← Completion.eq_of_names names named, unknown] at pending
        cases pending
      rw [other]
      exact c.once pending
  case held =>
    intro k p hp
    rw [net] at hp
    obtain ⟨callback, pending⟩ := c.held hp
    exact ⟨callback, kept pending⟩
  case heldShutdown =>
    intro k req hreq
    rw [net] at hreq
    obtain ⟨callback, pending⟩ := c.heldShutdown hreq
    exact ⟨callback, kept pending⟩
  case fits =>
    intro d' hd
    rcases List.mem_cons.1 hd with rfl | hd
    · rw [requests]
      exact fits
    · exact (c.fits hd).mono fun _ _ _ pending => kept pending
  case mirrors =>
    intro k
    rw [net, handles]
    exact c.mirrors k
  case shutting =>
    intro req k callback pending
    rw [handles]
    obtain ⟨rfl, same⟩ | pending := cases_ pending
    · obtain ⟨⟨x, found, state⟩, -⟩ := shuts k callback same.symm
      exact ⟨x, found, .inl state⟩
    · exact c.shutting pending
  case single =>
    intro req req' k callback callback' pending pending'
    obtain ⟨rfl, same⟩ | pending := cases_ pending
    · obtain ⟨rfl, -⟩ | pending' := cases_ pending'
      · rfl
      · exact ((shuts k callback same.symm).2.1 _ _ pending').elim
    · obtain ⟨rfl, same'⟩ | pending' := cases_ pending'
      · exact ((shuts k callback' same'.symm).2.1 _ _ pending).elim
      · exact c.single pending pending'
  case failing =>
    intro req status k callback x hd pending found state
    rw [net]
    rw [handles] at found
    obtain ⟨rfl, same⟩ | pending := cases_ pending
    · exact (shuts k callback same.symm).2.2
    · rcases List.mem_cons.1 hd with rfl | hd
      · have named : l.requests.next = req := Completion.eq_of_names names (decide_eq_true rfl)
        rw [← named, unknown] at pending
        cases pending
      · exact c.failing hd pending found state

/-- A request whose completion is under way stands nowhere else. -/
theorem alone {d : Completion} {req : RequestId} {r : Request C} (c : l.Coupled (d :: queued))
    (names : d.names req = true) (pending : l.requests.get? req = some r) :
    (∀ k, (l.net.endpoint k).holds req = 0) ∧ namings queued req = 0 := by
  have once := c.once pending
  rw [namings_cons, names, if_pos rfl] at once
  refine ⟨fun k => ?_, by omega⟩
  by_cases hk : k = r.handle
  · rw [hk]
    omega
  · refine c.unheld fun r' pending' => ?_
    obtain rfl := Option.some.inj (pending.symm.trans pending')
    exact hk

/-- What is under way and what endpoints hold back is arranged anew. -/
theorem rearrange (c : l.Coupled queued) (handles : l'.handles = l.handles)
    (requests : l'.requests = l.requests)
    (counts : ∀ req r, l.requests.get? req = some r →
      (l'.net.endpoint r.handle).holds req + namings queued' req =
      (l.net.endpoint r.handle).holds req + namings queued req)
    (held : ∀ k p, p ∈ (l'.net.endpoint k).held.toList →
      ∃ callback, l.requests.get? p.1 = some (.write k p.2 callback))
    (heldShutdown : ∀ k req, (l'.net.endpoint k).heldShutdown = some req →
      ∃ callback, l.requests.get? req = some (.shutdown k callback))
    (fits : ∀ d ∈ queued', d.Fits l.requests)
    (mirrors : ∀ k, (l'.net.endpoint k).Mirrors (k < l.handles.next) (l.handles.get? k))
    (failing : ∀ req status k callback x, .shutdown req (.error status) ∈ queued' →
      l.requests.get? req = some (.shutdown k callback) → l.handles.get? k = some x →
      x.state = .shuttingDown → (l'.net.endpoint k).shut = false) : l'.Coupled queued' where
  once pending := by
    rw [requests] at pending
    rw [counts _ _ pending]
    exact c.once pending
  held hp := by rw [requests]; exact held _ _ hp
  heldShutdown hreq := by rw [requests]; exact heldShutdown _ _ hreq
  fits hd := by rw [requests]; exact fits _ hd
  mirrors k := by rw [handles]; exact mirrors k
  shutting pending := by rw [handles]; exact c.shutting (by rwa [← requests])
  single pending pending' := c.single (by rwa [← requests]) (by rwa [← requests])
  failing hd pending found state :=
    failing _ _ _ _ _ hd (by rwa [← requests]) (by rwa [← handles]) state

/-- An endpoint that holds one more request back, but shows the same. -/
structure Holds (req : RequestId) (r : Request C) (e e' : Endpoint) : Prop where
  holds : ∀ req', e'.holds req' = e.holds req' + if req' = req then 1 else 0
  held : ∀ p ∈ e'.held.toList,
    p ∈ e.held.toList ∨ p.1 = req ∧ ∃ callback, r = .write r.handle p.2 callback
  heldShutdown : ∀ req', e'.heldShutdown = some req' →
    e.heldShutdown = some req' ∨ req' = req ∧ ∃ callback, r = .shutdown r.handle callback
  shows : e'.reading = e.reading ∧ e'.closed = e.closed ∧ e'.shut = e.shut

/-- A pending request is held back instead of its completion. -/
theorem hold {d : Completion} {req : RequestId} {r : Request C} (c : l.Coupled (d :: queued))
    (names : d.names req = true) (pending : l.requests.get? req = some r)
    (elsewhere : ∀ k, k ≠ r.handle → l'.net.endpoint k = l.net.endpoint k)
    (here : Holds req r (l.net.endpoint r.handle) (l'.net.endpoint r.handle))
    (handles : l'.handles = l.handles) (requests : l'.requests = l.requests) :
    l'.Coupled queued := by
  have shows (k : HandleId) : (l'.net.endpoint k).reading = (l.net.endpoint k).reading ∧
      (l'.net.endpoint k).closed = (l.net.endpoint k).closed ∧
      (l'.net.endpoint k).shut = (l.net.endpoint k).shut := by
    by_cases hk : k = r.handle
    · rw [hk]
      exact here.shows
    · rw [elsewhere k hk]
      exact ⟨rfl, rfl, rfl⟩
  refine c.rearrange handles requests (fun req' r' pending' => ?_) (fun k p hp => ?_)
    (fun k req' waits => ?_) (fun d' hd => c.fits (List.mem_cons_of_mem _ hd))
    (fun k => ?_) fun req' status k callback x hd pending' found state => ?_
  case refine_1 =>
    rw [namings_cons]
    by_cases hreq : req' = req
    · subst hreq
      obtain rfl := Option.some.inj (pending.symm.trans pending')
      rw [here.holds, if_pos rfl, names, if_pos rfl]
      omega
    · have other : d.names req' = false :=
        Bool.eq_false_iff.2 fun named => hreq (Completion.eq_of_names named names)
      rw [other]
      by_cases hk : r'.handle = r.handle
      · rw [hk, here.holds, if_neg hreq]
        rfl
      · rw [elsewhere _ hk]
        rfl
  case refine_2 =>
    by_cases hk : k = r.handle
    · rw [hk] at hp ⊢
      obtain hp | ⟨heq, callback, write⟩ := here.held p hp
      · exact c.held hp
      · exact ⟨callback, by rw [heq, pending, ← write]⟩
    · rw [elsewhere k hk] at hp
      exact c.held hp
  case refine_3 =>
    by_cases hk : k = r.handle
    · rw [hk] at waits ⊢
      obtain waits | ⟨heq, callback, shutdown⟩ := here.heldShutdown req' waits
      · exact c.heldShutdown waits
      · exact ⟨callback, by rw [heq, pending, ← shutdown]⟩
    · rw [elsewhere k hk] at waits
      exact c.heldShutdown waits
  case refine_4 =>
    obtain ⟨reading, closed, shut⟩ := shows k
    obtain ⟨mirrors_reading, mirrors_closed, mirrors_shut⟩ := c.mirrors k
    exact ⟨by rw [reading, mirrors_reading], by rw [closed]; exact mirrors_closed,
      by rw [shut]; exact mirrors_shut⟩
  case refine_5 =>
    rw [(shows k).2.2]
    exact c.failing (List.mem_cons_of_mem _ hd) pending' found state

/-- A write is held back behind the others. -/
theorem holds_push {e : Endpoint} {req : RequestId} {data : List UInt8} {callback : Callback C} :
    Holds req (.write h data callback) e { e with held := e.held.push (req, data) } where
  holds req' := by
    by_cases hreq : req' = req
    · simp [Endpoint.holds, List.countP_append, hreq]
      omega
    · simp [Endpoint.holds, List.countP_append, hreq, Ne.symm hreq]
  held p hp := by
    rw [Queue.toList_push] at hp
    rcases List.mem_append.1 hp with hp | hp
    · exact .inl hp
    · rw [List.mem_singleton.1 hp]
      exact .inr ⟨rfl, callback, rfl⟩
  heldShutdown req' waits := .inl waits
  shows := ⟨rfl, rfl, rfl⟩

/-- A shutdown waits in a slot that is free. -/
theorem holds_slot {e : Endpoint} {req : RequestId} {callback : Callback C}
    (free : e.heldShutdown = none) :
    Holds req (.shutdown h callback) e { e with heldShutdown := some req } where
  holds req' := by
    simp only [Endpoint.holds, free, Option.some.injEq, reduceCtorEq, if_false,
      Nat.add_zero, eq_comm]
  held p hp := .inl hp
  heldShutdown req' waits := .inr ⟨(Option.some.inj waits).symm, callback, rfl⟩
  shows := ⟨rfl, rfl, rfl⟩

/-- While the completion of a handle's shutdown is under way, the slot of the handle is free. -/
theorem slot_free {req : RequestId} {outcome : Outcome} {callback : Callback C}
    (c : l.Coupled (.shutdown req outcome :: queued))
    (pending : l.requests.get? req = some (.shutdown h callback)) :
    (l.net.endpoint h).heldShutdown = none := by
  refine Option.eq_none_iff_forall_not_mem.2 fun req' waits => ?_
  obtain ⟨callback', there⟩ := c.heldShutdown waits
  obtain rfl := c.single there pending
  have none_held := (c.alone (decide_eq_true rfl) pending).1 h
  exact (Endpoint.holds_eq_zero_iff.1 none_held).2 waits

/-- A handle whose shutdown is pending is past writing. -/
theorem past_of_pending {req : RequestId} {callback : Callback C} (c : l.Coupled queued)
    (pending : l.requests.get? req = some (.shutdown h callback)) :
    h < l.handles.next ∧ ∀ x, l.handles.get? h = some x → x.state.pastWriting = true := by
  obtain ⟨x, found, state⟩ := c.shutting pending
  refine ⟨Registry.lt_next_of_get? found, fun y hy => ?_⟩
  obtain rfl := Option.some.inj (found.symm.trans hy)
  rcases state with state | state <;> rw [state] <;> rfl

/-- The completion of a shutdown that went through shuts its endpoint. -/
theorem shut {req : RequestId} {callback : Callback C}
    (c : l.Coupled (.shutdown req (.ok ()) :: queued))
    (pending : l.requests.get? req = some (.shutdown h callback))
    (elsewhere : ∀ k, k ≠ h → l'.net.endpoint k = l.net.endpoint k)
    (here : l'.net.endpoint h = { l.net.endpoint h with shut := true })
    (handles : l'.handles = l.handles) (requests : l'.requests = l.requests) :
    l'.Coupled (.shutdown req (.ok ()) :: queued) := by
  have shows (k : HandleId) : (l'.net.endpoint k).held = (l.net.endpoint k).held ∧
      (l'.net.endpoint k).heldShutdown = (l.net.endpoint k).heldShutdown ∧
      (l'.net.endpoint k).Mirrors (k < l.handles.next) (l.handles.get? k) := by
    have mirrors := c.mirrors k
    by_cases hk : k = h
    · subst hk
      rw [here]
      exact ⟨rfl, rfl, mirrors.reading, mirrors.closed, fun _ => c.past_of_pending pending⟩
    · rw [elsewhere k hk]
      exact ⟨rfl, rfl, mirrors⟩
  refine c.rearrange handles requests (fun req' r pending' => ?_) (fun k p hp => ?_)
    (fun k req' waits => ?_) (fun d hd => c.fits hd)
    (fun k => (shows k).2.2) fun req' status k callback' x hd pending' found state => ?_
  case refine_1 => rw [Endpoint.holds_congr (shows _).1 (shows _).2.1]
  case refine_2 => rw [(shows k).1] at hp; exact c.held hp
  case refine_3 => rw [(shows k).2.1] at waits; exact c.heldShutdown waits
  case refine_4 =>
    have other : k ≠ h := fun hk => by
      subst hk
      obtain rfl := c.single pending' pending
      rcases List.mem_cons.1 hd with heq | hd
      · cases heq
      · have named := namings_eq_zero_iff.1 (c.alone (decide_eq_true rfl) pending).2 _ hd
        simp [Completion.names, Completion.report?] at named
    rw [elsewhere k other]
    exact c.failing hd pending' found state

/-- A completion that names no request comes and goes freely. -/
theorem nameless {d : Completion} (report : d.report? = none) :
    l.Coupled (d :: queued) ↔ l.Coupled queued := by
  have silent (req : RequestId) : d.names req = false := by simp [Completion.names, report]
  have counts (req : RequestId) : namings (d :: queued) req = namings queued req := by
    simp [namings_cons, silent]
  constructor
  · intro c
    refine c.rearrange rfl rfl (fun req r _ => by rw [counts]) (fun _ _ => c.held)
      (fun _ _ => c.heldShutdown) (fun d' hd => c.fits (List.mem_cons_of_mem _ hd)) c.mirrors
      fun req status k callback x hd => ?_
    exact c.failing (List.mem_cons_of_mem _ hd)
  · intro c
    refine c.rearrange rfl rfl (fun req r _ => by rw [counts]) (fun _ _ => c.held)
      (fun _ _ => c.heldShutdown) (fun d' hd => ?_) c.mirrors fun req status k callback x hd => ?_
    · rcases List.mem_cons.1 hd with rfl | hd
      · cases d' <;> trivial
      · exact c.fits hd
    · rcases List.mem_cons.1 hd with rfl | hd
      · cases report
      · exact c.failing hd

/-- What is released fits the requests. -/
theorem fits_of_released {outcome : Outcome} {d : Completion} (c : l.Coupled queued)
    (hd : d ∈ Memory.releaseHeld (l.net.endpoint h) outcome) : d.Fits l.requests := by
  obtain ⟨p, hp, rfl⟩ | ⟨req, waits, rfl⟩ := Memory.mem_releaseHeld.1 hd
  · obtain ⟨callback, pending⟩ := c.held hp
    exact ⟨h, p.2, callback, pending⟩
  · obtain ⟨callback, pending⟩ := c.heldShutdown waits
    exact ⟨h, callback, pending⟩

/-- What an endpoint of a closing handle holds back becomes completions. -/
theorem release (c : l.Coupled queued) {x : Handle C} (found : l.handles.get? h = some x)
    (closing : x.state = .closing) (outcome : Outcome)
    (elsewhere : ∀ k, k ≠ h → l'.net.endpoint k = l.net.endpoint k)
    (here : l'.net.endpoint h = { l.net.endpoint h with held := {}, heldShutdown := none })
    (handles : l'.handles = l.handles) (requests : l'.requests = l.requests) :
    l'.Coupled (Memory.releaseHeld (l.net.endpoint h) outcome ++ queued) := by
  have fewer (k : HandleId) (e : Endpoint) (he : l'.net.endpoint k = e) :
      (∀ p ∈ e.held.toList, p ∈ (l.net.endpoint k).held.toList) ∧
        (∀ req, e.heldShutdown = some req → (l.net.endpoint k).heldShutdown = some req) ∧
        e.reading = (l.net.endpoint k).reading ∧ e.closed = (l.net.endpoint k).closed ∧
        e.shut = (l.net.endpoint k).shut := by
    subst he
    by_cases hk : k = h
    · rw [hk, here]
      exact ⟨fun p hp => by simp at hp, fun req waits => by simp at waits, rfl, rfl, rfl⟩
    · rw [elsewhere k hk]
      exact ⟨fun p hp => hp, fun req waits => waits, rfl, rfl, rfl⟩
  refine c.rearrange handles requests (fun req r pending => ?_)
    (fun k p hp => c.held ((fewer k _ rfl).1 p hp))
    (fun k req waits => c.heldShutdown ((fewer k _ rfl).2.1 req waits)) (fun d hd => ?_)
    (fun k => ?_) fun req status k callback y hd pending there state => ?_
  case refine_1 =>
    rw [namings_append, Memory.namings_releaseHeld]
    by_cases hr : r.handle = h
    · rw [hr, here]
      simp [Endpoint.holds]
    · rw [elsewhere _ hr, c.unheld (k := h) fun r' pending' => ?_, Nat.zero_add]
      obtain rfl := Option.some.inj (pending.symm.trans pending')
      exact Ne.symm hr
  case refine_2 =>
    rcases List.mem_append.1 hd with hd | hd
    · exact c.fits_of_released hd
    · exact c.fits hd
  case refine_3 =>
    obtain ⟨-, -, reading, closed, shut⟩ := fewer k _ rfl
    obtain ⟨mirrors_reading, mirrors_closed, mirrors_shut⟩ := c.mirrors k
    exact ⟨by rw [reading, mirrors_reading], by rw [closed]; exact mirrors_closed,
      by rw [shut]; exact mirrors_shut⟩
  case refine_4 =>
    rw [(fewer k _ rfl).2.2.2.2]
    rcases List.mem_append.1 hd with hd | hd
    · obtain ⟨p, -, write⟩ | ⟨req', waits, shutdown⟩ := Memory.mem_releaseHeld.1 hd
      · cases write
      · cases shutdown
        obtain ⟨callback', pending'⟩ := c.heldShutdown waits
        obtain ⟨rfl, -⟩ := Request.shutdown.inj (Option.some.inj (pending'.symm.trans pending))
        obtain rfl := Option.some.inj (found.symm.trans there)
        rw [closing] at state
        cases state
    · exact c.failing hd pending there state

/-- What all endpoints hold back becomes completions. -/
theorem flush (c : l.Coupled queued)
    (endpoints : ∀ k, l'.net.endpoint k = Memory.flush (l.net.endpoint k))
    (handles : l'.handles = l.handles) (requests : l'.requests = l.requests) :
    l'.Coupled (l.net.flushed ++ queued) := by
  refine c.rearrange handles requests (fun req r pending => ?_) (fun k p hp => ?_)
    (fun k req waits => ?_) (fun d hd => ?_)
    (fun k => ?_) fun req status k callback x hd pending found state => ?_
  case refine_1 =>
    rw [namings_append, Memory.namings_flushed (h := r.handle) fun k hk =>
      c.unheld fun r' pending' => ?_, endpoints]
    · rw [Memory.holds_flush, Nat.zero_add]
    · obtain rfl := Option.some.inj (pending.symm.trans pending')
      exact hk
  case refine_2 =>
    rw [endpoints] at hp
    simp [Memory.flush] at hp
  case refine_3 =>
    rw [endpoints] at waits
    cases waits
  case refine_4 =>
    rcases List.mem_append.1 hd with hd | hd
    · obtain ⟨k, hd⟩ := Memory.mem_flushed hd
      exact c.fits_of_released hd
    · exact c.fits hd
  case refine_5 =>
    rw [endpoints]
    obtain ⟨reading, closed, shut⟩ := c.mirrors k
    refine ⟨reading, closed, fun shuts => ?_⟩
    simp only [Memory.flush, Bool.or_eq_true] at shuts
    obtain shuts | waits := shuts
    · exact shut shuts
    · obtain ⟨req, waits⟩ := Option.isSome_iff_exists.1 waits
      obtain ⟨callback, pending⟩ := c.heldShutdown waits
      exact c.past_of_pending pending
  case refine_6 =>
    -- A shutdown that is to fail does not wait in the slot, so the flush does not shut its
    -- endpoint.
    rcases List.mem_append.1 hd with hd | hd
    · obtain ⟨j, hd⟩ := Memory.mem_flushed hd
      obtain ⟨p, -, write⟩ | ⟨req', -, shutdown⟩ := Memory.mem_releaseHeld.1 hd
      · cases write
      · cases shutdown
    · obtain ⟨before, after, rfl⟩ := List.append_of_mem hd
      have first := c.perm List.perm_middle.symm
      rw [endpoints]
      simp [Memory.flush, c.failing hd pending found state, first.slot_free pending]

/-- A pending request leaves the table with its completion. -/
theorem leave {d : Completion} {req : RequestId} {r : Request C} (c : l.Coupled (d :: queued))
    (names : d.names req = true) (pending : l.requests.get? req = some r) :
    ({ l with requests := l.requests.remove req } : Loop (Memory.host S N C)).Coupled queued := by
  obtain ⟨unheld, unnamed⟩ := c.alone names pending
  have earlier {req' : RequestId} {r' : Request C}
      (there : (l.requests.remove req).get? req' = some r') :
      req' ≠ req ∧ l.requests.get? req' = some r' :=
    (Registry.get?_of_remove there).imp_left Ne.symm
  have kept {req' : RequestId} {r' : Request C} (other : req' ≠ req)
      (there : l.requests.get? req' = some r') :
      (l.requests.remove req).get? req' = some r' := by
    rw [Registry.get?_remove, if_neg (Ne.symm other)]
    exact there
  constructor
  case once =>
    intro req' r' there
    obtain ⟨other, there⟩ := earlier there
    have once := c.once there
    have silent : d.names req' = false :=
      Bool.eq_false_iff.2 fun named => other (Completion.eq_of_names named names)
    rw [namings_cons, silent] at once
    simpa using once
  case held =>
    intro k p hp
    obtain ⟨callback, there⟩ := c.held hp
    exact ⟨callback, kept ((Endpoint.holds_eq_zero_iff.1 (unheld k)).1 p hp) there⟩
  case heldShutdown =>
    intro k req' waits
    obtain ⟨callback, there⟩ := c.heldShutdown waits
    refine ⟨callback, kept (fun heq => ?_) there⟩
    exact (Endpoint.holds_eq_zero_iff.1 (unheld k)).2 (by rw [← heq]; exact waits)
  case fits =>
    intro d' hd
    refine (c.fits (List.mem_cons_of_mem _ hd)).mono fun req' r' named there =>
      kept (fun heq => ?_) there
    rw [heq, namings_eq_zero_iff.1 unnamed d' hd] at named
    cases named
  case mirrors => exact c.mirrors
  case shutting => intro req' k callback there; exact c.shutting (earlier there).2
  case single =>
    intro req₁ req₂ k callback₁ callback₂ first second
    exact c.single (earlier first).2 (earlier second).2
  case failing =>
    intro req' status k callback x hd there found state
    exact c.failing (List.mem_cons_of_mem _ hd) (earlier there).2 found state

end Reactor.Loop.Coupled
