import Reactor.Proofs.Closing.Aging
import Reactor.Proofs.Memory.Places

/-!
# A loop and its transport in memory

The two meet in nothing but the numbers of requests and handles. They are coupled, with some
completions under way, when every pending request stands in exactly one place and every place holds
pending requests only, and when both agree on who reads, who is closed, and who can no longer write.
Each small change of the two keeps the coupling.
-/

namespace Reactor

/-- Hosts whose transport is in memory; the rest is up to the embedder. -/
abbrev Memory.host (S N C : Type) : Host := ⟨Memory, Memory.Script, S, N, C⟩

/-- A completion reports a pending request of its own kind, or a connection. -/
def Completion.Fits {κ : Type} (requests : Registry (Request κ)) : Completion → Prop
  | .connection .. => True
  | .write req _ => ∃ h data callback, requests.get? req = some (.write h data callback)
  | .shutdown req _ => ∃ h callback, requests.get? req = some (.shutdown h callback)
  | .connect req _ => ∃ h, requests.get? req = some (.connect h)

/-- What fits names no request but a pending one. -/
theorem Completion.Fits.pending {κ : Type} {requests : Registry (Request κ)} {c : Completion}
    {req : RequestId} (fits : c.Fits requests) (names : c.names req = true) :
    ∃ r, requests.get? req = some r := by
  cases c with
  | connection => cases names
  | write req' =>
    obtain rfl : req' = req := by simpa [Completion.names, Completion.report?] using names
    obtain ⟨h, data, callback, pending⟩ := fits
    exact ⟨_, pending⟩
  | shutdown req' =>
    obtain rfl : req' = req := by simpa [Completion.names, Completion.report?] using names
    obtain ⟨h, callback, pending⟩ := fits
    exact ⟨_, pending⟩
  | connect req' =>
    obtain rfl : req' = req := by simpa [Completion.names, Completion.report?] using names
    obtain ⟨h, pending⟩ := fits
    exact ⟨_, pending⟩

/-- What fits some requests fits all requests among which these are. -/
theorem Completion.Fits.mono {κ : Type} {requests requests' : Registry (Request κ)} {c : Completion}
    (fits : c.Fits requests)
    (kept : ∀ req r, c.names req = true → requests.get? req = some r →
      requests'.get? req = some r) :
    c.Fits requests' := by
  have named (req : RequestId) : decide (req = req) = true := decide_eq_true rfl
  cases c with
  | connection => trivial
  | write req' =>
    obtain ⟨h, data, callback, pending⟩ := fits
    exact ⟨h, data, callback, kept _ _ (named _) pending⟩
  | shutdown req' =>
    obtain ⟨h, callback, pending⟩ := fits
    exact ⟨h, callback, kept _ _ (named _) pending⟩
  | connect req' =>
    obtain ⟨h, pending⟩ := fits
    exact ⟨h, kept _ _ (named _) pending⟩

/-- What reports a pending shutdown, and fits, is the completion of a shutdown. -/
theorem Completion.Fits.shutdown_of_report {κ : Type} {requests : Registry (Request κ)}
    {d : Completion} {req : RequestId} {outcome : Outcome} {h : HandleId} {callback : Callback κ}
    (fits : d.Fits requests) (report : d.report? = some (req, outcome))
    (pending : requests.get? req = some (.shutdown h callback)) :
    d = .shutdown req outcome := by
  cases d with
  | connection => cases report
  | write =>
    cases report
    obtain ⟨_, _, _, other⟩ := fits
    cases pending.symm.trans other
  | shutdown => cases report; rfl
  | connect =>
    cases report
    obtain ⟨_, other⟩ := fits
    cases pending.symm.trans other

/-- The states from which no stream gets back to writing, unless its shutdown fails. -/
def StreamState.pastWriting : StreamState → Bool
  | .shuttingDown | .shutDown | .closing => true
  | _ => false

/-- The state of a handle, whether it reads, and whether it is marked. -/
def Handle.view {κ : Type} (x : Handle κ) : StreamState × Bool × Bool :=
  (x.state, x.isReading, x.closing)

/-- An endpoint shows what the handle of its number does, if there is one. -/
structure Endpoint.Mirrors {κ : Type} (e : Endpoint) (known : Prop) (x? : Option (Handle κ)) :
    Prop where
  reading : e.reading = x?.any (·.isReading)
  closed : e.closed = true ↔ known ∧ ∀ x, x? = some x → x.closing = true
  shut : e.shut = true → known ∧ ∀ x, x? = some x → x.state.pastWriting = true

/-- A change of what an endpoint does not show. -/
theorem Endpoint.Mirrors.like {κ : Type} {e e' : Endpoint} {known known' : Prop}
    {x? y? : Option (Handle κ)} (mirrors : e.Mirrors known x?) (like : e.Like e')
    (knows : known' ↔ known) (view : y?.map Handle.view = x?.map Handle.view) :
    e'.Mirrors known' y? := by
  obtain ⟨reading, closed, shut⟩ := mirrors
  refine ⟨?_, ?_, ?_⟩
  · rw [like.reading, reading]
    cases x? <;> cases y? <;> simp_all [Handle.view]
  · rw [like.closed, closed, knows]
    cases x? <;> cases y? <;> simp_all [Handle.view]
  · rw [like.shut, knows]
    cases x? <;> cases y? <;> simp_all [Handle.view]

namespace Loop

variable {S N C : Type} {l l' : Loop (Memory.host S N C)} {queued : List Completion} {h : HandleId}

/-- The loop and its transport agree, with these completions under way. -/
structure Coupled (l : Loop (Memory.host S N C)) (queued : List Completion) : Prop where
  once : ∀ {req r}, l.requests.get? req = some r →
    (l.net.endpoint r.handle).holds req + namings queued req = 1
  held : ∀ {h p}, p ∈ (l.net.endpoint h).held.toList →
    ∃ callback, l.requests.get? p.1 = some (.write h p.2 callback)
  heldShutdown : ∀ {h req}, (l.net.endpoint h).heldShutdown = some req →
    ∃ callback, l.requests.get? req = some (.shutdown h callback)
  fits : ∀ {c}, c ∈ queued → c.Fits l.requests
  mirrors : ∀ h, (l.net.endpoint h).Mirrors (h < l.handles.next) (l.handles.get? h)
  shutting : ∀ {req h callback}, l.requests.get? req = some (.shutdown h callback) →
    ∃ x, l.handles.get? h = some x ∧ (x.state = .shuttingDown ∨ x.state = .closing)
  single : ∀ {req req' h callback callback'}, l.requests.get? req = some (.shutdown h callback) →
    l.requests.get? req' = some (.shutdown h callback') → req = req'
  failing : ∀ {req status h callback x}, .shutdown req (.error status) ∈ queued →
    l.requests.get? req = some (.shutdown h callback) → l.handles.get? h = some x →
    x.state = .shuttingDown → (l.net.endpoint h).shut = false

namespace Coupled

/-- The order of the completions under way does not matter. -/
theorem perm {queued' : List Completion} (c : l.Coupled queued) (same : queued'.Perm queued) :
    l.Coupled queued' where
  once pending := by rw [namings_perm same]; exact c.once pending
  held := c.held
  heldShutdown := c.heldShutdown
  fits hc := c.fits (same.mem_iff.1 hc)
  mirrors := c.mirrors
  shutting := c.shutting
  single := c.single
  failing hc := c.failing (same.mem_iff.1 hc)

/-- Only what is pending has its number in a queue. -/
theorem unnamed (c : l.Coupled queued) {req : RequestId} (unknown : l.requests.get? req = none) :
    namings queued req = 0 := by
  refine namings_eq_zero_iff.2 fun d hd => Bool.eq_false_iff.2 fun names => ?_
  obtain ⟨r, pending⟩ := (c.fits hd).pending names
  rw [unknown] at pending
  cases pending

/-- An endpoint holds no number back but those of pending requests of its handle. -/
theorem unheld (c : l.Coupled queued) {req : RequestId} {k : HandleId}
    (other : ∀ r, l.requests.get? req = some r → k ≠ r.handle) :
    (l.net.endpoint k).holds req = 0 := by
  refine Endpoint.holds_eq_zero_iff.2 ⟨fun p hp heq => ?_, fun heq => ?_⟩
  · obtain ⟨callback, there⟩ := c.held hp
    rw [heq] at there
    exact other _ there rfl
  · obtain ⟨callback, there⟩ := c.heldShutdown heq
    exact other _ there rfl

/-- The handles and the endpoints change, but not what endpoints hold back and not the
requests. A handle that is shutting down, or closing, stays one of these, and becomes one only
when nothing can fail. -/
theorem reshape (c : l.Coupled queued) (requests : l'.requests = l.requests)
    (held : ∀ k, (l'.net.endpoint k).held = (l.net.endpoint k).held ∧
      (l'.net.endpoint k).heldShutdown = (l.net.endpoint k).heldShutdown)
    (mirrors : ∀ k, (l'.net.endpoint k).Mirrors (k < l'.handles.next) (l'.handles.get? k))
    (shutting : ∀ k x req callback,
      l.requests.get? req = some (.shutdown k callback) → l.handles.get? k = some x →
      x.state = .shuttingDown ∨ x.state = .closing →
      ∃ y, l'.handles.get? k = some y ∧ (y.state = .shuttingDown ∨ y.state = .closing))
    (failing : ∀ k y req callback,
      l.requests.get? req = some (.shutdown k callback) → l'.handles.get? k = some y →
      y.state = .shuttingDown → ∃ x, l.handles.get? k = some x ∧ x.state = .shuttingDown ∧
        (l'.net.endpoint k).shut = (l.net.endpoint k).shut) : l'.Coupled queued where
  once pending := by
    rw [requests] at pending
    rw [Endpoint.holds_congr (held _).1 (held _).2]
    exact c.once pending
  held hp := by
    rw [requests]
    rw [(held _).1] at hp
    exact c.held hp
  heldShutdown hreq := by
    rw [requests]
    rw [(held _).2] at hreq
    exact c.heldShutdown hreq
  fits hd := by rw [requests]; exact c.fits hd
  mirrors := mirrors
  shutting {req k callback} pending := by
    rw [requests] at pending
    obtain ⟨x, found, state⟩ := c.shutting pending
    exact shutting k x req callback pending found state
  single pending pending' := by
    rw [requests] at pending pending'
    exact c.single pending pending'
  failing hc pending found state := by
    rw [requests] at pending
    obtain ⟨x, found, state, same⟩ := failing _ _ _ _ pending found state
    rw [same]
    exact c.failing hc pending found state

/-- A change of nothing that the two agree on. -/
theorem congr (c : l.Coupled queued) (endpoints : ∀ k, (l.net.endpoint k).Like (l'.net.endpoint k))
    (next : l'.handles.next = l.handles.next)
    (handles : ∀ k, (l'.handles.get? k).map Handle.view = (l.handles.get? k).map Handle.view)
    (requests : l'.requests = l.requests) : l'.Coupled queued := by
  have seen {k x} (found : l.handles.get? k = some x) :
      ∃ y, l'.handles.get? k = some y ∧ y.view = x.view := by
    have same := handles k
    rw [found] at same
    exact Option.map_eq_some_iff.1 same
  have seen' {k y} (found : l'.handles.get? k = some y) :
      ∃ x, l.handles.get? k = some x ∧ x.view = y.view := by
    have same := (handles k).symm
    rw [found] at same
    exact Option.map_eq_some_iff.1 same
  refine c.reshape requests (fun k => ⟨(endpoints k).held, (endpoints k).heldShutdown⟩)
    (fun k => (c.mirrors k).like (endpoints k) (by rw [next]) (handles k))
    (fun k x _ _ _ found state => ?_)
    fun k y _ _ _ found state => ?_
  · obtain ⟨y, found, same⟩ := seen found
    have same : y.state = x.state := congrArg Prod.fst same
    exact ⟨y, found, by rwa [same]⟩
  · obtain ⟨x, found, same⟩ := seen' found
    have same : x.state = y.state := congrArg Prod.fst same
    exact ⟨x, found, same.trans state, (endpoints k).shut⟩

/-- A change that neither the transport nor the handles and the requests show. -/
theorem unseen (c : l.Coupled queued) (net : l'.net = l.net) (handles : l'.handles = l.handles)
    (requests : l'.requests = l.requests) : l'.Coupled queued := by
  refine c.congr (fun k => ?_) (by rw [handles]) (fun k => by rw [handles]) requests
  rw [net]
  exact .refl _

/-- One handle and its endpoint change together, but not what the endpoint holds back. -/
theorem turn (c : l.Coupled queued) {x y : Handle C} (found : l.handles.get? h = some x)
    (handles : ∀ k, l'.handles.get? k = if h = k then some y else l.handles.get? k)
    (next : l'.handles.next = l.handles.next) (requests : l'.requests = l.requests)
    (elsewhere : ∀ k, k ≠ h → (l.net.endpoint k).Like (l'.net.endpoint k))
    (held : (l'.net.endpoint h).held = (l.net.endpoint h).held ∧
      (l'.net.endpoint h).heldShutdown = (l.net.endpoint h).heldShutdown)
    (mirrors : (l'.net.endpoint h).Mirrors (h < l'.handles.next) (some y))
    (shutting : ∀ req callback, l.requests.get? req = some (.shutdown h callback) →
      x.state = .shuttingDown ∨ x.state = .closing → y.state = .shuttingDown ∨ y.state = .closing)
    (failing : ∀ req callback, l.requests.get? req = some (.shutdown h callback) →
      y.state = .shuttingDown → x.state = .shuttingDown ∧
        (l'.net.endpoint h).shut = (l.net.endpoint h).shut) : l'.Coupled queued := by
  refine c.reshape requests (fun k => ?_) (fun k => ?_)
    (fun k w req callback pending hw state => ?_)
    fun k w req callback pending hw state => ?_
  · by_cases hk : k = h
    · rw [hk]
      exact held
    · exact ⟨(elsewhere k hk).held, (elsewhere k hk).heldShutdown⟩
  · rw [handles]
    split
    case isTrue hk => rw [← hk]; exact mirrors
    case isFalse hk => exact (c.mirrors k).like (elsewhere k (Ne.symm hk)) (by rw [next]) rfl
  · rw [handles]
    split
    case isTrue hk =>
      subst hk
      obtain rfl := Option.some.inj (found.symm.trans hw)
      exact ⟨y, rfl, shutting req callback pending state⟩
    case isFalse => exact ⟨w, hw, state⟩
  · rw [handles] at hw
    split at hw
    case isTrue hk =>
      cases hw
      subst hk
      exact ⟨x, found, failing req callback pending state⟩
    case isFalse hk => exact ⟨w, hw, state, (elsewhere k (Ne.symm hk)).shut⟩

/-- The shutdown of a handle in another state than shutting down or closing is not pending. -/
theorem no_shutdown (c : l.Coupled queued) {x : Handle C} (found : l.handles.get? h = some x)
    (open_ : x.state ≠ .shuttingDown) (unmarked : x.state ≠ .closing) (req : RequestId)
    (callback : Callback C) :
    l.requests.get? req ≠ some (.shutdown h callback) := fun pending => by
  obtain ⟨y, found', state⟩ := c.shutting pending
  obtain rfl := Option.some.inj (found.symm.trans found')
  exact state.elim open_ unmarked

/-- The endpoint of a stream that is not past writing is not shut. -/
theorem unshut (c : l.Coupled queued) {x : Handle C} (found : l.handles.get? h = some x)
    (before : x.state.pastWriting = false) : (l.net.endpoint h).shut = false :=
  Bool.eq_false_iff.2 fun shut => by
    have past := ((c.mirrors h).shut shut).2 x found
    rw [before] at past
    cases past

/-- A stream that was not past writing goes on to any state. -/
theorem setState (c : l.Coupled queued) {x : Handle C} (state : StreamState)
    (found : l.handles.get? h = some x) (before : x.state.pastWriting = false) :
    (l.setState h state).Coupled queued := by
  have mirrors := c.mirrors h
  rw [found] at mirrors
  have open_ : (l.net.endpoint h).shut ≠ true := by simp [c.unshut found before]
  have none_pending (req : RequestId) (callback : Callback C) :
      l.requests.get? req ≠ some (.shutdown h callback) := by
    refine c.no_shutdown found (fun heq => ?_) (fun heq => ?_) req callback
    · rw [heq] at before
      cases before
    · rw [heq] at before
      cases before
  refine c.turn found (get?_modifyHandle_of_some found ({ · with state })) rfl rfl
    (fun _ _ => .refl _) ⟨rfl, rfl⟩
    ⟨mirrors.reading, ?_, fun shut => (open_ shut).elim⟩
    (fun req callback pending => (none_pending _ _ pending).elim)
    fun req callback pending => (none_pending _ _ pending).elim
  refine mirrors.closed.trans (and_congr_right fun _ => ?_)
  exact ⟨fun marked y hy => by cases hy; exact marked x rfl,
    fun marked y hy => by cases hy; exact marked { x with state } rfl⟩

/-- A new handle and its endpoint show nothing. -/
theorem newHandle (c : l.Coupled queued) (kind : HandleKind) :
    ({ l with handles := l.handles.add { kind } } : Loop (Memory.host S N C)).Coupled queued := by
  have unused : l.handles.get? l.handles.next = none := l.handles.get?_next
  have apart {k x} (found : l.handles.get? k = some x) : k ≠ l.handles.next := fun heq => by
    rw [heq, unused] at found
    cases found
  refine c.reshape rfl (fun _ => ⟨rfl, rfl⟩) (fun k => ?_) (fun k x _ _ _ found state => ?_)
    fun k y _ _ _ found state => ?_
  · have mirrors := c.mirrors k
    rw [Registry.get?_add]
    split
    case isTrue hk =>
      rw [hk, unused] at mirrors
      rw [hk]
      refine ⟨mirrors.reading, ⟨fun closed => ?_, fun marked => ?_⟩, fun shut => ?_⟩
      · exact absurd (mirrors.closed.1 closed).1 (Nat.lt_irrefl _)
      · cases marked.2 _ rfl
      · exact absurd (mirrors.shut shut).1 (Nat.lt_irrefl _)
    case isFalse hk =>
      refine mirrors.like (.refl _) ⟨fun less => ?_, Nat.lt_succ_of_lt⟩ rfl
      exact Nat.lt_of_le_of_ne (Nat.le_of_lt_succ less) hk
  · exact ⟨x, by rw [Registry.get?_add, if_neg (apart found)]; exact found, state⟩
  · rw [Registry.get?_add] at found
    split at found
    case isTrue =>
      cases found
      cases state
    case isFalse => exact ⟨y, found, state, rfl⟩

/-- A closing handle that does not read, and that no request names, leaves the table. -/
theorem reclaim (c : l.Coupled queued) {x : Handle C} (found : l.handles.get? h = some x)
    (marked : x.closing = true) (idle : x.isReading = false)
    (none_pending : l.pendingRequests h = 0) :
    ({ l with handles := l.handles.remove h } : Loop (Memory.host S N C)).Coupled queued := by
  refine c.reshape rfl (fun _ => ⟨rfl, rfl⟩) (fun k => ?_)
    (fun k y req callback pending found' state => ?_)
    fun k y _ _ _ found' state => ?_
  · have mirrors := c.mirrors k
    rw [Registry.get?_remove]
    split
    case isTrue hk =>
      subst hk
      rw [found] at mirrors
      refine ⟨by rw [mirrors.reading]; exact idle,
        ⟨fun closed => ⟨(mirrors.closed.1 closed).1, by simp⟩,
        fun known => mirrors.closed.2 ⟨known.1, fun y hy => ?_⟩⟩,
          fun shut => ⟨(mirrors.shut shut).1, by simp⟩⟩
      cases hy
      exact marked
    case isFalse => exact mirrors
  · have other : h ≠ k := fun hk => by
      have := (l.pendingRequests_pos_iff h).2 ⟨req, _, pending, hk.symm⟩
      omega
    exact ⟨y, by rw [Registry.get?_remove, if_neg other]; exact found', state⟩
  · exact ⟨y, (Registry.get?_of_remove found').2, state, rfl⟩

end Coupled

end Loop

end Reactor
