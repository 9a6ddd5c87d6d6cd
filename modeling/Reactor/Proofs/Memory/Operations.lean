import Reactor.Proofs.Memory.Transfers

/-!
# Operations on a transport in memory

No operation drives the loop and its transport apart: what the transport finishes, refuses or holds
back is what the loop has entered.
-/

namespace Reactor.Loop

variable {S N C : Type} {l l' : Loop (Memory.host S N C)} {batches : List Completion} {h : HandleId}
  {x : Handle C}

/-- The completions under way: those that have finished, those that are due, and those in the
batches of ticks. -/
def underway (l : Loop (Memory.host S N C)) (batches : List Completion) : List Completion :=
  l.net.finished.toList ++ l.deferred ++ batches

/-- What finishes is under way. -/
theorem underway_of_finished {done : List Completion}
    (finished : l'.net.finished.toList = l.net.finished.toList ++ done)
    (deferred : l'.deferred = l.deferred) :
    (l'.underway batches).Perm (done ++ l.underway batches) := by
  simp only [underway, finished, deferred, List.append_assoc]
  exact List.perm_append_comm_assoc _ _ _

/-- What is due is under way. -/
theorem underway_of_deferred {done : List Completion} (finished : l'.net.finished = l.net.finished)
    (deferred : l'.deferred = l.deferred ++ done) :
    (l'.underway batches).Perm (done ++ l.underway batches) := by
  simp only [underway, finished, deferred, List.append_assoc]
  refine (List.Perm.append_left _ (List.perm_append_comm_assoc _ _ _)).trans ?_
  exact List.perm_append_comm_assoc _ _ _

/-- A change of a handle that its endpoint does not see. -/
theorem view_modifyHandle {H : Host} (l : Loop H) (h : HandleId)
    {f : Handle H.Closure → Handle H.Closure} (same : ∀ x, (f x).view = x.view) (k : HandleId) :
    ((l.modifyHandle h f).handles.get? k).map Handle.view = (l.handles.get? k).map Handle.view := by
  rw [get?_modifyHandle]
  split
  case isTrue => rw [Option.map_map]; exact congrArg (Option.map · _) (funext same)
  case isFalse => rfl

/-- Giving a reference back changes no view of a handle. -/
theorem view_release {H : Host} (l : Loop H) (h k : HandleId) :
    ((l.release h).handles.get? k).map Handle.view = (l.handles.get? k).map Handle.view := by
  unfold release
  split
  case h_1 => rfl
  case h_2 x found =>
    split
    case isTrue => rfl
    case isFalse =>
      have same :=
        view_modifyHandle l h (f := fun x => { x with refs := x.refs - 1 }) (fun _ => rfl) k
      simp only
      split
      case isTrue => exact same
      case isFalse => exact same

/-- The end of listening changes no view of a handle. -/
theorem view_endListening {H : Host} (l : Loop H) (h k : HandleId) :
    ((l.endListening h).handles.get? k).map Handle.view = (l.handles.get? k).map Handle.view := by
  unfold endListening
  split
  case h_1 => rfl
  case h_2 x found =>
    split
    case isTrue =>
      rw [view_release]
      exact view_modifyHandle l h (f := ({ · with listenRef := false })) (fun _ => rfl) k
    case isFalse => rfl

namespace Coupled

/-- A change of nothing that the two agree on, and of nothing under way. -/
theorem keep (c : l.Coupled (l.underway batches))
    (endpoints : ∀ k, (l.net.endpoint k).Like (l'.net.endpoint k))
    (finished : l'.net.finished = l.net.finished) (deferred : l'.deferred = l.deferred)
    (next : l'.handles.next = l.handles.next)
    (handles : ∀ k, (l'.handles.get? k).map Handle.view = (l.handles.get? k).map Handle.view)
    (requests : l'.requests = l.requests) : l'.Coupled (l'.underway batches) := by
  rw [underway, finished, deferred, ← underway]
  exact c.congr endpoints next handles requests

/-- Loops that agree are coupled alike. -/
theorem agrees (c : l.Coupled (l.underway batches)) (same : l'.Agrees l) :
    l'.Coupled (l'.underway batches) :=
  c.keep (fun k => by rw [same.net]; exact .refl _) (by rw [same.net]) same.deferred same.next
    (fun k => by rw [same.handles]) same.requests

/-- Changing a handle keeps a loop coupled if it keeps the view. -/
theorem modifyHandle (c : l.Coupled (l.underway batches)) {f : Handle C → Handle C}
    (same : ∀ x, (f x).view = x.view) :
    (l.modifyHandle h f).Coupled ((l.modifyHandle h f).underway batches) :=
  c.keep (fun _ => .refl _) rfl rfl rfl (view_modifyHandle l h same) rfl

/-- Changing a buffer keeps a loop coupled. -/
theorem modifyBuffer (c : l.Coupled (l.underway batches)) (f : ReadBuffer → ReadBuffer) :
    (l.modifyBuffer h f).Coupled ((l.modifyBuffer h f).underway batches) :=
  c.keep (fun _ => .refl _) rfl rfl rfl
    (view_modifyHandle l h (f := fun x => { x with buffer := x.buffer.map f }) fun _ => rfl) rfl

/-- A buffer made on demand keeps a loop coupled. -/
theorem ensureBuffer (c : l.Coupled (l.underway batches)) :
    (l.ensureBuffer h).Coupled ((l.ensureBuffer h).underway batches) :=
  c.modifyHandle fun _ => rfl

/-- A sample keeps a loop coupled. -/
theorem meter (c : l.Coupled (l.underway batches)) (h : HandleId) (op : StreamOp) (p : Progress) :
    (l.meter h op p).Coupled ((l.meter h op p).underway batches) :=
  c.keep (fun _ => .refl _) rfl rfl rfl (fun _ => rfl) rfl

/-- A reference is given back. -/
theorem giveBack (c : l.Coupled (l.underway batches)) :
    (l.release h).Coupled ((l.release h).underway batches) := by
  obtain ⟨-, next, requests, -, net, deferred, -⟩ := release_frame l h
  exact c.keep (fun k => by rw [net]; exact .refl _)
    (by rw [net]) deferred next (view_release l h) requests

/-- A primitive that finishes nothing and shows nothing is asked. -/
theorem ask {α : Type} {primitive : Memory → Reply Memory α} (c : l.Coupled (l.underway batches))
    (like : (primitive l.net).net.finished = l.net.finished ∧
      ∀ k, (l.net.endpoint k).Like ((primitive l.net).net.endpoint k)) :
    (l.ask primitive).2.Coupled ((l.ask primitive).2.underway batches) :=
  c.keep like.2 like.1 rfl rfl (fun _ => rfl) rfl

/-- A handle starts or stops to read, and so does its endpoint. -/
theorem turnReading {y : Handle C} (c : l.Coupled (l.underway batches))
    (found : l.handles.get? h = some x)
    (handles : ∀ k, l'.handles.get? k = if h = k then some y else l.handles.get? k)
    (state : y.state = x.state) (closing : y.closing = x.closing)
    (next : l'.handles.next = l.handles.next) (requests : l'.requests = l.requests)
    (deferred : l'.deferred = l.deferred) (net : l'.net = l.net.update h fun e =>
      { e with reading := y.isReading }) : l'.Coupled (l'.underway batches) := by
  have mirrors := c.mirrors h
  rw [found] at mirrors
  have here : l'.net.endpoint h = { l.net.endpoint h with reading := y.isReading } := by
    rw [net, Memory.endpoint_update, if_pos rfl]
  have same : l'.underway batches = l.underway batches := by rw [underway, net, deferred]; rfl
  rw [same]
  refine c.turn found handles next requests (fun k hk => ?_) (by rw [here]; exact ⟨rfl, rfl⟩) ?_
    (fun _ _ _ => by rw [state]; exact id) fun _ _ _ shutting =>
      ⟨by rw [← state]; exact shutting, by rw [here]⟩
  · rw [net, Memory.endpoint_update, if_neg hk]
    exact .refl _
  · rw [here, next]
    refine ⟨rfl, mirrors.closed.trans (and_congr_right fun _ => ?_),
      fun shut => ⟨(mirrors.shut shut).1, fun z hz => ?_⟩⟩
    · simp only [Option.some.injEq, forall_eq', closing]
    · cases hz
      rw [state]
      exact (mirrors.shut shut).2 x rfl

/-- The end of a read session keeps a loop coupled. -/
theorem endReading (c : l.Coupled (l.underway batches)) {next : ReadState}
    (stops : next ≠ .reading) :
    (l.endReading Memory.transport h next).Coupled
      ((l.endReading Memory.transport h next).underway batches) := by
  unfold Loop.endReading
  split
  case h_1 => exact c
  case h_2 x found =>
    have stopped : ({ x with read := next } : Handle C).isReading = false := by
      simpa [Handle.isReading] using stops
    have handles := get?_modifyHandle_of_some found ({ · with read := next })
    simp only
    split
    case isTrue =>
      refine giveBack (c.turnReading found handles rfl rfl rfl rfl rfl ?_)
      rw [stopped]
      rfl
    case isFalse idle =>
      refine c.keep (fun _ => .refl _) rfl rfl rfl (fun k => ?_) rfl
      rw [handles]
      split
      case isTrue hk =>
        have idle : x.isReading = false := Bool.eq_false_iff.2 idle
        rw [← hk, found]
        simp [Handle.view, stopped, idle]
      case isFalse => rfl

/-- The end of listening keeps a loop coupled. -/
theorem endListening (c : l.Coupled (l.underway batches)) :
    (l.endListening h).Coupled ((l.endListening h).underway batches) := by
  obtain ⟨-, next, requests, -, net, deferred, -⟩ := endListening_frame l h
  exact c.keep (fun k => by rw [net]; exact .refl _)
    (by rw [net]) deferred next (view_endListening l h) requests

/-- A handle that does not read is closed together with its endpoint, which
releases what it holds back. -/
theorem close (c : l.Coupled (l.underway batches)) (found : l.handles.get? h = some x)
    (idle : x.isReading = false) (onClose : C)
    (final : l' = (((l.ask (Memory.transport.close h)).2.modifyHandle h
      ({ · with onClose := some onClose, state := .closing })).markClosing h)) :
    l'.Coupled (l'.underway batches) := by
  obtain ⟨-, next, requests, -, net, deferred, -⟩ := markClosing_frame
    ((l.ask (Memory.transport.close h)).2.modifyHandle h
      ({ · with onClose := some onClose, state := .closing })) h
  have closed := get?_modifyHandle_of_some (l := (l.ask (Memory.transport.close h)).2) found
    ({ · with onClose := some onClose, state := .closing })
  have marked := (markClosing_of_found ((closed h).trans (if_pos rfl))).2
  rw [← final] at next requests net deferred marked
  obtain ⟨finished, endpoints⟩ := Memory.close_eq h l.net
  -- First the stream behind the endpoint goes, then what the endpoint held back.
  let gone := l.net.update h fun e => { e with closed := true, reading := false, incoming := [] }
  have here : gone.endpoint h =
      { l.net.endpoint h with closed := true, reading := false, incoming := [] } := by
    rw [Memory.endpoint_update, if_pos rfl]
  have c₁ : ({ l' with net := gone } : Loop (Memory.host S N C)).Coupled (l.underway batches) := by
    have mirrors := c.mirrors h
    rw [found] at mirrors
    refine c.turn (y := { x with onClose := some onClose, state := .closing, closing := true })
      found (fun k => ?_) next requests (fun k hk => ?_)
        (by rw [here]; exact ⟨rfl, rfl⟩) ?_ (fun _ _ _ _ => .inr rfl)
      fun _ _ _ shutting => by cases shutting
    · refine (marked k).trans ?_
      split
      case isTrue => rfl
      case isFalse hk => rw [closed, if_neg hk]; rfl
    · rw [Memory.endpoint_update, if_neg hk]
      exact .refl _
    · have known : h < l'.handles.next :=
        Nat.lt_of_lt_of_eq (Registry.lt_next_of_get? found) next.symm
      rw [here]
      exact ⟨idle.symm, ⟨fun _ => ⟨known, fun y hy => by cases hy; rfl⟩, fun _ => rfl⟩,
        fun _ => ⟨known, fun y hy => by cases hy; rfl⟩⟩
  have there : l'.handles.get? h =
      some { x with onClose := some onClose, state := .closing, closing := true } :=
    (marked h).trans (if_pos rfl)
  have released :
      l'.Coupled (Memory.releaseHeld (gone.endpoint h) (.error .ecanceled) ++
        l.underway batches) := by
    refine c₁.release there rfl (.error .ecanceled) (fun k hk => ?_) ?_ rfl rfl
    · rw [net]
      refine (endpoints k).trans ?_
      rw [if_neg hk, Memory.endpoint_update, if_neg hk]
    · rw [net, here]
      exact (endpoints h).trans (if_pos rfl)
  rw [here] at released
  refine released.perm (underway_of_finished ?_ deferred)
  rw [net]
  exact finished

/-! ## Requests are issued -/

/-- A write that is refused, held back, or finished. -/
theorem write (c : l.Coupled (l.underway batches)) (data : List UInt8) (callback : Callback C)
    (final : l' =
      ((l.modifyHandle h .retain).ask (Memory.transport.write l.requests.next h data)).2.enlist
      (.write h data callback)
      (refusalOf (.write l.requests.next)
      (Memory.transport.write l.requests.next h data l.net).answer)) :
    l'.Coupled (l'.underway batches) := by
  have deferred : l'.deferred = l.deferred ++
      (refusalOf (.write l.requests.next)
        (Memory.write l.requests.next h data l.net).answer).toList := by
    rw [final]
    rfl
  have net : l'.net = (Memory.write l.requests.next h data l.net).net := by rw [final]; rfl
  have entered (outcome : Outcome) : ({ l' with net := l.net } : Loop (Memory.host S N C)).Coupled
      (.write l.requests.next outcome :: l.underway batches) := by
    rw [final]
    refine (c.modifyHandle (f := .retain) fun _ => rfl).enter
      (r := .write h data callback) rfl rfl rfl (decide_eq_true rfl)
        ⟨h, data, callback, ?_⟩ fun k callback heq => by cases heq
    exact (Registry.get?_add _ _ _).trans (if_pos rfl)
  have pending : l'.requests.get? l.requests.next = some (.write h data callback) := by
    rw [final]
    exact (Registry.get?_add _ _ _).trans (if_pos rfl)
  obtain ⟨status, answer, finished, same⟩ | ⟨answer, finished, elsewhere, here⟩
      | ⟨outcome, answer, finished, like⟩ :=
    Memory.write_cases l.requests.next h data l.net
  case inl =>
    rw [answer] at deferred
    have refused : l'.Coupled (.write l.requests.next (.error status) :: l.underway batches) :=
      (entered (.error status)).congr (fun k => by rw [net, same]; exact .refl _) rfl
        (fun _ => rfl) rfl
    exact refused.perm (underway_of_deferred (by rw [net, finished]) deferred)
  case inr.inl =>
    rw [answer] at deferred
    have same : l'.underway batches = l.underway batches := by
      rw [underway, net, finished, deferred]
      simp [underway, refusalOf]
    rw [same]
    refine (entered (.ok ())).hold (decide_eq_true rfl) pending (fun k hk => ?_) ?_ rfl rfl
    · rw [net]
      exact elsewhere k hk
    · rw [net]
      exact here ▸ holds_push
  case inr.inr =>
    have deferred : l'.deferred = l.deferred := by simpa [answer, refusalOf] using deferred
    have finishes : l'.Coupled (.write l.requests.next outcome :: l.underway batches) :=
      (entered outcome).congr (fun k => by rw [net]; exact like k) rfl (fun _ => rfl) rfl
    exact finishes.perm (underway_of_finished (by rw [net]; exact finished) deferred)

/-- A shutdown that fails, shuts its endpoint, or waits. -/
theorem shutdown (c : l.Coupled (l.underway batches)) (found : l.handles.get? h = some x)
    (connected : x.state = .connected) (callback : Callback C)
    (final : l' = (((l.modifyHandle h .retain).setState h .shuttingDown).ask
      (Memory.transport.shutdown l.requests.next h)).2.enlist (.shutdown h callback)
      (refusalOf (.shutdown l.requests.next)
      (Memory.transport.shutdown l.requests.next h l.net).answer)) :
    l'.Coupled (l'.underway batches) := by
  obtain ⟨answer, elsewhere, outcome⟩ := Memory.shutdown_cases l.requests.next h l.net
  have deferred : l'.deferred = l.deferred ++
      (refusalOf (.shutdown l.requests.next)
        (Memory.shutdown l.requests.next h l.net).answer).toList := by
    rw [final]
    rfl
  have deferred : l'.deferred = l.deferred := by simpa [answer, refusalOf] using deferred
  have net : l'.net = (Memory.shutdown l.requests.next h l.net).net := by rw [final]; rfl
  have retained := (get?_modifyHandle_of_some found Handle.retain h).trans (if_pos rfl)
  have before : x.retain.state.pastWriting = false := by
    rw [show x.retain.state = .connected from connected]
    rfl
  have taken := c.modifyHandle (h := h) (f := .retain) fun _ => rfl
  have entered (outcome : Outcome) : ({ l' with net := l.net } : Loop (Memory.host S N C)).Coupled
      (.shutdown l.requests.next outcome :: l.underway batches) := by
    rw [final]
    refine (taken.setState .shuttingDown retained before).enter
      (r := .shutdown h callback) rfl rfl rfl (decide_eq_true rfl)
        ⟨h, callback, ?_⟩ fun k callback heq => ?_
    · exact (Registry.get?_add _ _ _).trans (if_pos rfl)
    · cases heq
      refine ⟨⟨_, (get?_modifyHandle_of_some retained _ h).trans (if_pos rfl), rfl⟩, ?_,
        c.unshut found before⟩
      exact c.no_shutdown found (by simp [connected]) (by simp [connected])
  have pending : l'.requests.get? l.requests.next = some (.shutdown h callback) := by
    rw [final]
    exact (Registry.get?_add _ _ _).trans (if_pos rfl)
  obtain ⟨status, finished, same⟩ | ⟨finished, here⟩ | ⟨finished, here⟩ := outcome
  case inl =>
    have fails : l'.Coupled (.shutdown l.requests.next (.error status) :: l.underway batches) := by
      refine (entered (.error status)).congr (fun k => ?_) rfl (fun _ => rfl) rfl
      rw [net]
      by_cases hk : k = h
      · rw [hk, same]
        exact .refl _
      · rw [elsewhere k hk]
        exact .refl _
    exact fails.perm (underway_of_finished (by rw [net]; exact finished) deferred)
  case inr.inl =>
    have shuts : l'.Coupled (.shutdown l.requests.next (.ok ()) :: l.underway batches) :=
      (entered (.ok ())).shut pending (fun k hk => by rw [net]; exact elsewhere k hk)
        (by rw [net]; exact here) rfl rfl
    exact shuts.perm (underway_of_finished (by rw [net]; exact finished) deferred)
  case inr.inr =>
    have same : l'.underway batches = l.underway batches := by
      rw [underway, net, finished, deferred]
      rfl
    rw [same]
    have first := entered (.ok ())
    refine first.hold (decide_eq_true rfl) pending (fun k hk => ?_) ?_ rfl rfl
    · rw [net]
      exact elsewhere k hk
    · rw [net]
      exact here ▸ holds_slot (first.slot_free pending)

/-- A connect that has finished at once. -/
theorem connect (c : l.Coupled (l.underway batches)) (found : l.handles.get? h = some x)
    (idle : x.state = .idle) (address : SocketAddress)
    (final : l' =
      (((l.modifyHandle h .retain).ask
        (Memory.transport.connect l.requests.next h address)).2.enlist
          (.connect h) none).setState h .connecting) :
    l'.Coupled (l'.underway batches) := by
  obtain ⟨outcome, -, finished, like⟩ := Memory.connect_cases l.requests.next h address l.net
  let asked :=
    ((l.modifyHandle h .retain).ask (Memory.transport.connect l.requests.next h address)).2.enlist
      (.connect h) none
  have entered : ({ asked with net := l.net } : Loop (Memory.host S N C)).Coupled
      (.connect l.requests.next outcome :: l.underway batches) := by
    refine (c.modifyHandle (f := .retain) fun _ => rfl).enter (r := .connect h) rfl rfl rfl
      (decide_eq_true rfl) ⟨h, ?_⟩ fun k callback heq => by cases heq
    exact (Registry.get?_add _ _ _).trans (if_pos rfl)
  have finishes : asked.Coupled (.connect l.requests.next outcome :: l.underway batches) :=
    entered.congr like rfl (fun _ => rfl) rfl
  have same : (asked.underway batches).Perm
      ([.connect l.requests.next outcome] ++ l.underway batches) :=
    underway_of_finished finished (List.append_nil _)
  have connected : asked.Coupled (asked.underway batches) := finishes.perm same
  have retained : asked.handles.get? h = some x.retain :=
    (get?_modifyHandle_of_some found _ h).trans (if_pos rfl)
  rw [final]
  refine connected.setState _ retained ?_
  rw [show x.retain.state = .idle from idle]
  rfl

end Coupled

/-- No operation drives the loop and its transport apart. -/
theorem Effect.coupled {o : Operation (Memory.host S N C).Closure} {a : o.Answer}
    {held due : List HandleId} (b : l.Balanced held due) (c : l.Coupled (l.underway batches))
    (effect : Effect Memory.transport l o a l') :
    l'.Coupled (l'.underway batches) := by
  cases effect with
  | refused | noBuffer | noKept => exact c
  | newHandle => exact (c.newHandle _).keep (fun _ => .refl _) rfl rfl rfl (fun _ => rfl) rfl
  | on => exact c.keep (fun _ => .refl _) rfl rfl rfl (fun _ => rfl) rfl
  | refuseAccept => exact c.ask (Memory.accept_like _ _)
  | accept _ _ client_found idle =>
    refine (c.ask (Memory.accept_like _ _)).setState _ client_found ?_
    rw [idle]
    rfl
  | refuseAdopt => exact c.ask ⟨rfl, fun _ => .refl _⟩
  | adopt _ _ asked => cases asked
  | refuseBind _ _ asked => cases asked
  | bind => exact c.ask ⟨rfl, Memory.like_update fun _ => ⟨rfl, rfl, rfl, rfl, rfl⟩⟩
  | markedReadStart => exact c.ensureBuffer
  | refuseReadStart _ _ _ _ asked => cases asked
  | @readStart h x found readable idle unmarked =>
    have buffered := (get?_modifyHandle_of_some found
      (fun x => { x with buffer := some (x.buffer.getD (.ofSize l.options.readBufferSize)) })
      h).trans (if_pos rfl)
    have retained :=
      (get?_modifyHandle_of_some (l := l.ensureBuffer h) buffered Handle.retain h).trans
        (if_pos rfl)
    have turned := get?_modifyHandle_of_some
      (l := (((l.ensureBuffer h).modifyHandle h .retain).ask (Memory.transport.readStart h)).2)
      retained ({ · with read := .reading })
    exact (c.ensureBuffer.modifyHandle (f := .retain) fun _ => rfl).turnReading retained turned rfl
      rfl rfl rfl rfl rfl
  | readStop => exact c.endReading (by simp)
  | bufferWrite => exact c.modifyHandle fun _ => rfl
  | keptWrite => exact c.modifyBuffer _
  | write => exact c.write _ _ rfl
  | shutdown found connected => exact c.shutdown found connected _ rfl
  | refuseConnect _ _ _ asked =>
    obtain ⟨outcome, answer, -⟩ := Memory.connect_cases l.requests.next _ _ l.net
    cases answer.symm.trans asked
  | connect found idle => exact c.connect found idle _ rfl
  | @close h x onClose found unmarked =>
    have counted := b.refs found
    have reads : x.isReading → x.refs ≠ 0 := fun reading => by
      simp only [Handle.ownRefs, if_pos reading] at counted
      omega
    have listens : x.listenRef → (x.refs - if x.isReading then 1 else 0) ≠ 0 := fun listening => by
      simp only [Handle.ownRefs, if_pos listening] at counted
      omega
    have stopped :=
      ((endReading_of_found Memory.transport .stopped found reads).2.2 h).trans (if_pos rfl)
    have silent := ((endListening_of_found stopped listens).2.2 h).trans (if_pos rfl)
    exact (c.endReading (by simp)).endListening.close silent rfl onClose rfl
  | stop same => exact c.agrees same
  | forgetWake same => exact c.agrees same

/-- Every operation keeps a loop coupled. -/
theorem Coupled.issue {held due : List HandleId} (c : l.Coupled (l.underway batches))
    (b : l.Balanced held due) (o : Operation (Memory.host S N C).Closure) :
    (l.issue Memory.transport o).2.Coupled ((l.issue Memory.transport o).2.underway batches) := by
  obtain ⟨l₀, l₁, before, effect, after⟩ := issues_issue Memory.transport l o
  exact (effect.coupled (b.agrees before) (c.agrees before)).agrees after

end Reactor.Loop
