import Reactor.Proofs.Loop.Frames

/-!
# The effects of operations

What an operation makes of a loop, case by case: who must be in which state, what the transport is
asked, what it answers, and what follows. Samples, wakers and the flag to stop are left out, so two
loops that differ in nothing else agree. A property of loops that agreement respects is kept by
every operation if it is kept by every effect.
-/

namespace Reactor

variable {H : Host}

/-- The error of a call, if it returned one. -/
def errorOf {ε α : Type} : Except ε α → Option ε
  | .ok _ => none
  | .error e => some e

/-- The error that an operation was refused with, if it was. -/
def Operation.failure? {κ : Type} : (o : Operation κ) → o.Answer → Option LoopError
  | .newHandle _, _ => none
  | .on .., a => errorOf a
  | .accept .., a => errorOf a
  | .adopt _, a => errorOf a
  | .bind .., a => errorOf a
  | .readStart _, a => errorOf a
  | .readStop _, a => errorOf a
  | .bufferWrite .., a => errorOf a
  | .keptWrite .., a => errorOf a
  | .write .., a => errorOf a
  | .shutdown .., a => errorOf a
  | .connect .., a => errorOf a
  | .close .., a => errorOf a
  | .stop, _ => none
  | .forgetWake, _ => none

/-- A handle with one reference more. -/
def Handle.retain {κ : Type} (x : Handle κ) : Handle κ := { x with refs := x.refs + 1 }

/-- A handle after it was closed: it neither reads nor listens, and it is marked. -/
def Handle.close {κ : Type} (x : Handle κ) (onClose : κ) : Handle κ :=
  { x with
    read := .stopped
    listenRef := false
    refs := x.refs - (if x.isReading then 1 else 0) - if x.listenRef then 1 else 0
    onClose := some onClose
    state := .closing
    closing := true }

namespace Loop

/-- The first loop differs from the second in samples, wakers, the flag to stop and
what handlers share only. -/
structure Agrees (l' l : Loop H) : Prop where
  options : l'.options = l.options
  next : l'.handles.next = l.handles.next
  handles : ∀ h, l'.handles.get? h = l.handles.get? h
  requests : l'.requests = l.requests
  listeners : l'.listeners = l.listeners
  net : l'.net = l.net
  deferred : l'.deferred = l.deferred
  closing : l'.closing = l.closing
  settled : l'.settled = l.settled
  breach : l'.breach = l.breach
  kept : l'.kept = l.kept

namespace Agrees

variable {l l' : Loop H}

/-- A loop agrees with itself. -/
theorem refl (l : Loop H) : l.Agrees l :=
  ⟨rfl, rfl, fun _ => rfl, rfl, rfl, rfl, rfl, rfl, rfl, rfl, rfl⟩

/-- A sample that is sent does not break an agreement. -/
theorem meter (a : l'.Agrees l) (h : HandleId) (op : StreamOp) (p : Progress) :
    (l'.meter h op p).Agrees l :=
  ⟨a.options, a.next, a.handles, a.requests, a.listeners, a.net, a.deferred, a.closing,
    a.settled, a.breach, a.kept⟩

/-- Waking the task does not break an agreement. -/
theorem wake (a : l'.Agrees l) : l'.wake.Agrees l :=
  ⟨a.options, a.next, a.handles, a.requests, a.listeners, a.net, a.deferred, a.closing,
    a.settled, a.breach, a.kept⟩

/-- Agreement is transitive. -/
theorem trans {l'' : Loop H} (first : l'.Agrees l) (second : l''.Agrees l') : l''.Agrees l where
  options := second.options.trans first.options
  next := second.next.trans first.next
  handles h := (second.handles h).trans (first.handles h)
  requests := second.requests.trans first.requests
  listeners := second.listeners.trans first.listeners
  net := second.net.trans first.net
  deferred := second.deferred.trans first.deferred
  closing := second.closing.trans first.closing
  settled := second.settled.trans first.settled
  breach := second.breach.trans first.breach
  kept := second.kept.trans first.kept

/-- Loops that agree have the same handles. -/
theorem ids (a : l'.Agrees l) : l'.handles.ids = l.handles.ids :=
  Registry.ids_congr fun h => by rw [a.handles]

/-- Loops that agree have the same read buffers. -/
theorem buffer? (a : l'.Agrees l) (h : HandleId) : l'.buffer? h = l.buffer? h := by
  rw [Loop.buffer?, Loop.buffer?, a.handles, a.kept]

end Agrees

/-- The loop after a handle was closed. -/
def retire (T : Transport H.Net H.Script) (l : Loop H) (h : HandleId) (onClose : H.Closure) :
    Loop H :=
  ((((l.endReading T h .stopped).endListening h).ask (T.close h)).2.modifyHandle h
    ({ · with onClose := some onClose, state := .closing })).markClosing h

/-- Closing a handle keeps the options, the requests, the listeners, the results that are due, and
the number of the next handle. -/
@[simp] theorem retire_frame (T : Transport H.Net H.Script) (l : Loop H) (h : HandleId)
    (onClose : H.Closure) :
    (l.retire T h onClose).options = l.options ∧
      (l.retire T h onClose).handles.next = l.handles.next ∧
      (l.retire T h onClose).requests = l.requests ∧
      (l.retire T h onClose).listeners = l.listeners ∧
      (l.retire T h onClose).deferred = l.deferred ∧
      (l.retire T h onClose).settled = l.settled := by
  simp [retire]

/-- Closing a handle takes none from the table. -/
@[simp] theorem ids_retire (T : Transport H.Net H.Script) (l : Loop H) (h : HandleId)
    (onClose : H.Closure) :
    (l.retire T h onClose).handles.ids = l.handles.ids := by
  simp [retire]

/-- The handle is closed, and no other handle changes. -/
theorem get?_retire {l : Loop H} {h : HandleId} {x : Handle H.Closure}
    (T : Transport H.Net H.Script) (onClose : H.Closure) (found : l.handles.get? h = some x)
    (reads : x.isReading → x.refs ≠ 0) (listens : x.listenRef →
    (x.refs - if x.isReading then 1 else 0) ≠ 0) (k : HandleId) :
    (l.retire T h onClose).handles.get? k =
      if h = k then some (x.close onClose) else l.handles.get? k := by
  have stopped := (endReading_of_found T .stopped found reads).2.2
  have silent := (endListening_of_found ((stopped h).trans (if_pos rfl)) listens).2.2
  have asked : (((l.endReading T h .stopped).endListening h).ask (T.close h)).2.handles.get? h =
      _ :=
    (silent h).trans (if_pos rfl)
  have closed :=
    get?_modifyHandle_of_some asked ({ · with onClose := some onClose, state := .closing })
  have marked := (markClosing_of_found ((closed h).trans (if_pos rfl))).2 k
  refine marked.trans ?_
  split
  case isTrue => rfl
  case isFalse hk =>
    rw [closed, if_neg hk]
    exact (silent k).trans ((if_neg hk).trans ((stopped k).trans (if_neg hk)))

/-- What an operation with an answer makes of a loop. -/
inductive Effect (T : Transport H.Net H.Script) (l : Loop H) :
    (o : Operation H.Closure) → o.Answer → Loop H → Prop where
  | refused {o a e} (failed : o.failure? a = some e) : Effect T l o a l
  | newHandle {kind} :
    Effect T l (.newHandle kind) l.handles.next
      (({ l with handles := l.handles.add { kind } } : Loop H).ask (T.init l.handles.next kind)).2
  | on {h event c x} (found : l.handles.get? h = some x) :
    Effect T l (.on h event c) (.ok ()) (l.addListener h event c)
  | refuseAccept {server client s c status} (server_found : l.handles.get? server = some s)
    (listening : s.state = .listening) (client_found : l.handles.get? client = some c)
    (idle : c.state = .idle) (asked : (T.accept server client l.net).answer = .error status) :
    Effect T l (.accept server client) (.error (.accept status)) (l.ask (T.accept server client)).2
  | accept {server client s c} (server_found : l.handles.get? server = some s)
    (listening : s.state = .listening) (client_found : l.handles.get? client = some c)
    (idle : c.state = .idle) (asked : (T.accept server client l.net).answer = .ok ()) :
    Effect T l (.accept server client) (.ok ())
      ((l.ask (T.accept server client)).2.setState client .connected)
  | refuseAdopt {h x status} (found : l.handles.get? h = some x) (idle : x.state = .idle)
    (asked : (T.adopt h l.net).answer = .error status) :
    Effect T l (.adopt h) (.error (.transport "open" status)) (l.ask (T.adopt h)).2
  | adopt {h x} (found : l.handles.get? h = some x) (idle : x.state = .idle)
    (asked : (T.adopt h l.net).answer = .ok ()) :
    Effect T l (.adopt h) (.ok ()) ((l.ask (T.adopt h)).2.setState h .connected)
  | refuseBind {h x address status} (found : l.handles.get? h = some x) (idle : x.state = .idle)
    (asked : (T.bind h address l.net).answer = .error status) :
    Effect T l (.bind h address) (.error (.bind status)) (l.ask (T.bind h address)).2
  | bind {h x address} (found : l.handles.get? h = some x) (idle : x.state = .idle)
    (asked : (T.bind h address l.net).answer = .ok ()) :
    Effect T l (.bind h address) (.ok ()) (l.ask (T.bind h address)).2
  | markedReadStart {h x} (found : l.handles.get? h = some x) (readable : x.state.canRead = true)
    (idle : x.isReading = false) (marked : x.closing = true) :
    Effect T l (.readStart h) (.error (.closing h)) (l.ensureBuffer h)
  | refuseReadStart {h x status} (found : l.handles.get? h = some x)
    (readable : x.state.canRead = true) (idle : x.isReading = false) (unmarked : x.closing = false)
    (asked : (T.readStart h l.net).answer = .error status) :
    Effect T l (.readStart h) (.error (.transport "read_start" status))
      ((l.ensureBuffer h).ask (T.readStart h)).2
  | readStart {h x} (found : l.handles.get? h = some x) (readable : x.state.canRead = true)
    (idle : x.isReading = false) (unmarked : x.closing = false)
    (asked : (T.readStart h l.net).answer = .ok ()) :
    Effect T l (.readStart h) (.ok ())
      ((((l.ensureBuffer h).modifyHandle h .retain).ask (T.readStart h)).2.modifyHandle h
        ({ · with read := .reading }))
  | readStop {h x} (found : l.handles.get? h = some x) (open_ : x.read ≠ .stopped) :
    Effect T l (.readStop h) (.ok ()) (l.endReading T h .stopped)
  | noBuffer {h x offset data} (found : l.handles.get? h = some x) (none : x.buffer = none) :
    Effect T l (.bufferWrite h offset data) (.ok .none) l
  | bufferWrite {h x offset data buffer n buffer'} (found : l.handles.get? h = some x)
    (there : x.buffer = some buffer) (written : buffer.write? offset data = some (n, buffer')) :
    Effect T l (.bufferWrite h offset data) (.ok (some n))
      (l.modifyHandle h ({ · with buffer := some buffer' }))
  | noKept {h offset data} (none : l.buffer? h = none) :
      Effect T l (.keptWrite h offset data) (.ok .none) l
  | keptWrite {h offset data buffer n buffer'} (there : l.buffer? h = some buffer)
    (written : buffer.write? offset data = some (n, buffer')) :
    Effect T l (.keptWrite h offset data) (.ok (some n)) (l.modifyBuffer h fun _ => buffer')
  | write {h x data callback} (found : l.handles.get? h = some x) (connected : x.state = .connected)
    (unmarked : x.closing = false) :
    Effect T l (.write h data callback) (.ok l.requests.next)
      (((l.modifyHandle h .retain).ask (T.write l.requests.next h data)).2.enlist
        (.write h data callback)
        (refusalOf (.write l.requests.next) (T.write l.requests.next h data l.net).answer))
  | shutdown {h x callback} (found : l.handles.get? h = some x) (connected : x.state = .connected)
    (unmarked : x.closing = false) :
    Effect T l (.shutdown h callback) (.ok l.requests.next)
      ((((l.modifyHandle h .retain).setState h .shuttingDown).ask
        (T.shutdown l.requests.next h)).2.enlist
        (.shutdown h callback)
        (refusalOf (.shutdown l.requests.next) (T.shutdown l.requests.next h l.net).answer))
  | refuseConnect {h x address status} (found : l.handles.get? h = some x) (idle : x.state = .idle)
    (unmarked : x.closing = false)
    (asked : (T.connect l.requests.next h address l.net).answer = .error status) :
    Effect T l (.connect h address) (.error (.transport "connect" status))
      (l.ask (T.connect l.requests.next h address)).2
  | connect {h x address} (found : l.handles.get? h = some x) (idle : x.state = .idle)
    (unmarked : x.closing = false)
    (asked : (T.connect l.requests.next h address l.net).answer = .ok ()) :
    Effect T l (.connect h address) (.ok l.requests.next)
      ((((l.modifyHandle h .retain).ask (T.connect l.requests.next h address)).2.enlist (.connect h)
        none).setState h
        .connecting)
  | close {h x onClose} (found : l.handles.get? h = some x) (unmarked : x.closing = false) :
    Effect T l (.close h onClose) (.ok ())
      (l.retire T h onClose)
  | stop {l'} (same : l'.Agrees l) : Effect T l .stop () l'
  | forgetWake {l'} (same : l'.Agrees l) : Effect T l .forgetWake () l'

/-! ## Every operation has one of the effects -/

variable {T : Transport H.Net H.Script}

/-- An operation with an answer has an effect, from one loop to another that agree with what is
there before and after it. -/
def Issues (T : Transport H.Net H.Script) (l : Loop H) (o : Operation H.Closure) (a : o.Answer)
    (l' : Loop H) : Prop :=
  ∃ l₀ l₁, l₀.Agrees l ∧ Effect T l₀ o a l₁ ∧ l'.Agrees l₁

/-- A tracked operation answers what its body does on the loop that was told of the call. -/
theorem tracked_fst {α : Type} (l : Loop H) (h : HandleId) (op : StreamOp)
    (body : Loop H → Except LoopError α × Loop H) :
    (l.tracked h op body).1 = (body (l.meter h op .dispatched)).1 := by
  unfold tracked
  split
  case h_1 heq => rw [heq]
  case h_2 heq => rw [heq]

/-- A tracked operation leaves the loop of its body, up to samples. -/
theorem tracked_snd_agrees {α : Type} (l : Loop H) (h : HandleId) (op : StreamOp)
    (body : Loop H → Except LoopError α × Loop H) :
    (l.tracked h op body).2.Agrees (body (l.meter h op .dispatched)).2 := by
  unfold tracked
  split
  case h_1 heq => rw [heq]; exact (Agrees.refl _).meter _ _ _
  case h_2 heq => rw [heq]; exact (Agrees.refl _).meter _ _ _

/-- The samples around an operation do not matter. -/
theorem Issues.tracked {α : Type} {l : Loop H} {h : HandleId} {op : StreamOp}
    (o : Operation H.Closure) (a : Except LoopError α → o.Answer)
    (body : Loop H → Except LoopError α × Loop H)
    (effect : ∀ l, ∃ l₁, Effect T l o (a (body l).1) l₁ ∧ (body l).2.Agrees l₁) :
    Issues T l o (a (l.tracked h op body).1) (l.tracked h op body).2 := by
  obtain ⟨l₁, effect, same⟩ := effect (l.meter h op .dispatched)
  rw [tracked_fst]
  exact ⟨_, l₁, (Agrees.refl l).meter _ _ _, effect, same.trans (tracked_snd_agrees l h op body)⟩

/-- A reference that is taken before the transport is asked, and given back
after, leaves no trace. -/
theorem agrees_of_retained {α : Type} {l : Loop H} {h : HandleId} {x : Handle H.Closure}
    (found : l.handles.get? h = some x) (unmarked : x.closing = false)
    (primitive : H.Net → Reply H.Net α) :
    (((l.modifyHandle h .retain).ask primitive).2.release h).Agrees (l.ask primitive).2 := by
  have retained := get?_modifyHandle_of_some found Handle.retain
  have there : ((l.modifyHandle h .retain).ask primitive).2.handles.get? h = some x.retain :=
    (retained h).trans (if_pos rfl)
  obtain ⟨breach, closing, handles⟩ := release_of_found there (by simp [Handle.retain])
  constructor
  case breach => exact breach
  case closing => simpa [Handle.retain, unmarked] using closing
  case handles =>
    intro k
    rw [handles]
    split
    case isTrue hk => rw [← hk]; exact found.symm
    case isFalse hk => exact (retained k).trans (if_neg hk)
  all_goals simp

/-- Registering a listener has its effect. -/
theorem effect_of_on (l : Loop H) (h : HandleId) (event : EventName) (c : H.Closure) :
    ∃ l₁, Effect T l (.on h event c) (l.on h event c).1 l₁ ∧ (l.on h event c).2.Agrees l₁ := by
  unfold on
  split
  case h_1 => exact ⟨l, .refused rfl, .refl l⟩
  case h_2 x found => exact ⟨_, .on (handle?_eq_ok found), .refl _⟩

/-- Accepting has its effect. -/
theorem effect_of_acceptUntracked (l : Loop H) (server client : HandleId) :
    ∃ l₁, Effect T l (.accept server client) (l.acceptUntracked T server client).1 l₁ ∧
      (l.acceptUntracked T server client).2.Agrees l₁ := by
  unfold acceptUntracked
  split
  case h_1 => exact ⟨l, .refused rfl, .refl l⟩
  case h_2 s server_found =>
    split
    case isTrue => exact ⟨l, .refused rfl, .refl l⟩
    case isFalse listening =>
      split
      case h_1 => exact ⟨l, .refused rfl, .refl l⟩
      case h_2 c client_found =>
        split
        case isTrue => exact ⟨l, .refused rfl, .refl l⟩
        case isFalse idle =>
          have server_found := handle?_eq_ok server_found
          have client_found := handle?_eq_ok client_found
          split
          case h_1 status _ asked =>
            obtain rfl := congrArg Prod.snd asked
            exact ⟨_, .refuseAccept server_found (by simpa using listening) client_found
              (by simpa using idle)
              (congrArg Prod.fst asked), .refl _⟩
          case h_2 asked =>
            obtain rfl := congrArg Prod.snd asked
            exact ⟨_, .accept server_found (by simpa using listening) client_found
              (by simpa using idle)
              (congrArg Prod.fst asked), (Agrees.refl _).wake⟩

/-- Adopting a connection has its effect. -/
theorem effect_of_adopt (l : Loop H) (h : HandleId) :
    ∃ l₁, Effect T l (.adopt h) (l.adopt T h).1 l₁ ∧ (l.adopt T h).2.Agrees l₁ := by
  unfold adopt
  split
  case h_1 => exact ⟨l, .refused rfl, .refl l⟩
  case h_2 x found =>
    split
    case isTrue => exact ⟨l, .refused rfl, .refl l⟩
    case isFalse idle =>
      have found := handle?_eq_ok found
      split
      case h_1 asked =>
        obtain rfl := congrArg Prod.snd asked
        exact ⟨_, .refuseAdopt found (by simpa using idle) (congrArg Prod.fst asked), .refl _⟩
      case h_2 asked =>
        obtain rfl := congrArg Prod.snd asked
        exact ⟨_, .adopt found (by simpa using idle) (congrArg Prod.fst asked), .refl _⟩

/-- Binding has its effect. -/
theorem effect_of_bind (l : Loop H) (h : HandleId) (address : SocketAddress) :
    ∃ l₁, Effect T l (.bind h address) (l.bind T h address).1 l₁ ∧
      (l.bind T h address).2.Agrees l₁ := by
  unfold bind
  split
  case h_1 => exact ⟨l, .refused rfl, .refl l⟩
  case h_2 x found =>
    split
    case isTrue => exact ⟨l, .refused rfl, .refl l⟩
    case isFalse idle =>
      have found := handle?_eq_ok found
      split
      case h_1 asked =>
        obtain rfl := congrArg Prod.snd asked
        exact ⟨_, .refuseBind found (by simpa using idle) (congrArg Prod.fst asked), .refl _⟩
      case h_2 asked =>
        obtain rfl := congrArg Prod.snd asked
        exact ⟨_, .bind found (by simpa using idle) (congrArg Prod.fst asked), .refl _⟩

/-- Starting to read has its effect. -/
theorem effect_of_readStartUntracked (l : Loop H) (h : HandleId) :
    ∃ l₁, Effect T l (.readStart h) (l.readStartUntracked T h).1 l₁ ∧
      (l.readStartUntracked T h).2.Agrees l₁ := by
  unfold readStartUntracked
  split
  case h_1 => exact ⟨l, .refused rfl, .refl l⟩
  case h_2 x found =>
    split
    case isTrue => exact ⟨l, .refused rfl, .refl l⟩
    case isFalse readable =>
      split
      case isTrue => exact ⟨l, .refused rfl, .refl l⟩
      case isFalse idle =>
        have found := handle?_eq_ok found
        have readable : x.state.canRead = true := by simpa using readable
        have idle : x.isReading = false := by simpa using idle
        have buffered : (l.ensureBuffer h).handles.get? h =
            some { x with buffer := some (x.buffer.getD (.ofSize l.options.readBufferSize)) } :=
          (get?_modifyHandle_of_some found _ h).trans (if_pos rfl)
        simp only
        split
        case h_1 e refused =>
          obtain ⟨rfl, marked⟩ := acquire_eq_error buffered refused
          exact ⟨_, .markedReadStart found readable idle marked, .refl _⟩
        case h_2 l' taken =>
          obtain ⟨y, there, unmarked, rfl⟩ := acquire_eq_ok taken
          obtain rfl := Option.some.inj (buffered.symm.trans there)
          split
          case h_1 asked =>
            obtain rfl := congrArg Prod.snd asked
            have kept :
                (((l.ensureBuffer h).modifyHandle h .retain).ask (T.readStart h)).2.release h
                |>.Agrees ((l.ensureBuffer h).ask (T.readStart h)).2 :=
              agrees_of_retained buffered unmarked (T.readStart h)
            exact ⟨_, .refuseReadStart found readable idle unmarked (congrArg Prod.fst asked), kept⟩
          case h_2 asked =>
            obtain rfl := congrArg Prod.snd asked
            exact ⟨_, .readStart found readable idle unmarked (congrArg Prod.fst asked),
              (Agrees.refl _).wake⟩

/-- Stopping to read has its effect. -/
theorem effect_of_readStopUntracked (l : Loop H) (h : HandleId) :
    ∃ l₁, Effect T l (.readStop h) (l.readStopUntracked T h).1 l₁ ∧
      (l.readStopUntracked T h).2.Agrees l₁ := by
  unfold readStopUntracked
  split
  case h_1 => exact ⟨l, .refused rfl, .refl l⟩
  case h_2 x found =>
    have found := handle?_eq_ok found
    by_cases stopped : x.read = .stopped
    · have idle : x.isReading = false := by simp [Handle.isReading, stopped]
      obtain ⟨breach, closing, handles⟩ := endReading_of_found T .stopped found (by simp [idle])
      simp only [if_pos stopped]
      refine ⟨l, .refused rfl, ?_⟩
      constructor
      case breach => exact breach
      case closing => simpa [idle] using closing
      case net => simp [endReading, found, idle]
      case handles =>
        intro k
        rw [handles]
        split
        case isTrue hk => rw [← hk, found]; simp [idle, ← stopped]
        case isFalse => rfl
      all_goals simp
    · simp only [if_neg stopped]
      exact ⟨_, .readStop found stopped, .refl _⟩

/-- Writing into a buffer through its handle has its effect. -/
theorem effect_of_bufferWrite (l : Loop H) (h : HandleId) (offset : Nat) (data : List UInt8) :
    ∃ l₁, Effect T l (.bufferWrite h offset data) (l.bufferWrite h offset data).1 l₁ ∧
      (l.bufferWrite h offset data).2.Agrees l₁ := by
  unfold bufferWrite
  split
  case h_1 => exact ⟨l, .refused rfl, .refl l⟩
  case h_2 x found =>
    have found := handle?_eq_ok found
    split
    case h_1 none => exact ⟨_, .noBuffer found none, .refl _⟩
    case h_2 buffer there =>
      split
      case h_1 => exact ⟨l, .refused rfl, .refl l⟩
      case h_2 n buffer' written => exact ⟨_, .bufferWrite found there written, .refl _⟩

/-- Writing into a buffer that was had before has its effect. -/
theorem effect_of_keptWrite (l : Loop H) (h : HandleId) (offset : Nat) (data : List UInt8) :
    ∃ l₁, Effect T l (.keptWrite h offset data) (l.keptWrite h offset data).1 l₁ ∧
      (l.keptWrite h offset data).2.Agrees l₁ := by
  unfold keptWrite
  split
  case h_1 none => exact ⟨_, .noKept none, .refl _⟩
  case h_2 buffer there =>
    split
    case h_1 => exact ⟨l, .refused rfl, .refl l⟩
    case h_2 n buffer' written => exact ⟨_, .keptWrite there written, .refl _⟩

/-- Issuing a write has its effect. -/
theorem effect_of_writeUntracked (l : Loop H) (h : HandleId) (data : List UInt8)
    (callback : Callback H.Closure) :
    ∃ l₁, Effect T l (.write h data callback) (l.writeUntracked T h data callback).1 l₁ ∧
      (l.writeUntracked T h data callback).2.Agrees l₁ := by
  unfold writeUntracked
  split
  case h_1 => exact ⟨l, .refused rfl, .refl l⟩
  case h_2 x found =>
    split
    case isTrue => exact ⟨l, .refused rfl, .refl l⟩
    case isFalse connected =>
      split
      case h_1 => exact ⟨l, .refused rfl, .refl l⟩
      case h_2 l' taken =>
        obtain ⟨y, there, unmarked, rfl⟩ := acquire_eq_ok taken
        obtain rfl := Option.some.inj ((handle?_eq_ok found).symm.trans there)
        exact ⟨_, .write there (by simpa using connected) unmarked, (Agrees.refl _).wake⟩

/-- Issuing a shutdown has its effect. -/
theorem effect_of_shutdownUntracked (l : Loop H) (h : HandleId) (callback : Callback H.Closure) :
    ∃ l₁, Effect T l (.shutdown h callback) (l.shutdownUntracked T h callback).1 l₁ ∧
      (l.shutdownUntracked T h callback).2.Agrees l₁ := by
  unfold shutdownUntracked
  split
  case h_1 => exact ⟨l, .refused rfl, .refl l⟩
  case h_2 x found =>
    split
    case isTrue => exact ⟨l, .refused rfl, .refl l⟩
    case isFalse connected =>
      split
      case h_1 => exact ⟨l, .refused rfl, .refl l⟩
      case h_2 l' taken =>
        obtain ⟨y, there, unmarked, rfl⟩ := acquire_eq_ok taken
        obtain rfl := Option.some.inj ((handle?_eq_ok found).symm.trans there)
        exact ⟨_, .shutdown there (by simpa using connected) unmarked, (Agrees.refl _).wake⟩

/-- Issuing a connect has its effect. -/
theorem effect_of_connectUntracked (l : Loop H) (h : HandleId) (address : SocketAddress) :
    ∃ l₁, Effect T l (.connect h address) (l.connectUntracked T h address).1 l₁ ∧
      (l.connectUntracked T h address).2.Agrees l₁ := by
  unfold connectUntracked
  split
  case h_1 => exact ⟨l, .refused rfl, .refl l⟩
  case h_2 x found =>
    split
    case isTrue => exact ⟨l, .refused rfl, .refl l⟩
    case isFalse idle =>
      split
      case h_1 => exact ⟨l, .refused rfl, .refl l⟩
      case h_2 l' taken =>
        obtain ⟨y, there, unmarked, rfl⟩ := acquire_eq_ok taken
        obtain rfl := Option.some.inj ((handle?_eq_ok found).symm.trans there)
        simp only
        split
        case h_1 asked =>
          obtain rfl := congrArg Prod.snd asked
          exact ⟨_, .refuseConnect there (by simpa using idle) unmarked (congrArg Prod.fst asked),
            agrees_of_retained there unmarked _⟩
        case h_2 asked =>
          obtain rfl := congrArg Prod.snd asked
          exact ⟨_, .connect there (by simpa using idle) unmarked (congrArg Prod.fst asked),
            (Agrees.refl _).wake⟩

/-- Closing has its effect. -/
theorem effect_of_closeUntracked (l : Loop H) (h : HandleId) (onClose : H.Closure) :
    ∃ l₁, Effect T l (.close h onClose) (l.closeUntracked T h onClose).1 l₁ ∧
      (l.closeUntracked T h onClose).2.Agrees l₁ := by
  unfold closeUntracked
  split
  case h_1 => exact ⟨l, .refused rfl, .refl l⟩
  case h_2 x found =>
    split
    case isTrue => exact ⟨l, .refused rfl, .refl l⟩
    case isFalse unmarked =>
      exact ⟨_, .close (handle?_eq_ok found) (by simpa using unmarked), (Agrees.refl _).wake⟩

/-- What an operation does to a loop is one of the effects. -/
theorem issues_issue (T : Transport H.Net H.Script) (l : Loop H) (o : Operation H.Closure) :
    Issues T l o (l.issue T o).1 (l.issue T o).2 := by
  cases o with
  | newHandle kind => exact ⟨l, _, .refl l, .newHandle, .refl _⟩
  | on h event c =>
    obtain ⟨l₁, effect, same⟩ := effect_of_on (T := T) l h event c
    exact ⟨l, l₁, .refl l, effect, same⟩
  | accept server client =>
    exact .tracked (.accept server client) id (acceptUntracked T · server client)
      (effect_of_acceptUntracked · server client)
  | adopt h =>
    obtain ⟨l₁, effect, same⟩ := effect_of_adopt (T := T) l h
    exact ⟨l, l₁, .refl l, effect, same⟩
  | bind h address =>
    obtain ⟨l₁, effect, same⟩ := effect_of_bind (T := T) l h address
    exact ⟨l, l₁, .refl l, effect, same⟩
  | readStart h =>
    exact .tracked (.readStart h) id (readStartUntracked T · h) (effect_of_readStartUntracked · h)
  | readStop h =>
    exact .tracked (.readStop h) id (readStopUntracked T · h) (effect_of_readStopUntracked · h)
  | bufferWrite h offset data =>
    obtain ⟨l₁, effect, same⟩ := effect_of_bufferWrite (T := T) l h offset data
    exact ⟨l, l₁, .refl l, effect, same⟩
  | keptWrite h offset data =>
    obtain ⟨l₁, effect, same⟩ := effect_of_keptWrite (T := T) l h offset data
    exact ⟨l, l₁, .refl l, effect, same⟩
  | write h data callback =>
    exact .tracked (.write h data callback) id (writeUntracked T · h data callback)
      (effect_of_writeUntracked · h data callback)
  | shutdown h callback =>
    exact .tracked (.shutdown h callback) id (shutdownUntracked T · h callback)
      (effect_of_shutdownUntracked · h callback)
  | connect h address =>
    exact .tracked (.connect h address) id (connectUntracked T · h address)
      (effect_of_connectUntracked · h address)
  | close h onClose =>
    exact .tracked (.close h onClose) id (closeUntracked T · h onClose)
      (effect_of_closeUntracked · h onClose)
  | stop =>
    have same : l.stop.Agrees l := ⟨rfl, rfl, fun _ => rfl, rfl, rfl, rfl, rfl, rfl, rfl, rfl, rfl⟩
    exact ⟨l, l.stop, .refl l, .stop same, .refl _⟩
  | forgetWake =>
    have same : ({ l with woken := false } : Loop H).Agrees l :=
      ⟨rfl, rfl, fun _ => rfl, rfl, rfl, rfl, rfl, rfl, rfl, rfl, rfl⟩
    exact ⟨l, _, .refl l, .forgetWake same, .refl _⟩

/-- A call of `listen` that got as far as telling its listeners. -/
theorem effect_of_beginListen {l l' : Loop H} {h : HandleId} {backlog : Option Nat} {c : H.Closure}
    (begun : l.beginListen T h backlog c = (.ok (), l')) :
    ∃ x, l.handles.get? h = some x ∧ x.state = .idle ∧ x.closing = false ∧
      (T.listen h (backlog.getD l.options.defaultBacklog) l.net).answer = .ok () ∧
      l'.Agrees
        ((((l.ask (T.listen h (backlog.getD l.options.defaultBacklog))).2.modifyHandle
          h .retain).modifyHandle
            h ({ · with listenRef := true, state := .listening })).addListener
              h .connection c) := by
  unfold beginListen at begun
  split at begun
  case h_1 => cases begun
  case h_2 x found =>
    split at begun
    case isTrue => cases begun
    case isFalse idle =>
      split at begun
      case h_1 => cases begun
      case h_2 asked =>
        split at begun
        case h_1 => cases begun
        case h_2 l₁ taken =>
          cases begun
          obtain ⟨answered, rfl⟩ := Prod.mk.inj asked
          obtain ⟨y, there, unmarked, rfl⟩ := acquire_eq_ok taken
          obtain rfl := Option.some.inj ((handle?_eq_ok found).symm.trans there)
          exact ⟨x, there, by simpa using idle, unmarked, answered, (Agrees.refl _).wake⟩

/-- A call of `listen` that was refused has at most asked the transport. -/
theorem effect_of_refused_beginListen {l l' : Loop H} {h : HandleId} {backlog : Option Nat}
    {c : H.Closure} {e : LoopError} (begun : l.beginListen T h backlog c = (.error e, l')) :
    l' = l ∨ l' = (l.ask (T.listen h (backlog.getD l.options.defaultBacklog))).2 := by
  unfold beginListen at begun
  split at begun
  case h_1 => exact .inl (congrArg Prod.snd begun).symm
  case h_2 x found =>
    split at begun
    case isTrue => exact .inl (congrArg Prod.snd begun).symm
    case isFalse =>
      split at begun
      case h_1 asked =>
        obtain rfl := congrArg Prod.snd asked
        exact .inr (congrArg Prod.snd begun).symm
      case h_2 asked =>
        obtain rfl := congrArg Prod.snd asked
        split at begun
        case h_1 => exact .inr (congrArg Prod.snd begun).symm
        case h_2 => cases begun

end Loop

end Reactor
