import Reactor.Proofs.Loop.Effects

/-!
# What surrounds the streams of a loop

The options, the journal and the flag to stop stand beside the streams. Of an operation only its own
samples touch the journal, and only the request to stop touches the flag; what an operation does
between its samples touches neither.
-/

namespace Reactor

namespace Loop

variable {H : Host} {T : Transport H.Net H.Script}

/-- The options of a loop, its journal and its flag to stop. -/
def aside (l : Loop H) : Options × List (Entry H.Note) × Bool := (l.options, l.journal, l.stopping)

/-! ## The parts of an operation -/

/-- A wake touches nothing beside the streams. -/
@[simp] theorem aside_wake (l : Loop H) : l.wake.aside = l.aside := rfl

/-- A question to the transport touches nothing beside the streams. -/
@[simp] theorem aside_ask {α : Type} (l : Loop H) (primitive : H.Net → Reply H.Net α) :
    (l.ask primitive).2.aside = l.aside := rfl

/-- Changing a handle touches nothing beside the streams. -/
@[simp] theorem aside_modifyHandle (l : Loop H) (h : HandleId)
    (f : Handle H.Closure → Handle H.Closure) :
    (l.modifyHandle h f).aside = l.aside := rfl

/-- Changing a buffer touches nothing beside the streams. -/
@[simp] theorem aside_modifyBuffer (l : Loop H) (h : HandleId) (f : ReadBuffer → ReadBuffer) :
    (l.modifyBuffer h f).aside = l.aside := rfl

/-- Setting the state of a stream touches nothing beside the streams. -/
@[simp] theorem aside_setState (l : Loop H) (h : HandleId) (state : StreamState) :
    (l.setState h state).aside = l.aside := rfl

/-- A new listener touches nothing beside the streams. -/
@[simp] theorem aside_addListener (l : Loop H) (h : HandleId) (event : EventName) (c : H.Closure) :
    (l.addListener h event c).aside = l.aside := rfl

/-- A new request touches nothing beside the streams. -/
@[simp] theorem aside_enlist (l : Loop H) (r : Request H.Closure) (refusal : Option Completion) :
    (l.enlist r refusal).aside = l.aside := rfl

/-- A buffer made on demand touches nothing beside the streams. -/
@[simp] theorem aside_ensureBuffer (l : Loop H) (h : HandleId) :
    (l.ensureBuffer h).aside = l.aside := rfl

/-- Taking a reference touches nothing beside the streams. -/
theorem aside_acquire {l l' : Loop H} {h : HandleId} (taken : l.acquire h = .ok l') :
    l'.aside = l.aside := by
  obtain ⟨x, -, -, rfl⟩ := acquire_eq_ok taken
  rfl

/-- Giving a reference back touches nothing beside the streams. -/
@[simp] theorem aside_release (l : Loop H) (h : HandleId) : (l.release h).aside = l.aside := by
  unfold release
  split
  case h_1 => rfl
  case h_2 =>
    split
    case isTrue => rfl
    case isFalse =>
      simp only
      split <;> rfl

/-- Marking a handle as closing touches nothing beside the streams. -/
@[simp] theorem aside_markClosing (l : Loop H) (h : HandleId) :
    (l.markClosing h).aside = l.aside := by
  unfold markClosing
  split
  case h_1 => rfl
  case h_2 =>
    simp only
    split <;> rfl

/-- The end of a read session touches nothing beside the streams. -/
@[simp] theorem aside_endReading (T : Transport H.Net H.Script) (l : Loop H) (h : HandleId)
    (next : ReadState) :
    (l.endReading T h next).aside = l.aside := by
  unfold endReading
  split
  case h_1 => rfl
  case h_2 =>
    simp only
    split <;> simp

/-- The end of listening touches nothing beside the streams. -/
@[simp] theorem aside_endListening (l : Loop H) (h : HandleId) :
    (l.endListening h).aside = l.aside := by
  unfold endListening
  split
  case h_1 => rfl
  case h_2 => split <;> simp

/-! ## The operations between their samples -/

/-- What the transport answers leaves alone what stands beside the streams. -/
theorem aside_of_asked {α : Type} {l l' : Loop H} {primitive : H.Net → Reply H.Net α} {a : α}
    (asked : l.ask primitive = (a, l')) : l'.aside = l.aside := by
  obtain rfl : _ = l' := congrArg Prod.snd asked
  exact aside_ask l primitive

/-- A new handle touches nothing beside the streams. -/
theorem aside_newHandle (l : Loop H) (kind : HandleKind) :
    (l.newHandle T kind).2.aside = l.aside := rfl

/-- Registering a listener touches nothing beside the streams. -/
theorem aside_on (l : Loop H) (h : HandleId) (event : EventName) (c : H.Closure) :
    (l.on h event c).2.aside = l.aside := by
  unfold on
  split <;> rfl

/-- Beginning to listen touches nothing beside the streams. -/
theorem aside_beginListen (l : Loop H) (h : HandleId) (backlog : Option Nat) (c : H.Closure) :
    (l.beginListen T h backlog c).2.aside = l.aside := by
  unfold beginListen
  split
  case h_1 => rfl
  case h_2 =>
    split
    case isTrue => rfl
    case isFalse =>
      split
      case h_1 asked => exact aside_of_asked asked
      case h_2 asked =>
        split
        case h_1 => exact aside_of_asked asked
        case h_2 taken => exact (aside_acquire taken).trans (aside_of_asked asked)

/-- Accepting touches nothing beside the streams but through its samples. -/
theorem aside_acceptUntracked (l : Loop H) (server client : HandleId) :
    (l.acceptUntracked T server client).2.aside = l.aside := by
  unfold acceptUntracked
  split
  case h_1 => rfl
  case h_2 =>
    split
    case isTrue => rfl
    case isFalse =>
      split
      case h_1 => rfl
      case h_2 =>
        split
        case isTrue => rfl
        case isFalse =>
          split
          case h_1 asked => exact aside_of_asked asked
          case h_2 asked => exact (aside_of_asked asked :)

/-- Adopting a connection touches nothing beside the streams. -/
theorem aside_adopt (l : Loop H) (h : HandleId) : (l.adopt T h).2.aside = l.aside := by
  unfold adopt
  split
  case h_1 => rfl
  case h_2 =>
    split
    case isTrue => rfl
    case isFalse =>
      split
      case h_1 asked => exact aside_of_asked asked
      case h_2 asked => exact (aside_of_asked asked :)

/-- Binding touches nothing beside the streams. -/
theorem aside_bind (l : Loop H) (h : HandleId) (address : SocketAddress) :
    (l.bind T h address).2.aside = l.aside := by
  unfold bind
  split
  case h_1 => rfl
  case h_2 =>
    split
    case isTrue => rfl
    case isFalse =>
      split
      case h_1 asked => exact aside_of_asked asked
      case h_2 asked => exact (aside_of_asked asked :)

/-- Starting to read touches nothing beside the streams but through its samples. -/
theorem aside_readStartUntracked (l : Loop H) (h : HandleId) :
    (l.readStartUntracked T h).2.aside = l.aside := by
  unfold readStartUntracked
  split
  case h_1 => rfl
  case h_2 =>
    split
    case isTrue => rfl
    case isFalse =>
      split
      case isTrue => rfl
      case isFalse =>
        simp only
        split
        case h_1 => rfl
        case h_2 taken =>
          have taken := aside_acquire taken
          split
          case h_1 asked => exact (aside_release _ h).trans ((aside_of_asked asked).trans taken)
          case h_2 asked => exact (aside_of_asked asked).trans taken

/-- Stopping to read touches nothing beside the streams but through its samples. -/
theorem aside_readStopUntracked (l : Loop H) (h : HandleId) :
    (l.readStopUntracked T h).2.aside = l.aside := by
  unfold readStopUntracked
  split
  case h_1 => rfl
  case h_2 => exact aside_endReading T l h .stopped

/-- A write into a buffer through its handle touches nothing beside the streams. -/
theorem aside_bufferWrite (l : Loop H) (h : HandleId) (offset : Nat) (data : List UInt8) :
    (l.bufferWrite h offset data).2.aside = l.aside := by
  unfold bufferWrite
  split
  case h_1 => rfl
  case h_2 =>
    split
    case h_1 => rfl
    case h_2 => split <;> rfl

/-- A write into a buffer that was had before touches nothing beside the streams. -/
theorem aside_keptWrite (l : Loop H) (h : HandleId) (offset : Nat) (data : List UInt8) :
    (l.keptWrite h offset data).2.aside = l.aside := by
  unfold keptWrite
  split
  case h_1 => rfl
  case h_2 => split <;> rfl

/-- Issuing a write touches nothing beside the streams but through its samples. -/
theorem aside_writeUntracked (l : Loop H) (h : HandleId) (data : List UInt8)
    (callback : Callback H.Closure) :
    (l.writeUntracked T h data callback).2.aside = l.aside := by
  unfold writeUntracked
  split
  case h_1 => rfl
  case h_2 =>
    split
    case isTrue => rfl
    case isFalse =>
      split
      case h_1 => rfl
      case h_2 taken => exact (aside_acquire taken :)

/-- Issuing a shutdown touches nothing beside the streams but through its samples. -/
theorem aside_shutdownUntracked (l : Loop H) (h : HandleId) (callback : Callback H.Closure) :
    (l.shutdownUntracked T h callback).2.aside = l.aside := by
  unfold shutdownUntracked
  split
  case h_1 => rfl
  case h_2 =>
    split
    case isTrue => rfl
    case isFalse =>
      split
      case h_1 => rfl
      case h_2 taken => exact (aside_acquire taken :)

/-- Issuing a connect touches nothing beside the streams but through its samples. -/
theorem aside_connectUntracked (l : Loop H) (h : HandleId) (address : SocketAddress) :
    (l.connectUntracked T h address).2.aside = l.aside := by
  unfold connectUntracked
  split
  case h_1 => rfl
  case h_2 =>
    split
    case isTrue => rfl
    case isFalse =>
      split
      case h_1 => rfl
      case h_2 taken =>
        have taken := aside_acquire taken
        simp only
        split
        case h_1 asked => exact (aside_release _ h).trans ((aside_of_asked asked).trans taken)
        case h_2 asked => exact (aside_of_asked asked).trans taken

/-- Closing touches nothing beside the streams but through its samples. -/
theorem aside_closeUntracked (l : Loop H) (h : HandleId) (onClose : H.Closure) :
    (l.closeUntracked T h onClose).2.aside = l.aside := by
  unfold closeUntracked
  split
  case h_1 => rfl
  case h_2 =>
    split
    case isTrue => rfl
    case isFalse => simp

end Loop

namespace Machine

variable {H : Host}

/-! ## The items of a tick -/

/-- Filling a buffer touches nothing beside the streams. -/
@[simp] theorem aside_fillBuffer (l : Loop H) (h : HandleId) (b : ReadBuffer) (bytes : List UInt8) :
    (fillBuffer l h b bytes).aside = l.aside := rfl

/-- Exposing a buffer touches nothing beside the streams. -/
@[simp] theorem aside_expose (l : Loop H) (h : HandleId) (exposed : Bool) :
    (expose l h exposed).aside = l.aside := rfl

/-- Taking a handle out touches nothing beside the streams. -/
@[simp] theorem aside_takeHandle (l : Loop H) (h : HandleId) (x : Handle H.Closure) :
    (takeHandle l h x).aside = l.aside := rfl

/-- Settling a shutdown touches nothing beside the streams. -/
@[simp] theorem aside_settleShutdown (l : Loop H) (h : HandleId) (ok : Bool) :
    (settleShutdown l h ok).aside = l.aside := by
  unfold settleShutdown
  split
  case h_1 => split <;> rfl
  case h_2 => rfl

/-- Telling an outcome touches nothing beside the streams. -/
@[simp] theorem aside_deliver (l : Loop H) (stack : List (Frame H)) (req : RequestId) (h : HandleId)
    (callback : Callback H.Closure) (outcome : RequestOutcome) :
    (deliver l stack req h callback outcome).loop.aside = l.aside := by
  cases callback with
  | closure => rfl
  | promise => exact Loop.aside_release _ h

end Machine

end Reactor
