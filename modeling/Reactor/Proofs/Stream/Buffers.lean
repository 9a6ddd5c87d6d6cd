import Reactor.Proofs.Closing.Aging

/-!
# The sizes of read buffers

A read buffer gets its size from the options when the first session on its handle is opened, and
keeps it. A read that fits in the buffer is seen in it byte by byte.
-/

namespace Reactor

namespace ReadBuffer

/-- Overwriting leaves the size of a buffer. -/
@[simp] theorem size_overwrite (b : ReadBuffer) (offset : Nat) (data : List UInt8) :
    (b.overwrite offset data).size = b.size := by
  unfold overwrite
  simp only
  split <;> rfl

/-- Overwriting leaves a buffer lent out or free as it was. -/
@[simp] theorem exposed_overwrite (b : ReadBuffer) (offset : Nat) (data : List UInt8) :
    (b.overwrite offset data).exposed = b.exposed := by
  unfold overwrite
  simp only
  split <;> rfl

/-- A write leaves the size of the buffer as it is. -/
theorem size_of_write? {b b' : ReadBuffer} {offset n : Nat} {data : List UInt8}
    (written : b.write? offset data = some (n, b')) : b'.size = b.size := by
  unfold write? at written
  split at written
  case isTrue => cases written
  case isFalse =>
    cases written
    exact size_overwrite _ _ _

/-- Bytes that fit in the buffer are seen there after they were put at its start. -/
theorem view_overwrite {b : ReadBuffer} {bytes : List UInt8} (fits : bytes.length ≤ b.size) :
    (b.overwrite 0 bytes).view bytes.length = bytes := by
  have room : b.room 0 bytes = bytes.length := by
    rw [room]
    omega
  rw [view, size_overwrite, Nat.min_eq_left fits]
  unfold overwrite
  simp only [room]
  split
  case isTrue none => simp [List.length_eq_zero_iff.1 none]
  case isFalse => simp [view]

end ReadBuffer

variable {H : Host} {T : Transport H.Net H.Script} {enter : Handlers H}

namespace Loop

/-- The options give a size, and every read buffer has it. -/
def Sized (size : Nat) (l : Loop H) : Prop :=
  l.options.readBufferSize = size ∧
    ∀ h x b, l.handles.get? h = some x → x.buffer = some b → b.size = size

namespace Sized

variable {l l' : Loop H} {h : HandleId} {size : Nat}

/-- Whether buffers have their size depends on the table and the options alone. -/
theorem congr (sized : l.Sized size) (handles : ∀ k, l'.handles.get? k = l.handles.get? k)
    (options : l'.options = l.options) : l'.Sized size :=
  ⟨by rw [options]; exact sized.1, fun k x b found buffer =>
    sized.2 k x b (by rwa [← handles]) buffer⟩

/-- A loop that agrees with one whose buffers have their size has such buffers. -/
theorem agrees (sized : l.Sized size) (same : l'.Agrees l) : l'.Sized size :=
  sized.congr same.handles same.options

/-- A change of a handle that gives its buffer, if it has one then, the same size as all. -/
theorem change (sized : l.Sized size) {f : Handle H.Closure → Handle H.Closure}
    (sizes : ∀ x b, l.handles.get? h = some x → (f x).buffer = some b → b.size = size) :
    (l.modifyHandle h f).Sized size := by
  refine ⟨sized.1, fun k y b found buffer => ?_⟩
  rw [get?_modifyHandle] at found
  split at found
  case isTrue same =>
    subst same
    obtain ⟨x, there, rfl⟩ := Option.map_eq_some_iff.1 found
    exact sizes x b there buffer
  case isFalse => exact sized.2 k y b found buffer

/-- A change of a handle that leaves its buffer as it is. -/
theorem modifyHandle (sized : l.Sized size) {f : Handle H.Closure → Handle H.Closure}
    (same : ∀ x, (f x).buffer = x.buffer) :
    (l.modifyHandle h f).Sized size :=
  sized.change fun x b found buffer => sized.2 h x b found ((same x).symm.trans buffer)

/-- Setting the state of a stream resizes no buffer. -/
theorem setState (sized : l.Sized size) (state : StreamState) : (l.setState h state).Sized size :=
  sized.modifyHandle fun _ => rfl

/-- A buffer made on demand has the size that the options give. -/
theorem ensureBuffer (sized : l.Sized size) : (l.ensureBuffer h).Sized size := by
  apply sized.change
  intro x b found buffer
  have buffer : x.buffer.getD (.ofSize l.options.readBufferSize) = b := Option.some.inj buffer
  cases there : x.buffer with
  | none => rw [← buffer, there]; exact sized.1
  | some b' => rw [← buffer, there]; exact sized.2 h x b' found there

/-- Giving a reference back resizes no buffer. -/
theorem release (sized : l.Sized size) : (l.release h).Sized size := by
  have fewer : (l.modifyHandle h fun x => { x with refs := x.refs - 1 }).Sized size :=
    sized.modifyHandle fun _ => rfl
  unfold Loop.release
  split
  case h_1 => exact sized
  case h_2 =>
    split
    case isTrue => exact sized
    case isFalse =>
      simp only
      split
      case isTrue => exact fewer
      case isFalse => exact fewer

/-- The end of a read session resizes no buffer. -/
theorem endReading (sized : l.Sized size) (T : Transport H.Net H.Script) (next : ReadState) :
    (l.endReading T h next).Sized size := by
  have stopped : (l.modifyHandle h ({ · with read := next })).Sized size :=
    sized.modifyHandle fun _ => rfl
  unfold Loop.endReading
  split
  case h_1 => exact sized
  case h_2 =>
    simp only
    split
    case isTrue => exact release stopped
    case isFalse => exact stopped

/-- Settling a shutdown resizes no buffer. -/
theorem settleShutdown (sized : l.Sized size) (ok : Bool) :
    (Machine.settleShutdown l h ok).Sized size := by
  unfold Machine.settleShutdown
  split
  case h_1 =>
    split
    case isTrue => exact sized.setState _
    case isFalse => exact sized
  case h_2 => exact sized

/-- The buffer that a read goes to has the size that the options give. -/
theorem readBuffer (sized : l.Sized size) {x : Handle H.Closure}
    (found : l.handles.get? h = some x) :
    (Machine.readBuffer l x).size = size := by
  rw [Machine.readBuffer]
  cases there : x.buffer with
  | none => exact sized.1
  | some b => exact sized.2 h x b found there

/-- Bytes that were read are put into the buffer that the read went to. -/
theorem read {α : Type} (sized : l.Sized size) {x : Handle H.Closure}
    (found : l.handles.get? h = some x) (primitive : H.Net → Reply H.Net α) (bytes : List UInt8) :
    (Machine.fillBuffer (l.ask primitive).2 h (Machine.readBuffer l x) bytes).Sized size := by
  have asked : (l.ask primitive).2.Sized size := sized
  apply asked.change
  intro z b _ buffer
  rw [← Option.some.inj buffer, ReadBuffer.size_overwrite]
  exact sized.readBuffer found

/-- A change of a read buffer that gives the same size as all to the buffer that its handle has. -/
theorem modifyBuffer (sized : l.Sized size) {f : ReadBuffer → ReadBuffer}
    (sizes : ∀ x b, l.handles.get? h = some x → x.buffer = some b → (f b).size = size) :
    (l.modifyBuffer h f).Sized size := by
  have changed : (l.modifyHandle h fun x => { x with buffer := x.buffer.map f }).Sized size := by
    apply sized.change
    intro x b found buffer
    obtain ⟨b', there, rfl⟩ := Option.map_eq_some_iff.1 buffer
    exact sizes x b' found there
  exact changed

/-- Exposing a buffer does not resize it. -/
theorem expose (sized : l.Sized size) (exposed : Bool) : (Machine.expose l h exposed).Sized size :=
  sized.modifyBuffer fun x b found there => sized.2 h x b found there

/-- Removing a handle resizes no buffer of another. -/
theorem remove (sized : l.Sized size) (h : HandleId) :
    ({ l with handles := l.handles.remove h } : Loop H).Sized size :=
  ⟨sized.1, fun k x b found buffer => sized.2 k x b (Registry.get?_of_remove found).2 buffer⟩

end Sized

/-- Operations keep the sizes of the buffers. -/
theorem Effect.sized {l l' : Loop H} {size : Nat} {o : Operation H.Closure} {a : o.Answer}
    {held due : List HandleId} (effect : Effect T l o a l') (b : l.Balanced held due)
    (sized : l.Sized size) : l'.Sized size := by
  cases effect with
  | refused | on | refuseAccept | refuseAdopt | refuseBind | bind | noBuffer | noKept
    | refuseConnect => exact sized
  | newHandle =>
    refine ⟨sized.1, fun k x b found buffer => ?_⟩
    rw [show (_ : Loop H).handles.get? k = _ from Registry.get?_add _ _ _] at found
    split at found
    case isTrue => cases found; cases buffer
    case isFalse => exact sized.2 k x b found buffer
  | accept | adopt => exact sized.setState _
  | markedReadStart | refuseReadStart => exact sized.ensureBuffer
  | @readStart h =>
    have taken : ((l.ensureBuffer h).modifyHandle h .retain).Sized size :=
      sized.ensureBuffer.modifyHandle fun _ => rfl
    exact taken.modifyHandle (f := ({ · with read := .reading })) fun _ => rfl
  | readStop => exact sized.endReading T _
  | @bufferWrite h x offset data buffer n buffer' found there written =>
    apply sized.change
    intro z b _ same
    rw [← Option.some.inj same, ReadBuffer.size_of_write? written]
    exact sized.2 h x buffer found there
  | @keptWrite h offset data buffer n buffer' there written =>
    refine sized.modifyBuffer fun x b found same => ?_
    rw [ReadBuffer.size_of_write? written]
    rw [buffer?, found] at there
    exact sized.2 h x buffer found there
  | write => exact sized.modifyHandle (f := .retain) fun _ => rfl
  | @shutdown h =>
    have taken : (l.modifyHandle h .retain).Sized size := sized.modifyHandle fun _ => rfl
    exact taken.setState _
  | @connect h =>
    have taken : (l.modifyHandle h .retain).Sized size := sized.modifyHandle fun _ => rfl
    exact taken.setState _
  | @close h x c found unmarked =>
    refine ⟨by rw [(retire_frame T l h c).1]; exact sized.1, fun k z buffer there same => ?_⟩
    rw [b.get?_retire T c found] at there
    split at there
    case isTrue => cases there; exact sized.2 h x buffer found same
    case isFalse => exact sized.2 k z buffer there same
  | stop same | forgetWake same => exact sized.agrees same

/-- No operation resizes a buffer. -/
theorem Sized.issue {l : Loop H} {size : Nat} {held due : List HandleId} (sized : l.Sized size)
    (T : Transport H.Net H.Script) (b : l.Balanced held due) (o : Operation H.Closure) :
    (l.issue T o).2.Sized size := by
  obtain ⟨l₀, l₁, before, effect, after⟩ := issues_issue T l o
  exact (effect.sized (b.agrees before) (sized.agrees before)).agrees after

end Loop

namespace Machine

variable {x y m : Machine H} {past : List (Machine H)} {size : Nat}

/-- Telling an outcome resizes no buffer. -/
theorem sized_deliver {l : Loop H} (sized : l.Sized size) (stack : List (Frame H)) (req : RequestId)
    (h : HandleId) (callback : Callback H.Closure) (outcome : RequestOutcome) :
    (deliver l stack req h callback outcome).loop.Sized size := by
  cases callback with
  | closure => exact sized
  | promise =>
    have settled : ({ l with settled := (req, outcome) :: l.settled } : Loop H).Sized size := sized
    exact settled.release

/-- Each rule keeps the sizes of the buffers. -/
theorem Rule.sized (rule : Rule T enter x y) (b : x.Balanced) (sized : x.loop.Sized size) :
    y.loop.Sized size := by
  cases rule with
  | finish | ask | tick | runLoop | poll | script | survey | note | recallShared | update | enter
    | emit | nextListener | endEmission | beginParting | skipParting | endParting | noteResult
    | endListen | failListen | collect | firstPass | nextPass | beginReclaims | endTick | skipReport
    | connection | dropConnection | skipRead | refuseRead | skipReclaim | breach | ticked
    | runFailed | endRun | runAgain | pollFailed | endPoll => exact sized
  | issue => exact Loop.Sized.issue sized T b _
  | refuseListen begun =>
    obtain rfl | rfl := Loop.effect_of_refused_beginListen begun
    · exact sized
    · exact sized
  | @beginListen l stack h =>
    rename_i begun
    obtain ⟨z, -, -, -, -, agrees⟩ := Loop.effect_of_beginListen begun
    have taken : (l.modifyHandle h .retain).Sized size := sized.modifyHandle fun _ => rfl
    have listens :
        ((l.modifyHandle h .retain).modifyHandle h
          ({ · with listenRef := true, state := .listening })).Sized size :=
      taken.modifyHandle fun _ => rfl
    exact Loop.Sized.agrees (by exact listens) agrees
  | endDelivery | endConnect => exact sized.release
  | endLoan => exact sized.expose _
  | pausePoll =>
    split
    · exact sized
    · exact sized
  | completeWrite => exact sized_deliver (by exact sized) _ _ _ _ _
  | @completeShutdown l stack t c stage req status h =>
    have left : (({ l with requests := l.requests.remove req } : Loop H).meterAsync h .shutdown
      (outcomeAt "after_shutdown" status).isOk).Sized size := sized
    exact sized_deliver (left.settleShutdown _) _ _ _ _ _
  | @completeConnect l stack t c stage req h =>
    have left :
        (({ l with requests := l.requests.remove req } : Loop H).meterAsync h .connect true).Sized
          size := sized
    exact left.setState _
  | @failConnect l stack t c stage req status h =>
    have left :
        (({ l with requests := l.requests.remove req } : Loop H).meterAsync h .connect false).Sized
          size := sized
    exact left.setState _
  | @dropConnect l stack t c stage req status h =>
    have left : (({ l with requests := l.requests.remove req } : Loop H).meterAsync h .connect
      (outcomeAt "after_connect" status).isOk).Sized size := sized
    exact left.release
  | readNothing here found reading free read =>
    obtain rfl := congrArg Prod.snd read
    exact sized.read found _ _
  | readData here found reading free read =>
    obtain rfl := congrArg Prod.snd read
    exact Loop.Sized.expose (by exact sized.read found _ _) _
  | readEof here found reading free read =>
    obtain rfl := congrArg Prod.snd read
    exact (sized.read found _ _).endReading T _
  | readFailed here found reading free read =>
    obtain rfl := congrArg Prod.snd read
    exact Loop.Sized.endReading (by exact sized.read found _ _) T _
  | @reclaim l stack t h =>
    have gone : ({ l with handles := l.handles.remove h } : Loop H).Sized size := sized.remove h
    exact gone

/-- Along every run the options stay, and the read buffers have the size that they give. -/
theorem Run.sized {options : Options} {net : H.Net} {shared : H.Shared} {p : Program H}
    (run : Run T enter (start p (.fresh options net shared)) past m) :
    m.loop.Sized options.readBufferSize := by
  refine (run.keeps (P := fun m => m.Balanced ∧ m.loop.Sized options.readBufferSize)
    (fun x y hx next => ?_) ?_).2
  · refine ⟨hx.1.next next, ?_⟩
    cases next with
    | step taken => exact (rule_of_step? taken).2.sized hx.1 hx.2
    | resume => exact hx.2
  · refine ⟨Loop.Balanced.fresh options net shared, rfl, fun h x b found => ?_⟩
    cases found

end Machine

end Reactor
