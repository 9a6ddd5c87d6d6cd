import Reactor.Proofs.References.Balance

/-!
# Operations keep the balance

Every operation takes as many references as it stores, whatever the transport answers: one that is
refused gives back what it took.
-/

namespace Reactor.Loop.Balanced

variable {H : Host} {T : Transport H.Net H.Script} {l : Loop H} {h : HandleId}
  {held due : List HandleId}

/-- A sample moves no reference. -/
theorem meter (b : l.Balanced held due) (h : HandleId) (op : StreamOp) (p : Progress) :
    (l.meter h op p).Balanced held due :=
  b.congr rfl rfl rfl rfl

/-- Waking the task moves no reference. -/
theorem wake (b : l.Balanced held due) : l.wake.Balanced held due := b.congr rfl rfl rfl rfl

/-- A question to the transport moves no reference. -/
theorem ask {α : Type} (b : l.Balanced held due) (primitive : H.Net → Reply H.Net α) :
    (l.ask primitive).2.Balanced held due :=
  b.congr rfl rfl rfl rfl

/-- A handle that neither listens nor closes may take any state but closing. -/
theorem setState (b : l.Balanced held due) {x : Handle H.Closure} {state : StreamState}
    (found : l.handles.get? h = some x) (silent : x.state ≠ .listening) (open_ : x.state ≠ .closing)
    (stays : state ≠ .closing) : (l.setState h state).Balanced held due := by
  refine b.modifyHandle fun y hy => ⟨rfl, rfl, rfl, ?_⟩
  obtain rfl : x = y := Option.some.inj (found.symm.trans hy)
  obtain ⟨marked, rests, listens⟩ := b.coherent found
  exact ⟨⟨fun heq => (stays heq).elim, fun hm => (open_ (marked.2 hm)).elim⟩, rests,
    fun hl => (silent (listens hl)).elim⟩

/-- A buffer made on demand moves no reference. -/
theorem ensureBuffer (b : l.Balanced held due) : (l.ensureBuffer h).Balanced held due :=
  b.modifyHandle fun _ hx => ⟨rfl, rfl, rfl, (b.coherent hx :)⟩

/-- A handle in a state other than closing is not marked. -/
theorem unmarked (b : l.Balanced held due) {x : Handle H.Closure}
    (found : l.handles.get? h = some x) (open_ : x.state ≠ .closing) : x.closing = false :=
  Bool.eq_false_iff.2 fun marked => open_ ((b.coherent found).1.2 marked)

/-- Samples around a call do not matter. -/
theorem tracked {α : Type} (b : l.Balanced held due) {op : StreamOp}
    {body : Loop H → Except LoopError α × Loop H}
    (kept : ∀ l : Loop H, l.Balanced held due → (body l).2.Balanced held due) :
    (l.tracked h op body).2.Balanced held due := by
  have hbody := kept _ (b.meter h op .dispatched)
  unfold Loop.tracked
  split
  case h_1 heq => rw [heq] at hbody; exact hbody.meter h op .completed
  case h_2 heq => rw [heq] at hbody; exact hbody.meter h op .error

/-- Registering a listener keeps the balance. -/
theorem on (b : l.Balanced held due) (event : EventName) (c : H.Closure) :
    (l.on h event c).2.Balanced held due := by
  unfold Loop.on
  split
  case h_1 => exact b
  case h_2 => exact b.congr rfl rfl rfl rfl

/-- Beginning to listen keeps the balance. -/
theorem beginListen (b : l.Balanced held due) (backlog : Option Nat) (c : H.Closure) :
    (l.beginListen T h backlog c).2.Balanced held due := by
  unfold Loop.beginListen
  split
  case h_1 => exact b
  case h_2 x found =>
    have found := handle?_eq_ok found
    split
    case isTrue => exact b
    case isFalse idle =>
      split
      case h_1 asked =>
        obtain rfl := congrArg Prod.snd asked
        exact b.ask _
      case h_2 asked =>
        obtain rfl := congrArg Prod.snd asked
        split
        case h_1 => exact b.ask _
        case h_2 l' taken =>
          have idle : x.state = .idle := by simpa using idle
          have unlistening : x.listenRef = false := Bool.eq_false_iff.2 fun listens => by
            simpa [idle] using (b.coherent found).2.2 listens
          have unmarked := b.unmarked found (by simp [idle])
          have asked : (l.ask (T.listen h (backlog.getD l.options.defaultBacklog))).2.handles.get?
              h = some x := found
          have found' := (get?_acquire asked taken h).trans (if_pos rfl)
          have started := ((b.ask _).acquire taken).startListening found' unlistening unmarked
          exact started.congr rfl rfl rfl rfl

/-- Accepting keeps the balance. -/
theorem accept (b : l.Balanced held due) (server client : HandleId) :
    (l.accept T server client).2.Balanced held due := by
  refine b.tracked fun l b => ?_
  unfold acceptUntracked
  split
  case h_1 => exact b
  case h_2 =>
    split
    case isTrue => exact b
    case isFalse =>
      split
      case h_1 => exact b
      case h_2 c found =>
        split
        case isTrue => exact b
        case isFalse idle =>
          have idle : c.state = .idle := by simpa using idle
          split
          case h_1 asked =>
            obtain rfl := congrArg Prod.snd asked
            exact b.ask _
          case h_2 asked =>
            obtain rfl := congrArg Prod.snd asked
            exact (setState (b.ask _) (handle?_eq_ok found) (by simp [idle]) (by simp [idle])
              (by simp)).wake

/-- Adopting a connection keeps the balance. -/
theorem adopt (b : l.Balanced held due) : (l.adopt T h).2.Balanced held due := by
  unfold Loop.adopt
  split
  case h_1 => exact b
  case h_2 x found =>
    split
    case isTrue => exact b
    case isFalse idle =>
      have idle : x.state = .idle := by simpa using idle
      split
      case h_1 asked =>
        obtain rfl := congrArg Prod.snd asked
        exact b.ask _
      case h_2 asked =>
        obtain rfl := congrArg Prod.snd asked
        exact (b.ask _).setState (handle?_eq_ok found) (by simp [idle]) (by simp [idle]) (by simp)

/-- Binding keeps the balance. -/
theorem bind (b : l.Balanced held due) (address : SocketAddress) :
    (l.bind T h address).2.Balanced held due := by
  unfold Loop.bind
  split
  case h_1 => exact b
  case h_2 =>
    split
    case isTrue => exact b
    case isFalse =>
      split
      case h_1 asked =>
        obtain rfl := congrArg Prod.snd asked
        exact b.ask _
      case h_2 asked =>
        obtain rfl := congrArg Prod.snd asked
        exact b.ask _

/-- Starting to read keeps the balance. -/
theorem readStart (b : l.Balanced held due) : (l.readStart T h).2.Balanced held due := by
  refine b.tracked fun l b => ?_
  unfold readStartUntracked
  split
  case h_1 => exact b
  case h_2 x found =>
    have found := handle?_eq_ok found
    split
    case isTrue => exact b
    case isFalse readable =>
      split
      case isTrue => exact b
      case isFalse idle =>
        have buffered := (get?_modifyHandle_of_some found
          fun x => { x with buffer := some (x.buffer.getD (.ofSize l.options.readBufferSize)) }) h
        rw [if_pos rfl] at buffered
        simp only
        split
        case h_1 => exact b.ensureBuffer
        case h_2 l' taken =>
          have found' := (get?_acquire buffered taken h).trans (if_pos rfl)
          split
          case h_1 asked =>
            obtain rfl := congrArg Prod.snd asked
            exact ((b.ensureBuffer.acquire taken).ask _).release
          case h_2 asked =>
            obtain rfl := congrArg Prod.snd asked
            have unmarked := b.unmarked found fun closing =>
                readable (by simp [closing, StreamState.canRead])
            refine (startReading ((b.ensureBuffer.acquire taken).ask _) found' ?_ unmarked).wake
            simpa [Handle.isReading] using idle

/-- Stopping to read keeps the balance. -/
theorem readStop (b : l.Balanced held due) : (l.readStop T h).2.Balanced held due := by
  refine b.tracked fun l b => ?_
  unfold readStopUntracked
  split
  case h_1 => exact b
  case h_2 => exact b.endReading T (by simp)

/-- Changing a buffer moves no reference. -/
theorem modifyBuffer (b : l.Balanced held due) (f : ReadBuffer → ReadBuffer) :
    (l.modifyBuffer h f).Balanced held due := by
  have changed : (l.modifyHandle h fun x =>
      { x with buffer := x.buffer.map f }).Balanced held due :=
    b.modifyHandle fun _ hx => ⟨rfl, rfl, rfl, (b.coherent hx :)⟩
  exact changed.congr rfl rfl rfl rfl

/-- A write into a buffer through its handle keeps the balance. -/
theorem bufferWrite (b : l.Balanced held due) (offset : Nat) (data : List UInt8) :
    (l.bufferWrite h offset data).2.Balanced held due := by
  unfold Loop.bufferWrite
  split
  case h_1 => exact b
  case h_2 =>
    split
    case h_1 => exact b
    case h_2 =>
      split
      case h_1 => exact b
      case h_2 => exact b.modifyHandle fun _ hx => ⟨rfl, rfl, rfl, (b.coherent hx :)⟩

/-- A write into a buffer that was had before keeps the balance. -/
theorem keptWrite (b : l.Balanced held due) (offset : Nat) (data : List UInt8) :
    (l.keptWrite h offset data).2.Balanced held due := by
  unfold Loop.keptWrite
  split
  case h_1 => exact b
  case h_2 =>
    split
    case h_1 => exact b
    case h_2 => exact b.modifyBuffer _

/-- Issuing a write keeps the balance. -/
theorem write (b : l.Balanced held due) (data : List UInt8) (callback : Callback H.Closure) :
    (l.write T h data callback).2.Balanced held due := by
  refine b.tracked fun l b => ?_
  unfold writeUntracked
  split
  case h_1 => exact b
  case h_2 =>
    split
    case isTrue => exact b
    case isFalse =>
      split
      case h_1 => exact b
      case h_2 taken => exact (b.acquire taken).enter (r := .write h data callback) rfl rfl rfl rfl

/-- Issuing a shutdown keeps the balance. -/
theorem shutdown (b : l.Balanced held due) (callback : Callback H.Closure) :
    (l.shutdown T h callback).2.Balanced held due := by
  refine b.tracked fun l b => ?_
  unfold shutdownUntracked
  split
  case h_1 => exact b
  case h_2 x found =>
    split
    case isTrue => exact b
    case isFalse connected =>
      have connected : x.state = .connected := by simpa using connected
      split
      case h_1 => exact b
      case h_2 l' taken =>
        have found' := (get?_acquire (handle?_eq_ok found) taken h).trans (if_pos rfl)
        have held' : (l'.setState h .shuttingDown).Balanced (h :: held) due :=
          (b.acquire taken).setState found' (by simp [connected]) (by simp [connected]) (by simp)
        exact held'.enter (r := .shutdown h callback) rfl rfl rfl rfl

/-- Issuing a connect keeps the balance. -/
theorem connect (b : l.Balanced held due) (address : SocketAddress) :
    (l.connect T h address).2.Balanced held due := by
  refine b.tracked fun l b => ?_
  unfold connectUntracked
  split
  case h_1 => exact b
  case h_2 x found =>
    split
    case isTrue => exact b
    case isFalse idle =>
      have idle : x.state = .idle := by simpa using idle
      split
      case h_1 => exact b
      case h_2 l' taken =>
        have found' := (get?_acquire (handle?_eq_ok found) taken h).trans (if_pos rfl)
        simp only
        split
        case h_1 asked =>
          obtain rfl := congrArg Prod.snd asked
          exact ((b.acquire taken).ask _).release
        case h_2 asked =>
          obtain rfl := congrArg Prod.snd asked
          have entered :
              ((l'.ask (T.connect l'.requests.next h address)).2.enlist (.connect h) none).Balanced
                held due :=
            (b.acquire taken).enter (r := .connect h) rfl rfl rfl rfl
          exact (entered.setState found' (by simp [idle]) (by simp [idle]) (by simp)).wake

/-- Closing keeps the balance. -/
theorem close (b : l.Balanced held due) (onClose : H.Closure) :
    (l.close T h onClose).2.Balanced held due := by
  refine b.tracked fun l b => ?_
  unfold closeUntracked
  split
  case h_1 => exact b
  case h_2 x found =>
    split
    case isTrue => exact b
    case isFalse unmarked =>
      have found := handle?_eq_ok found
      have counted := b.refs found
      have reads : x.isReading → x.refs ≠ 0 := fun reading => by
        simp only [Handle.ownRefs, if_pos reading] at counted
        omega
      have listens : x.listenRef → (x.refs - if x.isReading then 1 else 0) ≠ 0 :=
        fun listening => by
          simp only [Handle.ownRefs, if_pos listening] at counted
          omega
      have stopped := ((endReading_of_found T .stopped found reads).2.2 h).trans (if_pos rfl)
      have silent := ((endListening_of_found stopped listens).2.2 h).trans (if_pos rfl)
      have ended : (l.endReading T h .stopped).Balanced held due := b.endReading T (by simp)
      exact (retire (ended.endListening.ask _) silent (by simpa using unmarked)
        (by simp [Handle.ownRefs, Handle.isReading]) onClose).wake

/-- No operation upsets the balance. -/
theorem issue (b : l.Balanced held due) (o : Operation H.Closure) :
    (l.issue T o).2.Balanced held due := by
  cases o with
  | newHandle kind => exact (b.newHandle kind).ask _
  | on h event c => exact b.on event c
  | accept server client => exact b.accept server client
  | adopt h => exact b.adopt
  | bind h address => exact b.bind address
  | readStart h => exact b.readStart
  | readStop h => exact b.readStop
  | bufferWrite h offset data => exact b.bufferWrite offset data
  | keptWrite h offset data => exact b.keptWrite offset data
  | write h data callback => exact b.write data callback
  | shutdown h callback => exact b.shutdown callback
  | connect h address => exact b.connect address
  | close h onClose => exact b.close onClose
  | stop => exact b.congr rfl rfl rfl rfl
  | forgetWake => exact b.congr rfl rfl rfl rfl

end Reactor.Loop.Balanced
