import Reactor.Proofs.Closing.Parting
import Reactor.Proofs.Memory.Ticks
import Reactor.Proofs.Stream.Buffers

/-!
# What is read from a transport in memory

What a script pushes is heard by the listeners of a handle in the same order, with nothing lost and
nothing twice: at every moment it is what they have heard, followed by what the transport still
keeps. Only a close drops what is kept.
-/

namespace Reactor

/-- What a reader hears of, one after the other. -/
inductive Token where
  | byte (b : UInt8)
  | endOfStream
  | failed (status : Status)
  deriving DecidableEq, Repr

/-- The tokens of something that arrives. -/
def Incoming.tokens : Incoming → List Token
  | .data bytes => bytes.map .byte
  | .eof => [.endOfStream]
  | .failed status => [.failed status]

/-- The tokens that a read takes, when its answer is a status with these bytes. -/
def ReadStatus.tokens : ReadStatus → List UInt8 → List Token
  | .pending, _ => []
  | .data _, bytes => bytes.map .byte
  | .eof, _ => [.endOfStream]
  | .failed status, _ => [.failed status]

/-- The tokens that an event tells. -/
def Event.tokens : Event → List Token
  | .data view => view.map .byte
  | .endOfStream => [.endOfStream]
  | .error f => if f.place = "on_read" then [.failed f.status] else []
  | _ => []

namespace Memory

/-- The tokens that a script pushes for a handle. -/
def Script.tokens (h : HandleId) : Script → List Token
  | .pushData k data => if k = h then data.map .byte else []
  | .pushEof k => if k = h then [.endOfStream] else []
  | .pushReadError k status => if k = h then [.failed status] else []
  | _ => []

/-- The tokens that are kept for a handle until it reads them. -/
def unread (m : Memory) (h : HandleId) : List Token :=
  (m.endpoint h).incoming.flatMap Incoming.tokens

/-! ## Primitives -/

variable {m : Memory} {h k : HandleId}

/-- What is unread depends on what has arrived alone. -/
theorem unread_congr {m' : Memory} (same : (m'.endpoint k).incoming = (m.endpoint k).incoming) :
    m'.unread k = m.unread k := by
  rw [unread, same, unread]

/-- Changing an endpoint takes nothing of what has arrived, if the change does not. -/
theorem incoming_update {f : Endpoint → Endpoint} (same : ∀ e, (f e).incoming = e.incoming) :
    ((m.update h f).endpoint k).incoming = (m.endpoint k).incoming := by
  rw [endpoint_update]
  split
  case isTrue hk => rw [same, hk]
  case isFalse => rfl

/-- Handing over completions takes nothing of what has arrived. -/
@[simp] theorem incoming_finish {α : Type} (answer : α) (done : List Completion) (m : Memory)
    (k : HandleId) :
    ((finish answer done m).net.endpoint k).incoming = (m.endpoint k).incoming := by
  rw [endpoint_finish]

/-- Listening takes nothing of what has arrived. -/
theorem incoming_listen (backlog : Nat) :
    ((listen h backlog m).net.endpoint k).incoming = (m.endpoint k).incoming := by
  unfold listen
  split
  case h_1 => rfl
  case h_2 => exact incoming_update fun _ => rfl

/-- Accepting takes nothing of what has arrived. -/
theorem incoming_accept : ((accept h m).net.endpoint k).incoming = (m.endpoint k).incoming := by
  unfold accept
  split
  case isTrue => rfl
  case isFalse => exact incoming_update fun _ => rfl

/-- Starting or stopping to read takes nothing of what has arrived. -/
theorem incoming_setReading (reading : Bool) :
    ((setReading reading h m).net.endpoint k).incoming = (m.endpoint k).incoming :=
      incoming_update fun _ => rfl

/-- A write takes nothing of what has arrived. -/
theorem incoming_write (req : RequestId) (data : List UInt8) :
    ((write req h data m).net.endpoint k).incoming = (m.endpoint k).incoming := by
  unfold write
  split
  case h_1 => rfl
  case h_2 =>
    split
    case isTrue => exact incoming_update fun _ => rfl
    case isFalse =>
      split
      case h_1 => exact incoming_finish _ _ _ _
      case h_2 =>
        rw [incoming_finish]
        exact incoming_update fun _ => rfl

/-- A shutdown takes nothing of what has arrived. -/
theorem incoming_shutdown (req : RequestId) :
    ((shutdown req h m).net.endpoint k).incoming = (m.endpoint k).incoming := by
  unfold shutdown
  split
  case h_1 => exact incoming_finish _ _ _ _
  case h_2 =>
    split
    case isTrue =>
      rw [incoming_finish]
      exact incoming_update fun _ => rfl
    case isFalse => exact incoming_update fun _ => rfl

/-- Connecting takes nothing of what has arrived. -/
theorem incoming_connect (req : RequestId) (address : SocketAddress) :
    ((connect req h address m).net.endpoint k).incoming = (m.endpoint k).incoming := by
  unfold connect
  split
  case h_1 => exact incoming_finish _ _ _ _
  case h_2 =>
    rw [incoming_finish]
    exact incoming_update fun _ => rfl

/-- A close takes all that has arrived for its handle, and nothing else. -/
theorem incoming_close :
    ((close h m).net.endpoint k).incoming = if k = h then [] else (m.endpoint k).incoming := by
  rw [(close_eq h m).2]
  split <;> rfl

/-- What arrives on a handle is kept behind all that has arrived before. -/
theorem incoming_arrive (i : Incoming) (m : Memory) (h k : HandleId) :
    ((arrive h i m).net.endpoint k).incoming =
      (m.endpoint k).incoming ++ if h = k then [i] else [] := by
  change ((m.update h fun e => { e with incoming := e.incoming ++ [i] }).endpoint k).incoming = _
  rw [endpoint_update]
  by_cases same : h = k
  · subst same
    simp
  · simp [same, Ne.symm same]

/-- What arrives comes last, and for its handle only. -/
theorem unread_arrive (i : Incoming) (m : Memory) (h k : HandleId) :
    (arrive h i m).net.unread k = m.unread k ++ if h = k then i.tokens else [] := by
  rw [unread, incoming_arrive, List.flatMap_append, unread]
  split <;> simp

/-- A script pushes its tokens behind those that are there. -/
theorem unread_perform (s : Script) (m : Memory) (k : HandleId) :
    (perform s m).net.unread k = m.unread k ++ s.tokens k := by
  cases s with
  | pushData h data => exact unread_arrive (.data data) m h k
  | pushEof h => exact unread_arrive .eof m h k
  | pushReadError h status => exact unread_arrive (.failed status) m h k
  | pushConnection server =>
    refine (unread_congr ?_).trans (List.append_nil _).symm
    exact (incoming_finish _ _ _ _).trans (incoming_update fun _ => rfl)
  | pushConnectionError =>
    exact (unread_congr (incoming_finish _ _ _ _)).trans (List.append_nil _).symm
  | failNextListen | failNextWrite | refuseNextWrite | failNextShutdown | failNextConnect
      | holdWrites =>
    exact (List.append_nil _).symm
  | flushWrites =>
    refine Eq.trans ?_ (List.append_nil _).symm
    rw [unread, endpoint_perform_flushWrites]
    rfl

/-- A read takes its tokens from the front, and leaves the rest. -/
theorem unread_read (w : Waker) (h : HandleId) (size : Nat) (m : Memory) (k : HandleId) :
    m.unread k =
      (if h = k then (read w h size m).answer.1.tokens (read w h size m).answer.2 else []) ++
      (read w h size m).net.unread k := by
  -- The handle that is read from is left with the rest, and no other handle is touched.
  have taken (status : ReadStatus) (bytes : List UInt8) (rest : List Incoming)
      (split : m.unread h = status.tokens bytes ++ rest.flatMap Incoming.tokens) :
      m.unread k = (if h = k then status.tokens bytes else []) ++
        (m.update h ({ · with incoming := rest })).unread k := by
    rw [unread.eq_def (m.update _ _), endpoint_update]
    by_cases same : h = k
    · subst same
      simpa using split
    · simp [unread, same, Ne.symm same]
  have nothing : m.unread k = (if h = k then ReadStatus.pending.tokens [] else []) ++
      m.unread k := by
    split <;> rfl
  unfold read
  cases reading : (m.endpoint h).reading with
  | false =>
    simp only [reading, Bool.not_false, if_true]
    exact nothing
  | true =>
    simp only [reading, Bool.not_true, Bool.false_eq_true, if_false]
    cases here : (m.endpoint h).incoming with
    | nil => exact nothing
    | cons i rest =>
      cases i with
      | data bytes =>
        have left :
            (if (bytes.drop size).isEmpty then rest else .data (bytes.drop size) :: rest).flatMap
              Incoming.tokens =
              (bytes.drop size).map .byte ++ rest.flatMap Incoming.tokens := by
          split
          case isTrue none => rw [List.isEmpty_iff.1 none]; rfl
          case isFalse => rfl
        refine taken (.data (bytes.take size).length) (bytes.take size) _ ?_
        rw [left, unread, here, List.flatMap_cons, Incoming.tokens, ReadStatus.tokens,
          ← List.append_assoc, ← List.map_append, List.take_append_drop]
      | eof =>
        refine taken .eof [] rest ?_
        rw [unread, here]
        rfl
      | failed status =>
        refine taken (.failed status) [] rest ?_
        rw [unread, here]
        rfl

/-- A read of data fits in the buffer, and says how much it is. -/
theorem read_fits {w : Waker} {size n : Nat} {bytes : List UInt8}
    (data : (read w h size m).answer = (.data n, bytes)) :
    n = bytes.length ∧ n ≤ size := by
  unfold read at data
  simp only at data
  split at data
  case isTrue => cases data
  case isFalse =>
    split at data
    case h_1 | h_3 | h_4 => cases data
    case h_2 => cases data; exact ⟨rfl, List.length_take_le _ _⟩

end Memory

variable {S N C : Type} {enter : Handlers (Memory.host S N C)}

namespace Loop

variable {l l' : Loop (Memory.host S N C)} {h k : HandleId}

/-- The end of a read session takes nothing of what has arrived. -/
theorem incoming_endReading (l : Loop (Memory.host S N C)) (h : HandleId) (next : ReadState)
    (k : HandleId) :
    ((l.endReading Memory.transport h next).net.endpoint k).incoming =
      (l.net.endpoint k).incoming := by
  unfold endReading
  split
  case h_1 => rfl
  case h_2 =>
    simp only
    split
    case isTrue =>
      rw [(release_frame _ _).2.2.2.2.1]
      exact Memory.incoming_setReading false
    case isFalse => rfl

/-- An operation neither takes nor adds what is kept for a handle, unless it closes that handle and
drops all of it. -/
theorem Effect.incoming {o : Operation (Memory.host S N C).Closure} {a : o.Answer}
    (effect : Effect Memory.transport l o a l') (k : HandleId) :
    (l'.net.endpoint k).incoming = (l.net.endpoint k).incoming ∨
      (∃ c, o.closed? a = some (k, c)) ∧ (l'.net.endpoint k).incoming = [] := by
  cases effect with
  | refused | newHandle | on | refuseAdopt | adopt | markedReadStart | noBuffer | bufferWrite
    | noKept | keptWrite => exact .inl rfl
  | refuseAccept | accept => exact .inl Memory.incoming_accept
  | refuseBind | bind => exact .inl (Memory.incoming_update fun _ => rfl)
  | refuseReadStart | readStart => exact .inl (Memory.incoming_setReading true)
  | readStop => exact .inl (incoming_endReading _ _ _ _)
  | write => exact .inl (Memory.incoming_write _ _)
  | shutdown => exact .inl (Memory.incoming_shutdown _)
  | refuseConnect | connect => exact .inl (Memory.incoming_connect _ _)
  | @close h x onClose =>
    rw [net_retire, Memory.incoming_close, incoming_endReading]
    split
    case isTrue same => exact .inr ⟨⟨onClose, by rw [same]; rfl⟩, rfl⟩
    case isFalse => exact .inl rfl
  | stop same | forgetWake same => exact .inl (by rw [same.net])

/-- An operation takes nothing of what has arrived for a handle, or it closes the
handle and takes all. -/
theorem incoming_issue (l : Loop (Memory.host S N C)) (o : Operation (Memory.host S N C).Closure)
    (k : HandleId) :
    ((l.issue Memory.transport o).2.net.endpoint k).incoming = (l.net.endpoint k).incoming ∨
      (∃ c, o.closed? (l.issue Memory.transport o).1 = some (k, c)) ∧
        ((l.issue Memory.transport o).2.net.endpoint k).incoming = [] := by
  obtain ⟨l₀, l₁, before, effect, after⟩ := issues_issue Memory.transport l o
  rw [after.net, ← before.net]
  exact effect.incoming k

/-- An operation that does not close a handle leaves unread what was. -/
theorem unread_issue (l : Loop (Memory.host S N C)) (o : Operation (Memory.host S N C).Closure)
    (other : ∀ c, o.closed? (l.issue Memory.transport o).1 ≠ some (k, c)) :
    (l.issue Memory.transport o).2.net.unread k = l.net.unread k := by
  obtain same | ⟨⟨c, closed⟩, -⟩ := incoming_issue l o k
  · exact Memory.unread_congr same
  · exact (other c closed).elim

end Loop

namespace Machine

variable {x y m : Machine (Memory.host S N C)} {past : List (Machine (Memory.host S N C))}
  {h : HandleId}

/-- The tokens that the next step pushes for a handle. -/
def pushed (h : HandleId) (m : Machine (Memory.host S N C)) : List Token :=
  match m.control with
  | .run (.call (.script s) _) => Memory.Script.tokens h s
  | _ => []

/-- The tokens that are about to be told of a handle. -/
def heard (h : HandleId) (m : Machine (Memory.host S N C)) : List Token :=
  (about h m.told?).toList.flatMap Event.tokens

/-- The tokens that are kept for a handle. -/
def unread (h : HandleId) (m : Machine (Memory.host S N C)) : List Token := m.loop.net.unread h

/-- What is kept for a handle, with what is pushed, is told of it or kept further. -/
def Flows (h : HandleId) (x y : Machine (Memory.host S N C)) : Prop :=
  x.unread h ++ x.pushed h = y.heard h ++ y.unread h

/-- Where no event is told nothing is heard. -/
theorem heard_of_untold (untold : y.told? = none) : y.heard h = [] := by
  rw [heard, untold]
  rfl

/-- The tokens of an event are heard of its handle, and of no other. -/
theorem heard_of_emit {k : HandleId} {e : Event} (control : y.control = .emit k e) :
    y.heard h = if k = h then e.tokens else [] := by
  have told : y.told? = some (k, e) := by rw [told?, control]
  rw [heard, told, about_some]
  split
  case isTrue => exact List.append_nil _
  case isFalse => rfl

/-- Nothing is pushed, told or taken. -/
theorem flows_of_still (idle : x.pushed h = []) (untold : y.heard h = [])
    (same : y.unread h = x.unread h) :
    x.Flows h y := by
  rw [Flows, idle, untold, same, List.append_nil, List.nil_append]

/-- An event without tokens is told. -/
theorem flows_of_emit {k : HandleId} {e : Event} (idle : x.pushed h = [])
    (control : y.control = .emit k e) (mute : e.tokens = []) (same : y.unread h = x.unread h) :
    x.Flows h y := by
  refine flows_of_still idle ?_ same
  rw [heard_of_emit control, mute, ite_self]

/-- What a read takes is told. -/
theorem flows_of_read {w : Waker} {k : HandleId} {size : Nat} {status : ReadStatus}
    {bytes : List UInt8} (idle : x.pushed h = [])
    (read : (Memory.read w k size x.loop.net).answer = (status, bytes))
    (told : y.heard h = if k = h then status.tokens bytes else [])
    (left : y.unread h = (Memory.read w k size x.loop.net).net.unread h) : x.Flows h y := by
  have taken := Memory.unread_read w k size x.loop.net h
  rw [read] at taken
  rw [Flows, idle, told, left, List.append_nil]
  exact taken

/-- What a rule takes from what is kept for a handle it tells at once, unless
it closes the handle. -/
theorem Rule.flows (rule : Rule Memory.transport enter x y)
    (other : ∀ c, x.closed? Memory.transport ≠ some (h, c)) :
    x.Flows h y := by
  cases rule with
  | finish | ask | tick | runLoop | poll | survey | note | recallShared | update | enter | emit
    | nextListener | endEmission | beginParting | skipParting | endParting | noteResult | endListen
    | failListen | collect | firstPass | nextPass | beginReclaims | endTick | skipReport
    | dropConnection | skipRead | refuseRead | skipReclaim | breach | ticked | runFailed | endRun
    | runAgain | pollFailed | endPoll | endLoan => exact flows_of_still rfl rfl rfl
  | issue => exact flows_of_still rfl rfl (Loop.unread_issue _ _ other)
  | refuseListen begun =>
    obtain rfl | rfl := Loop.effect_of_refused_beginListen begun
    · exact flows_of_still rfl rfl rfl
    · exact flows_of_still rfl rfl (Memory.unread_congr (Memory.incoming_listen _))
  | beginListen begun =>
    obtain ⟨_, -, -, -, -, agrees⟩ := Loop.effect_of_beginListen begun
    refine flows_of_emit rfl rfl rfl ?_
    rw [unread, agrees.net]
    exact Memory.unread_congr (Memory.incoming_listen _)
  | script => exact (Memory.unread_perform _ _ _).symm
  | endDelivery | endConnect =>
    exact flows_of_still rfl rfl (by rw [unread, (Loop.release_frame _ _).2.2.2.2.1]; rfl)
  | pausePoll => exact flows_of_still rfl rfl (by rw [unread]; split <;> rfl)
  | completeWrite =>
    refine flows_of_still rfl (heard_of_untold (life_deliver _ _ _ _ _ _).2) ?_
    rw [unread, deliver_frame.1]
    rfl
  | completeShutdown =>
    refine flows_of_still rfl (heard_of_untold (life_deliver _ _ _ _ _ _).2) ?_
    rw [unread, deliver_frame.1, (settleShutdown_frame _ _ _).2.2.2.2.1]
    rfl
  | completeConnect | reclaim => exact flows_of_emit rfl rfl rfl rfl
  | failConnect => exact flows_of_emit rfl rfl (by simp [Event.tokens]) rfl
  | dropConnect =>
    exact flows_of_still rfl rfl (by rw [unread, (Loop.release_frame _ _).2.2.2.2.1]; rfl)
  | @connection l stack t stage server status =>
    refine flows_of_emit rfl rfl ?_ rfl
    cases status with
    | ok => rfl
    | error status => simp [connectionEvent, Event.tokens]
  | @readNothing l stack t passes k rest productive z status bytes l' here found reading free
      read nothing =>
    obtain ⟨answer, rfl⟩ := Prod.mk.inj read
    refine flows_of_read rfl answer ?_ rfl
    have empty : status.tokens bytes = [] := by
      obtain rfl | rfl := nothing
      · rfl
      · have length := (Memory.read_fits answer).1
        rw [List.length_eq_zero_iff.1 length.symm]
        rfl
    rw [empty, ite_self]
    rfl
  | @readData l stack t passes k rest productive z n bytes l' here found reading free read =>
    obtain ⟨answer, rfl⟩ := Prod.mk.inj read
    refine flows_of_read rfl answer ?_ rfl
    obtain ⟨rfl, fits⟩ := Memory.read_fits answer
    rw [heard_of_emit rfl, ReadBuffer.view_overwrite fits]
    rfl
  | @readEof l stack t passes k rest productive z bytes l' here found reading free read =>
    obtain ⟨answer, rfl⟩ := Prod.mk.inj read
    refine flows_of_read rfl answer (heard_of_emit (e := .endOfStream) rfl) ?_
    exact Memory.unread_congr (Loop.incoming_endReading _ _ _ _)
  | @readFailed l stack t passes k rest productive z status bytes l' here found reading free read =>
    obtain ⟨answer, rfl⟩ := Prod.mk.inj read
    refine flows_of_read rfl answer ?_ (Memory.unread_congr (Loop.incoming_endReading _ _ _ _))
    rw [heard_of_emit rfl]
    simp [Event.tokens, ReadStatus.tokens]

/-- What is kept flows on, whatever comes after a machine that does not close the handle. -/
theorem Next.flows (next : Next Memory.transport enter x y)
    (other : ∀ c, x.closed? Memory.transport ≠ some (h, c)) :
    x.Flows h y := by
  cases next with
  | step taken => exact (rule_of_step? taken).2.flows other
  | resume p rest =>
    obtain ⟨⟨failure, control⟩, -⟩ := atRest_iff.1 rest
    exact flows_of_still (by rw [pushed, control]) rfl rfl

/-- After a close nothing that was pushed is told. -/
theorem Reached.unheard (reached : Reached Memory.transport enter past m)
    {i : Machine (Memory.host S N C)} (hi : i ∈ past) {c : C}
    (closed : i.closed? Memory.transport = some (h, c)) : m.heard h = [] := by
  cases told : m.told? with
  | none => exact heard_of_untold told
  | some ke =>
    obtain ⟨k, e⟩ := ke
    have control : m.control = .emit k e := by
      unfold told? at told
      split at told
      case h_1 control => cases told; exact control
      case h_2 => cases told
    rw [heard_of_emit control]
    split
    case isTrue same =>
      subst same
      have deed : .did .close ∈ story Memory.transport k past :=
        List.mem_flatMap.2 ⟨i, hi, did_mem_signs_iff.2 (deed?_eq_close_iff.2 ⟨c, closed⟩)⟩
      rw [(reached.mayTell control).closed deed]
      rfl
    case isFalse => rfl

/-- Bytes are told as the read of the step before has brought them. -/
theorem Next.data (next : Next Memory.transport enter x y) {view : List UInt8}
    (control : y.control = .emit h (.data view)) :
    ∃ w z, x.loop.handles.get? h = some z ∧ view ≠ [] ∧
      (Memory.read w h (readBuffer x.loop z).size x.loop.net).answer =
        (.data view.length, view) := by
  cases next with
  | step taken =>
    cases (rule_of_step? taken).2 with
    | @readData l stack t passes k rest productive z n bytes l' here found reading free
        read filled =>
      obtain ⟨answer, rfl⟩ := Prod.mk.inj read
      obtain ⟨rfl, fits⟩ := Memory.read_fits answer
      cases control
      rw [ReadBuffer.view_overwrite fits]
      exact ⟨t.waker, z, found, List.ne_nil_of_length_pos (Nat.pos_of_ne_zero filled), answer⟩
    | @completeWrite _ _ _ _ _ _ _ _ _ callback => cases callback <;> cases control
    | @completeShutdown _ _ _ _ _ _ _ _ callback => cases callback <;> cases control
    | @connection _ _ _ _ _ status => cases status <;> cases control
    | _ => cases control
  | resume => cases control

/-- What listeners hear of handles on a transport in memory, up to a machine of a run. -/
structure Hears (options : Options) (past : List (Machine (Memory.host S N C)))
    (m : Machine (Memory.host S N C)) :
    Prop where
  /-- Of a handle that was not closed they have heard what was pushed for it,
  but for what is kept. -/
  whole : ∀ h, (∀ i ∈ past, ∀ c, i.closed? Memory.transport ≠ some (h, c)) →
    (past ++ [m]).flatMap (heard h) ++ m.unread h = past.flatMap (pushed h)
  /-- Of every handle they have heard what was pushed for it first. -/
  first : ∀ h, (past ++ [m]).flatMap (heard h) <+: past.flatMap (pushed h)
  /-- Bytes are told as a read of the step before has brought them, at least one and no more than
  fit in a buffer. -/
  pieces : ∀ h view, m.control = .emit h (.data view) →
    1 ≤ view.length ∧ view.length ≤ options.readBufferSize ∧ ∃ before x w, past = before ++ [x] ∧
      (Memory.read w h options.readBufferSize x.loop.net).answer = (.data view.length, view)

/-- What was pushed is told or kept, as long as the handle is not closed. -/
theorem Run.whole {options : Options} {shared : S} {p : Program (Memory.host S N C)}
    (run : Run Memory.transport enter (start p (.fresh options Memory.initial shared)) past m)
    (open_ : ∀ i ∈ past, ∀ c, i.closed? Memory.transport ≠ some (h, c)) :
    (past ++ [m]).flatMap (heard h) ++ m.unread h = past.flatMap (pushed h) := by
  induction run with
  | refl => rfl
  | @snoc past x y run next ih =>
    have before := ih fun i hi => open_ i (List.mem_append_left _ hi)
    have flows : x.Flows h y := next.flows (open_ x (by simp))
    calc (past ++ [x] ++ [y]).flatMap (heard h) ++ y.unread h
      _ = (past ++ [x]).flatMap (heard h) ++ (y.heard h ++ y.unread h) := by simp
      _ = (past ++ [x]).flatMap (heard h) ++ (x.unread h ++ x.pushed h) := by rw [flows]
      _ = past.flatMap (pushed h) ++ x.pushed h := by rw [← List.append_assoc, before]
      _ = (past ++ [x]).flatMap (pushed h) := by simp

/-- What was told was pushed, in the same order. -/
theorem Run.first {options : Options} {shared : S} {p : Program (Memory.host S N C)}
    (run : Run Memory.transport enter (start p (.fresh options Memory.initial shared)) past m)
    (h : HandleId) :
    (past ++ [m]).flatMap (heard h) <+: past.flatMap (pushed h) := by
  induction run with
  | refl => exact List.prefix_rfl
  | @snoc past x y run next ih =>
    have run := run.snoc next
    by_cases closed : ∃ i ∈ past ++ [x], ∃ c, i.closed? Memory.transport = some (h, c)
    case pos =>
      obtain ⟨i, hi, c, closed⟩ := closed
      have unheard : y.heard h = [] :=
        Reached.unheard ⟨options, Memory.initial, shared, p, run⟩ hi closed
      have same : (past ++ [x] ++ [y]).flatMap (heard h) = (past ++ [x]).flatMap (heard h) := by
        simp [unheard]
      have more : past.flatMap (pushed h) <+: (past ++ [x]).flatMap (pushed h) := by simp
      rw [same]
      exact ih.trans more
    case neg =>
      have open_ : ∀ i ∈ past ++ [x],
          ∀ c, i.closed? Memory.transport ≠ some (h, c) := fun i hi c is =>
        closed ⟨i, hi, c, is⟩
      exact ⟨y.unread h, run.whole open_⟩

end Machine

open Machine

/-- Reading loses nothing, repeats nothing and keeps the order: along every run on a transport in
memory, with any handlers and any script. -/
theorem reading_is_faithful {options : Options} {shared : S} {p : Program (Memory.host S N C)}
    {past : List (Machine (Memory.host S N C))} {m : Machine (Memory.host S N C)}
    (run : Run Memory.transport enter (start p (.fresh options Memory.initial shared)) past m) :
    Hears options past m := by
  constructor
  case whole => intro h open_; exact run.whole open_
  case first => intro h; exact run.first h
  case pieces =>
    intro h view control
    cases run with
    | refl => cases control
    | @snoc before x _ first next =>
      obtain ⟨w, z, found, some, answer⟩ := next.data control
      rw [first.sized.readBuffer found] at answer
      exact ⟨List.length_pos_iff.2 some, (Memory.read_fits answer).2, before, x, w, rfl, answer⟩

/-- When a client is told the bytes of its second session, it has heard all that was pushed. -/
theorem reading_is_faithful_for_client :
    ∃ past, Run Memory.transport (Echo.handlers _ _)
      (start Client.rereading (.fresh .standard Memory.initial ())) past
        (Client.reread 41) ∧ (Client.reread 41).control = .emit 0 (.data [3]) ∧
      (past ++ [Client.reread 41]).flatMap (heard 0) = past.flatMap (pushed 0) := by
  obtain ⟨past, run, behind⟩ := Run.exists_of_run Memory.transport (Echo.handlers _ _)
    (start Client.rereading (.fresh .standard Memory.initial ())) 41
  have unclosed : (List.range 41).all (fun k =>
      ((Client.reread k).closed? Memory.transport).isNone) = true := by rfl
  have nothing : (Client.reread 41).unread 0 = [] := by rfl
  have whole := (reading_is_faithful (m := Client.reread 41) run).whole 0 fun i hi c closed => by
    obtain ⟨k, less, rfl⟩ := behind i hi
    have open_ :=
      Option.isNone_iff_eq_none.1 (List.all_eq_true.1 unclosed k (List.mem_range.2 less))
    exact Option.some_ne_none _ (closed.symm.trans open_)
  rw [nothing, List.append_nil] at whole
  exact ⟨past, run, by rfl, whole⟩

end Reactor
