import Reactor.Proofs.Closing.Refusals
import Reactor.Proofs.Completion

/-!
# Turns in the life of handles

Seen from its handles, a step closes one, reclaims one, goes on from the listeners of one that is
gone to its last callback, ends its parting, or is ordinary. Ordinary steps leave alone the
suspended work that belongs to the end of a handle.
-/

namespace Reactor

variable {H : Host} {T : Transport H.Net H.Script} {enter : Handlers H}

/-- The handle whose end a frame belongs to. -/
def Frame.ending? : Frame H → Option HandleId
  | .reclaiming h _ | .parting h _ => some h
  | _ => none

/-- The frame that tells the end of a handle belongs to that end. -/
@[simp] theorem Frame.ending?_reclaiming (h : HandleId) (onClose : Option H.Closure) :
    (Frame.reclaiming h onClose).ending? = some h := rfl

/-- The frame of a last callback belongs to the end of its handle. -/
@[simp] theorem Frame.ending?_parting (h : HandleId) (failure : Option ListenerError) :
    (Frame.parting (H := H) h failure).ending? = some h := rfl

/-- A tick belongs to the end of no handle. -/
@[simp] theorem Frame.ending?_tick (t : Tick) : (Frame.tick (H := H) t).ending? = none := rfl

namespace Machine

/-- The handle that the next step closes, with its last callback, if the step closes one. -/
def closed? (T : Transport H.Net H.Script) (m : Machine H) : Option (HandleId × H.Closure) :=
  match m.control with
  | .run (.call (.issue o) _) => o.closed? (m.loop.issue T o).1
  | _ => none

/-- The handle whose last callback is about to be entered, with the callback. -/
def parting? (m : Machine H) : Option (HandleId × H.Closure) :=
  match m.control with
  | .enter c (.closed h) => some (h, c)
  | _ => none

/-- What a step means for the handles and for the work at their ends. -/
inductive Turn (T : Transport H.Net H.Script) (x y : Machine H) : Prop where
  | ordinary (dropped pushed rest : List (Frame H)) (closed : x.closed? T = none)
    (before : x.stack = dropped ++ rest) (after : y.stack = pushed ++ rest)
    (drops : dropped.all (·.ending?.isNone) = true) (pushes : pushed.all (·.ending?.isNone) = true)
    (ages : x.loop.Ages y.loop) (parting : y.parting? = none)
  | close {h c} (closed : x.closed? T = some (h, c)) (stack : y.stack = x.stack)
    (closes : x.loop.Closes h c y.loop) (parting : y.parting? = none)
  | reclaim {h z t batch rest} (closed : x.closed? T = none) (before : x.stack = .tick t :: rest)
    (found : x.loop.handles.get? h = some z) (marked : z.closing = true)
    (after : y.stack = .reclaiming h z.onClose :: .tick { t with stage := .reclaims batch } :: rest)
    (control : y.control = .emit h .close) (handles : y.loop.handles = x.loop.handles.remove h)
    (requests : y.loop.requests = x.loop.requests) (listeners : y.loop.listeners = x.loop.listeners)
  | part {h onClose failure rest} (closed : x.closed? T = none)
    (before : x.stack = .reclaiming h onClose :: rest)
    (after : y.stack = .parting h failure :: rest) (loop : y.loop = x.loop)
    (parting : y.parting? = onClose.map (h, ·))
  | endParting {h failure rest} (closed : x.closed? T = none)
    (before : x.stack = .parting h failure :: rest) (after : y.stack = rest)
    (loop : y.loop = x.loop.removeListeners h) (parting : y.parting? = none)

/-- Whether a step that drops some frames and pushes others closes no handle and leaves alone the
work at the ends of handles, as far as the two machines show. -/
def plain (T : Transport H.Net H.Script) (x y : Machine H) (dropped pushed : List (Frame H)) :
    Bool :=
  (x.closed? T).isNone && y.parting?.isNone && dropped.all (·.ending?.isNone) &&
    pushed.all (·.ending?.isNone)

/-- A step that swaps ordinary work for ordinary work, while the loop only
ages, is an ordinary turn. -/
theorem Turn.of_plain {x y : Machine H} (dropped pushed rest : List (Frame H))
    (before : x.stack = dropped ++ rest) (after : y.stack = pushed ++ rest)
    (shown : plain T x y dropped pushed = true) (ages : x.loop.Ages y.loop) :
    Turn T x y := by
  simp only [plain, Bool.and_eq_true, Option.isNone_iff_eq_none] at shown
  obtain ⟨⟨⟨closed, parting⟩, drops⟩, pushes⟩ := shown
  exact .ordinary dropped pushed rest closed before after drops pushes ages parting

/-- A delivery is ordinary: a frame is pushed on what was there, or nothing is. -/
theorem turn_of_deliver {x : Machine H} {l : Loop H} (dropped pushed : List (Frame H))
    {rest : List (Frame H)} {req : RequestId} {h : HandleId} {callback : Callback H.Closure}
    {outcome : RequestOutcome} (closed : x.closed? T = none) (before : x.stack = dropped ++ rest)
    (drops : dropped.all (·.ending?.isNone) = true) (pushes : pushed.all (·.ending?.isNone) = true)
    (ages : x.loop.Ages l) :
    Turn T x (deliver l (pushed ++ rest) req h callback outcome) := by
  cases callback with
  | closure c =>
    exact .ordinary dropped (.delivering req h :: pushed) rest closed before rfl drops
      pushes ages rfl
  | promise =>
    have settled : x.loop.Ages { l with settled := (req, outcome) :: l.settled } :=
      ages.unseen rfl rfl rfl
    exact .ordinary dropped pushed rest closed before rfl drops pushes settled.release rfl

/-- Each rule takes one of the turns. -/
theorem turn_of_rule {x y : Machine H} (b : x.Balanced) (rule : Rule T enter x y) : Turn T x y := by
  have same := Loop.Ages.refl x.loop
  cases rule with
  | @finish l stack | @ask l stack | @script l stack | @survey l stack | @note l stack
    | @recallShared l stack | @update l stack | @enter l stack =>
    exact .of_plain [] [] stack rfl rfl rfl (same.unseen rfl rfl rfl)
  | @issue l stack o next =>
    obtain ⟨none, ages⟩ | ⟨h, c, some, closes⟩ := Loop.ages_issue T b o
    · exact .ordinary [] [] stack none rfl rfl rfl rfl ages rfl
    · exact .close some rfl closes rfl
  | @refuseListen l stack h backlog c next e l' begun =>
    obtain rfl | rfl := Loop.effect_of_refused_beginListen begun
    · exact .of_plain [] [] stack rfl rfl rfl ((same.meter _ _ _).meter _ _ _)
    · exact .of_plain [] [] stack rfl rfl rfl (((same.meter _ _ _).ask _).meter _ _ _)
  | @beginListen l stack h backlog c next l' begun =>
    obtain ⟨z, found, idle, unmarked, -, agrees⟩ := Loop.effect_of_beginListen begun
    have taken :=
      ((same.meter h .listen .dispatched).ask
        (T.listen h (backlog.getD l.options.defaultBacklog))).retain
          found unmarked
    have listens :=
      taken.modifyHandle (h := h) (f := ({ · with listenRef := true, state := .listening }))
        fun _ _ => ⟨rfl, fun marked => ⟨marked, Nat.le_refl _⟩⟩
    have there := listens.stays h (by rw [show l.handles.get? h = some z from found]; rfl)
    exact .of_plain [] [.listening h next] stack rfl rfl rfl
      ((listens.addListener there .connection c).agrees agrees)
  | @tick l stack w next =>
    exact .of_plain [] [.tick _, .ticking next] stack rfl rfl rfl (same.unseen rfl rfl rfl)
  | @runLoop l stack mode next =>
    exact .of_plain [] [.tick _, .running mode next] stack rfl rfl rfl (same.unseen rfl rfl rfl)
  | @poll l stack w next =>
    exact .of_plain [] [.tick _, .polling w next] stack rfl rfl rfl (same.unseen rfl rfl rfl)
  | @emit l stack h e => exact .of_plain [] [.emission h e _] stack rfl rfl rfl same
  | @nextListener l stack h e c rest =>
    exact .of_plain [.emission h e (c :: rest)] [.emission h e rest] stack rfl rfl rfl same
  | @endEmission l stack h e rest => exact .of_plain [.emission h e rest] [] stack rfl rfl rfl same
  | @endDelivery l stack req h =>
    exact .of_plain [.delivering req h] [] stack rfl rfl rfl same.release
  | @endConnect l stack req h =>
    exact .of_plain [.connecting req h] [] stack rfl rfl rfl same.release
  | @endLoan l stack h view =>
    exact .of_plain [.lending h view] [] stack rfl rfl rfl (same.expose false)
  | beginParting | skipParting => exact .part rfl rfl rfl rfl rfl
  | endParting => exact .endParting rfl rfl rfl rfl rfl
  | @noteResult l stack t failure => exact .of_plain [.tick t] [.tick _] stack rfl rfl rfl same
  | @endListen l stack h next | @failListen l stack h next =>
    exact .of_plain [.listening h next] [] stack rfl rfl rfl (same.meter _ _ _)
  | @collect l rest t => exact .of_plain [.tick t] [.tick _] rest rfl rfl rfl (same.ask _)
  | @firstPass l rest t | @nextPass l rest t =>
    exact .of_plain [.tick t] [.tick _] rest rfl rfl rfl same
  | @beginReclaims l rest t =>
    exact .of_plain [.tick t] [.tick _] rest rfl rfl rfl (same.unseen rfl rfl rfl)
  | @endTick l rest t => exact .of_plain [.tick t] [] rest rfl rfl rfl same
  | @skipReport l rest t | @dropConnection l rest t | @skipRead l rest t | @refuseRead l rest t
    | @skipReclaim l rest t => exact .of_plain [.tick t] [.tick _] rest rfl rfl rfl same
  | @completeWrite l rest t _ stage _ _ _ _ _ _ _ pending =>
    exact turn_of_deliver [.tick t] [.tick _] rfl rfl rfl rfl
      ((same.leave pending).meterAsync _ _ _)
  | @completeShutdown l rest t _ stage _ _ _ _ _ _ pending =>
    exact turn_of_deliver [.tick t] [.tick _] rfl rfl rfl rfl
      (((same.leave pending).meterAsync _ _ _).settleShutdown _)
  | @completeConnect l rest t c stage req h _ _ pending =>
    exact .of_plain [.tick t] [.connecting req h, .tick _] rest rfl rfl rfl
      (((same.leave pending).meterAsync _ _ _).setState _)
  | @failConnect l rest t c stage req status h _ _ pending =>
    exact .of_plain [.tick t] [.connecting req h, .tick _] rest rfl rfl rfl
      (((same.leave pending).meterAsync _ _ _).setState _)
  | @dropConnect l rest t c stage req status h _ _ pending =>
    exact .of_plain [.tick t] [.tick _] rest rfl rfl rfl
      ((same.leave pending).meterAsync _ _ _).release
  | @connection l rest t =>
    exact .of_plain [.tick t] [.tick _] rest rfl rfl rfl (same.meterAsync _ _ _)
  | @readNothing l rest t _ _ _ _ _ _ _ _ _ _ _ _ read =>
    obtain rfl := congrArg Prod.snd read
    exact .of_plain [.tick t] [.tick _] rest rfl rfl rfl ((same.ask _).fillBuffer _ _)
  | @readData l rest t passes h _ _ _ _ _ _ _ _ _ _ read =>
    obtain rfl := congrArg Prod.snd read
    exact .of_plain [.tick t] [.lending h _, .tick _] rest rfl rfl rfl
      ((((same.ask _).fillBuffer _ _).meterAsync _ _ _).expose _)
  | @readEof l rest t _ _ _ _ _ _ _ _ _ _ _ read =>
    obtain rfl := congrArg Prod.snd read
    exact .of_plain [.tick t] [.tick _] rest rfl rfl rfl
      (((same.ask _).fillBuffer _ _).endReading T _)
  | @readFailed l rest t _ _ _ _ _ _ _ _ _ _ _ _ read =>
    obtain rfl := congrArg Prod.snd read
    exact .of_plain [.tick t] [.tick _] rest rfl rfl rfl
      ((((same.ask _).fillBuffer _ _).meterAsync _ _ _).endReading T _)
  | @breach l rest t =>
    exact .of_plain [.tick t] [.tick _] rest rfl rfl rfl (same.unseen rfl rfl rfl)
  | reclaim here found closing => exact .reclaim rfl rfl found closing rfl rfl rfl rfl rfl
  | @ticked l rest next => exact .of_plain [.ticking next] [] rest rfl rfl rfl same
  | @runFailed l rest mode next => exact .of_plain [.running mode next] [] rest rfl rfl rfl same
  | @pollFailed l rest w next => exact .of_plain [.polling w next] [] rest rfl rfl rfl same
  | @endRun l rest mode next =>
    exact .of_plain [.running mode next] [] rest rfl rfl rfl (same.unseen rfl rfl rfl)
  | @runAgain l rest mode next =>
    exact .of_plain [.running mode next] [.tick _,
      .running mode next] rest rfl rfl rfl (same.unseen rfl rfl rfl)
  | @endPoll l rest w next =>
    exact .of_plain [.polling w next] [] rest rfl rfl rfl (same.unseen rfl rfl rfl)
  | @pausePoll l rest w next worked =>
    refine .of_plain [.polling w next] [] rest rfl rfl rfl ?_
    split <;> exact same.unseen rfl rfl rfl

/-- What comes after a machine that counts its references is a turn of it. -/
theorem turn_of_next {x y : Machine H} (b : x.Balanced) (next : Next T enter x y) : Turn T x y := by
  cases next with
  | step taken => exact turn_of_rule b (rule_of_step? taken).2
  | resume p rest =>
    obtain ⟨⟨failure, control⟩, stack⟩ := atRest_iff.1 rest
    exact .ordinary [] [] [] (by simp [closed?, control]) stack rfl rfl rfl (.refl _) rfl

end Machine

end Reactor
