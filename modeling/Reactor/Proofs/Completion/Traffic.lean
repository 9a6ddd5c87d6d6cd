import Reactor.Proofs.Loop.Effects
import Reactor.Proofs.Machine.Run

/-!
# The traffic of requests

What each step does to the requests: it issues one, takes the completion of one, drops a
report that names none, or leaves them alone. Whoever asks for the life of a request needs no
more of a step than this.
-/

namespace Reactor

variable {H : Host} {T : Transport H.Net H.Script} {enter : Handlers H}

/-- Who is told of a request's outcome; the outcome of a connect is told to listeners. -/
def Request.callback? {κ : Type} : Request κ → Option (Callback κ)
  | .write _ _ callback | .shutdown _ callback => some callback
  | .connect _ => none

/-- The place that a failure of a request names. -/
def Request.place {κ : Type} : Request κ → String
  | .write .. => "after_write"
  | .shutdown .. => "after_shutdown"
  | .connect _ => "after_connect"

/-- The request that an operation with an answer has issued, under its number. -/
def Operation.issued? {κ : Type} : (o : Operation κ) → o.Answer → Option (RequestId × Request κ)
  | .write h data callback, a => (Except.toOption a).map (·, .write h data callback)
  | .shutdown h callback, a => (Except.toOption a).map (·, .shutdown h callback)
  | .connect h _, a => (Except.toOption a).map (·, .connect h)
  | _, _ => none

/-- An operation that was refused has issued nothing. -/
theorem Operation.issued?_of_failure? {κ : Type} {o : Operation κ} {a : o.Answer} {e : LoopError}
    (failed : o.failure? a = some e) : o.issued? a = none := by
  cases o <;> cases a <;> first | rfl | cases failed

/-- The entering of a request's callback. -/
structure Delivery (κ : Type) where
  req : RequestId
  handle : HandleId
  closure : κ
  outcome : RequestOutcome

namespace Machine

/-- The request that the next step issues, if it issues one. -/
def issued? (T : Transport H.Net H.Script) (m : Machine H) :
    Option (RequestId × Request H.Closure) :=
  match m.control with
  | .run (.call (.issue o) _) => o.issued? (m.loop.issue T o).1
  | _ => none

/-- The request that the next step's completion names, with its outcome, if the
step takes a completion. -/
def reported? (m : Machine H) : Option (RequestId × Outcome) :=
  match m.control, m.stack with
  | .advance, .tick t :: _ => t.stage.pop?.bind fun (c, _) => c.report?
  | _, _ => none

/-- The callback that is about to be entered, if it is one of a request. -/
def delivered? (m : Machine H) : Option (Delivery H.Closure) :=
  match m.control, m.stack with
  | .enter c (.completed h outcome), .delivering req _ :: _ => some ⟨req, h, c, outcome⟩
  | _, _ => none

/-- The second machine differs from the first in a report that the tick has left behind. -/
def Drops (x y : Machine H) : Prop :=
  ∃ t c stage rest, x.stack = .tick t :: rest ∧ t.stage.pop? = some (c, stage) ∧
    y = { loop := x.loop, stack := .tick { t with stage } :: rest, control := .advance }

/-- What a step does to the requests and to those who wait for them. -/
inductive Traffic (T : Transport H.Net H.Script) (x y : Machine H) : Prop where
  | quiet (issued : x.issued? T = none) (reported : x.reported? = none)
    (requests : y.loop.requests = x.loop.requests) (settled : y.loop.settled = x.loop.settled)
    (untold : y.delivered? = none)
  | issue {r} (issued : x.issued? T = some (x.loop.requests.next, r))
    (reported : x.reported? = none) (requests : y.loop.requests = x.loop.requests.add r)
    (settled : y.loop.settled = x.loop.settled) (untold : y.delivered? = none)
  | skip {req status} (issued : x.issued? T = none) (reported : x.reported? = some (req, status))
    (gone : x.loop.requests.get? req = none) (drops : x.Drops y)
  | tell {req status r c} (issued : x.issued? T = none)
    (reported : x.reported? = some (req, status)) (pending : x.loop.requests.get? req = some r)
    (callback : r.callback? = some (.closure c))
    (requests : y.loop.requests = x.loop.requests.remove req)
    (settled : y.loop.settled = x.loop.settled)
    (told : y.delivered? = some ⟨req, r.handle, c, outcomeAt r.place status⟩)
  | settle {req status r} (issued : x.issued? T = none)
    (reported : x.reported? = some (req, status)) (pending : x.loop.requests.get? req = some r)
    (callback : r.callback? = some .promise)
    (requests : y.loop.requests = x.loop.requests.remove req)
    (settled : y.loop.settled = (req, outcomeAt r.place status) :: x.loop.settled)
    (untold : y.delivered? = none)
  | connected {req status r} (issued : x.issued? T = none)
    (reported : x.reported? = some (req, status)) (pending : x.loop.requests.get? req = some r)
    (callback : r.callback? = none) (requests : y.loop.requests = x.loop.requests.remove req)
    (settled : y.loop.settled = x.loop.settled) (untold : y.delivered? = none)

end Machine

/-! ## The traffic of operations -/

namespace Loop

variable {l l' : Loop H}

/-- An operation either issues a request under the next number or leaves the requests alone. -/
theorem Effect.requests {o : Operation H.Closure} {a : o.Answer} (effect : Effect T l o a l') :
    (o.issued? a = none ∧ l'.requests = l.requests ∨
      ∃ r, o.issued? a = some (l.requests.next, r) ∧ l'.requests = l.requests.add r) ∧
    l'.settled = l.settled := by
  cases effect with
  | refused failed => exact ⟨.inl ⟨Operation.issued?_of_failure? failed, rfl⟩, rfl⟩
  | newHandle => exact ⟨.inl ⟨rfl, rfl⟩, rfl⟩
  | on | refuseAccept | accept | refuseAdopt | adopt | refuseBind | bind | markedReadStart
    | refuseReadStart | readStart | noBuffer | bufferWrite | noKept | keptWrite | refuseConnect =>
    exact ⟨.inl ⟨rfl, rfl⟩, rfl⟩
  | readStop => exact ⟨.inl ⟨rfl, by simp⟩, by simp⟩
  | @write h x data callback => exact ⟨.inr ⟨.write h data callback, rfl, rfl⟩, rfl⟩
  | @shutdown h x callback => exact ⟨.inr ⟨.shutdown h callback, rfl, rfl⟩, rfl⟩
  | @connect h x address => exact ⟨.inr ⟨.connect h, rfl, rfl⟩, rfl⟩
  | close => exact ⟨.inl ⟨rfl, by simp⟩, by simp⟩
  | stop same => exact ⟨.inl ⟨rfl, same.requests⟩, same.settled⟩
  | forgetWake same => exact ⟨.inl ⟨rfl, same.requests⟩, same.settled⟩

/-- A request was handed to the transport under its number. If the transport refused it, a
completion that says so is due. -/
def Hands (T : Transport H.Net H.Script) (l : Loop H) (req : RequestId) :
    Request H.Closure → Loop H → Prop
  | .write h data _, l' =>
    l'.net = (T.write req h data l.net).net ∧
      l'.deferred = l.deferred ++ (refusalOf (.write req) (T.write req h data l.net).answer).toList
  | .shutdown h _, l' =>
    l'.net = (T.shutdown req h l.net).net ∧
      l'.deferred = l.deferred ++ (refusalOf (.shutdown req) (T.shutdown req h l.net).answer).toList
  | .connect h, l' =>
    ∃ address, l'.net = (T.connect req h address l.net).net ∧
      (T.connect req h address l.net).answer = .ok () ∧ l'.deferred = l.deferred

/-- What an operation issues it has handed to the transport under the number that it answers. -/
theorem Effect.hands {o : Operation H.Closure} {a : o.Answer} (effect : Effect T l o a l')
    {req : RequestId} {r : Request H.Closure} (issued : o.issued? a = some (req, r)) :
    l.Hands T req r l' := by
  cases effect with
  | refused failed =>
    rw [Operation.issued?_of_failure? failed] at issued
    cases issued
  | write => cases issued; exact ⟨rfl, rfl⟩
  | shutdown => cases issued; exact ⟨rfl, rfl⟩
  | connect _ _ _ asked => cases issued; exact ⟨_, rfl, asked, by simp⟩
  | _ => cases issued

/-- A request that an operation issues was handed to the transport under its number. -/
theorem hands_issue (T : Transport H.Net H.Script) (l : Loop H) (o : Operation H.Closure)
    {req : RequestId} {r : Request H.Closure} (issued : o.issued? (l.issue T o).1 = some (req, r)) :
    l.Hands T req r (l.issue T o).2 := by
  obtain ⟨l₀, l₁, before, effect, after⟩ := issues_issue T l o
  have handed := effect.hands issued
  cases r <;> simpa only [Hands, before.net, before.deferred, after.net, after.deferred]
    using handed

/-- An operation issues one request under the next number or none, and settles no future. -/
theorem requests_issue (T : Transport H.Net H.Script) (l : Loop H) (o : Operation H.Closure) :
    (o.issued? (l.issue T o).1 = none ∧ (l.issue T o).2.requests = l.requests ∨
      ∃ r, o.issued? (l.issue T o).1 = some (l.requests.next, r) ∧
        (l.issue T o).2.requests = l.requests.add r) ∧
    (l.issue T o).2.settled = l.settled := by
  obtain ⟨l₀, l₁, before, effect, after⟩ := issues_issue T l o
  have moved := effect.requests
  rwa [before.requests, before.settled, ← after.requests, ← after.settled] at moved

end Loop

/-! ## The traffic of steps -/

namespace Machine

/-- The completion of a request with a callback enters the callback or settles the future. -/
theorem traffic_of_deliver {x : Machine H} {l : Loop H} {stack : List (Frame H)} {req : RequestId}
    {r : Request H.Closure} {callback : Callback H.Closure} {status : Outcome}
    (issued : x.issued? T = none) (reported : x.reported? = some (req, status))
    (pending : x.loop.requests.get? req = some r) (hears : r.callback? = some callback)
    (requests : l.requests = x.loop.requests.remove req) (settled : l.settled = x.loop.settled) :
    Traffic T x (deliver l stack req r.handle callback (outcomeAt r.place status)) := by
  cases callback with
  | closure c => exact .tell issued reported pending hears requests settled rfl
  | promise =>
    refine .settle issued reported pending hears ?_ ?_ rfl
    · simpa [deliver] using requests
    · simpa [deliver] using settled

/-- A completion that a tick is to take next is the one that is reported. -/
theorem reported?_of_pop? {l : Loop H} {t : Tick} {rest : List (Frame H)} {c : Completion}
    {stage : Stage} (here : t.stage.pop? = some (c, stage)) :
    reported? ⟨l, .tick t :: rest, .advance⟩ = c.report? := by
  simp [reported?, here]

/-- Each rule has one of the effects on the requests. -/
theorem traffic_of_rule {x y : Machine H} (rule : Rule T enter x y) : Traffic T x y := by
  cases rule with
  | finish | ask | tick | runLoop | poll | script | survey | note | recallShared | update | enter
    | emit | nextListener | endEmission | endLoan | beginParting | skipParting | endParting
    | noteResult | endListen | failListen | ticked | runFailed | endRun | runAgain | pollFailed
    | endPoll => exact .quiet rfl rfl rfl rfl rfl
  | @issue l stack o next =>
    obtain ⟨⟨none, same⟩ | ⟨r, some, added⟩, settled⟩ := Loop.requests_issue T l o
    · exact .quiet none rfl same settled rfl
    · exact .issue some rfl added settled rfl
  | refuseListen begun =>
    obtain rfl | rfl := Loop.effect_of_refused_beginListen begun
    · exact .quiet rfl rfl rfl rfl rfl
    · exact .quiet rfl rfl rfl rfl rfl
  | beginListen begun =>
    obtain ⟨x, -, -, -, -, same⟩ := Loop.effect_of_beginListen begun
    exact .quiet rfl rfl same.requests same.settled rfl
  | endDelivery | endConnect => exact .quiet rfl rfl (by simp) (by simp) rfl
  | pausePoll => exact .quiet rfl rfl (by split <;> rfl) (by split <;> rfl) rfl
  | collect here | firstPass here | nextPass here | beginReclaims here | endTick here
    | skipRead here | refuseRead here | skipReclaim here | breach here | reclaim here =>
    exact .quiet rfl (by simp [reported?, here, Stage.pop?]) rfl rfl rfl
  | skipReport here report gone =>
    exact .skip rfl ((reported?_of_pop? here).trans report) gone ⟨_, _, _, _, rfl, here, rfl⟩
  | @completeWrite l stack t c stage req status h data callback here report pending =>
    exact traffic_of_deliver rfl ((reported?_of_pop? here).trans report) pending rfl rfl rfl
  | @completeShutdown l stack t c stage req status h callback here report pending =>
    exact traffic_of_deliver rfl ((reported?_of_pop? here).trans report) pending rfl
      (by simp) (by simp)
  | completeConnect here report pending | failConnect here report pending =>
    exact .connected rfl ((reported?_of_pop? here).trans report) pending rfl rfl rfl rfl
  | dropConnect here report pending =>
    exact .connected rfl ((reported?_of_pop? here).trans report) pending rfl (by simp) (by simp) rfl
  | connection here | dropConnection here => exact .quiet rfl (reported?_of_pop? here) rfl rfl rfl
  | readNothing here found reading free read | readData here found reading free read =>
    obtain rfl := congrArg Prod.snd read
    exact .quiet rfl (by simp [reported?, here, Stage.pop?]) rfl rfl rfl
  | readEof here found reading free read | readFailed here found reading free read =>
    obtain rfl := congrArg Prod.snd read
    exact .quiet rfl (by simp [reported?, here, Stage.pop?]) (by simp) (by simp) rfl

/-- What comes after a machine has one of the effects on the requests. -/
theorem traffic_of_next {x y : Machine H} (next : Next T enter x y) : Traffic T x y := by
  cases next with
  | step taken => exact traffic_of_rule (rule_of_step? taken).2
  | resume p rest =>
    obtain ⟨⟨failure, control⟩, stack⟩ := atRest_iff.1 rest
    exact .quiet (by simp [issued?, control]) (by simp [reported?, control]) rfl rfl rfl

end Machine

end Reactor
