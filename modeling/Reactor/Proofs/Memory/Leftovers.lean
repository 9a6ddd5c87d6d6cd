import Reactor.Proofs.Memory

/-!
# What is left of a closed handle in memory

A close cancels what an endpoint holds back, and no operation gets to the endpoint of a handle that
is marked. So a closed endpoint holds nothing back for good. What is due are refusals, each of which
names its request.
-/

namespace Reactor

namespace Memory

variable {m m' : Memory} {h : HandleId}

/-- No endpoint that is closed holds anything back. -/
def Vacant (m : Memory) : Prop :=
  ∀ k, (m.endpoint k).closed = true → ∀ req, (m.endpoint k).holds req = 0

namespace Vacant

/-- Closed endpoints hold nothing back where all hold back the same as before. -/
theorem like (v : m.Vacant) (like : ∀ k, (m.endpoint k).Like (m'.endpoint k)) : m'.Vacant := by
  intro k closed req
  rw [Endpoint.holds_congr (like k).held (like k).heldShutdown]
  exact v k ((like k).closed.symm.trans closed) req

/-- Only one endpoint changes, and it is not closed. -/
theorem change (v : m.Vacant) (elsewhere : ∀ k, k ≠ h → m'.endpoint k = m.endpoint k)
    (unclosed : (m'.endpoint h).closed = false) : m'.Vacant := by
  intro k closed req
  by_cases here : k = h
  · rw [here, unclosed] at closed
    cases closed
  · rw [elsewhere k here] at closed ⊢
    exact v k closed req

/-- A write on an open endpoint leaves nothing behind on closed ones. -/
theorem write (v : m.Vacant) (unclosed : (m.endpoint h).closed = false) (req : RequestId)
    (data : List UInt8) :
    (Memory.write req h data m).net.Vacant := by
  obtain ⟨_, -, -, same⟩ | ⟨-, -, elsewhere, here⟩ | ⟨_, -, -, like⟩ := write_cases req h data m
  · exact v.change (fun k _ => same k) (by rw [same, unclosed])
  · exact v.change elsewhere (by rw [here, unclosed])
  · exact v.like like

/-- A shutdown on an open endpoint leaves nothing behind on closed ones. -/
theorem shutdown (v : m.Vacant) (unclosed : (m.endpoint h).closed = false) (req : RequestId) :
    (Memory.shutdown req h m).net.Vacant := by
  obtain ⟨-, elsewhere, ⟨_, -, here⟩ | ⟨-, here⟩ | ⟨-, here⟩⟩ := shutdown_cases req h m
  · exact v.change elsewhere (by rw [here, unclosed])
  · exact v.change elsewhere (by rw [here, unclosed])
  · exact v.change elsewhere (by rw [here, unclosed])

/-- Starting or stopping to read leaves nothing behind on closed endpoints. -/
theorem setReading (v : m.Vacant) (reading : Bool) :
    (Memory.setReading reading h m).net.Vacant := by
  intro k closed req
  rw [Memory.setReading, quiet_net, endpoint_update] at closed ⊢
  split
  case isTrue here =>
    rw [if_pos here] at closed
    exact v h closed req
  case isFalse other =>
    rw [if_neg other] at closed
    exact v k closed req

/-- An endpoint is closed, and what it held back is gone. -/
theorem close (v : m.Vacant) : (Memory.close h m).net.Vacant := by
  intro k closed req
  rw [(close_eq h m).2 k] at closed ⊢
  split
  case isTrue => rfl
  case isFalse other =>
    rw [if_neg other] at closed
    exact v k closed req

/-- Nothing that the far side does leaves anything behind on closed endpoints. -/
theorem perform (v : m.Vacant) (s : Script) : (Memory.perform s m).net.Vacant := by
  obtain ⟨-, -, flushed⟩ | ⟨_, -, -, like⟩ := perform_cases s m
  · intro k _ req
    rw [flushed]
    exact holds_flush _ req
  · exact v.like like

end Vacant

end Memory

variable {S N C : Type} {enter : Handlers (Memory.host S N C)}

namespace Loop

variable {l l' : Loop (Memory.host S N C)} {h : HandleId}

/-- A closed endpoint holds nothing back, and every result that is due names a request. -/
def Tidy (l : Loop (Memory.host S N C)) : Prop :=
  l.net.Vacant ∧ ∀ d ∈ l.deferred, d.report?.isSome = true

/-- The endpoint of a handle that is not marked is not closed. -/
theorem Coupled.unclosed {queued : List Completion} {x : Handle C} (c : l.Coupled queued)
    (found : l.handles.get? h = some x) (unmarked : x.closing = false) :
    (l.net.endpoint h).closed = false := by
  apply Bool.eq_false_iff.2
  intro closed
  have marked := ((c.mirrors h).closed.1 closed).2 x found
  rw [unmarked] at marked
  cases marked

/-- A refusal names its request. -/
theorem report?_refusalOf {completion : Outcome → Completion} {outcome : Outcome} {d : Completion}
    (reports : ∀ outcome, (completion outcome).report?.isSome = true)
    (hd : d ∈ (refusalOf completion outcome).toList) :
    d.report?.isSome = true := by
  cases outcome with
  | ok => cases hd
  | error status =>
    obtain rfl := List.mem_singleton.1 hd
    exact reports _

namespace Tidy

/-- A loop is as tidy as another with the same transport and the same results. -/
theorem keep (tidy : l.Tidy) (net : l'.net = l.net) (deferred : l'.deferred = l.deferred) :
    l'.Tidy := by
  unfold Tidy
  rw [net, deferred]
  exact tidy

/-- Giving a reference back leaves a loop tidy. -/
theorem release (tidy : l.Tidy) : (l.release h).Tidy := tidy.keep (by simp) (by simp)

/-- The end of a read session leaves a loop tidy. -/
theorem endReading (tidy : l.Tidy) (next : ReadState) :
    (l.endReading Memory.transport h next).Tidy := by
  unfold Loop.endReading
  split
  case h_1 => exact tidy
  case h_2 =>
    simp only
    split
    case isTrue =>
      have stopped :
          ((l.modifyHandle h ({ · with read := next })).ask (Memory.transport.readStop h)).2.Tidy :=
        ⟨tidy.1.setReading false, tidy.2⟩
      exact stopped.release
    case isFalse => exact tidy

end Tidy

/-- No operation leaves anything behind a closed handle. -/
theorem Effect.tidy {o : Operation (Memory.host S N C).Closure} {a : o.Answer}
    {queued : List Completion} (effect : Effect Memory.transport l o a l') (c : l.Coupled queued)
    (tidy : l.Tidy) : l'.Tidy := by
  have due {completion : Outcome → Completion} {outcome : Outcome}
      (reports : ∀ outcome, (completion outcome).report?.isSome = true) (d : Completion)
      (hd : d ∈ l.deferred ++ (refusalOf completion outcome).toList) : d.report?.isSome = true := by
    rcases List.mem_append.1 hd with hd | hd
    · exact tidy.2 d hd
    · exact report?_refusalOf reports hd
  cases effect with
  | refused | newHandle | on | refuseAdopt | adopt | markedReadStart | noBuffer | bufferWrite
    | noKept | keptWrite => exact tidy
  | refuseAccept | accept => exact ⟨tidy.1.like (Memory.accept_like _ _).2, tidy.2⟩
  | refuseBind | bind =>
    exact ⟨tidy.1.like (Memory.like_update fun _ => ⟨rfl, rfl, rfl, rfl, rfl⟩), tidy.2⟩
  | refuseReadStart | readStart => exact ⟨tidy.1.setReading true, tidy.2⟩
  | readStop => exact tidy.endReading _
  | write found _ unmarked => exact ⟨tidy.1.write (c.unclosed found unmarked) _ _, due fun _ => rfl⟩
  | shutdown found _ unmarked =>
    exact ⟨tidy.1.shutdown (c.unclosed found unmarked) _, due fun _ => rfl⟩
  | @refuseConnect h x address =>
    obtain ⟨_, -, -, like⟩ := Memory.connect_cases l.requests.next h address l.net
    exact ⟨tidy.1.like like, tidy.2⟩
  | @connect h x address =>
    obtain ⟨_, -, -, like⟩ := Memory.connect_cases l.requests.next h address l.net
    exact ⟨tidy.1.like like, fun d hd => tidy.2 d (by simpa using hd)⟩
  | @close h x onClose =>
    refine ⟨?_, fun d hd => tidy.2 d (by simpa using hd)⟩
    rw [net_retire]
    exact (tidy.endReading _).1.close
  | stop same | forgetWake same => exact tidy.keep same.net same.deferred

/-- Every operation leaves a loop tidy. -/
theorem Tidy.issue {batches : List Completion} (tidy : l.Tidy) (c : l.Coupled (l.underway batches))
    (o : Operation C) :
    (l.issue Memory.transport o).2.Tidy := by
  obtain ⟨l₀, l₁, before, effect, after⟩ := issues_issue Memory.transport l o
  have tidied := effect.tidy (c.agrees before) (tidy.keep before.net before.deferred)
  exact tidied.keep after.net after.deferred

end Loop

namespace Machine

variable {x y m : Machine (Memory.host S N C)} {past : List (Machine (Memory.host S N C))}

/-- Each rule leaves nothing behind a closed handle. -/
theorem Rule.tidy (rule : Rule Memory.transport enter x y) (c : x.Coupled) (tidy : x.loop.Tidy) :
    y.loop.Tidy := by
  have delivered {l : Loop (Memory.host S N C)} {stack : List (Frame (Memory.host S N C))}
      {req : RequestId} {h : HandleId} {callback : Callback C} {outcome : RequestOutcome}
        (tidy : l.Tidy) : (deliver l stack req h callback outcome).loop.Tidy := by
    cases callback with
    | closure => exact tidy
    | promise => exact tidy.keep (by simp [deliver]) (by simp [deliver])
  cases rule with
  | finish | ask | survey | note | recallShared | update | enter | emit | nextListener | endEmission
    | beginParting | skipParting | endParting | endLoan | endListen | failListen | noteResult
    | ticked | runFailed | pollFailed | endRun | endPoll | collect | firstPass | nextPass
    | beginReclaims | endTick | skipReport | completeConnect | failConnect | connection
    | dropConnection | skipRead | refuseRead | skipReclaim | breach | reclaim => exact tidy
  | tick | runLoop | poll | runAgain => exact ⟨tidy.1, fun d hd => by cases hd⟩
  | issue => exact tidy.issue c _
  | refuseListen begun =>
    obtain rfl | rfl := Loop.effect_of_refused_beginListen begun
    · exact tidy
    · exact ⟨tidy.1.like (Memory.listen_like _ _ _).2, tidy.2⟩
  | beginListen begun =>
    obtain ⟨_, -, -, -, -, agrees⟩ := Loop.effect_of_beginListen begun
    refine Loop.Tidy.keep ?_ agrees.net agrees.deferred
    exact ⟨tidy.1.like (Memory.listen_like _ _ _).2, tidy.2⟩
  | script => exact ⟨tidy.1.perform _, tidy.2⟩
  | endDelivery | endConnect => exact tidy.release
  | dropConnect => exact Loop.Tidy.release tidy
  | pausePoll =>
    split
    case isTrue => exact tidy
    case isFalse => exact tidy
  | completeWrite => exact delivered tidy
  | completeShutdown => exact delivered (tidy.keep (by simp) (by simp))
  | readNothing _ _ _ _ read | readData _ _ _ _ read =>
    obtain rfl := congrArg Prod.snd read
    exact ⟨tidy.1.like (Memory.read_like _ _ _ _).2, tidy.2⟩
  | readEof _ _ _ _ read | readFailed _ _ _ _ read =>
    obtain rfl := congrArg Prod.snd read
    refine Loop.Tidy.endReading ?_ _
    exact ⟨tidy.1.like (Memory.read_like _ _ _ _).2, tidy.2⟩

/-- Along every run nothing is left behind a closed handle. -/
theorem tidy_of_run {options : Options} {shared : S} {p : Program (Memory.host S N C)}
    (run : Run Memory.transport enter (start p (.fresh options Memory.initial shared)) past m) :
    m.loop.Tidy := by
  induction run with
  | refl =>
    refine ⟨fun k closed => ?_, fun d hd => by cases hd⟩
    cases closed
  | snoc first next ih =>
    cases next with
    | step taken => exact (rule_of_step? taken).2.tidy (.of_run first) ih
    | resume => exact ih

end Machine

end Reactor
