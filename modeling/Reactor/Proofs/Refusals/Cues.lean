import Reactor.Proofs.Closing
import Reactor.Proofs.Refusals.Untouched

/-!
# Who is entered was given to a call that was not refused

A closure is given to a call together with what it waits for: an event of a handle, the completion
of a request, or the end of a handle. It is kept from there on in one place or another until it is
entered, and a refused call puts nothing into any of these places.
-/

namespace Reactor

variable {H : Host} {T : Transport H.Net H.Script} {enter : Handlers H}

/-- What a closure waits for. -/
inductive Cue where
  | event (h : HandleId) (name : EventName)
  /-- The completion of a request of a handle. -/
  | completed (h : HandleId)
  | closed (h : HandleId)
  deriving DecidableEq, Repr

/-- What an occasion was waited for as. -/
def Occasion.cue : Occasion → Cue
  | .event h e => .event h e.name
  | .completed h _ => .completed h
  | .closed h => .closed h

/-- The closure that an operation is given, with what it is to wait for. -/
def Operation.given? {κ : Type} : Operation κ → Option (Cue × κ)
  | .on h event c => some (.event h event, c)
  | .write h _ (.closure c) | .shutdown h (.closure c) => some (.completed h, c)
  | .close h c => some (.closed h, c)
  | _ => none

/-- The closure that a call is given, with what it is to wait for. -/
def Call.given? : Call H → Option (Cue × H.Closure)
  | .issue o => o.given?
  | .listen h _ c => some (.event h .connection, c)
  | _ => none

/-- A listener with what it waits for. -/
def Listener.attending {κ : Type} (x : Listener κ) : Cue × κ := (.event x.handle x.event, x.closure)

/-- The listeners that suspended work is still to tell of an event. -/
def Frame.audience : Frame H → List (Cue × H.Closure)
  | .emission h e rest => rest.map (.event h e.name, ·)
  | _ => []

/-- The listener that is told of an event next. -/
def Control.audience : Control H → List (Cue × H.Closure)
  | .enter c (.event h e) => [(.event h e.name, c)]
  | _ => []

/-- A request that was issued was given its callback. -/
theorem Operation.given?_of_issued? {κ : Type} {o : Operation κ} {a : o.Answer} {req : RequestId}
    {r : Request κ} {c : κ} (issued : o.issued? a = some (req, r))
    (callback : r.callback? = some (.closure c)) :
    o.given? = some (.completed r.handle, c) ∧ o.failure? a = none := by
  cases o with
  | write | shutdown | connect =>
    cases a with
    | error => cases issued
    | ok =>
      cases issued
      cases callback <;> exact ⟨rfl, rfl⟩
  | _ => cases issued

/-- A handle that was closed was given its last callback. -/
theorem Operation.given?_of_closed? {κ : Type} {o : Operation κ} {a : o.Answer}
    {h : HandleId} {c : κ} (closed : o.closed? a = some (h, c)) :
    o.given? = some (.closed h, c) ∧ o.failure? a = none := by
  cases o with
  | close =>
    cases a with
    | error => cases closed
    | ok =>
      cases closed
      exact ⟨rfl, rfl⟩
  | _ => cases closed

namespace Loop

variable {l l' : Loop H} {z : Listener H.Closure}

/-- A listener that an operation adds was given to it. -/
theorem Effect.listeners {o : Operation H.Closure} {a : o.Answer} (effect : Effect T l o a l')
    (there : z ∈ l'.listeners) :
    z ∈ l.listeners ∨ o.given? = some z.attending ∧ o.failure? a = none := by
  cases effect with
  | @on h event c =>
    obtain there | there := List.mem_append.1 there
    · exact .inl there
    · rw [List.mem_singleton.1 there]
      exact .inr ⟨rfl, rfl⟩
  | stop same | forgetWake same => exact .inl (by rwa [same.listeners] at there)
  | readStop | close => exact .inl (by simpa using there)
  | _ => exact .inl there

/-- Who is told of an event is registered for it. -/
theorem attending_of_mem_listenersOf {h : HandleId} {name : EventName} {c : H.Closure}
    (there : c ∈ l.listenersOf h name) :
    (Cue.event h name, c) ∈ l.listeners.map Listener.attending := by
  obtain ⟨z, hz, here⟩ := List.mem_filterMap.1 there
  split at here
  case isTrue same =>
    cases here
    exact List.mem_map.2 ⟨z, hz, by rw [Listener.attending, same.1, same.2]⟩
  case isFalse => cases here

/-- A listener after an operation was there before, or was given by it, and then the
operation was not refused. -/
theorem listeners_issue {o : Operation H.Closure} (there : z ∈ (l.issue T o).2.listeners) :
    z ∈ l.listeners ∨ o.given? = some z.attending ∧ o.failure? (l.issue T o).1 = none := by
  obtain ⟨l₀, l₁, before, effect, after⟩ := issues_issue T l o
  rw [after.listeners] at there
  rw [← before.listeners]
  exact effect.listeners there

end Loop

namespace Machine

variable {x y m : Machine H} {past : List (Machine H)} {g : Cue × H.Closure} {c : H.Closure}

/-- The closure that the next step takes on, with what it waits for: the one given to a
call that is not refused. -/
def granted? (T : Transport H.Net H.Script) (m : Machine H) : Option (Cue × H.Closure) :=
  match m.control with
  | .run (.call c _) => if (m.refusal? T).isNone then c.given? else none
  | _ => none

/-- Who waits for an event: the listeners, and those of them that an event was told to already. -/
def audience (m : Machine H) : List (Cue × H.Closure) :=
  m.loop.listeners.map Listener.attending ++ m.stack.flatMap Frame.audience ++ m.control.audience

/-- Those who wait for an event are the listeners, those whom suspended work is still to tell, and
the one who is told next. -/
theorem mem_audience : g ∈ m.audience ↔
    (∃ z ∈ m.loop.listeners, z.attending = g) ∨ (∃ f ∈ m.stack, g ∈ f.audience) ∨
      g ∈ m.control.audience := by
  simp only [audience, List.mem_append, List.mem_map, List.mem_flatMap, or_assoc]

/-- Whoever waits for an event is as before where the listeners are. -/
theorem mem_audience_of_listeners {l l' : Loop H} {stack : List (Frame H)} {control : Control H}
    (there : g ∈ (⟨l', stack, control⟩ : Machine H).audience) (same : l'.listeners = l.listeners) :
    g ∈ (⟨l, stack, control⟩ : Machine H).audience := by
  rwa [audience, same] at there

/-- A delivery is to nobody who waits for an event. -/
theorem mem_audience_of_deliver {l : Loop H} {stack : List (Frame H)} {req : RequestId}
    {h : HandleId} {callback : Callback H.Closure} {outcome : RequestOutcome}
    (there : g ∈ (deliver l stack req h callback outcome).audience) :
    g ∈ (⟨l, stack, .advance⟩ : Machine H).audience := by
  cases callback with
  | closure => exact there
  | promise => exact mem_audience_of_listeners there (Loop.release_frame _ _).2.2.2.1

/-- Whoever waits for an event after a step waited for it before, or was given to the
call that the step took. -/
theorem Rule.audience (rule : Rule T enter x y) (there : g ∈ y.audience) :
    g ∈ x.audience ∨ x.granted? T = some g := by
  cases rule with
  | @issue l stack o next =>
    simp only [Machine.audience, List.mem_append, List.mem_map] at there ⊢
    obtain (⟨z, hz, rfl⟩ | there) | there := there
    · obtain hz | ⟨given, accepted⟩ := Loop.listeners_issue hz
      · exact .inl (.inl (.inl ⟨z, hz, rfl⟩))
      · refine .inr (Eq.trans (if_pos ?_) given)
        simp [refusal?, accepted]
    · exact .inl (.inl (.inr there))
    · exact .inl (.inr there)
  | @beginListen l stack h backlog c next l' begun =>
    have accepted :
        ((⟨l, stack, .run (.call (.listen h backlog c) next)⟩ : Machine H).refusal? T).isNone =
          true := by
      simp [refusal?, begun, errorOf]
    obtain ⟨-, -, -, -, -, agrees⟩ := Loop.effect_of_beginListen begun
    simp only [Machine.audience, List.mem_append, List.mem_map, agrees.listeners] at there ⊢
    obtain (⟨z, hz, rfl⟩ | there) | there := there
    · obtain hz | hz := List.mem_append.1 hz
      · exact .inl (.inl (.inl ⟨z, hz, rfl⟩))
      · rw [List.mem_singleton.1 hz]
        exact .inr (if_pos accepted)
    · exact .inl (.inl (.inr there))
    · cases there
  | refuseListen begun =>
    obtain rfl | rfl := Loop.effect_of_refused_beginListen begun
    · exact .inl there
    · exact .inl there
  | enter =>
    simp only [Machine.audience, List.mem_append] at there ⊢
    exact .inl (.inl (there.resolve_right List.not_mem_nil))
  | emit =>
    simp only [Machine.audience, List.flatMap_cons, Frame.audience, List.mem_append,
      List.mem_map] at there ⊢
    obtain (there | ⟨c, hc, rfl⟩ | there) | there := there
    · exact .inl (.inl (.inl there))
    · exact .inl (.inl (.inl (List.mem_map.1 (Loop.attending_of_mem_listenersOf hc))))
    · exact .inl (.inl (.inr there))
    · cases there
  | nextListener =>
    simp only [Machine.audience, List.flatMap_cons, Frame.audience, Control.audience, List.map_cons,
      List.mem_append, List.mem_cons, List.not_mem_nil, or_false] at there ⊢
    obtain (there | there | there) | there := there
    · exact .inl (.inl there)
    · exact .inl (.inr (.inl (.inr there)))
    · exact .inl (.inr (.inr there))
    · exact .inl (.inr (.inl (.inl there)))
  | endEmission =>
    simp only [Machine.audience, List.flatMap_cons, List.mem_append] at there ⊢
    obtain (there | there) | there := there
    · exact .inl (.inl (.inl there))
    · exact .inl (.inl (.inr (.inr there)))
    · cases there
  | endParting =>
    simp only [Machine.audience, List.mem_append, List.mem_map] at there ⊢
    obtain (⟨z, hz, rfl⟩ | there) | there := there
    · exact .inl (.inl (.inl ⟨z, (List.mem_filter.1 hz).1, rfl⟩))
    · exact .inl (.inl (.inr there))
    · cases there
  | endDelivery | endConnect =>
    exact .inl (mem_audience_of_listeners there (Loop.release_frame _ _).2.2.2.1)
  | completeWrite =>
    have there := mem_audience_of_deliver there
    exact .inl there
  | completeShutdown =>
    have there :=
      mem_audience_of_listeners (mem_audience_of_deliver there) (settleShutdown_frame _ _ _).2.2.2.1
    exact .inl there
  | dropConnect =>
    have there := mem_audience_of_listeners there (Loop.release_frame _ _).2.2.2.1
    exact .inl there
  | readNothing _ _ _ _ read | readData _ _ _ _ read =>
    obtain rfl := congrArg Prod.snd read
    exact .inl there
  | readEof _ _ _ _ read | readFailed _ _ _ _ read =>
    obtain rfl := congrArg Prod.snd read
    have there := mem_audience_of_listeners there (Loop.endReading_frame T _ _ _).2.2.2.1
    exact .inl there
  | pausePoll =>
    refine .inl (mem_audience_of_listeners there ?_)
    split <;> rfl
  | _ => exact .inl there

/-- Whoever waits for an event was given to a call that was not refused. -/
theorem Reached.audience (reached : Reached T enter past m) (there : g ∈ m.audience) :
    ∃ i ∈ past, i.granted? T = some g := by
  refine reached.history (P := fun past m =>
    g ∈ m.audience → ∃ i ∈ past, i.granted? T = some g) ?_ ?_ there
  · intro options net shared p there
    cases there
  · intro past x y _ ih next there
    have earlier (there : g ∈ x.audience) : ∃ i ∈ past ++ [x], i.granted? T = some g := by
      obtain ⟨i, hi, granted⟩ := ih there
      exact ⟨i, List.mem_append_left _ hi, granted⟩
    cases next with
    | step taken =>
      obtain there | granted := (rule_of_step? taken).2.audience there
      · exact earlier there
      · exact ⟨x, by simp, granted⟩
    | resume p rest =>
      obtain there | ⟨f, hf, -⟩ | there := mem_audience.1 there
      · exact earlier (mem_audience.2 (.inl there))
      · cases hf
      · cases there

/-- The call that issued a request took on the request's callback. -/
theorem granted?_of_issued? {req : RequestId} {r : Request H.Closure}
    (issued : m.issued? T = some (req, r)) (callback : r.callback? = some (.closure c)) :
    m.granted? T = some (.completed r.handle, c) := by
  unfold issued? at issued
  split at issued
  case h_1 o next control =>
    obtain ⟨given, accepted⟩ := Operation.given?_of_issued? issued callback
    simp only [granted?, refusal?, control, accepted, Option.map_none, Option.isNone_none, if_true]
    exact given
  case h_2 => cases issued

/-- The call that closed a handle took on the handle's last callback. -/
theorem granted?_of_closed? {h : HandleId} (closed : m.closed? T = some (h, c)) :
    m.granted? T = some (.closed h, c) := by
  unfold closed? at closed
  split at closed
  case h_1 o next control =>
    obtain ⟨given, accepted⟩ := Operation.given?_of_closed? closed
    simp only [granted?, refusal?, control, accepted, Option.map_none, Option.isNone_none, if_true]
    exact given
  case h_2 => cases closed

/-- Whoever is entered was given, for what it is entered on, to a call that was not refused. -/
theorem Reached.granted (reached : Reached T enter past m) {o : Occasion}
    (entered : m.control = .enter c o) :
    ∃ i ∈ past, i.granted? T = some (o.cue, c) := by
  cases o with
  | event h e =>
    exact reached.audience
      (mem_audience.2 (.inr (.inr (by simp [entered, Control.audience, Occasion.cue]))))
  | completed h outcome =>
    obtain ⟨⟨req, told⟩, -⟩ := reached.completed entered
    obtain ⟨before, x, rfl, first, next⟩ := reached.previous entered
    obtain ⟨r, waiting, callback, rfl⟩ := (traffic_of_next next).delivered told
    obtain ⟨i, hi, issued⟩ := first.issued waiting
    exact ⟨i, List.mem_append_left _ hi, granted?_of_issued? issued callback⟩
  | closed h =>
    obtain ⟨i, hi, closed⟩ := (reached.parts entered).closed
    exact ⟨i, hi, granted?_of_closed? closed⟩

end Machine

end Reactor
