import Reactor.Proofs.Forgiving
import Reactor.Proofs.Machine.Observers
import Reactor.Proofs.Refusals.Untouched

/-!
# What a call of `listen` leaves behind

The transport may refuse to listen, and then the handle is idle as before. Once it has listened the
handle does, too, with one more reference and one more listener for connections, and only then do
those who listen for that hear of it. So the error of one of them comes too late: the call returns
it, but the handle listens.
-/

namespace Reactor

variable {H : Host} {T : Transport H.Net H.Script} {enter : Handlers H}

namespace Loop

variable {l l' l'' : Loop H} {h : HandleId} {x : Handle H.Closure} {c : H.Closure}

/-- A handle has come to listen: it has one more reference, there is one more listener for its
connections, and the other handles are as they were. -/
structure Listens (l : Loop H) (h : HandleId) (c : H.Closure) (l' : Loop H) : Prop where
  handle : ∃ x x', l.handles.get? h = some x ∧ l'.handles.get? h = some x' ∧ x'.state = .listening ∧
    x'.refs = x.refs + 1
  listeners : ∀ k event, l'.listenersOf k event =
    l.listenersOf k event ++ if k = h ∧ event = .connection then [c] else []
  others : ∀ k, k ≠ h → l'.handles.get? k = l.handles.get? k

/-- A handle is idle with as many references as before, and it can be made to listen. -/
structure Spares (T : Transport H.Net H.Script) (l : Loop H) (h : HandleId) (l' : Loop H) :
    Prop where
  untouched : l.Untouched T l'
  handle : ∃ x x', l.handles.get? h = some x ∧ l'.handles.get? h = some x' ∧ x'.state = .idle ∧
    x'.refs = x.refs
  again : ∀ backlog c op state, (l'.beginListen T h backlog c).1 ≠ .error (.invalidState op state)

/-- An idle handle is never refused for its state. -/
theorem beginListen_of_idle (found : l.handles.get? h = some x) (idle : x.state = .idle)
    (backlog : Option Nat) (c : H.Closure) {e : LoopError}
    (refused : (l.beginListen T h backlog c).1 = .error e) :
    (∃ status, e = .listen status) ∨ e = .closing h ∧ x.closing = true := by
  unfold beginListen at refused
  simp only [handle?, found, idle, ne_eq, not_true_eq_false, if_false] at refused
  split at refused
  case h_1 status _ _ => exact .inl ⟨status, (Except.error.inj refused).symm⟩
  case h_2 asked =>
    obtain rfl := congrArg Prod.snd asked
    split at refused
    case h_1 e' failed =>
      obtain rfl := Except.error.inj refused
      exact .inr (acquire_eq_error (l := (l.ask _).2) found failed)
    case h_2 => cases refused

/-- A handle that listens is refused for its state. -/
theorem beginListen_of_listens (listens : l.Listens h c l') (backlog : Option Nat)
    (c' : H.Closure) :
    (l'.beginListen T h backlog c').1 = .error (.invalidState "listen" .listening) := by
  obtain ⟨-, x', -, found, state, -⟩ := listens.handle
  simp [beginListen, handle?, found, state]

/-- A new listener comes last among those of its event, and among no others. -/
theorem listenersOf_addListener (l : Loop H) (h : HandleId) (event : EventName) (c : H.Closure)
    (k : HandleId) (name : EventName) :
    (l.addListener h event c).listenersOf k name =
      l.listenersOf k name ++ if k = h ∧ name = event then [c] else [] := by
  simp only [listenersOf, addListener, List.filterMap_append, List.filterMap_cons,
    List.filterMap_nil]
  by_cases same : k = h ∧ name = event
  · obtain ⟨rfl, rfl⟩ := same
    simp
  · rw [if_neg same, if_neg fun both => same ⟨both.1.symm, both.2.symm⟩]

/-- A call of `listen` that got as far as telling its listeners has made its handle listen. -/
theorem listens_of_beginListen {backlog : Option Nat}
    (begun : l.beginListen T h backlog c = (.ok (), l')) : l.Listens h c l' := by
  obtain ⟨x, found, -, -, -, agrees⟩ := effect_of_beginListen begun
  have listeners (k : HandleId) (event : EventName) :=
    listenersOf_addListener l h .connection c k event
  have same : l'.listeners = (l.addListener h .connection c).listeners := agrees.listeners
  refine ⟨⟨x, { x.retain with listenRef := true, state := .listening }, found, ?_, rfl, rfl⟩,
    fun k event => ?_, fun k other => ?_⟩
  case refine_1 =>
    rw [agrees.handles]
    simp [get?_modifyHandle, found]
  case refine_2 =>
    rw [← listeners, listenersOf, listenersOf, same]
  case refine_3 =>
    rw [agrees.handles]
    simp [get?_modifyHandle, Ne.symm other]

/-- A loop that agrees with one that has come to listen has come to listen. -/
theorem Listens.agrees (listens : l.Listens h c l') (same : l''.Agrees l') : l.Listens h c l'' where
  handle := by
    rw [same.handles]
    exact listens.handle
  listeners k event := by
    rw [listenersOf, same.listeners]
    exact listens.listeners k event
  others k other := by
    rw [same.handles]
    exact listens.others k other

/-- What a refused call has left alone can be tried again. -/
theorem Untouched.spares (untouched : l.Untouched T l') (found : l.handles.get? h = some x)
    (idle : x.state = .idle) :
    l.Spares T h l' := by
  have same := untouched.handles h
  rw [found, Option.map_some] at same
  obtain ⟨x', found', same⟩ := Option.map_eq_some_iff.1 same
  have state : x'.state = x.state := (congrArg Handle.state same :)
  have refs : x'.refs = x.refs := (congrArg Handle.refs same :)
  have state := state.trans idle
  refine ⟨untouched, ⟨x, x', found, found', state, refs⟩, fun backlog c op other refused => ?_⟩
  obtain ⟨status, mismatch⟩ | ⟨mismatch, -⟩ := beginListen_of_idle found' state backlog c refused
  · cases mismatch
  · cases mismatch

end Loop

namespace Machine

variable {l : Loop H} {stack : List (Frame H)} {h : HandleId} {c : H.Closure}
  {past : List (Machine H)} {x : Handle H.Closure} {backlog : Option Nat}
  {next : Except LoopError Unit → Program H} {ends : Option ListenerError → Prop}

/-- The outcome of a call of `listen` on an idle handle, after which these listeners' results are
possible. The call succeeds or is refused, and then all or nothing was done; or all was done, and it
fails for a listener. -/
inductive Concludes (T : Transport H.Net H.Script) (ends : Option ListenerError → Prop) (l : Loop H)
    (h : HandleId) (c : H.Closure) : Except LoopError Unit → Loop H → Prop where
  | listens {l'} (all : l.Listens h c l') : Concludes T ends l h c (.ok ()) l'
  | refused {status l'} (nothing : l.Spares T h l') :
      Concludes T ends l h c (.error (.listen status)) l'
  | failed {cause l'} (listener : ends (some cause)) (all : l.Listens h c l') :
    Concludes T ends l h c (.error (.listener cause)) l'

/-- A call of `listen` on an idle handle whose listeners only observe returns. -/
theorem Reached.listen_concludes
    (reached : Reached T enter past ⟨l, stack, .run (.call (.listen h backlog c) next)⟩)
    (found : l.handles.get? h = some x) (idle : x.state = .idle)
    (observe : ∀ d ∈ l.listenersOf h .listening, (enter d (.event h .listening)).Observes ends) :
    ∃ a l', Concludes T ends l h c a l' ∧
      ∃ news, Tells T enter ⟨l, stack, .run (.call (.listen h backlog c) next)⟩ news ⟨l', stack,
        .run (next a)⟩ := by
  have b := Balanced.of_reached reached
  rcases begun : (l.meter h .listen .dispatched).beginListen T h backlog c with ⟨e | ⟨⟩, l₁⟩
  case error =>
    have rule : Rule T enter ⟨l, stack, .run (.call (.listen h backlog c) next)⟩ _ :=
      .refuseListen begun
    obtain ⟨untouched, -⟩ :=
      rule.untouched b (e := e) (p := next (.error e)) (by simp [refusal?, begun, errorOf])
    have spares := untouched.spares found idle
    obtain ⟨status, rfl⟩ | ⟨rfl, marked⟩ :=
      Loop.beginListen_of_idle (l := l.meter h .listen .dispatched) found idle backlog c
        (congrArg Prod.fst begun)
    · exact ⟨_, _, .refused spares, _, .of_rule rule b⟩
    · rw [Loop.Balanced.unmarked b found (by simp [idle])] at marked
      cases marked
  case ok =>
    have rule : Rule T enter ⟨l, stack, .run (.call (.listen h backlog c) next)⟩ _ :=
      .beginListen begun
    have begins := Loop.listens_of_beginListen begun
    have listens : l.Listens h c l₁ := ⟨begins.handle, begins.listeners, begins.others⟩
    have after := b.rule rule
    have heard (d : H.Closure) (hd : d ∈ l₁.listenersOf h .listening) :
        (enter d (.event h .listening)).Observes ends :=
      observe d (by rw [listens.listeners] at hd; simpa using hd)
    obtain ⟨failure, l₂, ⟨beside, ended⟩, told⟩ := tells_observers (e := .listening) heard after
    have listens := listens.agrees beside.agrees
    have way := (Tells.of_rule rule b).trans told
    cases failure with
    | none =>
      have way := way.trans (.of_rule .endListen (way.balanced b))
      exact ⟨_, _, .listens (listens.agrees ((Loop.Agrees.refl _).meter _ _ _)), _, way⟩
    | some cause =>
      have failed : ends (some cause) := ended.resolve_left (by simp)
      exact ⟨_, _, .failed failed (listens.agrees ((Loop.Agrees.refl _).meter _ _ _)), _,
        way.trans (.of_rule .failListen (way.balanced b))⟩

end Machine

open Machine

/-- A call of `listen` on an idle handle whose listeners for it only observe returns, whatever the
transport answers. If it returns an error of the transport, the handle is idle as before and can be
made to listen; if it succeeds, the handle listens, with one reference and one listener more. With
the error of a listener it returns only when a listener fails, and then it has done what it does
when it succeeds, so that to try again is refused. -/
theorem listen_does_all_or_nothing_or_hears_too_late {l : Loop H} {stack : List (Frame H)}
    {h : HandleId} {c : H.Closure} {past : List (Machine H)} {x : Handle H.Closure}
    {backlog : Option Nat} {next : Except LoopError Unit → Program H}
    {ends : Option ListenerError → Prop}
    (reached : Reached T enter past ⟨l, stack, .run (.call (.listen h backlog c) next)⟩)
    (found : l.handles.get? h = some x) (idle : x.state = .idle)
    (observe : ∀ d ∈ l.listenersOf h .listening, (enter d (.event h .listening)).Observes ends) :
    ∃ way a l', Steps T enter ⟨l, stack, .run (.call (.listen h backlog c) next)⟩ way ⟨l', stack,
      .run (next a)⟩ ∧
      (a = .ok () → l.Listens h c l') ∧
      (∀ e, a = .error e → (∀ cause, e ≠ .listener cause) → l.Spares T h l') ∧
      (∀ cause, a = .error (.listener cause) → ends (some cause) ∧ l.Listens h c l' ∧
        ∀ backlog' c', (l'.beginListen T h backlog' c').1 =
          .error (.invalidState "listen" .listening)) := by
  obtain ⟨a, l', concludes, news, way, steps, -⟩ := reached.listen_concludes found idle observe
  refine ⟨way, a, l', steps, ?_⟩
  cases concludes with
  | listens all => exact ⟨fun _ => all, by simp, by simp⟩
  | refused nothing => exact ⟨by simp, fun _ _ _ => nothing, by simp⟩
  | @failed cause _ listener all =>
    refine ⟨by simp, fun e failed other => (other cause (Except.error.inj failed).symm).elim,
      fun cause' failed => ?_⟩
    obtain rfl := LoopError.listener.inj (Except.error.inj failed)
    exact ⟨listener, all, Loop.beginListen_of_listens all⟩

/-! ## Clients that listen -/

namespace Client

open Memory (Script)

/-- A client with a listener, which fails or not, for the start of its listening. It hands on the
error of `listen`. -/
def announcing (fails : Bool) : Program (Memory.host Unit Empty Bool) :=
  .call (.issue (.newHandle .tcp)) fun (h : HandleId) =>
  .call (.issue (.on h .listening fails)) fun _ =>
  .call (.listen h none false) <| .orRefuse fun () => .skip

/-- The client so many steps after its start; it calls `listen` after two. -/
def announced (fails : Bool) (steps : Nat) : Machine (Memory.host Unit Empty Bool) :=
  (start (announcing fails) (.fresh .standard Memory.initial ())).run Memory.transport
    careless steps

/-- The state and the references of the handle of a client, and the number of its
listeners for connections. -/
def standing (l : Loop (Memory.host Unit Empty Bool)) : Option (StreamState × Nat) × Nat :=
  ((l.handles.get? 0).map fun x => (x.state, x.refs), (l.listenersOf 0 .connection).length)

/-- Handlers of which one fails only observe. -/
theorem observes_careless (fails : Bool) (o : Occasion) :
    (careless fails o).Observes (fun failure => failure.isSome = fails) := by
  cases fails <;> exact .done rfl

end Client

/-- A client whose listener succeeds comes to listen. -/
theorem listen_does_all_or_nothing_or_hears_too_late_for_client :
    ∃ past l, Reached Memory.transport Client.careless past
        ⟨l, [], .run (.call (.listen 0 none false) (.orRefuse fun () => .skip))⟩ ∧
          Client.standing l = (some (.idle, 0), 0) ∧
      ∃ way a l', Steps Memory.transport Client.careless
          ⟨l, [], .run (.call (.listen 0 none false) (.orRefuse fun () => .skip))⟩ way
          ⟨l', [], .run (Program.orRefuse (fun () => .skip) a)⟩ ∧
        (a = .ok () → l.Listens 0 false l') ∧ ∀ cause, a ≠ .error (.listener cause) := by
  obtain ⟨past, run, -⟩ := Run.exists_of_run Memory.transport Client.careless
    (start (Client.announcing false) (.fresh .standard Memory.initial ())) 2
  have found : ((Client.announced false 2).loop.handles.get? 0).map (·.state) = some .idle := by rfl
  obtain ⟨x, found, idle⟩ := Option.map_eq_some_iff.1 found
  have reached : Reached Memory.transport Client.careless past
      ⟨(Client.announced false 2).loop, [],
        .run (.call (.listen 0 none false) (.orRefuse fun () => .skip))⟩ :=
    ⟨_, _, _, _, run⟩
  have told : (Client.announced false 2).loop.listenersOf 0 .listening = [false] := by rfl
  have observe (d : Bool) (hd : d ∈ (Client.announced false 2).loop.listenersOf 0 .listening) :
      (Client.careless d (.event 0 .listening)).Observes fun failure => failure.isSome = false := by
    rw [told, List.mem_singleton] at hd
    subst hd
    exact Client.observes_careless false _
  obtain ⟨way, a, l', steps, all, -, failed⟩ :=
    listen_does_all_or_nothing_or_hears_too_late reached found idle observe
  exact ⟨past, _, reached, by rfl, way, a, l', steps, all,
    fun cause failure => by cases (failed cause failure).1⟩

/-- A client whose listener fails is told that its call of `listen` has failed, but its handle
listens, with one reference and one listener for connections, and to call `listen` again is refused
for the state of the handle. -/
theorem failed_listen_listens :
    Client.standing (Client.announced true 2).loop = (some (.idle, 0), 0) ∧
      (∀ d o, (Client.careless d o).Observes (fun failure => failure.isSome = d)) ∧
      Steps Memory.transport Client.careless (Client.announced true 2)
        ((List.range 7).map ((Client.announced true 2).run Memory.transport Client.careless))
        ⟨(Client.announced true 9).loop, [], .run (.refuse (.listener (.text "no")))⟩ ∧
      Client.standing (Client.announced true 9).loop = (some (.listening, 1), 1) ∧
      ((Client.announced true 9).loop.beginListen Memory.transport 0 none false).1 =
        .error (.invalidState "listen" .listening) :=
  ⟨by rfl, Client.observes_careless, Steps.of_run _ _ _ (by rfl), by rfl, by rfl⟩

end Reactor
