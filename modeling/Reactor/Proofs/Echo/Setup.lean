import Reactor.Proofs.Loop.Outlines
import Reactor.Proofs.Machine.Discretion
import Reactor.Proofs.Machine.Observers
import Reactor.Proofs.Refusals.Untouched

/-!
# How an echo server takes a connection over

The server creates a handle, moves the connection to it, registers its listeners, and starts to
read. It may be refused twice on the way, and then goes no further: whatever it has created and
registered by then stays behind. All of it is told by the outline of the loop, on every transport
and among every other handlers.
-/

namespace Reactor

variable {H : Host} {T : Transport H.Net H.Script} {enter : Handlers H}

namespace Loop

variable {l l' : Loop H} {server client h : HandleId} {s : Stance}

/-- What a refusal leaves alone shows all streams as they were. -/
theorem Untouched.life (untouched : l.Untouched T l') : l'.life = l.life := by
  funext h
  refine life_congr untouched.next ?_ untouched.requests
  have same := congrArg (Option.map Handle.stance) (untouched.handles h)
  rwa [Option.map_map, Option.map_map] at same

/-- No connection is moved to an idle stream if the transport refuses to, nor from a handle that
does not listen. -/
theorem accept_refused (alive : l.life client = .alive s) (idle : s.state = .idle)
    (refused : Machine.hasState l server .listening = true →
      (T.accept server client l.net).answer ≠ .ok ()) :
    ∃ e, (l.accept T server client).1 = .error e ∧ (Machine.hasState l server .listening = true →
      ∃ status, e = .accept status ∧ (T.accept server client l.net).answer = .error status) := by
  obtain ⟨x, found, rfl⟩ := exists_of_life alive
  have idle : x.state = .idle := idle
  cases served : l.handles.get? server with
  | none =>
    refine ⟨.badHandle server, ?_, by simp [Machine.hasState, served]⟩
    simp [accept, tracked_fst, acceptUntracked, handle?, served]
  | some y =>
    by_cases listening : y.state = .listening
    · cases answered : (T.accept server client l.net).answer with
      | ok => exact (refused (by simp [Machine.hasState, served, listening]) answered).elim
      | error status =>
        refine ⟨.accept status, ?_, fun _ => ⟨status, rfl, rfl⟩⟩
        simp [accept, tracked_fst, acceptUntracked, handle?, ask, served, listening, found,
          idle, answered]
    · refine ⟨.invalidState "accept" y.state, ?_, by simp [Machine.hasState, served, listening]⟩
      simp [accept, tracked_fst, acceptUntracked, handle?, served, listening]

/-- No read session is opened if the transport refuses to. -/
theorem readStart_refused {status : Status} (alive : l.life h = .alive s)
    (readable : s.state.canRead = true) (idle : s.reading = false) (unmarked : s.marked = false)
    (asked : (T.readStart h l.net).answer = .error status) :
    (l.readStart T h).1 = .error (.transport "read_start" status) := by
  obtain ⟨x, found, rfl⟩ := exists_of_life alive
  have readable : x.state.canRead = true := readable
  have idle : x.isReading = false := idle
  have unmarked : x.closing = false := unmarked
  simp [readStart, tracked_fst, readStartUntracked, handle?, ensureBuffer, get?_modifyHandle,
    acquire, ask, found, readable, idle, unmarked, asked]

end Loop

namespace Echo

open Machine

variable {l l' : Loop H} {embed : Closure → H.Closure} {server c h : HandleId}
  {failure : Option ListenerError}

/-! ## Where it may end -/

/-- A client is there. -/
def spawn (T : Transport H.Net H.Script) (o : Outline H) (c : HandleId) : Outline H :=
  (o.turn c (.alive {})).ask (T.init c .tcp)

/-- A client is connected. -/
def attach (T : Transport H.Net H.Script) (o : Outline H) (server c : HandleId) : Outline H :=
  (o.ask (T.accept server c)).turn c (.alive { state := .connected })

/-- The listeners of a client are registered. -/
def attend (embed : Closure → H.Closure) (o : Outline H) (c : HandleId) : Outline H :=
  ((o.listen c .data (embed .onData)).listen c .endOfStream (embed .onEnd)).listen c .error
    (embed .onError)

/-- A client is read. -/
def hear (T : Transport H.Net H.Script) (o : Outline H) (c : HandleId) : Outline H :=
  (o.ask (T.readStart c)).turn c (.alive { state := .connected, reading := true })

/-- The outcome of an attempt to take a connection over into a new client, by the answers of the
transport. The attempt succeeds, or its client is left idle, or connected with its listeners. -/
inductive SetsUp (T : Transport H.Net H.Script) (embed : Closure → H.Closure) (l : Loop H)
    (server c : HandleId) :
    Option ListenerError → Loop H → Prop where
  | serves {l' : Loop H} (accepted : (T.accept server c (spawn T l.outline c).net).answer = .ok ())
    (opened : (T.readStart c (attach T (spawn T l.outline c) server c).net).answer = .ok ())
    (outline : l'.outline = hear T (attend embed (attach T (spawn T l.outline c) server c) c) c) :
    SetsUp T embed l server c none l'
  | unaccepted {e} {l' : Loop H} (refused : hasState l server .listening = true →
      ∃ status, e = .accept status ∧ (T.accept server c (spawn T l.outline c).net).answer =
        .error status)
    (life : l'.life = (spawn T l.outline c).life) (listeners : l'.listeners = l.listeners) :
    SetsUp T embed l server c (some (.operation e)) l'
  | unread {status} {l' : Loop H}
    (accepted : (T.accept server c (spawn T l.outline c).net).answer = .ok ())
    (refused : (T.readStart c (attach T (spawn T l.outline c) server c).net).answer = .error status)
    (life : l'.life = (attach T (spawn T l.outline c) server c).life)
    (listeners : l'.listeners = (attend embed l.outline c).listeners) :
    SetsUp T embed l server c (some (.operation (.transport "read_start" status))) l'

namespace SetsUp

/-- Only the client is touched. -/
theorem elsewhere (sets : SetsUp T embed l server c failure l') {k : HandleId} (other : c ≠ k) :
    l'.life k = l.life k := by
  cases sets with
  | serves _ _ outline =>
    rw [show l'.life = _ from congrArg Outline.life outline]
    simp [hear, attend, attach, spawn, Outline.ask, Outline.turn, Outline.listen,
      Loop.outline, other]
  | unaccepted _ life | unread _ _ life =>
    rw [life]
    simp [attach, spawn, Outline.ask, Outline.turn, Loop.outline, other]

/-- An attempt that fails leaves its client with nothing under way on it. -/
theorem dormant (sets : SetsUp T embed l server c failure l') (failed : failure ≠ none) :
    ∃ s, l'.life c = .alive s ∧ s.Dormant ∧ s.listening = false := by
  cases sets with
  | serves => exact (failed rfl).elim
  | unaccepted _ life =>
    refine ⟨{}, ?_, ⟨.inl rfl, rfl, rfl, rfl, rfl, rfl⟩, rfl⟩
    rw [life]
    exact if_pos rfl
  | unread _ _ life =>
    refine ⟨{ state := .connected }, ?_, ⟨.inr rfl, rfl, rfl, rfl, rfl, rfl⟩, rfl⟩
    rw [life]
    exact if_pos rfl

end SetsUp

/-! ## How it comes there -/

/-- What is done on the answer of an operation is done from where the operation has led. -/
theorem finishes_of_issue {ends : Option ListenerError → Loop H → Prop} {o : Operation H.Closure}
    {a : o.Answer} {next : o.Answer → Program H} (issued : l.issue T o = (a, l'))
    (goes : Finishes T enter (fun _ => ends) l' (next a)) :
    Finishes T enter (fun _ => ends) l (.call (.issue o) next) := by
  refine finishes_issue (R := fun _ => ends) ?_
  rw [issued]
  exact goes

/-- An operation that is refused ends what hands its error on, and leaves streams and
listeners as they were. -/
theorem finishes_refused {ends : Option ListenerError → Loop H → Prop} {o : Operation H.Closure}
    {next : o.Answer → Program H} {e : LoopError} (failed : o.failure? (l.issue T o).1 = some e)
    (stops : next (l.issue T o).1 = .refuse e)
    (left : ∀ l', l'.life = l.life → l'.listeners = l.listeners → ends (some (.operation e)) l') :
    Finishes T enter (fun _ => ends) l (.call (.issue o) next) := by
  have untouched : l.Untouched T (l.issue T o).2 := Loop.untouched_issue failed
  have issued : l.issue T o = ((l.issue T o).1, (l.issue T o).2) := rfl
  refine finishes_of_issue issued ?_
  rw [stops]
  refine (finishes_done _).mono ?_
  rintro _ _ ⟨rfl, rfl⟩
  exact left _ untouched.life untouched.listeners

/-- A listener of a client that is there is registered. -/
theorem finishes_register {ends : Option ListenerError → Loop H → Prop} {s : Stance}
    {event : EventName} {k : Closure} {next : Program H} (alive : l.life c = .alive s)
    (goes : ∀ l', l'.outline = l.outline.listen c event (embed k) →
      Finishes T enter (fun _ => ends) l' next) :
    Finishes T enter (fun _ => ends) l (register embed c event k next) := by
  obtain ⟨l', registered, outline⟩ := Loop.issue_on (T := T) alive event (embed k)
  exact finishes_of_issue registered (goes l' outline)

/-- A client that is connected is attended to, unless the transport refuses to read it. -/
theorem finishes_attend {ends : Option ListenerError → Loop H → Prop}
    (connected : l.life c = .alive { state := .connected })
    (serves : (T.readStart c l.net).answer = .ok () →
      ∀ l', l'.outline = hear T (attend embed l.outline c) c → ends none l')
    (unread : ∀ status l', (T.readStart c l.net).answer = .error status → l'.life = l.life →
      l'.listeners = (attend embed l.outline c).listeners →
      ends (some (.operation (.transport "read_start" status))) l') :
    Finishes T enter (fun _ => ends) l <| register embed c .data .onData <|
      register embed c .endOfStream .onEnd <| register embed c .error .onError <|
      .call (.issue (.readStart c)) <| .orRefuse fun () => .skip := by
  refine finishes_register connected fun l₁ outline₁ => ?_
  have connected₁ := (congrFun (congrArg Outline.life outline₁) c).trans connected
  refine finishes_register connected₁ fun l₂ outline₂ => ?_
  have connected₂ := (congrFun (congrArg Outline.life outline₂) c).trans connected₁
  refine finishes_register connected₂ fun l₃ outline₃ => ?_
  have connected₃ := (congrFun (congrArg Outline.life outline₃) c).trans connected₂
  rw [outline₂, outline₁] at outline₃
  have net : l₃.net = l.net := congrArg Outline.net outline₃
  cases opened : (T.readStart c l.net).answer with
  | ok =>
    obtain ⟨l', reads, outline⟩ := Loop.issue_readStart connected₃ rfl rfl rfl (by rwa [net])
    rw [outline₃] at outline
    refine finishes_of_issue reads ((finishes_done _).mono ?_)
    rintro _ _ ⟨rfl, rfl⟩
    exact serves opened _ outline
  | error status =>
    have answered := Loop.readStart_refused (T := T) connected₃ rfl rfl rfl (by rwa [net])
    refine finishes_refused (congrArg errorOf answered)
      (congrArg (Program.orRefuse _) answered) fun l' life listeners => ?_
    exact unread status l' opened (life.trans (congrArg Outline.life outline₃))
      (listeners.trans (congrArg Outline.listeners outline₃))

/-- Taking a connection over comes to an end, and never waits for anything. -/
theorem finishes_onConnection (embed : Closure → H.Closure) (server : HandleId) (l : Loop H) :
    Finishes T enter (fun _ => SetsUp T embed l server l.handles.next) l
      (onConnection embed server) := by
  intro stack b
  obtain ⟨l₁, created, unborn, outline₁⟩ := Loop.issue_newHandle T b .tcp
  generalize (Loop.handles l).next = c at created unborn outline₁ ⊢
  have client₁ : l₁.life c = .alive {} :=
    (congrFun (congrArg Outline.life outline₁) c).trans (if_pos rfl)
  have net₁ : l₁.net = (spawn T l.outline c).net := congrArg Outline.net outline₁
  refine finishes_of_issue created ?_ stack b
  by_cases accepts : hasState l₁ server .listening = true ∧
    (T.accept server c l₁.net).answer = .ok ()
  case pos =>
    obtain ⟨listening, accepted⟩ := accepts
    obtain ⟨s, server₁, listening⟩ := life_of_hasState listening
    obtain ⟨l₂, taken, outline₂⟩ := Loop.issue_accept server₁ listening client₁ rfl accepted
    have client₂ : l₂.life c = .alive { state := .connected } :=
      (congrFun (congrArg Outline.life outline₂) c).trans (if_pos rfl)
    rw [outline₁] at outline₂
    rw [net₁] at accepted
    have net₂ : l₂.net = (attach T (spawn T l.outline c) server c).net :=
      congrArg Outline.net outline₂
    refine finishes_of_issue taken (finishes_attend client₂ (fun opened l' outline => ?_)
      fun status l' refused life listeners => ?_)
    · rw [outline₂] at outline
      exact .serves accepted (by rwa [← net₂]) outline
    · rw [outline₂] at listeners
      exact .unread accepted (by rwa [← net₂])
        (life.trans (congrArg Outline.life outline₂)) listeners
  case neg =>
    obtain ⟨e, answered, reason⟩ := Loop.accept_refused (T := T) client₁ rfl
      fun listening accepted => accepts ⟨listening, accepted⟩
    refine finishes_refused (congrArg errorOf answered)
      (congrArg (Program.orRefuse _) answered) fun l' life listeners => ?_
    refine .unaccepted (fun listening => ?_) (life.trans (congrArg Outline.life outline₁))
      (listeners.trans (congrArg Outline.listeners outline₁))
    obtain ⟨s, alive, state⟩ := life_of_hasState listening
    have other : c ≠ server := by
      rintro rfl
      cases unborn.symm.trans alive
    have alive₁ : l₁.life server = .alive s :=
      (congrFun (congrArg Outline.life outline₁) server).trans ((if_neg other).trans alive)
    rw [← net₁]
    exact reason ((hasState_iff alive₁ _).2 state)

/-! ## Among discreet handlers -/

/-- Attending to a connection of one server spares every other handle that is there. -/
theorem spares_onConnection (embed : Closure → H.Closure) (other : server ≠ h) :
    (onConnection embed server).Spares h := by
  refine .create fun c client => ?_
  have accepts : (Operation.accept (κ := H.Closure) server c).names h = false := by
    simp [Operation.names, other, client]
  refine .call accepts fun a => .orRefuse (fun () => ?_) a
  have spares {event : EventName} {k : Closure} {next : Program H} (goes : next.Spares h) :
      (register embed c event k next).Spares h :=
        .call (decide_eq_false client) fun a => .orRefuse (fun () => goes) a
  exact spares <| spares <| spares <| .call (decide_eq_false client) fun a =>
    .orRefuse (fun () => .done) a

/-- The handlers of the server name nothing but the handles that they are entered for and the
clients that they create. -/
theorem spares_enter (embed : Closure → H.Closure) (k : Closure) (o : Occasion)
    (other : o.handle ≠ h) :
    (Echo.enter embed k o).Spares h := by
  have spares {α : Type} (r : Except LoopError α) :
      (Program.orRefuse (fun _ => Program.skip) r : Program H).Spares h :=
    .orRefuse (fun _ => .done) r
  unfold Echo.enter
  split
  case h_1 => exact spares_onConnection embed other
  case h_2 | h_3 | h_4 => exact .call (decide_eq_false other) spares
  case h_5 | h_6 => exact .call (decide_eq_false other) fun _ => .done
  case h_7 => exact .done

/-- An echo server alone is discreet. -/
theorem discreet_handlers (σ τ : Type) : Discreet (handlers σ τ) :=
  fun k o _ other => spares_enter (H := host σ τ) id k o other

end Echo

end Reactor
