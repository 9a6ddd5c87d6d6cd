import Reactor.Proofs.Memory.Burden
import Reactor.Proofs.Memory.Turns
import Reactor.Proofs.Memory.Vain

/-!
# Runs of a loop in memory come to an end

As long as the handlers only observe or are those of the echo server, every tick that does any work
leaves the loop with less of a burden, or fails. Each item of a tick that is told or reclaimed takes
something off the burden, whatever its handlers put on it again, and a tick that has nothing of the
kind to do adds nothing. So a run of the loop returns.
-/

namespace Reactor

/-- How far a stage is from the end of its tick. -/
def Stage.rank : Stage → ℕ ×ₗ ℕ ×ₗ ℕ
  | .deferred batch => toLex (3, toLex (0, batch.length))
  | .completions batch => toLex (2, toLex (0, batch.length))
  | .reads passes rest _ => toLex (1, toLex (passes, rest.length))
  | .reclaims batch => toLex (0, toLex (0, batch.length))

/-- Taking a completion brings a stage nearer to the end. -/
theorem Stage.rank_pop? {s s' : Stage} {c : Completion} (here : s.pop? = some (c, s')) :
    s'.rank < s.rank := by
  obtain ⟨batch, ⟨rfl, rfl⟩ | ⟨rfl, rfl⟩⟩ := Stage.eq_of_pop? here
  · simp [rank, Prod.Lex.toLex_lt_toLex]
  · simp [rank, Prod.Lex.toLex_lt_toLex]

/-- A completion that a stage takes counts in it if it reports a connection. -/
theorem Stage.connections_pop? {s s' : Stage} {c : Completion} (here : s.pop? = some (c, s')) :
    s.batch.countP Completion.isConnection =
      s'.batch.countP Completion.isConnection + if c.isConnection then 1 else 0 := by
  rw [Stage.batch_of_pop? here, List.countP_cons]

/-- Asking a handle brings a stage of reads nearer to the end. -/
theorem Stage.rank_read (passes : Nat) (h : HandleId) (rest : List HandleId)
    (productive productive' : Bool) :
    (Stage.reads passes rest productive').rank <
      (Stage.reads passes (h :: rest) productive).rank := by
  simp [rank, Prod.Lex.toLex_lt_toLex]

/-- Reads that are broken off bring a tick nearer to its end. -/
theorem Stage.rank_abandoned (passes : Nat) (rest : List HandleId) (productive : Bool) :
    (Stage.reads 0 [] false).rank ≤ (Stage.reads passes rest productive).rank :=
  Prod.Lex.toLex_le_toLex.2 (.inr ⟨rfl, Prod.Lex.toLex_mono ⟨Nat.zero_le _, Nat.zero_le _⟩⟩)

/-- Noting a failure takes a tick no further from its end. -/
theorem Tick.rank_note (t : Tick) (failure : Option ListenerError) :
    (t.note failure).stage.rank ≤ t.stage.rank := by
  obtain same | ⟨passes, rest, productive, here, broken⟩ := t.stage_note failure
  · rw [same]
  · rw [here, broken]
    exact Stage.rank_abandoned ..

/-- A tick that goes from a stage with nothing to do to the next is worth no more than before, or
has something to do. -/
theorem Tick.eventful_refill {t : Tick} {stage : Stage} (vacant : t.stage.vacant = true)
    (idle : stage.productive = false)
    (eventful : ({ t with stage, worked := t.worked || !stage.vacant } : Tick).eventful = true) :
    t.eventful = true ∧ t.stage.vacant = true ∨ stage.vacant = false := by
  cases waits : stage.vacant with
  | false => exact .inr rfl
  | true =>
    rw [eventful_iff] at eventful
    simp only [waits, idle, Bool.not_true, Bool.or_false, Bool.false_eq_true, or_false] at eventful
    exact .inl ⟨eventful_iff.2 (eventful.imp_right .inl), vacant⟩

variable {S N C : Type} {enter : Handlers (Memory.host S N C)}

namespace Loop

variable {l l' : Loop (Memory.host S N C)} {t t' : Tick} {limit : ℕ ×ₗ ℕ}
  {batch batch' : List Completion}

/-- The burden is less when less can arrive. -/
theorem burden_lt_of_arrivals
    (less : l'.arrivals + batch'.countP Completion.isConnection <
      l.arrivals + batch.countP Completion.isConnection) :
    l'.burden batch' < l.burden batch := Prod.Lex.toLex_lt_toLex.2 (.inl less)

/-- The burden is no greater where neither part of it is. -/
theorem burden_le
    (arrivals : l'.arrivals + batch'.countP Completion.isConnection ≤
      l.arrivals + batch.countP Completion.isConnection)
    (holdings : l'.holdings ≤ l.holdings) : l'.burden batch' ≤ l.burden batch := by
  obtain less | same := Nat.lt_or_eq_of_le arrivals
  · exact le_of_lt (burden_lt_of_arrivals less)
  · exact Prod.Lex.toLex_le_toLex.2 (.inr ⟨same, holdings⟩)

/-- The burden is less when no more can arrive and less is in the tables. -/
theorem burden_lt_of_holdings
    (arrivals : l'.arrivals + batch'.countP Completion.isConnection ≤
      l.arrivals + batch.countP Completion.isConnection)
    (less : l'.holdings < l.holdings) : l'.burden batch' < l.burden batch := by
  obtain less' | same := Nat.lt_or_eq_of_le arrivals
  · exact burden_lt_of_arrivals less'
  · exact Prod.Lex.toLex_lt_toLex.2 (.inr ⟨same, less⟩)

/-- The tick has failed, or it has left no more of a burden than a limit, and less if anything came
of it; what waits in its stage may still have to make good for that. -/
def Relieves (limit : ℕ ×ₗ ℕ) (l : Loop (Memory.host S N C)) (t : Tick) : Prop :=
  t.error.isSome = true ∨ l.burden t.stage.batch ≤ limit ∧
    (t.eventful = true → l.burden t.stage.batch < limit ∨ t.stage.vacant = false)

/-- A tick begins under the burden of its loop. -/
theorem relieves_beginTick (l : Loop (Memory.host S N C)) (w : Waker) :
    (l.beginTick w).2.Relieves (l.burden []) (l.beginTick w).1 := by
  refine .inr ⟨burden_le ?_ (Nat.le_refl _), fun eventful => .inr ?_⟩
  · simp only [arrivals, beginTick, Stage.batch, List.append_nil, List.countP_append,
      List.countP_nil]
    omega
  · simpa [beginTick, Tick.eventful, Stage.productive, Stage.vacant] using eventful

/-- What the transport reports goes under way with the tick. -/
theorem burden_beginCompletions (l : Loop (Memory.host S N C)) (t : Tick) :
    (l.beginCompletions Memory.transport t).2.burden
      (l.beginCompletions Memory.transport t).1.stage.batch = l.burden [] := by
  have load : (Memory.collect t.waker l.net).net.load = l.net.load := rfl
  have left : (Memory.collect t.waker l.net).net.finished.toList = [] := rfl
  have batch : (l.ask (Memory.transport.collect t.waker)).1 = l.net.finished.toList := rfl
  refine congrArg (fun n => toLex (n, l.holdings)) ?_
  simp only [arrivals, beginCompletions, Stage.batch, batch, ask_frame, List.countP_append,
    List.countP_nil]
  simp only [Memory.transport, load, left, List.countP_nil]
  omega

/-- A tick goes on without a handler. -/
theorem Relieves.still (relieves : l.Relieves limit t) (error : t'.error = t.error)
    (burden : l'.burden t'.stage.batch ≤ l.burden t.stage.batch)
    (eventful : t'.eventful = true → t.eventful = true ∧ t.stage.vacant = true ∨
      t'.stage.vacant = false) :
    l'.Relieves limit t' := by
  obtain failed | ⟨within, worth⟩ := relieves
  · exact .inl (error ▸ failed)
  · refine .inr ⟨le_trans burden within, fun some => ?_⟩
    obtain ⟨some, vacant⟩ | waits := eventful some
    · rw [vacant] at worth
      exact .inl (lt_of_le_of_lt burden ((worth some).resolve_right (by simp)))
    · exact .inr waits

/-- A tick goes on once its handlers have returned, with less of a burden unless
one of them has failed. -/
theorem Relieves.noted (relieves : l.Relieves limit t) (error : t'.error = t.error)
    {failure : Option ListenerError} (less : failure = none →
      l'.burden t'.stage.batch < l.burden t.stage.batch) : l'.Relieves limit (t'.note failure) := by
  cases failure with
  | some cause =>
    refine .inl ?_
    rw [Tick.error_note]
    cases t'.error <;> rfl
  | none =>
    obtain failed | ⟨within, -⟩ := relieves
    · exact .inl (error ▸ failed)
    · have below := lt_of_lt_of_le (less rfl) within
      exact .inr ⟨le_of_lt below, fun _ => .inl below⟩

end Loop

namespace Machine

open Loop (Relieves)

variable {embed : Echo.Closure → C} {l l' : Loop (Memory.host S N C)}
  {base stack : List (Frame (Memory.host S N C))} {t : Tick} {h : HandleId} {e : Event}
  {limit : ℕ ×ₗ ℕ}

/-! ## Handlers that are entered -/

variable (enter) in
/-- A way leads from one machine to another by steps alone. -/
def Comes (x y : Machine (Memory.host S N C)) : Prop :=
  ∃ past, Steps Memory.transport enter x past y

namespace Comes

variable {x y z : Machine (Memory.host S N C)} {news : List (HandleId × Event)}

/-- A way on which events are told is a way. -/
theorem of_tells (tells : Tells Memory.transport enter x news y) : Comes enter x y :=
  tells.imp fun _ way => way.1

/-- One step is a way. -/
theorem of_rule (rule : Rule Memory.transport enter x y) (b : x.Balanced) : Comes enter x y :=
  .of_tells (.of_rule rule b)

/-- A way that goes on from the end of another continues it. -/
theorem trans (first : Comes enter x y) (second : Comes enter y z) : Comes enter x z := by
  obtain ⟨_, first⟩ := first
  obtain ⟨_, second⟩ := second
  exact ⟨_, first.trans second⟩

/-- What each step keeps is kept on a way. -/
theorem keeps {P : Machine (Memory.host S N C) → Prop} (way : Comes enter x y)
    (rule : ∀ x y, P x → Rule Memory.transport enter x y → P y) (hx : P x) : P y := by
  obtain ⟨past, steps⟩ := way
  induction steps with
  | refl => exact hx
  | snoc _ taken ih => exact rule _ _ ih (rule_of_step? taken).2

/-- The machine at the end of a way is balanced if the one at its beginning was. -/
theorem balanced (way : Comes enter x y) (b : x.Balanced) : y.Balanced :=
  way.keeps (fun _ _ b rule => b.rule rule) b

/-- A way goes on by one more step. -/
theorem snoc (way : Comes enter x y) (b : x.Balanced) (rule : Rule Memory.transport enter y z) :
    Comes enter x z :=
  way.trans (.of_rule rule (way.balanced b))

end Comes

/-- The books of a machine are in order: its counts add up, the far side agrees with it, and a read
has room for a byte at least. -/
structure Orderly (m : Machine (Memory.host S N C)) : Prop where
  balanced : m.Balanced
  coupled : m.Coupled
  sized : ∃ size, 0 < size ∧ m.loop.Sized size

namespace Orderly

variable {x y : Machine (Memory.host S N C)}

/-- Along every run the books are in order, whatever its handlers do. -/
theorem of_run {options : Options} {shared : S} {p : Program (Memory.host S N C)}
    {past : List (Machine (Memory.host S N C))}
    (run : Run Memory.transport enter (start p (.fresh options Memory.initial shared)) past x) :
    x.Orderly :=
  ⟨.of_reached ⟨options, Memory.initial, shared, p, run⟩, .of_run run, options.readBufferSize,
    options.readBufferSize.2.1, run.sized⟩

/-- A step leaves the books in order. -/
theorem rule (orderly : x.Orderly) (rule : Rule Memory.transport enter x y) : y.Orderly :=
  let ⟨size, room, sized⟩ := orderly.sized
  ⟨orderly.balanced.rule rule, orderly.coupled.rule orderly.balanced rule, size, room,
    rule.sized orderly.balanced sized⟩

/-- A way leaves the books in order. -/
theorem comes (orderly : x.Orderly) (way : Comes enter x y) : y.Orderly :=
  way.keeps (fun _ _ => Orderly.rule) orderly

end Orderly

/-- A program that comes to its end does so on a way. -/
theorem Finishes.comes {R : Loop (Memory.host S N C) → Option ListenerError →
    Loop (Memory.host S N C) → Prop}
    {x : Machine (Memory.host S N C)} {p : Program (Memory.host S N C)}
    (finishes : Finishes Memory.transport enter R l p) (way : Comes enter x ⟨l, stack, .run p⟩)
    (b : x.Balanced) :
    ∃ failure l', R l failure l' ∧ Comes enter x ⟨l', stack, .returned failure⟩ := by
  obtain ⟨failure, l', done, rest⟩ := finishes stack (way.balanced b)
  exact ⟨failure, l', done, way.trans (.of_tells rest)⟩

/-- An event is told to gentle handlers, which bring nothing in. -/
theorem comes_told (gentle : Gentle (H := Memory.host S N C) embed enter)
    (b : Balanced ⟨l, stack, .emit h e⟩) :
    ∃ failure l', l'.arrivals ≤ l.arrivals ∧
      Comes enter ⟨l, stack, .emit h e⟩ ⟨l', stack, .returned failure⟩ := by
  obtain ⟨failure, l', less, told⟩ :=
    tells_event (T := Memory.transport) (R := fun l _ l' => l'.arrivals ≤ l.arrivals)
      (I := fun _ => True) (fun _ => Nat.le_refl _) (fun first second => Nat.le_trans second first)
      (fun _ _ => trivial) (fun c _ l _ => gentle.modest c _ l) trivial b
  exact ⟨failure, l', less, .of_tells told⟩

/-- The outcome of a write or of a shutdown is told, and the tick goes on. -/
theorem comes_delivered (gentle : Gentle (H := Memory.host S N C) embed enter) {req : RequestId}
    {callback : Callback C} {outcome : RequestOutcome}
    (b : (deliver l (.tick t :: base) req h callback outcome).Balanced) :
    ∃ l', l'.arrivals ≤ l.arrivals ∧ l'.holdings = l.holdings ∧
      Comes enter (deliver l (.tick t :: base) req h callback outcome) (ofTick base t l') := by
  cases callback with
  | promise =>
    have settled :
        ({ l with settled := (req, outcome) :: l.settled } : Loop (Memory.host S N C)).arrivals =
          l.arrivals := rfl
    refine ⟨({ l with settled := (req, outcome) :: l.settled } : Loop (Memory.host S N C)).release
      h, ?_, ?_, [], .refl⟩
    · rw [Loop.arrivals_release, settled]
    · rw [Loop.holdings_release]
      rfl
  | closure c =>
    obtain ⟨failure, l', ⟨less, held⟩, way⟩ :=
      (gentle.frugal c (o := .completed h outcome) (by simp) l).comes (.of_rule .enter b) b
    exact ⟨l'.release h, by rwa [Loop.arrivals_release], (Loop.holdings_release l' h).trans held,
      (way.snoc b .endDelivery).snoc b .noteResult⟩

/-- That a handle is gone is told to its listeners, and then to its last callback. -/
theorem comes_reclaimed (gentle : Gentle (H := Memory.host S N C) embed enter) {onClose : Option C}
    (gone : l.handles.get? h = none) (created : h < l.handles.next)
    (b : Balanced ⟨l, .reclaiming h onClose :: stack, .emit h .close⟩) :
    ∃ failure l', l'.arrivals ≤ l.arrivals ∧ (failure = none → l'.holdings = l.holdings) ∧
      Comes enter ⟨l, .reclaiming h onClose :: stack, .emit h .close⟩
        ⟨l', stack, .returned failure⟩ := by
  obtain ⟨failure, l₁, ⟨less, beside⟩, told⟩ := tells_event (T := Memory.transport)
    (R := fun l failure l' => l'.arrivals ≤ l.arrivals ∧ (failure = none → l.Beside l'))
    (I := fun l => l.handles.get? h = none ∧ h < l.handles.next)
    (fun l => ⟨Nat.le_refl _, fun _ => .refl l⟩)
    (fun first second =>
      ⟨Nat.le_trans second.1 first.1, fun ends => (first.2 rfl).trans (second.2 ends)⟩)
    (fun here done => by
      have agrees := (done.2 rfl).agrees
      rwa [agrees.handles, agrees.next])
    (fun c _ l here => gentle.parting c here.1 here.2) ⟨gone, created⟩ b
  have told := Comes.of_tells told
  -- The last callback follows, if there is one; whatever it returns, it is the
  -- listeners' failure that counts.
  obtain ⟨after, l₂, less₂, held₂, way⟩ :
      ∃ after l₂, l₂.arrivals ≤ l₁.arrivals ∧ l₂.holdings = l₁.holdings ∧
      Comes enter ⟨l, .reclaiming h onClose :: stack, .emit h .close⟩
        ⟨l₂, .parting h failure :: stack, .returned after⟩ := by
    cases onClose with
    | none => exact ⟨none, l₁, Nat.le_refl _, rfl, told.snoc b .skipParting⟩
    | some c =>
      have begun := (told.snoc b .beginParting).snoc b .enter
      obtain ⟨after, l₂, ⟨less₂, held₂⟩, way⟩ :=
        (gentle.frugal c (o := .closed h) (by simp) l₁).comes begun b
      exact ⟨after, l₂, less₂, held₂, way⟩
  exact ⟨failure, l₂.removeListeners h, Nat.le_trans less₂ less,
    fun ends => held₂.trans (beside ends).holdings, way.snoc b .endParting⟩

/-! ## One item of a tick -/

variable (enter) in
/-- A tick comes nearer to its end, and relieves its loop all the same. -/
def Nears (limit : ℕ ×ₗ ℕ) (base : List (Frame (Memory.host S N C))) (l : Loop (Memory.host S N C))
    (t : Tick) : Prop :=
  ∃ t' l', t'.stage.rank < t.stage.rank ∧ l'.Relieves limit t' ∧
    Comes enter (ofTick base t l) (ofTick base t' l')

/-- Handlers have returned to a tick: the burden is less, or they have failed. -/
theorem nears_of_returned {t' : Tick} {failure : Option ListenerError}
    (relieves : l.Relieves limit t) (b : Balanced (ofTick base t l))
    (way : Comes enter (ofTick base t l) ⟨l', .tick t' :: base, .returned failure⟩)
    (error : t'.error = t.error) (nearer : t'.stage.rank < t.stage.rank)
    (less : failure = none → l'.burden t'.stage.batch < l.burden t.stage.batch) :
    Nears enter limit base l t :=
  ⟨t'.note failure, l', lt_of_le_of_lt (t'.rank_note failure) nearer, relieves.noted error less,
    way.snoc b .noteResult⟩

/-- A tick has taken something off the burden. -/
theorem nears_of_less {t' : Tick} (relieves : l.Relieves limit t)
    (way : Comes enter (ofTick base t l) (ofTick base t' l')) (error : t'.error = t.error)
    (nearer : t'.stage.rank < t.stage.rank)
    (less : l'.burden t'.stage.batch < l.burden t.stage.batch) : Nears enter limit base l t :=
  ⟨t'.note none, l', nearer, relieves.noted error fun _ => less, way⟩

/-- The completion of a write or of a shutdown is told to its callback. -/
theorem nears_of_delivered (gentle : Gentle (H := Memory.host S N C) embed enter)
    (relieves : l.Relieves limit t) (b : Balanced (ofTick base t l)) {stage : Stage}
    {c : Completion} {req : RequestId} {r : Request C} {callback : Callback C}
    {outcome : RequestOutcome} (here : t.stage.pop? = some (c, stage))
    (pending : l.requests.get? req = some r)
    (rule : Rule Memory.transport enter (ofTick base t l)
      (deliver l' (.tick { t with stage } :: base) req h callback outcome))
    (arrivals : l'.arrivals =
      ({ l with requests := l.requests.remove req } : Loop (Memory.host S N C)).arrivals)
    (holdings : l'.holdings =
      ({ l with requests := l.requests.remove req } : Loop (Memory.host S N C)).holdings) :
    Nears enter limit base l t := by
  obtain ⟨l'', less, held, way⟩ := comes_delivered gentle (b.rule rule)
  obtain ⟨fewer, removed⟩ := Loop.burden_remove pending
  have counted := Stage.connections_pop? here
  have lighter : l''.burden stage.batch < l.burden t.stage.batch :=
    Loop.burden_lt_of_holdings (by omega) (by omega)
  exact nears_of_less relieves ((Comes.of_rule rule b).trans way) rfl (Stage.rank_pop? here) lighter

/-- The outcome of a connect is told. -/
theorem nears_of_connecting (gentle : Gentle (H := Memory.host S N C) embed enter)
    (relieves : l.Relieves limit t) (b : Balanced (ofTick base t l)) {stage : Stage}
    {c : Completion} {req : RequestId} {k : HandleId} (here : t.stage.pop? = some (c, stage))
    (pending : l.requests.get? req = some (.connect k))
    (rule : Rule Memory.transport enter (ofTick base t l)
      ⟨l', .connecting req k :: .tick { t with stage } :: base, .emit h e⟩)
    (arrivals : l'.arrivals =
      ({ l with requests := l.requests.remove req } : Loop (Memory.host S N C)).arrivals) :
    Nears enter limit base l t := by
  obtain ⟨failure, l'', less, told⟩ := comes_told gentle (b.rule rule)
  have connects := (Loop.burden_remove pending).1
  have counted := Stage.connections_pop? here
  have released := Loop.arrivals_release l'' k
  simp only [Request.connects, if_true] at connects
  have lighter : (l''.release k).burden stage.batch < l.burden t.stage.batch :=
    Loop.burden_lt_of_arrivals (by omega)
  exact nears_of_returned relieves b (((Comes.of_rule rule b).trans told).snoc b .endConnect) rfl
    (Stage.rank_pop? here) fun _ => lighter

/-- A listener of what a read has found has returned. -/
theorem nears_of_found (relieves : l.Relieves limit t) (b : Balanced (ofTick base t l))
    {passes : Nat} {rest : List HandleId} {productive : Bool} {failure : Option ListenerError}
    (here : t.stage = .reads passes (h :: rest) productive) (less : l'.arrivals < l.arrivals)
    (way : Comes enter (ofTick base t l) ⟨l',
      .tick { t with stage := .reads passes rest true } :: base, .returned failure⟩) :
    Nears enter limit base l t := by
  refine nears_of_returned relieves b way rfl ?_ fun _ => Loop.burden_lt_of_arrivals ?_
  · rw [here]
    exact Stage.rank_read ..
  · rw [here]
    exact less

/-- A tick goes on by itself. -/
theorem nears_of_still {t' : Tick} (relieves : l.Relieves limit t) (b : Balanced (ofTick base t l))
    (rule : Rule Memory.transport enter (ofTick base t l) (ofTick base t' l'))
    (error : t'.error = t.error) (nearer : t'.stage.rank < t.stage.rank)
    (burden : l'.burden t'.stage.batch ≤ l.burden t.stage.batch)
    (eventful : t'.eventful = true → t.eventful = true ∧ t.stage.vacant = true ∨
      t'.stage.vacant = false) :
    Nears enter limit base l t :=
  ⟨t', l', nearer, relieves.still error burden eventful, .of_rule rule b⟩

/-- A read has found nothing. -/
theorem nears_of_nothing (relieves : l.Relieves limit t) (b : Balanced (ofTick base t l))
    {passes : Nat} {rest : List HandleId} {productive : Bool}
    (here : t.stage = .reads passes (h :: rest) productive)
    (rule : Rule Memory.transport enter (ofTick base t l)
      (ofTick base { t with stage := .reads passes rest productive } l'))
    (arrivals : l'.arrivals ≤ l.arrivals) (holdings : l'.holdings ≤ l.holdings) :
      Nears enter limit base l t := by
  refine nears_of_still relieves b rule rfl ?_ (Loop.burden_le ?_ holdings) fun some => .inl ?_
  · rw [here]
    exact Stage.rank_read ..
  · rw [here]
    exact arrivals
  · rw [here]
    exact ⟨by simpa [Tick.eventful, here, Stage.productive] using some, rfl⟩

/-- A tick that is not at its end takes its next item and comes nearer to its end. -/
theorem nears (gentle : Gentle (H := Memory.host S N C) embed enter)
    (orderly : Orderly (ofTick base t l)) (relieves : l.Relieves limit t)
    (left : t.stage ≠ .reclaims []) : Nears enter limit base l t := by
  obtain ⟨b, coupled, size, positive, sized⟩ := orderly
  have sized : l.Sized size := sized
  have room {h : HandleId} {x : Handle C} (found : l.handles.get? h = some x) :
      0 < (readBuffer l x).size := by
    rw [sized.readBuffer found]
    exact positive
  have finds {h : HandleId} {x : Handle C} {status : ReadStatus} {bytes : List UInt8}
      {l₁ : Loop (Memory.host S N C)} (found : l.handles.get? h = some x)
      (read : l.ask (Memory.transport.read t.waker h (readBuffer l x).size) = ((status, bytes), l₁))
      (some : status ≠ .pending) : l₁.arrivals < l.arrivals := by
    have less := (Loop.arrivals_read l t.waker h (room found)).2 (by rw [read]; exact some)
    rwa [read] at less
  have rule : Rule Memory.transport enter (ofTick base t l) (advance Memory.transport l base t) :=
    rule_of_advance l base t
  generalize advance Memory.transport l base t = y at rule
  have b' := b.rule rule
  have goes : Comes enter (ofTick base t l) y := .of_rule rule b
  have taken := rule
  cases rule with
  | endTick here => exact (left here).elim
  | collect here =>
    refine nears_of_still relieves b taken rfl ?_ (le_of_eq ?_) (Tick.eventful_refill ?_ rfl)
    · simp [here, Loop.beginCompletions, Stage.rank, Prod.Lex.toLex_lt_toLex]
    · rw [Loop.burden_beginCompletions, here]
      rfl
    · rw [here]
      rfl
  | firstPass here =>
    refine nears_of_still relieves b taken rfl ?_ (le_of_eq (by rw [here]; rfl)) fun some => .inl ?_
    · simp [here, Loop.beginPass, Stage.rank, Prod.Lex.toLex_lt_toLex]
    · rw [here]
      exact ⟨by simpa [Tick.eventful, Loop.beginPass, Stage.productive, here] using some, rfl⟩
  | nextPass here more =>
    refine nears_of_still relieves b taken rfl ?_ (le_of_eq (by rw [here]; rfl)) fun _ => .inl ?_
    · rw [here]
      exact Prod.Lex.toLex_lt_toLex.2
        (.inr ⟨rfl, Prod.Lex.toLex_lt_toLex.2 (.inl (Nat.sub_one_lt_of_lt more))⟩)
    · rw [here]
      exact ⟨by simp [Tick.eventful, here, Stage.productive], rfl⟩
  | beginReclaims here =>
    refine nears_of_still relieves b taken rfl ?_ (le_of_eq (by rw [here]; rfl)) fun some => ?_
    · simp [here, Loop.beginReclaims, Stage.rank, Prod.Lex.toLex_lt_toLex]
    · refine (Tick.eventful_refill (by rw [here]; rfl) rfl some).imp_left fun some => ⟨?_, some.2⟩
      simpa [Tick.eventful, here, Stage.productive, or_right_comm] using some.1
  | skipReport here report gone =>
    have fits := (Coupled.take coupled here).fits List.mem_cons_self
    obtain ⟨r, pending⟩ := fits.pending (by simp [Completion.names, report]; rfl)
    cases gone.symm.trans pending
  | completeWrite here _ pending =>
    exact nears_of_delivered gentle relieves b here pending taken rfl rfl
  | completeShutdown here _ pending =>
    refine nears_of_delivered gentle relieves b here pending taken ?_ ?_
    · exact Loop.arrivals_congr (by simp) (by simp) (by simp)
    · exact Loop.holdings_congr (by simp) (ids_settleShutdown ..)
  | completeConnect here _ pending | failConnect here _ pending =>
    exact nears_of_connecting gentle relieves b here pending taken rfl
  | dropConnect here _ pending =>
    have counted := Stage.connections_pop? here
    have connects := (Loop.burden_remove pending).1
    simp only [Request.connects, if_true] at connects
    refine nears_of_less relieves goes rfl (Stage.rank_pop? here) (Loop.burden_lt_of_arrivals ?_)
    rw [Loop.arrivals_release, counted]
    exact Nat.add_lt_add_of_lt_of_le (Nat.lt_of_lt_of_eq (Nat.lt_succ_self _) connects)
      (Nat.le_add_right ..)
  | connection here =>
    obtain ⟨failure, l', less, told⟩ := comes_told gentle b'
    refine nears_of_returned relieves b (goes.trans told) rfl (Stage.rank_pop? here) fun _ =>
      Loop.burden_lt_of_arrivals ?_
    rw [Stage.connections_pop? here]
    exact Nat.lt_succ_of_le (Nat.add_le_add_right less _)
  | dropConnection here =>
    refine nears_of_less relieves goes rfl (Stage.rank_pop? here) (Loop.burden_lt_of_arrivals ?_)
    rw [Stage.connections_pop? here]
    exact Nat.lt_succ_self _
  | skipRead here => exact nears_of_nothing relieves b here taken (Nat.le_refl _) (Nat.le_refl _)
  | @refuseRead _ _ _ passes h rest productive x here =>
    refine ⟨_, l, ?_, .inl rfl, goes⟩
    rw [here]
    exact lt_of_le_of_lt (Stage.rank_abandoned passes rest productive) (Stage.rank_read ..)
  | readNothing here found reading free read =>
    obtain rfl := congrArg Prod.snd read
    refine nears_of_nothing relieves b here taken (Loop.arrivals_read l t.waker _ (room found)).1
      (Nat.le_of_eq ?_)
    exact Loop.holdings_congr rfl (Loop.ids_modifyHandle ..)
  | readData here found reading free read filled =>
    obtain ⟨failure, l', less, told⟩ := comes_told gentle b'
    have some := finds found read (by simp)
    have way := (goes.trans told).snoc b .endLoan
    refine nears_of_found relieves b here ?_ way
    exact Nat.lt_of_le_of_lt less some
  | readEof here found reading free read | readFailed here found reading free read =>
    obtain ⟨failure, l', less, told⟩ := comes_told gentle b'
    rw [Loop.arrivals_endReading] at less
    have some := finds found read (by simp)
    exact nears_of_found relieves b here (Nat.lt_of_le_of_lt less some) (goes.trans told)
  | skipReclaim here gone =>
    unfold Balanced at b
    simp only [ofTick, List.flatMap_cons, Frame.due, here, Stage.due] at b
    obtain ⟨x, found, -⟩ := b.reclaimable_of_due
    cases gone.symm.trans found
  | breach => cases b'.sound
  | @reclaim _ _ _ h batch x here found =>
    have gone : ((takeHandle l h x).meterAsync h .close true).handles.get? h = none :=
      (Registry.get?_remove ..).trans (if_pos rfl)
    have created : h < l.handles.next := Registry.lt_next_of_get? found
    obtain ⟨failure, l', less, held, told⟩ := comes_reclaimed gentle gone created b'
    have removed := Registry.size_remove found
    refine nears_of_returned relieves b (goes.trans told) rfl ?_ fun ended =>
      Loop.burden_lt_of_holdings ?_ ?_
    · simp [here, Stage.rank, Prod.Lex.toLex_lt_toLex]
    · rw [here]
      exact less
    · rw [held ended]
      simp only [Loop.holdings, Loop.meterAsync_frame, takeHandle_frame]
      omega

/-- A tick comes to its end, and relieves its loop. -/
theorem comes_ticked (gentle : Gentle (H := Memory.host S N C) embed enter)
    (orderly : Orderly (ofTick base t l)) (relieves : l.Relieves limit t) :
    ∃ t' l', t'.stage = .reclaims [] ∧ l'.Relieves limit t' ∧
      Comes enter (ofTick base t l) ⟨l', base, .ticked t'.result⟩ := by
  generalize far : t.stage.rank = r
  induction r using WellFoundedLT.induction generalizing t l with
  | ind r ih =>
    by_cases left : t.stage = .reclaims []
    · exact ⟨t, l, left, relieves, .of_rule (.endTick left) orderly.balanced⟩
    · obtain ⟨t₁, l₁, nearer, relieves₁, first⟩ := nears gentle orderly relieves left
      obtain ⟨t', l', ended, relieved, rest⟩ :=
        ih t₁.stage.rank (far ▸ nearer) (orderly.comes first) relieves₁ rfl
      exact ⟨t', l', ended, relieved, first.trans rest⟩

/-- A tick that returns that it did some work has left less of a burden. -/
theorem less_of_relieved (ended : t.stage = .reclaims []) (relieved : l.Relieves limit t)
    (worked : t.result = .ok true) :
    l.burden [] < limit := by
  have unfailed : t.error = none := by
    cases failed : t.error with
    | none => rfl
    | some e => rw [Tick.result, failed] at worked; cases worked
  rw [Tick.result, unfailed] at worked
  rw [Loop.Relieves, unfailed, ended] at relieved
  obtain none | ⟨-, worth⟩ := relieved
  · cases none
  · exact (worth (Tick.eventful_iff.2 (.inl (Except.ok.inj worked)))).resolve_right
      (by simp [Stage.vacant])

/-- A run of the loop that is about to tick comes to its end. -/
theorem comes_run (gentle : Gentle (H := Memory.host S N C) embed enter)
    {next : Except LoopError Bool → Program (Memory.host S N C)}
    (orderly : Orderly (beginTick (.running .default next :: stack) l .idle)) :
    ∃ a l', Comes enter (beginTick (.running .default next :: stack) l .idle)
      ⟨l', stack, .run (next a)⟩ := by
  generalize left : l.burden [] = limit
  induction limit using WellFoundedLT.induction generalizing l with
  | ind limit ih =>
    have b := orderly.balanced
    obtain ⟨t, l', ended, relieved, way⟩ := comes_ticked gentle orderly (l.relieves_beginTick .idle)
    rcases result : t.result with e | worked
    · rw [result] at way
      exact ⟨_, _, way.snoc b .runFailed⟩
    · rw [result] at way
      cases stop : l'.stopping || RunMode.default ≠
        .default || !worked || !Loop.alive { l' with stopping := false } with
      | true => exact ⟨_, _, way.snoc b (.endRun stop)⟩
      | false =>
        obtain rfl : worked = true := by
          cases worked with
          | true => rfl
          | false => simp at stop
        have way := way.snoc b (.runAgain stop)
        have less : l'.burden [] < limit := left ▸ less_of_relieved ended relieved result
        obtain ⟨a, l'', rest⟩ := ih _ less (orderly.comes way) rfl
        exact ⟨a, l'', way.trans rest⟩

end Machine

open Machine

/-- A default run of a loop in memory returns after finitely many steps, whatever has led to it, as
long as the handlers from then on only observe or are those of the echo server. -/
theorem default_run_returns {enter₀ : Handlers (Memory.host S N C)} {embed : Echo.Closure → C}
    (gentle : Gentle (H := Memory.host S N C) embed enter) {options : Options} {shared : S}
    {p : Program (Memory.host S N C)} {before : List (Machine (Memory.host S N C))}
    {l : Loop (Memory.host S N C)} {stack : List (Frame (Memory.host S N C))}
    {next : Except LoopError Bool → Program (Memory.host S N C)}
    (run : Run Memory.transport enter₀ (start p (.fresh options Memory.initial shared)) before
      ⟨l, stack, .run (.call (.run .default) next)⟩) :
    ∃ during l' a, Steps Memory.transport enter ⟨l, stack, .run (.call (.run .default) next)⟩ during
      ⟨l', stack, .run (next a)⟩ := by
  have orderly := Orderly.of_run run
  have begun : Rule Memory.transport enter ⟨l, stack, .run (.call (.run .default) next)⟩ _ :=
    .runLoop
  obtain ⟨a, l', rest⟩ := comes_run gentle (orderly.rule begun)
  obtain ⟨during, steps⟩ := (Comes.of_rule begun orderly.balanced).trans rest
  exact ⟨during, l', a, steps⟩

/-- A client has been accepted and has sent all of its data, and another one waits to be accepted
when the loop is run. -/
def Echo.Server.crowded : Program (Echo.host Memory Memory.Script) :=
  .call (.issue (.newHandle .tcp)) fun (server : HandleId) =>
  .call (.listen server none Closure.onConnection) fun _ =>
  .call (.script (.pushConnection server)) fun _ =>
  .call (.tick .idle) fun _ =>
  .call (.script (.pushData 1 [1, 2, 3])) fun _ =>
  .call (.script (.pushEof 1)) fun _ =>
  .call (.script (.pushConnection server)) fun _ =>
  .call (.run .default) fun _ => .skip

/-- The server with its visitors after so many steps. -/
def Echo.Server.crowding (steps : Nat) : Machine (Echo.host Memory Memory.Script) :=
  (start crowded (.fresh .standard Memory.initial ())).run Memory.transport
    (Echo.handlers _ _) steps

/-- The server comes back from the run in which it is to echo the data, to close the one client, and
to accept the other. -/
theorem default_run_returns_for_server :
    (Echo.Server.crowding 30).loop.arrivals = 6 ∧
      ∃ during l', Steps Memory.transport (Echo.handlers _ _)
        (Echo.Server.crowding 30) during ⟨l', [], .run .skip⟩ := by
  obtain ⟨before, run, -⟩ :=
    Run.exists_of_run Memory.transport (Echo.handlers _ _) (Echo.Server.crowding 0) 30
  have gentle : Gentle (H := Memory.host Unit Empty Echo.Closure) id (Echo.handlers _ _) :=
    fun c _ => .inr ⟨c, rfl⟩
  have run : Run Memory.transport (Echo.handlers _ _) (Echo.Server.crowding 0) before
      ⟨(Echo.Server.crowding 30).loop, [], .run (.call (.run .default) fun _ => .skip)⟩ := run
  obtain ⟨during, l', -, steps⟩ := default_run_returns gentle run
  exact ⟨by decide +kernel, during, l', steps⟩

end Reactor
