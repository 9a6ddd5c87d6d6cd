import Reactor.Proofs.Metrics.Tallies
import Reactor.Proofs.Stream

/-!
# The metrics balance

All that was ever sent to the collectors of a loop is one trace. In it every call that was
dispatched has ended, as brackets do; what a call began and no later result has ended is what is
pending or closing still; and what was read is what was told. Every collector has got this trace.
-/

namespace Reactor

variable {H : Host} {T : Transport H.Net H.Script} {enter : Handlers H}

/-- What one collector got, oldest first. -/
def Loop.receivedBy (l : Loop H) (c : Collector) : List Sample :=
  l.samples.filterMap fun (collector, s) => if collector = c then some s else none

/-- What two merged collectors, of which each may be missing, got of a trace. -/
structure Loop.Shares (l : Loop H) (first second : Option Collector) (trace : List Sample) :
    Prop where
  /-- Of each sample the first collector was told and then the second, so that each of two
  different ones got the trace. -/
  both : ∀ a b, first = some a → second = some b →
    (l.samples = trace.flatMap fun s => [(a, s), (b, s)]) ∧
      (a ≠ b → l.receivedBy a = trace ∧ l.receivedBy b = trace)
  /-- A collector that is there without the other got the trace, and nobody got anything else. -/
  alone : ∀ c, first = some c ∧ second = none ∨ first = none ∧ second = some c →
    l.samples = trace.map (c, ·) ∧ l.receivedBy c = trace
  /-- Without collectors nothing was sent. -/
  neither : first = none → second = none → l.samples = []

/-- A collector that is there once gets of every sample one copy. -/
theorem Options.filterMap_copies {o : Options} {c : Collector} (once : o.collectors.count c = 1)
    (trace : List Sample) :
    (o.copies trace).filterMap (fun (collector, s) => if collector = c then some s else none) =
      trace := by
  have each (s : Sample) (collectors : List Collector) :
      (collectors.map (·, s)).filterMap (fun (collector, s) =>
        if collector = c then some s else none) =
        List.replicate (collectors.count c) s := by
    induction collectors with
    | nil => rfl
    | cons collector rest ih =>
      by_cases same : collector = c
      · simpa [same, List.replicate_succ] using ih
      · simpa [same] using ih
  induction trace with
  | nil => rfl
  | cons s rest ih =>
    simp only [copies, List.flatMap_cons, List.filterMap_append, each, once] at ih ⊢
    rw [ih]
    rfl

/-- A sample opens a call, ends the innermost one, or is about a result that arrived later. -/
theorem Sample.cases_of_nest {opened between : List (HandleId × StreamOp)} {s : Sample}
    (nested : nest opened s = some between) :
    s.progress = .dispatched ∧ between = (s.handle, s.op) :: opened ∨
      (s.progress = .completed ∨ s.progress = .error) ∧ opened = (s.handle, s.op) :: between ∨
        (s.progress = .completedAsync ∨ s.progress = .errorAsync) ∧ opened = between := by
  obtain ⟨h, op, progress⟩ := s
  cases progress with
  | dispatched => exact .inl ⟨rfl, (Option.some.inj nested).symm⟩
  | completedAsync | errorAsync => exact .inr (.inr ⟨by simp, Option.some.inj nested⟩)
  | completed | error =>
    cases opened with
    | nil => cases nested
    | cons call rest =>
      simp only [nest, Option.ite_none_right_eq_some, Option.some.injEq] at nested
      obtain ⟨rfl, rfl⟩ := nested
      exact .inr (.inl ⟨by simp, rfl⟩)

/-- Where brackets nest, the calls that were dispatched, with those that were open, are the ones
that ended, with those that are open still. -/
theorem Sample.count_of_nest {opened left : List (HandleId × StreamOp)} {trace : List Sample}
    (nested : trace.foldlM nest opened = some left) (h : HandleId) (op : StreamOp) :
    opened.count (h, op) + trace.count ⟨h, op, .dispatched⟩ =
      left.count (h, op) + (trace.count ⟨h, op, .completed⟩ + trace.count ⟨h, op, .error⟩) := by
  induction trace generalizing opened with
  | nil =>
    obtain rfl : opened = left := by simpa using nested
    rfl
  | cons s rest ih =>
    obtain ⟨between, one, more⟩ :
        ∃ between, nest opened s = some between ∧ rest.foldlM nest between = some left := by
      simpa [List.foldlM_cons, Option.bind_eq_some_iff] using nested
    have counted := ih more
    obtain ⟨k, op', progress⟩ := s
    obtain ⟨rfl, rfl⟩ | ⟨rfl | rfl, rfl⟩ | ⟨rfl | rfl, rfl⟩ := cases_of_nest one
    all_goals
      simp [List.count_cons] at counted ⊢
      omega

namespace Machine

variable {past : List (Machine H)} {x y m : Machine H} {trace : List Sample}

/-- What a trace of samples says of the machines of a run: `past` are those that it left behind, `m`
is the one it has come to. -/
structure MetricsBalance (past : List (Machine H)) (m : Machine H) (trace : List Sample) :
    Prop where
  /-- Every sample went to every collector in turn, and nothing else went to them. -/
  sent : m.loop.samples = m.loop.options.copies trace
  /-- Every call has ended, in brackets, but those of `listen` whose listeners are being told. -/
  nested : trace.foldlM Sample.nest [] = some m.openCalls
  /-- A request that was called is pending until its result arrives. -/
  requests : ∀ kind h, trace.count ⟨h, kind.op, .completed⟩ =
    trace.count ⟨h, kind.op, .completedAsync⟩ + trace.count ⟨h, kind.op, .errorAsync⟩ +
      m.loop.pendingOf kind h
  /-- A handle that was closed is closing until it is reclaimed. -/
  closes : ∀ h, trace.count ⟨h, .close, .completed⟩ =
    trace.count ⟨h, .close, .completedAsync⟩ + if hasState m.loop h .closing then 1 else 0
  data : ∀ h, trace.count ⟨h, .read, .completedAsync⟩ = (past ++ [m]).countP (tellsData h)
  errors : ∀ h, trace.count ⟨h, .read, .errorAsync⟩ = (past ++ [m]).countP (tellsReadError h)

namespace MetricsBalance

/-- On a fresh loop, before any step, the samples balance. -/
theorem fresh (options : Options) (net : H.Net) (shared : H.Shared) (p : Program H) :
    MetricsBalance [] (start p (.fresh options net shared)) [] where
  sent := rfl
  nested := rfl
  requests _ _ := rfl
  closes _ := rfl
  data _ := rfl
  errors _ := rfl

/-- With each step the trace grows by the samples of the step. -/
theorem step (balance : MetricsBalance past x trace) (samples : Samples T x y)
    (tallies : Tallies T x y) :
    MetricsBalance (past ++ [x]) y (trace ++ x.sampled T y) where
  sent := by rw [samples.sends.samples, samples.sends.options, balance.sent, Options.copies_append]
  nested := by
    rw [List.foldlM_append, balance.nested]
    exact samples.nests
  requests kind h := by
    have before := balance.requests kind h
    have tally := tallies.requests kind h
    simp only [List.count_append]
    omega
  closes h := by
    have before := balance.closes h
    have tally := tallies.closes h
    rw [Loop.closing_life, Loop.closing_life] at tally
    simp only [List.count_append]
    omega
  data h := by
    rw [List.count_append, balance.data h, tallies.data h, List.countP_append, List.countP_append,
      List.countP_append, List.countP_singleton (a := y)]
  errors h := by
    rw [List.count_append, balance.errors h, tallies.errors h, List.countP_append,
      List.countP_append, List.countP_append, List.countP_singleton (a := y)]

/-- Where no call is open, the calls that were dispatched are those that ended. -/
theorem ended (balance : MetricsBalance past m trace) (none : m.openCalls = []) (h : HandleId)
    (op : StreamOp) :
    trace.count ⟨h, op, .dispatched⟩ = trace.count ⟨h, op, .completed⟩ +
      trace.count ⟨h, op, .error⟩ := by
  have nested := balance.nested
  rw [none] at nested
  simpa using Sample.count_of_nest nested h op

/-- A collector that is there once got the trace. -/
theorem received (balance : MetricsBalance past m trace) {c : Collector}
    (once : m.loop.options.collectors.count c = 1) :
    m.loop.receivedBy c = trace := by
  rw [Loop.receivedBy, balance.sent, Options.filterMap_copies once]

/-- Two collectors that were merged have shared the trace. -/
theorem shares (balance : MetricsBalance past m trace) {first second : Option Collector}
    (merged : m.loop.options.collectors = mergeCollectors first second) :
    m.loop.Shares first second trace where
  both a b hfirst hsecond := by
    subst hfirst hsecond
    rw [mergeCollectors_some_some] at merged
    refine ⟨by simp only [balance.sent, Options.copies, merged, List.map_cons, List.map_nil], ?_⟩
    intro distinct
    have once : m.loop.options.collectors.count a = 1 ∧ m.loop.options.collectors.count b = 1 := by
      simp [merged, distinct, Ne.symm distinct]
    exact ⟨balance.received once.1, balance.received once.2⟩
  alone c there := by
    have merged : m.loop.options.collectors = [c] := by
      rcases there with ⟨rfl, rfl⟩ | ⟨rfl, rfl⟩ <;> simpa using merged
    refine ⟨?_, balance.received (by simp [merged])⟩
    rw [balance.sent, Options.copies, merged, List.map_eq_flatMap]
    rfl
  neither hfirst hsecond := by
    subst hfirst hsecond
    rw [mergeCollectors_none_none] at merged
    simp [balance.sent, Options.copies, merged]

end MetricsBalance

/-- Along every run the metrics balance. -/
theorem Reached.balance (reached : Reached T enter past m) :
    ∃ trace, MetricsBalance past m trace := by
  refine reached.history (P := fun past m => ∃ trace, MetricsBalance past m trace) ?_ ?_
  · intro options net shared p
    exact ⟨[], .fresh options net shared p⟩
  · rintro past x y reached ⟨trace, balance⟩ next
    have sound (h : HandleId) : (x.loop.life h).Sound := (reached.lives h).sound
    exact ⟨_, balance.step next.samples (next.tallies (Balanced.of_reached reached) sound)⟩

end Machine

open Machine

/-- At every machine of every run, on any transport and with any handlers, the samples that went
to the collectors balance: they are one trace, which every collector got, two merged ones too;
outside of calls of `listen` every call in it has ended; and its results are those of the requests,
the closes and the reads of the run. -/
theorem metrics_balance {past : List (Machine H)} {m : Machine H}
    (reached : Reached T enter past m) :
    ∃ trace, MetricsBalance past m trace ∧
      (m.openCalls = [] → ∀ h op, trace.count ⟨h, op, .dispatched⟩ =
        trace.count ⟨h, op, .completed⟩ + trace.count ⟨h, op, .error⟩) ∧
      (∀ c, m.loop.options.collectors.count c = 1 → m.loop.receivedBy c = trace) ∧
      ∀ first second, m.loop.options.collectors = mergeCollectors first second →
        m.loop.Shares first second trace := by
  obtain ⟨trace, balance⟩ := reached.balance
  exact ⟨trace, balance, balance.ended, fun c once => balance.received once,
    fun first second merged => balance.shares merged⟩

namespace Client

/-- Options with two merged collectors. -/
def meteredOptions : Options :=
  { Options.standard with collectors := mergeCollectors (some "first") (some "second") }

/-- The client after so many steps, with two collectors; after 20 of them the callback of its first
write is entered, and its second write is pending. -/
def metered (steps : Nat) : Machine (Echo.host Memory Memory.Script) :=
  (start program (.fresh meteredOptions Memory.initial ())).run Memory.transport
    (Echo.handlers _ _) steps

end Client

/-- Two merged collectors of a client hear the same, and of two writes that were called one has had
its result. -/
theorem metrics_balance_for_client :
    ∃ past, Reached Memory.transport (Echo.handlers _ _) past (Client.metered 20) ∧
      (Client.metered 20).openCalls = [] ∧
      (Client.metered 20).loop.options.collectors =
        mergeCollectors (some "first") (some "second") ∧
      ∃ trace, (Client.metered 20).loop.receivedBy "first" = trace ∧
        (Client.metered 20).loop.receivedBy "second" = trace ∧
        trace.count ⟨0, .write, .dispatched⟩ =
          trace.count ⟨0, .write, .completed⟩ + trace.count ⟨0, .write, .error⟩ ∧
        trace.count ⟨0, .write, .completed⟩ =
          trace.count ⟨0, .write, .completedAsync⟩ + trace.count ⟨0, .write, .errorAsync⟩ + 1 := by
  obtain ⟨past, run, -⟩ := Run.exists_of_run Memory.transport (Echo.handlers _ _)
    (start Client.program (.fresh Client.meteredOptions Memory.initial ())) 20
  have reached : Reached Memory.transport (Echo.handlers _ _) past (Client.metered 20) :=
    ⟨Client.meteredOptions, Memory.initial, (), Client.program, run⟩
  obtain ⟨trace, balance, ended, -, shares⟩ := metrics_balance reached
  have outside : (Client.metered 20).openCalls = [] := by rfl
  have merged : (Client.metered 20).loop.options.collectors =
      mergeCollectors (some "first") (some "second") := by rfl
  obtain ⟨first, second⟩ := ((shares _ _ merged).both _ _ rfl rfl).2 (by decide)
  have pending : (Client.metered 20).loop.pendingOf .write 0 = 1 := by rfl
  have requests := balance.requests .write 0
  rw [pending] at requests
  exact ⟨past, reached, outside, merged, trace, first, second, ended outside 0 .write, requests⟩

end Reactor
