import Reactor.Proofs.Echo.Accounts
import Reactor.Proofs.Memory.Writing

/-!
# An echo server echoes exactly

As long as nothing goes wrong, what is pushed for a client before its end is, in this order, what
was written to the client, what is held back for it, and what it has not read. No stream is shut or
closed before all of it is written.
-/

namespace Reactor

/-- The bytes of tokens before the first that ends the stream. -/
def bytesBeforeEnd : List Token → List UInt8
  | .byte b :: tokens => b :: bytesBeforeEnd tokens
  | .failed _ :: tokens => bytesBeforeEnd tokens
  | .endOfStream :: _ | [] => []

/-- Bytes ahead of some tokens come before the end among them. -/
theorem bytesBeforeEnd_append (bytes : List UInt8) (tokens : List Token) :
    bytesBeforeEnd (bytes.map .byte ++ tokens) = bytes ++ bytesBeforeEnd tokens := by
  induction bytes with
  | nil => rfl
  | cons b bytes ih => exact congrArg (b :: ·) ih

/-- The bytes before an end that was told are those that were told before it. -/
theorem bytesBeforeEnd_of_ended {told pushed : List Token} {bytes : List UInt8}
    (ended : told = bytes.map .byte ++ [.endOfStream]) (first : told <+: pushed) :
    .endOfStream ∈ told ∧ bytesBeforeEnd pushed = bytes := by
  obtain ⟨rest, rfl⟩ := first
  rw [ended, List.append_assoc, bytesBeforeEnd_append]
  exact ⟨by simp, List.append_nil _⟩

/-- Before the end come the bytes that were told when no end was, and then those that come before it
in what was not. -/
theorem bytesBeforeEnd_of_going {told unread pushed : List Token} {bytes : List UInt8}
    (going : told = bytes.map .byte) (whole : told ++ unread = pushed) :
    .endOfStream ∉ told ∧ bytesBeforeEnd pushed = bytes ++ bytesBeforeEnd unread := by
  rw [← whole, going, bytesBeforeEnd_append]
  exact ⟨by simp, rfl⟩

namespace Echo.Server

open Machine

variable {options : Options} {address : SocketAddress} {p : Program Hosted}
  {past : List (Machine Hosted)} {m : Machine Hosted} {c : HandleId}

/-! ## What is known along a run -/

/-- What is heard of a handle at a machine is the news of it. -/
theorem heard_eq {S N C : Type} (m : Machine (Memory.host S N C)) (h : HandleId) :
    m.heard h = toldOf m.news?.toList h := by
  obtain ⟨l, stack, control⟩ := m
  cases control with
  | emit k e => exact (heard_of_emit rfl).trans (toldOf_told k e h).symm
  | enter _ o => cases o <;> exact heard_of_untold rfl
  | _ => exact heard_of_untold rfl

/-- What the news of a run tell a client is what its listeners heard. -/
theorem toldOf_filterMap {S N C : Type} (past : List (Machine (Memory.host S N C))) (h : HandleId) :
    toldOf (past.filterMap news?) h = past.flatMap (heard h) := by
  induction past with
  | nil => rfl
  | cons x past ih =>
    rw [List.flatMap_cons, heard_eq, ← ih, ← toldOf_append]
    cases news : x.news? <;> simp [news]

/-- Requests stand to what a transport holds back and reports as they are to. -/
theorem Tracked.of_run {p : Program Hosted}
    (run : Run Memory.transport (handlers _ _) (start p (.fresh options Memory.initial ())) past m)
    (attends : Attends m.loop.outline m.batches) : Tracked m.loop.outline m.batches := by
  have coupled := Coupled.of_run run
  have booked := Booked.of_run run
  constructor
  case reported =>
    intro d hd req outcome c report pending
    obtain rfl := (coupled.fits hd).shutdown_of_report report pending
    refine ⟨rfl, Option.eq_none_iff_forall_not_mem.2 fun req' waits => ?_⟩
    obtain ⟨callback, there⟩ := coupled.heldShutdown waits
    obtain rfl := coupled.single pending there
    -- The request would be held back and under way at the same time.
    have once : (m.loop.net.endpoint c).holds req + namings (m.loop.underway m.batches) req = 1 :=
      coupled.once pending
    have underway : 0 < namings (m.loop.underway m.batches) req :=
      List.countP_pos_iff.2 ⟨_, hd, decide_eq_true rfl⟩
    have held : (m.loop.net.endpoint c).holds req ≠ 0 :=
      fun none => (Endpoint.holds_eq_zero_iff.1 none).2 waits
    omega
  case known =>
    intro d hd req outcome report unknown
    obtain ⟨r, pending⟩ :=
      (coupled.fits hd).pending (show d.names req = true by simp [Completion.names, report])
    cases unknown.symm.trans pending
  case slot => exact fun c req waits => coupled.heldShutdown waits
  case silent =>
    intro req c pending
    obtain ⟨client, -⟩ := attends.requests req _ pending
    obtain ⟨x, found, state⟩ := coupled.shutting pending
    have alive := Loop.life_of_some found
    rw [show m.loop.outline.life c = _ from alive]
    cases attends.clients c _ client alive with
    | attending _ connected => rcases state with state | state <;> cases state.symm.trans connected
    | ending _ _ silent | closing _ _ silent => exact silent
  case holding => exact booked.ledger.holding
  case emptied => exact fun c shut => booked.ledger.emptied c (.inl shut)

/-- A client that was shut reads no more. -/
theorem spent_of_shut (coupled : m.Coupled) (attends : Attends m.loop.outline m.batches)
    (shut : (m.loop.net.endpoint c).shut = true) : c ≠ listener ∧ (m.loop.life c).spent := by
  obtain ⟨known, past⟩ := (coupled.mirrors c).shut shut
  have client : c ≠ listener := by
    rintro rfl
    obtain ⟨s, there, listening, -⟩ := attends.listens
    obtain ⟨x, found, rfl⟩ := Loop.exists_of_life there
    have past := past x found
    rw [show x.state = .listening from listening] at past
    cases past
  refine ⟨client, ?_⟩
  cases found : m.loop.handles.get? c with
  | none =>
    rw [Loop.life, found]
    exact (if_pos known).symm ▸ trivial
  | some x =>
    have alive := Loop.life_of_some found
    rw [alive]
    cases attends.clients c _ client alive with
    | attending _ connected =>
      have past := past x found
      rw [show x.state = .connected from connected] at past
      cases past
    | ending _ _ silent | closing _ _ silent => exact silent

/-- A client that is closing or gone was closed. -/
theorem closed_of_retired (retired : m.loop.Retired c) : (m.loop.life c).closed := by
  obtain ⟨known, marked⟩ := retired
  cases found : m.loop.handles.get? c with
  | none =>
    rw [Loop.life, found]
    exact (if_pos known).symm ▸ trivial
  | some x =>
    rw [Loop.life_of_some found]
    exact marked x found

/-- Nothing was told of any client, and nothing is accepted for any, when a
server begins to listen. -/
theorem echoed_opened (options : Options) (address : SocketAddress) :
    Flawless (opened options address).outline [] ∧ Echoed [] (opened options address).outline := by
  rw [outline_opened]
  refine ⟨⟨⟨rfl, rfl, rfl⟩, fun d hd => (List.not_mem_nil hd).elim,
    fun req outcome c hd => (List.not_mem_nil hd).elim⟩, ?_⟩
  constructor
  case bytes =>
    intro c _
    have calm := Memory.Calm.trans (m := .initial) (.bind (h := listener) address)
      (.listen (h := listener) options.defaultBacklog)
    exact congrArg (List.map Token.byte) (Endpoint.accepted_of_calm (calm.endpoint c)).symm
  case ended =>
    intro c client spent
    rw [show Outline.life _ c = .unborn from if_neg client] at spent
    exact spent.elim
  case shut =>
    intro c client closed
    rw [show Outline.life _ c = .unborn from if_neg client] at closed
    exact closed.elim

/-! ## Runs -/

/-- How what a server has written stands to what was pushed for its clients, up
to a machine of a run. -/
structure EchoesExactly (past : List (Machine Hosted)) (m : Machine Hosted) : Prop where
  /-- What was pushed for a client before its end was written to it, is held back for it or has not
  been read, in this order. -/
  exact : ∀ c, bytesBeforeEnd (past.flatMap (pushed c)) =
    (m.loop.net.endpoint c).written ++ (m.loop.net.endpoint c).heldBytes ++
      if .endOfStream ∈ past.flatMap (heard c) then [] else bytesBeforeEnd (m.unread c)
  /-- To a client that was shut all was written that was pushed before its end. -/
  shut : ∀ c, (m.loop.net.endpoint c).shut = true → .endOfStream ∈ past.flatMap (pushed c) ∧
    (m.loop.net.endpoint c).written = bytesBeforeEnd (past.flatMap (pushed c))
  /-- A client was shut before it is closed. -/
  closed : ∀ c, (m.loop.net.endpoint c).closed = true → (m.loop.net.endpoint c).shut = true
  /-- Nothing is written to a client but what was pushed for it, from the beginning. -/
  own : ∀ c, (m.loop.net.endpoint c).written <+: bytesBeforeEnd (past.flatMap (pushed c))

end Echo.Server

/-- What was told of a handle after a beginning in which nothing was pushed for it or told
of it is the first of what was pushed; and if the handle was not closed, all of it but for
what it has not read. -/
theorem Machine.Run.heard_after {S N C : Type} {enter : Handlers (Memory.host S N C)}
    {options : Options} {shared : S} {p : Program (Memory.host S N C)}
    {before past : List (Machine (Memory.host S N C))} {m : Machine (Memory.host S N C)}
    {h : HandleId}
    (run : Run Memory.transport enter (start p (.fresh options Memory.initial shared))
      (before ++ past) m)
    (quiet : ∀ x ∈ before, x.pushed h = [] ∧ x.heard h = []) (untold : m.heard h = []) :
    past.flatMap (heard h) <+: past.flatMap (pushed h) ∧
      (¬m.loop.Retired h → past.flatMap (heard h) ++ m.unread h = past.flatMap (pushed h)) := by
  have pushes : (before ++ past).flatMap (pushed h) = past.flatMap (pushed h) := by
    rw [List.flatMap_append, List.flatMap_eq_nil_iff.2 fun x hx => (quiet x hx).1, List.nil_append]
  have hears : (before ++ past ++ [m]).flatMap (heard h) = past.flatMap (heard h) := by
    rw [List.append_assoc, List.flatMap_append,
      List.flatMap_eq_nil_iff.2 fun x hx => (quiet x hx).2, List.nil_append, List.flatMap_append,
      List.flatMap_singleton, untold, List.append_nil]
  rw [← pushes, ← hears]
  refine ⟨run.first h, fun unretired => run.whole fun i hi closure closed => unretired ?_⟩
  exact Reached.retired ⟨_, _, _, _, run⟩ hi closed

/-- A benign script pushes no failure. -/
theorem Machine.unfailed_of_benign {S N C : Type} {m : Machine (Memory.host S N C)}
    (benign : ∀ s, m.script? = some s → s.benign = true) (h : HandleId) (status : Status) :
    .failed status ∉ m.pushed h := by
  unfold pushed
  split
  case h_1 s next control =>
    have benign := benign s (by rw [script?, control])
    cases s with
    | pushData k | pushEof k => by_cases same : k = h <;> simp [Memory.Script.tokens, same]
    | pushReadError => cases benign
    | _ => exact List.not_mem_nil
  case h_2 => exact List.not_mem_nil

namespace Echo.Server

open Machine

variable {options : Options} {address : SocketAddress} {p : Program Hosted}
  {past : List (Machine Hosted)} {m : Machine Hosted} {c : HandleId}

/-- When no handler is at work, what was told of each client was accepted for it. -/
theorem echoed_of_run
    (run : Run Memory.transport (handlers _ _) (start p (opened options address)) past m)
    (plays : ∀ x ∈ past, (x.stack = [] → x.uses = false) ∧
      ∀ s, x.script? = some s → s.benign = true)
    (outside : m.inside = false) :
    Attends m.loop.outline m.batches ∧ (∀ c, m.heard c = []) ∧
      Echoed (past.filterMap news?) m.loop.outline := by
  -- Each turn keeps it of which nobody learns that something has failed.
  obtain ⟨driven, attends, kept⟩ := serves (·.benign = true) (fun news o batch =>
    (∀ c status, .failed status ∉ toldOf news c) → Flawless o batch ∧ Echoed news o) run plays
    (fun _ => echoed_opened options address)
      (fun before x run driven attends kept new o' batch' turn unharmed => by
      obtain ⟨opening, whole, -⟩ := exists_of_opened run
      obtain ⟨flawless, echoed⟩ := kept fun c status failed => unharmed c status <| by
        rw [toldOf_append]
        exact List.mem_append_left _ failed
      refine turn.exact attends (.of_run whole attends) flawless echoed fun c status failed =>
        unharmed c status ?_
      rw [toldOf_append]
      exact List.mem_append_right _ failed) outside
  have untold (c : HandleId) : m.heard c = [] := by
    cases driven <;> exact heard_of_untold rfl
  -- What is told was pushed, and no failure is.
  obtain ⟨before, whole, quiet⟩ := exists_of_opened run
  refine ⟨attends, untold, (kept fun c status failed => ?_).2⟩
  have told : toldOf (past.filterMap news?) c = past.flatMap (heard c) := toldOf_filterMap past c
  rw [told] at failed
  have first := (whole.heard_after (fun x hx => quiet x hx c) (untold c)).1
  obtain ⟨x, hx, pushed⟩ := List.mem_flatMap.1 (first.subset failed)
  exact unfailed_of_benign (plays x hx).2 c status pushed

/-- As long as nothing is made to go wrong, an echo server writes to each client what was pushed for
it before its end, all of it and nothing else. -/
theorem echoes_exactly
    (run : Run Memory.transport (handlers _ _) (start p (opened options address)) past m)
    (plays : ∀ x ∈ past, (x.stack = [] → x.uses = false) ∧
      ∀ s, x.script? = some s → s.benign = true)
    (outside : m.inside = false) : EchoesExactly past m := by
  obtain ⟨attends, untold, echoed⟩ := echoed_of_run run plays outside
  obtain ⟨before, whole, quiet⟩ := exists_of_opened run
  have coupled := Coupled.of_run whole
  have told (c : HandleId) : toldOf (past.filterMap news?) c = past.flatMap (heard c) :=
    toldOf_filterMap past c
  have heard (c : HandleId) := whole.heard_after (fun x hx => quiet x hx c) (untold c)
  have ended {c} (client : c ≠ listener) (spent : (m.loop.life c).spent) :
      .endOfStream ∈ past.flatMap (Machine.heard c) ∧
        bytesBeforeEnd (past.flatMap (pushed c)) = (m.loop.net.endpoint c).accepted :=
    bytesBeforeEnd_of_ended ((told c).symm.trans (echoed.ended c client spent)) (heard c).1
  have exact (c : HandleId) :
      bytesBeforeEnd (past.flatMap (pushed c)) =
        (m.loop.net.endpoint c).accepted ++
          if .endOfStream ∈ past.flatMap (Machine.heard c) then []
          else bytesBeforeEnd (m.unread c) := by
    by_cases open_ : c = listener ∨ ¬(m.loop.life c).spent
    · have unretired : ¬m.loop.Retired c := fun retired => by
        obtain ⟨client, spent⟩ := attends.spent_of_closed (closed_of_retired retired)
        exact open_.elim client (· spent)
      obtain ⟨unended, bytes⟩ :=
        bytesBeforeEnd_of_going ((told c).symm.trans (echoed.bytes c open_)) ((heard c).2 unretired)
      rw [if_neg unended]
      exact bytes
    · obtain ⟨client, spent⟩ := not_or.1 open_
      obtain ⟨last, bytes⟩ := ended client (Classical.not_not.1 spent)
      rw [if_pos last, List.append_nil]
      exact bytes
  constructor
  case exact => exact exact
  case shut =>
    intro c shut
    obtain ⟨client, spent⟩ := spent_of_shut coupled attends shut
    obtain ⟨last, bytes⟩ := ended client spent
    have emptied := (Tracked.of_run whole attends).emptied c shut
    exact ⟨(heard c).1.subset last, (bytes.trans (Endpoint.accepted_of_empty emptied)).symm⟩
  case closed =>
    intro c closed
    have closed := closed_of_retired ((coupled.mirrors c).closed.1 closed)
    exact echoed.shut c (attends.spent_of_closed closed).1 closed
  case own =>
    intro c
    rw [exact, Endpoint.accepted, List.append_assoc]
    exact List.prefix_append _ _

/-- Two clients come, and the first sends its last bytes while writes are held back. -/
def talk : Program Hosted :=
  .call (.script (.pushConnection listener)) fun _ =>
  .call (.script (.pushConnection listener)) fun _ =>
  .call (.script .holdWrites) fun _ =>
  .call (.script (.pushData 1 [1, 2])) fun _ =>
  .call (.script (.pushEof 1)) fun _ =>
  .call (.tick .idle) fun _ =>
  .call (.script .flushWrites) fun _ =>
  .call (.tick .idle) fun _ => .skip

/-- The server of the two clients after so many steps. -/
def talked (steps : Nat) : Machine Hosted :=
  (start talk (opened .standard (.v4 ⟨127, 0, 0, 1⟩ 80))).run Memory.transport (handlers _ _) steps

/-- What the first client has sent is held back for it before the flush; in the end the client is
closed, and all of it was written to it. Nothing was written to the second. -/
theorem echoes_exactly_for_two :
    (bytesBeforeEnd (((List.range 63).map talked).flatMap (pushed 1)) = [1, 2] ∧
      ((talked 63).loop.net.endpoint 1).written = [] ∧
      ((talked 63).loop.net.endpoint 1).heldBytes = [1, 2]) ∧
    ((talked 93).loop.net.endpoint 1).closed = true ∧
      ((talked 93).loop.net.endpoint 1).written = [1, 2] ∧
      ((talked 93).loop.net.endpoint 2).written = [] := by
  have goes : (List.range 93).all (fun k =>
      ((talked k).step? Memory.transport (handlers _ _)).isSome) = true := by rfl
  have played : (List.range 93).all (fun k => (!(talked k).stack.isEmpty || !(talked k).uses) &&
      (talked k).script?.all (·.benign)) = true := by rfl
  have echoes (steps : Nat) (less : steps ≤ 93) (outside : (talked steps).inside = false) :
      EchoesExactly ((List.range steps).map talked) (talked steps) := by
    have run : Run Memory.transport (handlers _ _)
        (start talk (opened .standard (.v4 ⟨127, 0, 0, 1⟩ 80))) ((List.range steps).map talked)
        (talked steps) := .of_steps _ _ _ <| List.all_eq_true.2 fun k hk =>
      List.all_eq_true.1 goes k (List.mem_range.2 (Nat.lt_of_lt_of_le (List.mem_range.1 hk) less))
    refine echoes_exactly run (fun x hx => ?_) outside
    obtain ⟨k, hk, rfl⟩ := List.mem_map.1 hx
    have plays :=
      List.all_eq_true.1 played k (List.mem_range.2 (Nat.lt_of_lt_of_le (List.mem_range.1 hk) less))
    rw [Bool.and_eq_true] at plays
    refine ⟨fun here => by simpa [here] using plays.1, fun s script => ?_⟩
    rw [script] at plays
    exact plays.2
  have pushes : bytesBeforeEnd (((List.range 93).map talked).flatMap (pushed 1)) = [1, 2] := by rfl
  have closed : ((talked 93).loop.net.endpoint 1).closed = true := by rfl
  have before := echoes 63 (by decide) rfl
  have after := echoes 93 (by decide) rfl
  refine ⟨⟨?_, by rfl, by rfl⟩, closed, (after.shut 1 (after.closed 1 closed)).2.trans pushes, ?_⟩
  · exact before.exact 1
  · exact List.prefix_nil.1 (after.own 2)

end Echo.Server

end Reactor
