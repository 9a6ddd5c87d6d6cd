import Reactor.Proofs.Buffers.Lending
import Reactor.Proofs.Machine.Progress

/-!
# Dispatches of bytes, and ticks inside them

Bytes are told right above the loan that they lie in, and nothing else stands there. A tick that has
failed inside a handler goes on to its end, and returns the error that it failed with first.
-/

namespace Reactor

variable {H : Host} {T : Transport H.Net H.Script} {enter : Handlers H}

/-- The bytes that an event tells of. -/
def Event.view? : Event → Option (List UInt8)
  | .data view => some view
  | _ => none

/-- The bytes that work tells to listeners, with the handle that they came from. -/
def Frame.told? : Frame H → Option (HandleId × List UInt8)
  | .emission h e _ => e.view?.map (h, ·)
  | _ => none

/-- Whether each loan stands right below the work that tells of it, where `told` is
told above the stack. -/
def Frame.paired (told : Option (HandleId × List UInt8)) : List (Frame H) → Bool
  | [] => told.isNone
  | f :: rest => told = f.loan? && paired f.told? rest

namespace Machine

variable {x y m m' : Machine H} {past during : List (Machine H)} {h : HandleId} {view : List UInt8}
  {base : List (Frame H)} {e : LoopError}

/-- Whether each loan stands right below what tells of it, and each listener is entered
with what it is told. -/
def paired (m : Machine H) : Bool :=
  match m.control with
  | .emit h e => Frame.paired (e.view?.map (h, ·)) m.stack
  | .returned _ => Frame.paired (m.stack.head?.bind Frame.loan?) m.stack
  | .enter _ (.event h e) =>
    (match m.stack.head? with
      | some (.emission k e' _) => k = h && e' = e
      | _ => false) && Frame.paired none m.stack
  | _ => Frame.paired none m.stack

/-- A result is returned to whatever stands on top. -/
theorem paired_of_returned (told : Option (HandleId × List UInt8)) (stack : List (Frame H))
    (pairs : Frame.paired told stack = true) :
    Frame.paired (stack.head?.bind Frame.loan?) stack = true := by
  cases stack with
  | nil => rfl
  | cons f rest => simpa [Frame.paired] using (Bool.and_eq_true_iff.1 pairs).2

/-- In a stack that pairs loans with what is told of them, the top matches
and the rest pairs too. -/
theorem paired_of_cons {told : Option (HandleId × List UInt8)} {f : Frame H} {rest : List (Frame H)}
    (pairs : Frame.paired told (f :: rest) = true) :
    told = f.loan? ∧ Frame.paired f.told? rest = true := by
  simpa [Frame.paired] using pairs

/-- Where loans are paired with what is told of them, they still are when a callback is entered or a
future settled. -/
theorem paired_deliver {l : Loop H} {stack : List (Frame H)} {t : Tick} {req : RequestId}
    {callback : Callback H.Closure} {outcome : RequestOutcome}
    (pairs : Frame.paired none stack = true) :
    (deliver l (.tick t :: stack) req h callback outcome).paired = true := by
  cases callback with
  | closure => exact pairs
  | promise => exact pairs

/-- Each rule leaves the loans where they are told of. -/
theorem Rule.paired (rule : Rule T enter x y) (pairs : x.paired = true) : y.paired = true := by
  cases rule with
  | finish => exact paired_of_returned _ _ pairs
  | @enter l stack c o =>
    cases o with
    | event => exact (Bool.and_eq_true_iff.1 pairs).2
    | completed | closed => exact pairs
  | nextListener => exact Bool.and_eq_true_iff.2 ⟨by simp, pairs⟩
  | endEmission | endLoan => exact paired_of_returned _ _ (paired_of_cons pairs).2
  | endDelivery | endConnect | endParting => exact paired_of_returned none _ pairs
  | completeWrite | completeShutdown => exact paired_deliver pairs
  | @connection l stack t stage server status => cases status <;> exact pairs
  | readData | readFailed =>
    simpa [Machine.paired, Frame.paired, Frame.loan?, Frame.told?, Event.view?] using pairs
  | _ => exact pairs

/-- Along every run loans stand where they are told of. -/
theorem Reached.paired (reached : Reached T enter past m) : m.paired = true :=
  reached.invariant (fun _ _ _ _ => rfl) (fun _ _ pairs rule => rule.paired pairs) fun _ _ _ _ =>
    rfl

/-- A listener that hears of bytes is entered right above their loan. -/
theorem Reached.lending (reached : Reached T enter past m) {c : H.Closure}
    (control : m.control = .enter c (.event h (.data view))) :
    ∃ rest base, m.stack = .emission h (.data view) rest :: .lending h view :: base := by
  have pairs := reached.paired
  rw [Machine.paired, control] at pairs
  obtain ⟨top, pairs⟩ := Bool.and_eq_true_iff.1 pairs
  cases stack : m.stack with
  | nil => rw [stack] at top; cases top
  | cons f below =>
    rw [stack] at top pairs
    cases f with
    | emission k e rest =>
      obtain ⟨rfl, rfl⟩ : k = h ∧ e = .data view := by simpa using top
      have pairs := (paired_of_cons pairs).2
      cases below with
      | nil => cases pairs
      | cons g base =>
        have lent := (paired_of_cons pairs).1
        cases g with
        | lending => cases lent; exact ⟨rest, base, rfl⟩
        | _ => cases lent
    | _ => cases top

/-- Above a loan stands the work that tells of it, or it is about to be told of, or its
telling has returned. -/
theorem telling_of_paired {told : Option (HandleId × List UInt8)} {above : List (Frame H)}
    (pairs : Frame.paired told (above ++ .lending h view :: base) = true) :
    above = [] ∧ told = some (h, view) ∨
      ∃ above' rest, above = above' ++ [.emission h (.data view) rest] := by
  induction above generalizing told with
  | nil => exact .inl ⟨rfl, (paired_of_cons pairs).1⟩
  | cons f above ih =>
    obtain ⟨rfl, telling⟩ | ⟨above', rest, rfl⟩ := ih (paired_of_cons pairs).2
    · refine .inr ⟨[], ?_⟩
      cases f with
      | emission k e rest =>
        cases e with
        | data => cases telling; exact ⟨rest, rfl⟩
        | _ => cases telling
      | _ => cases telling
    · exact .inr ⟨f :: above', rest, rfl⟩

/-- Above a loan of bytes there is nothing yet, or nothing any more, or the
telling of just these bytes. -/
theorem Reached.telling (reached : Reached T enter past m) {above : List (Frame H)}
    (stack : m.stack = above ++ .lending h view :: base) :
    (above = [] ∧ (m.control = .emit h (.data view) ∨ ∃ failure, m.control = .returned failure)) ∨
      ∃ above' rest, above = above' ++ [.emission h (.data view) rest] := by
  have pairs := reached.paired
  unfold Machine.paired at pairs
  rw [stack] at pairs
  split at pairs
  case h_1 k e control =>
    refine (telling_of_paired pairs).imp_left fun ⟨top, told⟩ => ⟨top, .inl ?_⟩
    cases e with
    | data => cases told; exact control
    | _ => cases told
  case h_2 failure control =>
    exact (telling_of_paired pairs).imp_left fun ⟨top, _⟩ => ⟨top, .inr ⟨failure, control⟩⟩
  case h_3 =>
    refine (telling_of_paired (Bool.and_eq_true_iff.1 pairs).2).imp_left fun ⟨_, told⟩ => ?_
    cases told
  case h_4 =>
    refine (telling_of_paired pairs).imp_left fun ⟨_, told⟩ => ?_
    cases told

/-! ## Ticks that have failed -/

/-- A tick above suspended work has failed, or it has just returned the error that
it failed with first. -/
inductive Fails (e : LoopError) (base : List (Frame H)) (m : Machine H) : Prop where
  | ticking (above : List (Frame H)) (t : Tick) (stack : m.stack = above ++ .tick t :: base)
      (failed : t.error = some e)
  | ended (stack : m.stack = base) (control : m.control = .ticked (.error e))

/-- What a tick that has failed does next leaves it with the error. -/
theorem Fails.top {t : Tick} (stack : x.stack = .tick t :: base) (failed : t.error = some e)
    (rule : Rule T enter x y) :
    y.Fails e base := by
  have goes (pushed : List (Frame H)) (t' : Tick) (after : y.stack = pushed ++ .tick t' :: base)
      (same : t'.error = t.error) : y.Fails e base :=
    .ticking pushed t' after (same.trans failed)
  obtain ⟨l, _, control⟩ := x
  obtain rfl : _ = _ := stack
  cases rule with
  | finish | ask | issue | refuseListen | script | survey | note | recallShared | update | enter =>
    exact goes [] t rfl rfl
  | beginListen | emit => exact goes [_] t rfl rfl
  | tick | runLoop | poll => exact goes [_, _] t rfl rfl
  | @noteResult _ _ _ failure =>
    exact .ticking [] _ rfl (by rw [t.error_note, failed, Option.some_or])
  | refuseRead =>
    exact .ticking [] _ rfl ((t.error_record _).trans (by rw [failed, Option.some_or]))
  | endTick =>
    refine .ended rfl ?_
    rw [Tick.result, failed]
  | completeWrite | completeShutdown =>
    obtain ⟨pushed, after⟩ := suffix_deliver _ _ _ _ _ _
    exact goes pushed _ after.symm rfl
  | completeConnect | failConnect | readData | reclaim => exact goes [_] _ rfl rfl
  | collect | firstPass | nextPass | beginReclaims | skipReport | dropConnect | connection
    | dropConnection | skipRead | readNothing | readEof | readFailed | skipReclaim | breach =>
    exact goes [] _ rfl rfl

/-- A tick that has failed goes on to its end. -/
theorem Fails.next (fails : x.Fails e base) (busy : base.length < x.stack.length)
    (next : Next T enter x y) :
    y.Fails e base := by
  cases fails with
  | ticking above t stack failed =>
    cases next with
    | step taken =>
      have rule := (rule_of_step? taken).2
      cases above with
      | nil => exact .top stack failed rule
      | cons f above =>
        obtain ⟨pushed, after⟩ := rule.suffix_stack
        exact .ticking (pushed ++ above) t (by simp [← after, stack]) failed
    | resume p rest => simp [(atRest_iff.1 rest).2] at stack
  | ended stack => simp [stack] at busy

/-- A tick that has failed returns the error that it failed with first. -/
theorem Run.fails (run : Run T enter m during m') (fails : m.Fails e base)
    (busy : ∀ z ∈ during, base.length < z.stack.length) : m'.Fails e base := by
  induction run with
  | refl => exact fails
  | snoc _ next ih =>
    exact (ih fun z hz => busy z (List.mem_append_left _ hz)).next (busy _ (by simp)) next

/-- What was to end in an error has ended in it once the work above is done. -/
theorem Fails.ticked (fails : m.Fails e base) (stack : m.stack = base) :
    m.control = .ticked (.error e) := by
  cases fails with
  | ticking above t stack' =>
    have longer := congrArg List.length stack'
    rw [stack, List.length_append, List.length_cons] at longer
    omega
  | ended _ control => exact control

end Machine

end Reactor
