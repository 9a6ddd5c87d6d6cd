import Reactor.Proofs.Buffers.Rewrites
import Reactor.Proofs.Closing

/-!
# Lending read buffers

While bytes are told of that lie in a read buffer, a frame on the stack holds the loan. A step does
one of three things to buffers: it puts bytes into one that is not exposed, it lends one out, or it
takes back the one that was lent last. So a buffer is exposed exactly while a frame holds a loan of
it, no frame holds a second one, and what was lent out is still there.
-/

namespace Reactor

variable {H : Host} {T : Transport H.Net H.Script} {enter : Handlers H}

/-- What a frame has lent out: the handle of a read buffer, and the bytes at its start. -/
def Frame.loan? : Frame H → Option (HandleId × List UInt8)
  | .lending h view => some (h, view)
  | _ => none

namespace Machine

variable {x y m : Machine H} {past : List (Machine H)} {h : HandleId} {view : List UInt8}

/-- What is lent out, innermost first. -/
def loans (m : Machine H) : List (HandleId × List UInt8) := m.stack.filterMap Frame.loan?

/-- The loans of a machine are those that its stack holds. -/
theorem mem_loans_iff : (h, view) ∈ m.loans ↔ .lending h view ∈ m.stack := by
  rw [loans, List.mem_filterMap]
  constructor
  case mp =>
    rintro ⟨f, hf, loan⟩
    cases f with
    | lending => cases loan; exact hf
    | _ => cases loan
  case mpr => exact fun hf => ⟨_, hf, rfl⟩

/-- Whether the buffer of a handle is lent out. -/
def Lent (m : Machine H) (h : HandleId) : Prop := ∃ view, .lending h view ∈ m.stack

/-- A buffer is lent where its handle is one of those with a loan. -/
theorem lent_iff : m.Lent h ↔ h ∈ m.loans.map (·.1) := by
  simp only [Lent, List.mem_map, ← mem_loans_iff, Prod.exists, exists_and_right, exists_eq_right]

/-! ## What a step does to buffers -/

/-- What a step does to buffers and loans. -/
inductive Lends (x y : Machine H) : Prop where
  | keep (rewrites : x.loop.Rewrites y.loop) (loans : y.loans = x.loans)
  | lend {k : HandleId} {b : ReadBuffer} {n : Nat}
    (free : ∀ a, x.loop.buffer? k = some a → a.exposed = false)
    (buffers : ∀ j, y.loop.buffer? j =
      if k = j then some { b with exposed := true } else x.loop.buffer? j)
    (loans : y.loans = (k, b.view n) :: x.loans)
  | takeBack {k : HandleId} {lent : List UInt8} (buffers : ∀ j, y.loop.buffer? j =
      if k = j then (x.loop.buffer? j).map ({ · with exposed := false }) else x.loop.buffer? j)
    (loans : x.loans = (k, lent) :: y.loans)

/-- A step that leaves the buffers and the loans alone lends nothing and takes nothing back. -/
theorem Lends.still (same : y.loop.buffer? = x.loop.buffer?) (loans : y.loans = x.loans) :
    Lends x y :=
  .keep (.still same) loans

/-- Telling an outcome leaves every buffer as it was. -/
theorem buffer?_deliver (l : Loop H) (stack : List (Frame H)) (req : RequestId) (h : HandleId)
    (callback : Callback H.Closure) (outcome : RequestOutcome) :
    (deliver l stack req h callback outcome).loop.buffer? = l.buffer? := by
  cases callback with
  | closure => rfl
  | promise => exact Loop.buffer?_release _ _

/-- Telling an outcome leaves the loans below as they were. -/
theorem loans_deliver (l : Loop H) (stack : List (Frame H)) (req : RequestId) (h : HandleId)
    (callback : Callback H.Closure) (outcome : RequestOutcome) :
    (deliver l stack req h callback outcome).loans = stack.filterMap Frame.loan? := by
  cases callback <;> rfl

/-- A read puts its bytes into a buffer that is not exposed. -/
theorem rewrites_read {α : Type} {l : Loop H} {x : Handle H.Closure}
    (found : l.handles.get? h = some x) (free : (readBuffer l x).exposed = false)
    (primitive : H.Net → Reply H.Net α) (bytes : List UInt8) :
    l.Rewrites (fillBuffer (l.ask primitive).2 h (readBuffer l x) bytes) := by
  refine .put (fun a there => ?_) ((ReadBuffer.exposed_overwrite _ _ _).trans free)
    (Loop.buffer?_setBuffer (l := (l.ask primitive).2) found rfl)
  rw [Loop.buffer?_of_found found] at there
  rwa [readBuffer, there] at free

/-- Each rule does one of these things to the buffers. -/
theorem Rule.lends (rule : Rule T enter x y) (apart : x.loop.KeepsApart) : Lends x y := by
  cases rule with
  | finish | ask | tick | runLoop | poll | script | survey | note | recallShared | update | enter
    | emit | nextListener | endEmission | beginParting | skipParting | endParting | noteResult
    | endListen | failListen | collect | firstPass | nextPass | beginReclaims | endTick | skipReport
    | connection | dropConnection | skipRead | refuseRead | skipReclaim | breach | ticked
    | runFailed | endRun | runAgain | pollFailed | endPoll => exact .still rfl rfl
  | issue => exact .keep (Loop.rewrites_issue T apart _) rfl
  | refuseListen begun =>
    obtain rfl | rfl := Loop.effect_of_refused_beginListen begun
    · exact .still rfl rfl
    · exact .still rfl rfl
  | @beginListen l stack h backlog _ _ _ begun =>
    obtain ⟨_, -, -, -, -, agrees⟩ := Loop.effect_of_beginListen begun
    have listens :=
      Loop.buffer?_modifyHandle (f := ({ · with listenRef := true, state := .listening }))
        (fun _ => rfl)
        (((l.meter h .listen .dispatched).ask
          (T.listen h (backlog.getD l.options.defaultBacklog))).2.modifyHandle h .retain) h
    exact .still ((funext agrees.buffer?).trans (listens.trans (Loop.buffer?_retain _ _))) rfl
  | endDelivery | endConnect => exact .still (Loop.buffer?_release _ _) rfl
  | endLoan => exact .takeBack (Loop.buffer?_modifyBuffer _ _ _) rfl
  | pausePoll =>
    refine .still ?_ rfl
    split <;> rfl
  | completeWrite => exact .still (buffer?_deliver _ _ _ _ _ _) (loans_deliver _ _ _ _ _ _)
  | completeShutdown =>
    exact .still ((buffer?_deliver _ _ _ _ _ _).trans (Loop.buffer?_settleShutdown _ _ _))
      (loans_deliver _ _ _ _ _ _)
  | completeConnect | failConnect => exact .still (Loop.buffer?_setState _ _ _) rfl
  | dropConnect => exact .still (Loop.buffer?_release _ _) rfl
  | readNothing here found reading free read =>
    obtain rfl := congrArg Prod.snd read
    exact .keep (rewrites_read found free _ _) rfl
  | @readData l stack t passes h rest productive x n bytes l' here found reading free read =>
    obtain rfl := congrArg Prod.snd read
    refine .lend (k := h) (fun a there => ?_)
      (fun k => (Loop.buffer?_modifyBuffer _ h _ k).trans ?_) rfl
    · rw [Loop.buffer?_of_found (show l.handles.get? h = some x from found)] at there
      rwa [readBuffer, there] at free
    · have filled := Loop.buffer?_setBuffer
        (l := (l.ask (T.read t.waker h (readBuffer l x).size)).2)
        (f := ({ · with buffer := some ((readBuffer l x).overwrite 0 bytes) })) found rfl k
      rw [Loop.buffer?_meterAsync]
      split
      case isTrue same =>
        rw [show (fillBuffer _ h (readBuffer l x) bytes).buffer? k = _ from filled, if_pos same]
        rfl
      case isFalse other => exact filled.trans (if_neg other)
  | readEof here found reading free read =>
    obtain rfl := congrArg Prod.snd read
    exact .keep ((rewrites_read found free _ _).trans_eq (Loop.buffer?_endReading _ _ _ _)) rfl
  | readFailed here found reading free read =>
    obtain rfl := congrArg Prod.snd read
    exact .keep ((rewrites_read found free _ _).trans_eq (Loop.buffer?_endReading _ _ _ _)) rfl
  | reclaim here found => exact .still (Loop.buffer?_takeHandle apart found) rfl

/-! ## Buffers that are kept -/

/-- Telling an outcome leaves alone the buffers of handles that are gone. -/
theorem kept_deliver (l : Loop H) (stack : List (Frame H)) (req : RequestId) (h : HandleId)
    (callback : Callback H.Closure) (outcome : RequestOutcome) :
    (deliver l stack req h callback outcome).loop.kept = l.kept := by
  cases callback with
  | closure => rfl
  | promise => exact Loop.kept_release _ _

/-- A buffer is kept from when its handle is gone. -/
theorem Rule.kept (rule : Rule T enter x y) (k : HandleId) :
    (y.loop.kept.get? k).isSome → (x.loop.kept.get? k).isSome ∨ y.Gone k := by
  have same {m m' : SortedMap HandleId ReadBuffer} (eq : m' = m) {P : Prop} :
      (m'.get? k).isSome → (m.get? k).isSome ∨ P :=
    fun there => .inl (eq ▸ there)
  cases rule with
  | issue => exact fun there => .inl ((Loop.kept_issue T _ _ k).symm.trans there)
  | refuseListen begun =>
    obtain rfl | rfl := Loop.effect_of_refused_beginListen begun
    · exact same rfl
    · exact same rfl
  | beginListen begun =>
    obtain ⟨_, -, -, -, -, agrees⟩ := Loop.effect_of_beginListen begun
    exact same agrees.kept
  | endDelivery | endConnect | dropConnect => exact same (Loop.kept_release _ _)
  | endLoan => exact fun there => .inl ((Loop.isSome_kept_modifyBuffer _ _ _ _).symm.trans there)
  | pausePoll =>
    split
    · exact same rfl
    · exact same rfl
  | completeWrite => exact same (kept_deliver _ _ _ _ _ _)
  | completeShutdown => exact same ((kept_deliver _ _ _ _ _ _).trans (kept_settleShutdown _ _ _))
  | readNothing _ _ _ _ read =>
    obtain rfl := congrArg Prod.snd read
    exact same rfl
  | readData _ _ _ _ read =>
    obtain rfl := congrArg Prod.snd read
    exact fun there => .inl ((Loop.isSome_kept_modifyBuffer _ _ _ _).symm.trans there)
  | readEof _ _ _ _ read | readFailed _ _ _ _ read =>
    obtain rfl := congrArg Prod.snd read
    exact same (Loop.kept_endReading _ _ _ _)
  | @reclaim l stack t h batch z here found =>
    intro there
    by_cases taken : k = h
    · subst taken
      have known : k < l.handles.next := Registry.lt_next_of_get? found
      exact .inr ⟨known, (Registry.get?_remove _ _ _).trans (if_pos rfl)⟩
    · refine .inl ?_
      rw [show ((takeHandle l h z).meterAsync h .close true).kept =
        z.buffer.elim l.kept (l.kept.insert h) from rfl] at there
      cases buffer : z.buffer with
      | none => rwa [buffer] at there
      | some b =>
        rw [buffer] at there
        exact (congrArg Option.isSome
          ((SortedMap.get?_insert _ _ _ _).trans (if_neg taken))).symm.trans there
  | _ => exact .inl

/-- Along every run buffers are kept apart of handles that are gone only. -/
theorem Reached.keepsApart (reached : Reached T enter past m) : m.loop.KeepsApart := by
  refine reached.history (P := fun _ m => m.loop.KeepsApart) ?_ ?_
  · intro options net shared p h b kept
    cases kept
  · intro past x y reached apart next h b kept
    have turn := reached.turn next
    have before : (x.loop.kept.get? h).isSome ∨ y.Gone h := by
      cases next with
      | step taken => exact (rule_of_step? taken).2.kept h (by rw [kept]; rfl)
      | resume p rest => exact .inl (by rw [show x.loop.kept.get? h = some b from kept]; rfl)
    rcases before with before | gone
    · obtain ⟨b, before⟩ := Option.isSome_iff_exists.1 before
      exact turn.gone (apart h b before)
    · exact gone

/-! ## Loans and exposure -/

/-- The loans of a machine agree with its buffers. -/
structure Guarded (m : Machine H) : Prop where
  once : (m.loans.map (·.1)).Nodup
  exposed : ∀ h b, m.loop.buffer? h = some b → (b.exposed = true ↔ h ∈ m.loans.map (·.1))
  views : ∀ h view, (h, view) ∈ m.loans → ∃ b, m.loop.buffer? h = some b ∧ b.view view.length = view

namespace Guarded

variable (guarded : m.Guarded)

include guarded

/-- Of what is lent out there is a buffer, and it is exposed. -/
theorem exists_of_mem (lent : h ∈ m.loans.map (·.1)) :
    ∃ b, m.loop.buffer? h = some b ∧ b.exposed = true := by
  obtain ⟨⟨k, view⟩, hk, rfl⟩ := List.mem_map.1 lent
  obtain ⟨b, there, -⟩ := guarded.views k view hk
  exact ⟨b, there, (guarded.exposed k b there).2 lent⟩

/-- What is not exposed is not lent out. -/
theorem not_mem_of_free (free : ∀ b, m.loop.buffer? h = some b → b.exposed = false) :
    h ∉ m.loans.map (·.1) :=
  fun lent => by
    obtain ⟨b, there, exposed⟩ := guarded.exists_of_mem lent
    rw [free b there] at exposed
    cases exposed

/-- A handle whose buffer is free is none of those with a loan. -/
theorem ne_of_free {k : HandleId} (free : ∀ b, m.loop.buffer? h = some b → b.exposed = false)
    (lent : k ∈ m.loans.map (·.1)) : h ≠ k := by
  rintro rfl
  exact guarded.not_mem_of_free free lent

/-- The buffer that a read of a handle goes to is not exposed, if it is not lent out. -/
theorem free {x : Handle H.Closure} (found : m.loop.handles.get? h = some x)
    (unlent : h ∉ m.loans.map (·.1)) :
    (readBuffer m.loop x).exposed = false := by
  rw [readBuffer]
  cases buffer : x.buffer with
  | none => rfl
  | some b =>
    have there : m.loop.buffer? h = some b := (Loop.buffer?_of_found found).trans buffer
    exact Bool.eq_false_iff.2 fun exposed => unlent ((guarded.exposed h b there).1 exposed)

/-- What was lent out last is lent out no more below. -/
theorem ne_of_cons {rest : List (HandleId × List UInt8)} {k : HandleId}
    (loans : m.loans = (h, view) :: rest) (lent : k ∈ rest.map (·.1)) : h ≠ k := by
  rintro rfl
  have once := guarded.once
  rw [loans, List.map_cons, List.nodup_cons] at once
  exact once.1 lent

end Guarded

/-- A step keeps loans and buffers in agreement. -/
theorem Lends.guarded (lends : Lends x y) (guarded : x.Guarded) : y.Guarded := by
  cases lends with
  | keep rewrites loans =>
    cases rewrites with
    | still same =>
      refine ⟨by rw [loans]; exact guarded.once, fun k b there => ?_, fun k view lent => ?_⟩
      · rw [same] at there
        rw [loans]
        exact guarded.exposed k b there
      · rw [loans] at lent
        rw [same]
        exact guarded.views k view lent
    | @put h b free hidden buffers =>
      have unlent := guarded.not_mem_of_free free
      refine ⟨by rw [loans]; exact guarded.once, fun k a there => ?_, fun k view lent => ?_⟩
      · rw [buffers] at there
        rw [loans]
        split at there
        case isTrue same =>
          cases there
          rw [hidden, ← same]
          exact ⟨nofun, fun lent => (unlent lent).elim⟩
        case isFalse => exact guarded.exposed k a there
      · rw [loans] at lent
        rw [buffers, if_neg (guarded.ne_of_free free (List.mem_map_of_mem lent))]
        exact guarded.views k view lent
  | @lend h b n free buffers loans =>
    have unlent := guarded.not_mem_of_free free
    refine ⟨?_, fun k a there => ?_, fun k view lent => ?_⟩
    · rw [loans, List.map_cons, List.nodup_cons]
      exact ⟨unlent, guarded.once⟩
    · rw [buffers] at there
      rw [loans, List.map_cons, List.mem_cons]
      split at there
      case isTrue same =>
        cases there
        exact ⟨fun _ => .inl same.symm, fun _ => rfl⟩
      case isFalse other =>
        rw [guarded.exposed k a there]
        exact ⟨.inr, fun lent => lent.resolve_left (Ne.symm other)⟩
    · rw [loans] at lent
      rw [buffers]
      rcases List.mem_cons.1 lent with same | lent
      · cases same
        exact ⟨_, if_pos rfl, b.view_length_view n⟩
      · rw [if_neg (guarded.ne_of_free free (List.mem_map_of_mem lent))]
        exact guarded.views k view lent
  | @takeBack h v buffers loans =>
    have once := guarded.once
    rw [loans, List.map_cons, List.nodup_cons] at once
    refine ⟨once.2, fun k a there => ?_, fun k view lent => ?_⟩
    · rw [buffers] at there
      split at there
      case isTrue same =>
        obtain ⟨b, -, rfl⟩ := Option.map_eq_some_iff.1 there
        subst same
        exact ⟨nofun, fun lent => (once.1 lent).elim⟩
      case isFalse other =>
        rw [guarded.exposed k a there, loans, List.map_cons, List.mem_cons]
        exact ⟨fun lent => lent.resolve_left (Ne.symm other), .inr⟩
    · rw [buffers, if_neg (guarded.ne_of_cons loans (List.mem_map_of_mem lent))]
      exact guarded.views k view (by rw [loans]; exact List.mem_cons_of_mem _ lent)

/-- A buffer that stays lent out stays as it is. -/
theorem Lends.same (lends : Lends x y) (guarded : x.Guarded) (before : x.Lent h)
    (after : y.Lent h) :
    y.loop.buffer? h = x.loop.buffer? h := by
  rw [lent_iff] at before after
  cases lends with
  | keep rewrites loans =>
    cases rewrites with
    | still same => rw [same]
    | put free hidden buffers =>
      rw [buffers, if_neg (guarded.ne_of_free free before)]
  | lend free buffers loans =>
    rw [buffers, if_neg (guarded.ne_of_free free before)]
  | takeBack buffers loans =>
    rw [buffers, if_neg (guarded.ne_of_cons loans after)]

/-- Whatever comes after a machine, one of these things was done to the buffers. -/
theorem Next.lends (next : Next T enter x y) (apart : x.loop.KeepsApart) : Lends x y := by
  cases next with
  | step taken => exact (rule_of_step? taken).2.lends apart
  | resume p rest =>
    refine .still rfl ?_
    rw [loans, loans, (atRest_iff.1 rest).2]
    rfl

/-- Along every run loans and buffers agree. -/
theorem Reached.guarded (reached : Reached T enter past m) : m.Guarded := by
  refine reached.history (P := fun _ m => m.Guarded) ?_ ?_
  · intro options net shared p
    refine ⟨List.nodup_nil, fun h b there => ?_, fun h view lent => ?_⟩
    · cases there
    · cases lent
  · intro past x y reached guarded next
    exact (next.lends reached.keepsApart).guarded guarded

/-- A buffer that was lent out all along is what it was. -/
theorem Reached.lent (reached : Reached T enter past m) {during : List (Machine H)} {m' : Machine H}
    (run : Run T enter m during m') (lent : ∀ i ∈ during ++ [m'], i.Lent h) :
    m'.loop.buffer? h = m.loop.buffer? h := by
  induction run with
  | refl => rfl
  | @snoc during x y first next ih =>
    obtain ⟨options, net, shared, p, origin⟩ := reached
    have reached : Reached T enter (past ++ during) x :=
      ⟨options, net, shared, p, origin.trans first⟩
    have before := lent x (by simp)
    have after := lent y (by simp)
    refine ((next.lends reached.keepsApart).same reached.guarded before after).trans
      (ih fun i hi => lent i ?_)
    exact List.mem_append_left _ hi

end Machine

end Reactor
