import Reactor.Proofs.Echo.Serving
import Reactor.Proofs.Machine.Steps

/-!
# An echo server survives its peers

No peer can make a tick of an echo server fail, and none leaves anything behind: a client whose
stream has ended, or one of whose reads or requests has failed, reads no more from there on, and is
gone as soon as its requests are answered and it has been reclaimed.
-/

namespace Reactor

/-- Whether handlers learn that a stream has ended, or that a read or a request on it has failed. -/
def News.ends (c : HandleId) : News → Prop
  | .told h .endOfStream | .told h (.error _) | .answered h (.error _) => h = c
  | _ => False

/-- A stream that was there and reads no more. -/
def Life.spent : Life → Prop
  | .unborn => False
  | .alive s => s.reading = false
  | .gone => True

namespace Echo.Server

open Machine

/-- Of a client whose stream has ended, or on which something has failed,
nothing is read any more. -/
def Quits (news : List News) (o : Outline Hosted) (_ : List Completion) : Prop :=
  ∀ n ∈ news, ∀ c, c ≠ listener → n.ends c → (o.life c).spent

variable {allowed : Memory.Script → Prop} {o o' : Outline Hosted} {batch batch' : List Completion}
  {news new : List News} {c k : HandleId} {s : Stance}

/-! ## Turns -/

/-- A client that is spent stays so when another one turns, or when it turns to what is spent. -/
theorem spent_turn {p : Life} (spent : (o.life k).spent) (here : c = k → p.spent) :
    ((o.turn c p).life k).spent := by
  change Life.spent (if c = k then p else o.life k)
  split
  case isTrue same => exact here same
  case isFalse => exact spent

/-- A client that turns to what is spent is spent. -/
theorem spent_here {p : Life} (spent : p.spent) : ((o.turn c p).life c).spent := by
  change Life.spent (if c = c then p else o.life c)
  rw [if_pos rfl]
  exact spent

/-- A client that is spent stays so when one is closed. -/
theorem spent_close (spent : (o.life k).spent) (s : Stance) :
    ((o.close Memory.transport c s).life k).spent := by
  unfold Outline.close
  split
  case isTrue => exact spent
  case isFalse => exact spent_turn spent fun _ => rfl

/-- A client that is closed now, or was before, reads no more. -/
theorem spent_of_close (alive : o.life c = .alive s)
    (silent : s.marked = true → s.reading = false) :
    ((o.close Memory.transport c s).life c).spent := by
  unfold Outline.close
  split
  case isTrue marked => rw [alive]; exact silent marked
  case isFalse => exact spent_here (o := o) (p := .alive s.close) rfl

/-- What reads no more never will. -/
theorem Turn.spent (turn : Turn allowed o batch new o' batch') (spent : (o.life k).spent) :
    (o'.life k).spent := by
  have silent {c : HandleId} {s : Stance} (alive : o.life c = .alive s) (same : c = k) :
      s.reading = false := by
    subst same
    rw [alive] at spent
    exact spent
  cases turn with
  | still | script | begin | collect | skip | fail | vain => exact spent
  | greet unborn =>
    refine spent_turn spent fun same => ?_
    rw [← same, unborn] at spent
    exact spent.elim
  | sent client report pending alive =>
    have quiet := silent alive
    exact spent_turn spent quiet
  | unsent client report pending alive =>
    have quiet := silent alive
    refine spent_close ?_ _
    exact spent_turn spent quiet
  | done client report pending alive =>
    have quiet := silent alive
    refine spent_close (spent_turn ?_ quiet) _
    exact spent_turn spent quiet
  | echo client alive connected reading =>
    refine spent_turn spent fun same => ?_
    cases reading.symm.trans (silent alive same)
  | @finish w c size s =>
    refine spent_turn ?_ fun _ => rfl
    exact spent_turn (p := .alive { s with reading := false }) spent fun _ => rfl
  | @lose w c size status s =>
    refine spent_close ?_ _
    exact spent_turn (p := .alive { s with reading := false }) spent fun _ => rfl
  | part => exact spent_turn spent fun _ => trivial

/-- A turn in which handlers learn of an end takes care that nothing more is read. -/
theorem Turn.ends (turn : Turn allowed o batch new o' batch') (attends : Attends o batch) {n : News}
    (learnt : n ∈ new) (client : c ≠ listener) (ends : n.ends c) : (o'.life c).spent := by
  have silent {c : HandleId} {s : Stance} (client : c ≠ listener) (alive : o.life c = .alive s)
      (marked : s.marked = true) : s.reading = false :=
    (attends.clients c s client alive).silent marked
  cases turn with
  | still | script | begin | collect | skip | vain => cases learnt
  | fail =>
    obtain rfl := List.mem_singleton.1 learnt
    exact (client ends.symm).elim
  | greet | sent | echo | part =>
    obtain rfl := List.mem_singleton.1 learnt
    exact ends.elim
  | unsent client report pending alive =>
    obtain rfl := List.mem_singleton.1 learnt
    obtain rfl : _ = c := ends
    have quiet := silent client alive
    exact spent_of_close (if_pos rfl) quiet
  | @done _ _ _ status _ _ _ client report pending alive =>
    obtain rfl := List.mem_singleton.1 learnt
    have quiet := silent client alive
    cases status with
    | ok => exact ends.elim
    | error =>
      obtain rfl : _ = c := ends
      exact spent_of_close (if_pos rfl) quiet
  | finish client alive =>
    obtain rfl := List.mem_singleton.1 learnt
    obtain rfl : _ = c := ends
    exact spent_here rfl
  | lose client alive =>
    obtain rfl := List.mem_singleton.1 learnt
    obtain rfl : _ = c := ends
    exact spent_of_close (if_pos rfl) fun _ => rfl

/-- Every turn keeps what is said of ended streams. -/
theorem Turn.quits (turn : Turn allowed o batch new o' batch') (attends : Attends o batch)
    (quits : Quits news o batch) :
    Quits (news ++ new) o' batch' := by
  intro n hn c client ends
  rcases List.mem_append.1 hn with hn | hn
  · exact turn.spent (quits n hn c client ends)
  · exact turn.ends attends hn client ends

/-! ## Runs -/

/-- What is true of an echo server whatever its peers do, up to a machine of a run. -/
structure Survives (past : List (Machine Hosted)) (m : Machine Hosted) : Prop where
  /-- No tick fails. -/
  unfailed : ∀ result, m.control = .ticked result → ∃ worked, result = .ok worked
  /-- Outside of handlers, when no request is pending and no handle waits to be reclaimed, every
  client is connected and reads. -/
  settled : m.stack = [] → m.loop.requests.isEmpty = true → m.loop.closing = [] →
    ∀ c z, c ≠ listener →
    m.loop.handles.get? c = some z → z.state = .connected ∧ z.isReading = true
  /-- A client whose stream has ended, or on which a read or a request has failed, is gone as soon
  as its requests are answered and it does not wait to be reclaimed. -/
  gone : m.stack = [] → ∀ c, c ≠ listener → (∃ x ∈ past, ∃ n, x.news? = some n ∧ n.ends c) →
    m.loop.pendingRequests c = 0 → c ∉ m.loop.closing → m.loop.handles.get? c = none

variable {m : Machine Hosted} {past : List (Machine Hosted)}

/-- A client without requests that does not wait to be reclaimed is connected and reads. -/
theorem connected_of_quiet {before : List (Machine Hosted)} {z : Handle Closure}
    (reached : Reached Memory.transport (handlers _ _) before m)
    (attends : Attends m.loop.outline m.batches) (outside : m.stack = []) (client : c ≠ listener)
    (found : m.loop.handles.get? c = some z) (none : m.loop.pendingRequests c = 0)
    (undue : c ∉ m.loop.closing) : z.state = .connected ∧ z.isReading = true := by
  cases attends.clients c _ client (Loop.life_of_some found) with
  | attending unmarked connected reading => exact ⟨connected, reading⟩
  | ending unmarked shutting =>
    have one := (reached.sound found).shutdowns unmarked
    rw [if_pos shutting] at one
    have waits : 0 < m.loop.pendingOf .shutdown c := Nat.lt_of_lt_of_eq Nat.zero_lt_one one.symm
    obtain ⟨req, r, pending, own, -⟩ := (m.loop.pendingOf_pos_iff .shutdown c).1 waits
    have some := (m.loop.pendingRequests_pos_iff c).2 ⟨req, r, pending, own⟩
    omega
  | closing marked =>
    exact (undue (Balanced.mem_closing (.of_reached reached) outside found marked none)).elim

/-- Whatever the peers of an echo server do, no tick of it fails, and it leaves no client behind. -/
theorem survives_every_peer {options : Options} {address : SocketAddress} {p : Program Hosted}
    (run : Run Memory.transport (handlers _ _) (start p (opened options address)) past m)
    (plays : ∀ x ∈ past, x.stack = [] → x.uses = false) : Survives past m := by
  obtain ⟨before, whole, -⟩ := exists_of_opened run
  have reached : Reached Memory.transport (handlers _ _) (before ++ past) m := ⟨_, _, _, _, whole⟩
  have serves := serves (fun _ => True) Quits run (fun x hx => ⟨plays x hx, fun _ _ => trivial⟩)
    (fun n hn => by cases hn) fun before x _ _ attends quits new o' batch' turn =>
      turn.quits attends quits
  constructor
  case unfailed =>
    intro result control
    obtain ⟨driven, -, -⟩ := serves (by rw [inside, control])
    cases driven with
    | @ticked l f worked waits => cases control; exact ⟨worked, rfl⟩
    | program | rest | ticking => cases control
  case settled =>
    intro outside requests closing c z client found
    obtain ⟨-, attends, -⟩ := serves (inside_of_nil outside)
    have none : m.loop.pendingRequests c = 0 := Nat.eq_zero_of_not_pos fun some => by
      obtain ⟨req, r, pending, -⟩ := (m.loop.pendingRequests_pos_iff c).1 some
      cases (Std.TreeMap.getElem?_of_isEmpty requests).symm.trans pending
    exact connected_of_quiet reached attends outside client found none
      (by rw [closing]; exact List.not_mem_nil)
  case gone =>
    rintro outside c client ⟨x, hx, n, learnt, ends⟩ none undue
    obtain ⟨-, attends, quits⟩ := serves (inside_of_nil outside)
    have spent : (m.loop.life c).spent :=
      quits n (List.mem_filterMap.2 ⟨x, hx, learnt⟩) c client ends
    cases found : m.loop.handles.get? c with
    | none => rfl
    | some z =>
      obtain ⟨-, reading⟩ := connected_of_quiet reached attends outside client found none undue
      rw [Loop.life_of_some found] at spent
      cases spent.symm.trans reading

/-- Two clients come, and what the first sends cannot be written back. -/
def bereft : Program Hosted :=
  .call (.script (.pushConnection listener)) fun _ =>
  .call (.script (.pushConnection listener)) fun _ =>
  .call (.tick .idle) fun _ =>
  .call (.script (.failNextWrite .eio)) fun _ =>
  .call (.script (.pushData 1 [7])) fun _ =>
  .call (.run .default) fun _ => .skip

/-- The server of the two clients after so many steps. -/
def bereaved (steps : Nat) : Machine Hosted :=
  (start bereft (opened .standard (.v4 ⟨127, 0, 0, 1⟩ 80))).run Memory.transport
    (handlers _ _) steps

/-- The first client is gone when the server comes to rest after the failed write, and the
second is still served. -/
theorem survives_every_peer_for_two :
    (bereaved 62).news? = some (.answered 1 (.error ⟨.eio, "after_write"⟩)) ∧
      (bereaved 90).atRest = true ∧ (bereaved 90).loop.handles.get? 1 = none ∧
      ∃ z, (bereaved 90).loop.handles.get? 2 = some z ∧ z.state = .connected ∧
        z.isReading = true := by
  have goes : (List.range 90).all (fun k =>
      ((bereaved k).step? Memory.transport (handlers _ _)).isSome) = true := by rfl
  have played : (List.range 90).all (fun k => !(bereaved k).stack.isEmpty || !(bereaved k).uses) =
      true := by rfl
  have run : Run Memory.transport (handlers _ _)
      (start bereft (opened .standard (.v4 ⟨127, 0, 0, 1⟩ 80))) ((List.range 90).map bereaved)
      (bereaved 90) := .of_steps _ _ _ goes
  have survives : Survives ((List.range 90).map bereaved) (bereaved 90) :=
    survives_every_peer run fun x hx outside => by
      obtain ⟨k, less, rfl⟩ := List.mem_map.1 hx
      simpa [outside] using List.all_eq_true.1 played k less
  have there : ((bereaved 90).loop.handles.get? 2).isSome = true := by rfl
  obtain ⟨z, found⟩ := Option.isSome_iff_exists.1 there
  have learnt : (bereaved 62).news? = some (.answered 1 (.error ⟨.eio, "after_write"⟩)) := by rfl
  have behind : bereaved 62 ∈ (List.range 90).map bereaved :=
    List.mem_map_of_mem (List.mem_range.2 (by decide))
  have rest : (bereaved 90).atRest = true := by rfl
  have outside : (bereaved 90).stack = [] := by rfl
  have answered : (bereaved 90).loop.requests.isEmpty = true := by rfl
  have none : (bereaved 90).loop.pendingRequests 1 = 0 := by rfl
  have undue : (bereaved 90).loop.closing = [] := by rfl
  refine ⟨learnt, rest, ?_, z, found, ?_⟩
  · refine survives.gone outside 1 (by decide) ⟨_, behind, _, learnt, rfl⟩ none ?_
    rw [undue]
    exact List.not_mem_nil
  · exact survives.settled outside answered undue 2 z (by decide) found

end Echo.Server

end Reactor
