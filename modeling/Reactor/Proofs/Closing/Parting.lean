import Reactor.Proofs.Closing
import Reactor.Proofs.Stream

/-!
# Last callbacks are entered

A handle that is marked keeps the last callback that its close was given. So it does not leave
without it: at every moment it is in the table, or the work that enters its last callback is under
way, or the callback was entered.
-/

namespace Reactor.Machine

variable {H : Host} {T : Transport H.Net H.Script} {enter : Handlers H} {x y m : Machine H}
  {past : List (Machine H)} {h : HandleId}

/-- To close a handle is a close that succeeds. -/
theorem deed?_eq_close_iff : m.deed? T = some (h, .close) ↔ ∃ c, m.closed? T = some (h, c) := by
  unfold deed? closed?
  split
  case h_1 o next control =>
    rw [control]
    cases o with
    | close k c' =>
      simp only [Operation.deed?, Operation.closed?, Option.map_eq_some_iff, Prod.mk.injEq]
      constructor
      · rintro ⟨a, answered, same, -⟩
        exact ⟨c', a, answered, same, rfl⟩
      · rintro ⟨c, a, answered, same, -⟩
        exact ⟨a, answered, same, trivial⟩
    | _ => simp [Operation.deed?, Operation.closed?]
  case h_2 h backlog c next control => simp [control]
  case h_3 other _ =>
    split
    case h_1 o next control => exact (other o next control).elim
    case h_2 => simp

/-- A handle that is marked was closed. -/
theorem Reached.closedBy (reached : Reached T enter past m) {z : Handle H.Closure}
    (found : m.loop.handles.get? h = some z) (marked : z.closing = true) :
    ∃ i ∈ past, ∃ c, i.closed? T = some (h, c) := by
  have recalls := (reached.lives h).recalls
  rw [Loop.life_of_some found] at recalls
  have state : (m.loop.stance h z).state = .closing := (reached.sound found).closing.2 marked
  have close := recalls.closed.2 state
  rcases List.mem_append.1 close with close | close
  · obtain ⟨i, hi, given⟩ := List.mem_flatMap.1 close
    exact ⟨i, hi, deed?_eq_close_iff.1 (did_mem_signs_iff.1 given)⟩
  · obtain ⟨e, -, other⟩ := List.mem_map.1 close
    cases other

/-- A closing handle keeps its last callback. -/
theorem Turn.keepsOnClose (turn : Turn T x y) (retired : x.loop.Retired h) {w z : Handle H.Closure}
    (before : x.loop.handles.get? h = some w) (found : y.loop.handles.get? h = some z) :
    z.onClose = w.onClose := by
  cases turn with
  | ordinary _ _ _ _ _ _ _ _ ages =>
    obtain ⟨new, -⟩ | ⟨w', there, same, -⟩ := ages.handles h z found
    · exact absurd retired.1 (Nat.not_lt_of_le new)
    · rw [same, Option.some.inj (before.symm.trans there)]
  | close _ _ closes =>
    obtain ⟨w', there, unmarked, handles⟩ := closes.unmarked
    rw [handles, if_neg (retired.ne there unmarked)] at found
    rw [Option.some.inj (before.symm.trans found)]
  | reclaim _ _ _ _ _ _ handles =>
    rw [handles] at found
    rw [Option.some.inj (before.symm.trans (Registry.get?_of_remove found).2)]
  | part _ _ _ loop | endParting _ _ _ loop =>
    rw [loop] at found
    rw [Option.some.inj (before.symm.trans found)]

/-- A handle that is marked has a last callback. -/
theorem Reached.last (reached : Reached T enter past m) {z : Handle H.Closure}
    (found : m.loop.handles.get? h = some z) (marked : z.closing = true) :
    ∃ c, z.onClose = some c := by
  obtain ⟨i, hi, c, closed⟩ := reached.closedBy found marked
  refine ⟨c, reached.history (P := fun past m =>
    i ∈ past → ∀ z, m.loop.handles.get? h = some z → z.onClose = some c)
    ?_ ?_ hi z found⟩
  · intro options net shared p hi
    cases hi
  · intro past x y reached ih next hi z found
    have turn := reached.turn next
    rcases List.mem_append.1 hi with hi | hi
    · have retired := reached.retired hi closed
      obtain ⟨w, before, -⟩ := (turn.fades retired).2.1 z found
      rw [turn.keepsOnClose retired before found]
      exact ih hi w before
    · rw [List.mem_singleton.1 hi] at closed
      obtain ⟨-, w, there, last⟩ := turn.closes closed
      rw [Option.some.inj (found.symm.trans there), last]

/-- No work at the end of a handle lacks its last callback. -/
theorem Reached.lasting (reached : Reached T enter past m) : .reclaiming h none ∉ m.stack := by
  refine reached.history (P := fun _ m => .reclaiming h none ∉ m.stack) ?_ ?_
  · intro options net shared p hf
    cases hf
  · intro past x y reached ih next hf
    cases reached.turn next with
    | ordinary dropped pushed rest _ before after _ pushes =>
      rw [after] at hf
      rcases List.mem_append.1 hf with hf | hf
      · cases ending?_of_all pushes hf
      · exact ih (by rw [before]; exact List.mem_append_right _ hf)
    | close _ stack => exact ih (by rwa [← stack])
    | reclaim _ before found marked after =>
      rw [after] at hf
      rcases List.mem_cons.1 hf with same | hf
      · obtain ⟨c, last⟩ := reached.last found marked
        rw [last] at same
        cases same
      · rcases List.mem_cons.1 hf with same | hf
        · cases same
        · exact ih (by rw [before]; exact List.mem_cons_of_mem _ hf)
    | part _ before after =>
      rw [after] at hf
      rcases List.mem_cons.1 hf with same | hf
      · cases same
      · exact ih (by rw [before]; exact List.mem_cons_of_mem _ hf)
    | endParting _ before after =>
      exact ih (by rw [before, ← after]; exact List.mem_cons_of_mem _ hf)

/-- A handle is in the table, or the work that is to enter its last callback is under way. -/
def Outstanding (h : HandleId) (m : Machine H) : Prop :=
  (m.loop.handles.get? h).isSome ∨ 0 < m.partings h

/-- What is outstanding of a handle stays so until its last callback is entered. -/
theorem Turn.outstanding (turn : Turn T x y) (lasting : .reclaiming h none ∉ x.stack)
    (before : x.Outstanding h) :
    y.Outstanding h ∨ y.parts h = true := by
  cases turn with
  | ordinary dropped pushed rest _ split after drops pushes ages =>
    refine .inl (before.imp (ages.stays h) fun pos => ?_)
    rw [partings, split, List.countP_append, countP_reclaiming_of_all drops, Nat.zero_add] at pos
    rw [partings, after, List.countP_append]
    exact Nat.lt_of_lt_of_le pos (Nat.le_add_left _ _)
  | close _ stack closes =>
    obtain ⟨w, -, -, handles⟩ := closes.unmarked
    refine .inl (before.imp (fun there => ?_) fun pos => by rwa [partings, stack])
    rw [handles]
    split
    case isTrue => rfl
    case isFalse => exact there
  | @reclaim k z t batch rest _ split _ _ after _ handles =>
    refine .inl ?_
    by_cases same : k = h
    · refine .inr ?_
      rw [partings, after]
      simp [Frame.reclaiming?, same]
    · refine before.imp (fun there => ?_) fun pos => ?_
      · rwa [handles, Registry.get?_remove, if_neg same]
      · rw [partings, split] at pos
        rw [partings, after]
        simpa [Frame.reclaiming?, same] using pos
  | @part k onClose failure rest _ split after loop parting =>
    by_cases same : k = h
    · subst same
      cases onClose with
      | none => exact (lasting (by rw [split]; exact List.mem_cons_self)).elim
      | some c => exact .inr (by simp [Machine.parts, parting])
    · refine .inl (before.imp (fun there => by rwa [loop]) fun pos => ?_)
      rw [partings, split] at pos
      rw [partings, after]
      simpa [Frame.reclaiming?, same] using pos
  | endParting _ split after loop =>
    refine .inl (before.imp (fun there => by rwa [loop]) fun pos => ?_)
    rw [partings, split] at pos
    rw [partings, after]
    simpa [Frame.reclaiming?] using pos

/-- A handle that was in the table is outstanding until its last callback was entered. -/
theorem Reached.outstanding (reached : Reached T enter past m) {i : Machine H}
    (hi : i ∈ past ++ [m]) (there : (i.loop.handles.get? h).isSome) :
    m.Outstanding h ∨ ∃ z ∈ past ++ [m], z.parts h = true := by
  refine reached.history
    (P := fun past m => i ∈ past ++ [m] → m.Outstanding h ∨ ∃ z ∈ past ++ [m], z.parts h = true)
    ?_ ?_ hi
  · intro options net shared p hi
    rw [List.mem_singleton.1 hi] at there
    cases there
  · intro past x y reached ih next hi
    rcases List.mem_append.1 hi with hi | hi
    · obtain before | ⟨z, hz, entered⟩ := ih hi
      · exact ((reached.turn next).outstanding reached.lasting before).imp_right fun entered =>
          ⟨y, by simp, entered⟩
      · exact .inr ⟨z, List.mem_append_left _ hz, entered⟩
    · rw [List.mem_singleton.1 hi] at there
      exact .inl (.inl there)

/-! ## The callback that is entered -/

/-- A machine that is about to enter the last callback of a handle enters some closure for it. -/
theorem exists_of_parts (parts : m.parts h = true) : ∃ c, m.control = .enter c (.closed h) := by
  obtain ⟨⟨k, c⟩, parting, same⟩ := (Option.any_eq_true _ _).1 parts
  obtain rfl : k = h := of_decide_eq_true same
  unfold parting? at parting
  split at parting
  case h_1 control => cases parting; exact ⟨_, control⟩
  case h_2 => cases parting

/-- A step closes only a handle that is there. -/
theorem Turn.there (turn : Turn T x y) {c : H.Closure} (closed : x.closed? T = some (h, c)) :
    (x.loop.handles.get? h).isSome := by
  cases turn with
  | close closed' _ closes =>
    rw [closed'] at closed
    cases closed
    obtain ⟨w, found, -⟩ := closes.unmarked
    rw [found]
    rfl
  | ordinary _ _ _ closed' | reclaim closed' | part closed' | endParting closed' =>
    rw [closed'] at closed
    cases closed

/-- A step closes no handle that is closing or gone. -/
theorem Turn.unclosable (turn : Turn T x y) {c : H.Closure} (closed : x.closed? T = some (h, c)) :
    ¬ x.loop.Retired h := by
  intro retired
  cases turn with
  | close closed' _ closes =>
    rw [closed'] at closed
    cases closed
    obtain ⟨w, found, unmarked, -⟩ := closes.unmarked
    exact retired.ne found unmarked rfl
  | ordinary _ _ _ closed' | reclaim closed' | part closed' | endParting closed' =>
    rw [closed'] at closed
    cases closed

/-- There is only one last callback that closes of a handle were given. -/
theorem Reached.closed_unique (reached : Reached T enter past m) {i j : Machine H} (hi : i ∈ past)
    (hj : j ∈ past) {c c' : H.Closure} (closed : i.closed? T = some (h, c))
    (closed' : j.closed? T = some (h, c')) : c = c' := by
  refine reached.history (P := fun past _ => i ∈ past → j ∈ past → c = c') ?_ ?_ hi hj
  · intro options net shared p hi
    cases hi
  · intro past x y reached ih next hi hj
    have turn := reached.turn next
    rcases List.mem_append.1 hi with hi | hi
    · rcases List.mem_append.1 hj with hj | hj
      · exact ih hi hj
      · rw [List.mem_singleton.1 hj] at closed'
        exact (turn.unclosable closed' (reached.retired hi closed)).elim
    · rw [List.mem_singleton.1 hi] at closed
      rcases List.mem_append.1 hj with hj | hj
      · exact (turn.unclosable closed (reached.retired hj closed')).elim
      · rw [List.mem_singleton.1 hj, closed] at closed'
        cases closed'
        rfl

/-- Of a closing handle that is outstanding no longer, the last callback that its close was given
was entered since, and no other was. -/
theorem Reached.parted {during : List (Machine H)} (reached : Reached T enter (past ++ during) y)
    (first : Reached T enter past m) (hm : m ∈ during) {z : Handle H.Closure}
    (found : m.loop.handles.get? h = some z) (marked : z.closing = true)
    (accounted : ¬ y.Outstanding h) (after : y.parts h = false) :
    (∃ i ∈ past, ∃ c, i.closed? T = some (h, c) ∧ ∃ w ∈ during, w.control = .enter c (.closed h)) ∧
      (past ++ during ++ [y]).countP (Machine.parts h) = 1 := by
  obtain ⟨i, hi, c, closed⟩ := first.closedBy found marked
  obtain ⟨w, hw, parts⟩ :=
    (reached.outstanding (i := m) (by simp [hm]) (by rw [found]; rfl)).resolve_left accounted
  have within : w ∈ during := by
    rcases List.mem_append.1 hw with hw | hw
    · rcases List.mem_append.1 hw with hw | hw
      · -- While the handle is there its last callback is not entered.
        have early := first.parts_le h
        rw [show m.unspent h = true by simp [unspent, found], Bool.toNat_true] at early
        have entered := List.countP_pos_iff.2 ⟨w, List.mem_append_left [m] hw, parts⟩
        omega
      · exact hw
    · rw [List.mem_singleton.1 hw, after] at parts
      cases parts
  obtain ⟨c', control⟩ := exists_of_parts parts
  obtain ⟨before, later, rfl⟩ := List.append_of_mem within
  have entering : Reached T enter (past ++ before) w := by
    rw [← List.append_assoc] at reached
    exact reached.cut.1
  obtain ⟨j, hj, closed'⟩ := (entering.parts control).closed
  obtain rfl := entering.closed_unique (List.mem_append_left _ hi) hj closed closed'
  refine ⟨⟨i, hi, c, closed, w, within, control⟩,
    Nat.le_antisymm ?_ (List.countP_pos_iff.2 ⟨w, hw, parts⟩)⟩
  have most := reached.parts_le h
  omega

end Reactor.Machine
