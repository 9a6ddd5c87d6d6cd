import Reactor.Proofs.Closing.Turns

/-!
# A close is final

A handle is closed at most once. From then on it only fades: nothing puts it to use, and it gains
neither references nor requests. Once it has none it is reclaimed in a close phase, its listeners
hear of it, its last callback runs, and nothing of it is left.
-/

namespace Reactor

variable {H : Host} {T : Transport H.Net H.Script} {enter : Handlers H}

/-- The handle whose last callback a frame is still to enter. -/
def Frame.reclaiming? : Frame H → Option HandleId
  | .reclaiming h _ => some h
  | _ => none

namespace Machine

variable {x y m : Machine H} {past : List (Machine H)} {h : HandleId}

/-- The machine is about to enter the last callback of a handle. -/
def parts (h : HandleId) (m : Machine H) : Bool := m.parting?.any (·.1 = h)

/-- The number of last callbacks that suspended work is still to enter for a handle. -/
def partings (m : Machine H) (h : HandleId) : Nat := m.stack.countP (·.reclaiming? = some h)

/-- The number of frames that belong to the end of a handle. -/
def endings (m : Machine H) (h : HandleId) : Nat := m.stack.countP (·.ending? = some h)

/-- The handle was created and is gone. -/
def Gone (m : Machine H) (h : HandleId) : Prop :=
  h < m.loop.handles.next ∧ m.loop.handles.get? h = none

/-- The handle is gone, and no work is left that belongs to its end. -/
def Over (m : Machine H) (h : HandleId) : Prop := m.Gone h ∧ ∀ f ∈ m.stack, f.ending? ≠ some h

/-- Whether a handle is still to come or is there. -/
def unspent (m : Machine H) (h : HandleId) : Bool :=
  m.loop.handles.next ≤ h || (m.loop.handles.get? h).isSome

/-! ## One step -/

/-- Among ordinary frames none is at the end of a handle. -/
theorem ending?_of_all {frames : List (Frame H)} (ordinary : frames.all (·.ending?.isNone) = true)
    {f : Frame H} (hf : f ∈ frames) : f.ending? = none :=
  Option.isNone_iff_eq_none.1 (List.all_eq_true.1 ordinary f hf)

/-- Among ordinary frames none counts as the end of a handle. -/
theorem countP_ending_of_all {frames : List (Frame H)}
    (ordinary : frames.all (·.ending?.isNone) = true) :
    frames.countP (·.ending? = some h) = 0 :=
  List.countP_eq_zero.2 fun f hf => by simp [ending?_of_all ordinary hf]

/-- A handle has nothing left to spend just when it is gone. -/
theorem unspent_eq_false_iff : m.unspent h = false ↔ m.Gone h := by
  simp [unspent, Gone]

/-- Among ordinary frames none is about to reclaim a handle. -/
theorem countP_reclaiming_of_all {frames : List (Frame H)}
    (ordinary : frames.all (·.ending?.isNone) = true) :
    frames.countP (·.reclaiming? = some h) = 0 := by
  refine List.countP_eq_zero.2 fun f hf => ?_
  have silent := ending?_of_all ordinary hf
  have silent : f.reclaiming? = none := by cases f <;> first | rfl | cases silent
  simp [silent]

namespace Turn

/-- A handle that is closing or gone gains no reference and no request, and
it does not come back. -/
theorem fades (turn : Turn T x y) (retired : x.loop.Retired h) :
    y.loop.Retired h ∧
      (∀ z, y.loop.handles.get? h = some z →
        ∃ w, x.loop.handles.get? h = some w ∧ z.refs ≤ w.refs) ∧
      y.loop.pendingRequests h ≤ x.loop.pendingRequests h := by
  cases turn with
  | ordinary _ _ _ _ _ _ _ _ ages =>
    refine ⟨ages.retired retired, fun z hz => ?_, ages.requests h retired⟩
    obtain ⟨new, -⟩ | ⟨w, hw, -, marks⟩ := ages.handles h z hz
    · exact absurd retired.1 (Nat.not_lt_of_le new)
    · exact ⟨w, hw, (marks (retired.2 w hw)).2⟩
  | @close k c _ _ closes =>
    obtain ⟨z, found, unmarked, handles⟩ := closes.unmarked
    have other := retired.ne found unmarked
    have same : y.loop.handles.get? h = x.loop.handles.get? h := by rw [handles, if_neg other]
    refine ⟨⟨by rw [closes.next]; exact retired.1, fun w hw => retired.2 w (by rwa [← same])⟩,
      fun w hw => ?_, ?_⟩
    · exact ⟨w, by rwa [← same], Nat.le_refl _⟩
    · exact Nat.le_of_eq (Loop.pendingRequests_congr closes.requests h)
  | reclaim _ _ _ _ _ _ handles requests =>
    have fewer (w) (hw : y.loop.handles.get? h = some w) : x.loop.handles.get? h = some w := by
      rw [handles] at hw
      exact (Registry.get?_of_remove hw).2
    refine ⟨⟨by rw [handles]; exact retired.1, fun w hw => retired.2 w (fewer w hw)⟩,
      fun w hw => ⟨w, fewer w hw, Nat.le_refl _⟩, ?_⟩
    exact Nat.le_of_eq (Loop.pendingRequests_congr requests h)
  | part _ _ _ loop =>
    rw [loop]
    exact ⟨retired, fun w hw => ⟨w, hw, Nat.le_refl _⟩, Nat.le_refl _⟩
  | endParting _ _ _ loop =>
    rw [loop]
    exact ⟨retired, fun w hw => ⟨w, hw, Nat.le_refl _⟩, Nat.le_refl _⟩

/-- A close marks its handle and leaves its last callback there. -/
theorem closes (turn : Turn T x y) {c : H.Closure} (closed : x.closed? T = some (h, c)) :
    y.loop.Retired h ∧ ∃ z, y.loop.handles.get? h = some z ∧ z.onClose = some c := by
  cases turn with
  | close closed' _ closes =>
    rw [closed'] at closed
    cases closed
    obtain ⟨z, found, unmarked, handles⟩ := closes.unmarked
    have there := (handles h).trans (if_pos rfl)
    refine ⟨⟨by rw [closes.next]; exact Registry.lt_next_of_get? found, fun w hw => ?_⟩,
      _, there, rfl⟩
    obtain rfl := Option.some.inj (there.symm.trans hw)
    rfl
  | ordinary _ _ _ closed' | reclaim closed' | part closed' | endParting closed' =>
    rw [closed'] at closed
    cases closed

/-- A last callback comes from the close that the step performs, or was there before. -/
theorem onClose (turn : Turn T x y) {c : H.Closure} {z : Handle H.Closure}
    (found : y.loop.handles.get? h = some z) (last : z.onClose = some c) :
    x.closed? T = some (h, c) ∨ ∃ w, x.loop.handles.get? h = some w ∧ w.onClose = some c := by
  cases turn with
  | ordinary _ _ _ _ _ _ _ _ ages =>
    obtain ⟨-, none⟩ | ⟨w, hw, same, -⟩ := ages.handles h z found
    · rw [none] at last
      cases last
    · exact .inr ⟨w, hw, by rw [← same]; exact last⟩
  | close closed _ closes =>
    obtain ⟨w, there, -, handles⟩ := closes.unmarked
    rw [handles] at found
    split at found
    case isTrue hk =>
      cases found
      cases last
      exact .inl (by rw [← hk]; exact closed)
    case isFalse => exact .inr ⟨z, found, last⟩
  | reclaim _ _ _ _ _ _ handles =>
    rw [handles] at found
    exact .inr ⟨z, (Registry.get?_of_remove found).2, last⟩
  | part _ _ _ loop =>
    rw [loop] at found
    exact .inr ⟨z, found, last⟩
  | endParting _ _ _ loop =>
    rw [loop] at found
    exact .inr ⟨z, found, last⟩

/-- A handle that is gone does not come back. -/
theorem gone (turn : Turn T x y) (gone : x.Gone h) : y.Gone h := by
  obtain ⟨retired, back, -⟩ :=
    turn.fades (h := h) ⟨gone.1, fun z hz => by rw [gone.2] at hz; cases hz⟩
  refine ⟨retired.1, Option.eq_none_iff_forall_not_mem.2 fun z hz => ?_⟩
  obtain ⟨w, hw, -⟩ := back z hz
  rw [gone.2] at hw
  cases hw

/-- A handle that is not there before a step, nor to come, is neither after it. -/
theorem unspent_le (turn : Turn T x y) (h : HandleId) :
    (y.unspent h).toNat ≤ (x.unspent h).toNat := by
  cases hx : x.unspent h with
  | false =>
    have gone := unspent_eq_false_iff.2 (turn.gone (unspent_eq_false_iff.1 hx))
    exact Nat.le_of_eq (congrArg Bool.toNat gone)
  | true => exact Bool.toNat_le _

/-- A reclaim takes a handle that is there, and it is gone. -/
theorem unspent_of_reclaim {z : Handle H.Closure} (found : x.loop.handles.get? h = some z)
    (handles : y.loop.handles = x.loop.handles.remove h) :
    x.unspent h = true ∧ y.unspent h = false := by
  have known : h < x.loop.handles.next := Registry.lt_next_of_get? found
  refine ⟨by simp [unspent, found], unspent_eq_false_iff.2 ?_⟩
  rw [Gone, handles]
  exact ⟨known, by rw [Registry.get?_remove, if_pos rfl]⟩

/-- Of the three that lead to a last callback, a step uses up one before it brings about the next:
the handle in the table, the work that is to enter the callback, and the entering of it. -/
theorem parts_le (turn : Turn T x y) (h : HandleId) :
    (y.parts h).toNat + y.partings h + (y.unspent h).toNat ≤
      x.partings h + (x.unspent h).toNat := by
  have live := turn.unspent_le h
  cases turn with
  | ordinary dropped pushed rest _ before after drops pushes _ parting =>
    have silent : y.parts h = false := by simp [parts, parting]
    simp only [silent, partings, before, after, List.countP_append, countP_reclaiming_of_all drops,
      countP_reclaiming_of_all pushes, Bool.toNat_false]
    omega
  | close _ stack _ parting =>
    have silent : y.parts h = false := by simp [parts, parting]
    simp only [silent, partings, stack, Bool.toNat_false]
    omega
  | @reclaim k z t batch rest _ before found _ after control handles =>
    have silent : y.parts h = false := by simp [parts, parting?, control]
    simp only [silent, partings, before, after, List.countP_cons, Frame.reclaiming?,
      Bool.toNat_false]
    by_cases hk : k = h
    · subst hk
      simp [unspent_of_reclaim found handles]
    · simp [hk]
      omega
  | @part k onClose failure rest _ before after _ parting =>
    have here : (y.parts h).toNat ≤ if k = h then 1 else 0 := by
      cases onClose <;> simp [parts, parting]
      split <;> simp [*]
    simp only [partings, before, after, List.countP_cons, Frame.reclaiming?]
    simp
    omega
  | endParting _ before after _ parting =>
    have silent : y.parts h = false := by simp [parts, parting]
    simp only [silent, partings, before, after, List.countP_cons, Frame.reclaiming?,
      Bool.toNat_false]
    simp
    omega

/-- The work at the end of a handle takes the place of the handle in the table. -/
theorem endings_le (turn : Turn T x y) (h : HandleId) :
    y.endings h + (y.unspent h).toNat ≤ x.endings h + (x.unspent h).toNat := by
  have live := turn.unspent_le h
  cases turn with
  | ordinary dropped pushed rest _ before after drops pushes =>
    simp only [endings, before, after, List.countP_append, countP_ending_of_all drops,
      countP_ending_of_all pushes]
    omega
  | close _ stack =>
    simp only [endings, stack]
    omega
  | @reclaim k z t batch rest _ before found _ after _ handles =>
    simp only [endings, before, after, List.countP_cons, Frame.ending?_reclaiming,
      Frame.ending?_tick]
    by_cases hk : k = h
    · subst hk
      simp [unspent_of_reclaim found handles]
    · simp [hk]
      omega
  | part _ before after =>
    simpa [endings, before, after, List.countP_cons] using live
  | endParting _ before after =>
    simp only [endings, before, after, List.countP_cons]
    omega

/-- What stands at and below a frame stands there until the frame is taken off. -/
theorem below_of_append (pushed : List (Frame H)) {rest above below : List (Frame H)} {f : Frame H}
    (split : pushed ++ rest = above ++ f :: below) (other : f ∉ pushed) :
    ∃ above', rest = above' ++ f :: below := by
  obtain ⟨middle, -, hrest⟩ | ⟨middle, hpushed, hmiddle⟩ := List.append_eq_append_iff.1 split
  · exact ⟨middle, hrest⟩
  · cases middle with
    | nil => exact ⟨[], hmiddle.symm⟩
    | cons g middle =>
      obtain ⟨rfl, -⟩ := List.cons.inj hmiddle
      exact (other (by simp [hpushed])).elim

/-- Work that is to enter a last callback was there before, with the same work below it, or its
handle is being reclaimed just now. -/
theorem below (turn : Turn T x y) {above below : List (Frame H)} {last : Option H.Closure}
    (split : y.stack = above ++ .reclaiming h last :: below) :
    (∃ above', x.stack = above' ++ .reclaiming h last :: below) ∨
      y.control = .emit h .close ∧ y.stack = .reclaiming h last :: below ∧
        (∃ t rest, below = .tick t :: rest ∧ t.stage.phase = .closeCallbacks) ∧
        ∃ z, x.loop.handles.get? h = some z ∧ z.onClose = last := by
  cases turn with
  | ordinary dropped pushed rest _ before after drops pushes =>
    have other : Frame.reclaiming h last ∉ pushed :=
      fun hf => by simpa [Frame.ending?] using ending?_of_all pushes hf
    obtain ⟨above', hrest⟩ := below_of_append _ (after.symm.trans split) other
    exact .inl ⟨dropped ++ above', by rw [before, hrest, List.append_assoc]⟩
  | close _ stack => exact .inl ⟨above, by rw [← stack, split]⟩
  | @reclaim k z t batch rest _ before found _ after control =>
    cases above with
    | nil =>
      obtain ⟨heq, rfl⟩ := List.cons.inj (after.symm.trans split)
      cases heq
      exact .inr ⟨control, split, ⟨_, rest, rfl, rfl⟩, z, found, rfl⟩
    | cons f above =>
      obtain ⟨-, hrest⟩ := List.cons.inj (after.symm.trans split)
      obtain ⟨above', hrest⟩ := below_of_append [_] hrest (by simp)
      exact .inl ⟨.tick t :: above', by rw [before, hrest]; rfl⟩
  | @part k onClose failure rest _ before after =>
    obtain ⟨above', hrest⟩ := below_of_append [_] (after.symm.trans split) (by simp)
    exact .inl ⟨_ :: above', by rw [before, hrest]; rfl⟩
  | endParting _ before after => exact .inl ⟨_ :: above, by rw [before, ← after, split]; rfl⟩

/-- Work that belongs to the end of a handle was there before, or the handle is
being reclaimed just now. -/
theorem ending (turn : Turn T x y) {f : Frame H} (hf : f ∈ y.stack) (ends : f.ending? = some h) :
    (∃ g ∈ x.stack, g.ending? = some h) ∨
      (x.loop.handles.get? h).isSome ∧ y.loop.handles = x.loop.handles.remove h := by
  cases turn with
  | ordinary dropped pushed rest _ before after drops pushes =>
    rw [after] at hf
    rcases List.mem_append.1 hf with hf | hf
    · rw [ending?_of_all pushes hf] at ends
      cases ends
    · exact .inl ⟨f, by rw [before]; exact List.mem_append_right _ hf, ends⟩
  | close _ stack => exact .inl ⟨f, by rwa [← stack], ends⟩
  | reclaim _ before found _ after _ handles =>
    rw [after] at hf
    rcases List.mem_cons.1 hf with rfl | hf
    · cases ends
      exact .inr ⟨by rw [found]; rfl, handles⟩
    · rcases List.mem_cons.1 hf with rfl | hf
      · cases ends
      · exact .inl ⟨f, by rw [before]; exact List.mem_cons_of_mem _ hf, ends⟩
  | part _ before after =>
    rw [after] at hf
    rcases List.mem_cons.1 hf with rfl | hf
    · cases ends
      exact .inl ⟨_, by rw [before]; exact List.mem_cons_self, rfl⟩
    · exact .inl ⟨f, by rw [before]; exact List.mem_cons_of_mem _ hf, ends⟩
  | endParting _ before after =>
    exact .inl ⟨f, by rw [before, ← after]; exact List.mem_cons_of_mem _ hf, ends⟩

/-- A handle that is gone after a step, and whose end is over, has no listeners after it
if it had none before. -/
theorem listeners (turn : Turn T x y) (gone : y.loop.handles.get? h = none)
    (ended : ∀ f ∈ y.stack, f.ending? ≠ some h)
    (before : x.loop.handles.get? h = none → (∀ f ∈ x.stack, f.ending? ≠ some h) →
      ∀ z ∈ x.loop.listeners, z.handle ≠ h) :
    ∀ z ∈ y.loop.listeners, z.handle ≠ h := by
  intro z hz
  cases turn with
  | ordinary dropped pushed rest _ split after drops _ ages =>
    have gone' : x.loop.handles.get? h = none := Option.not_isSome_iff_eq_none.1 fun there => by
      simpa [gone] using ages.stays h there
    obtain hz | there := ages.listeners z hz
    · refine before gone' (fun f hf => ?_) z hz
      rw [split] at hf
      rcases List.mem_append.1 hf with hf | hf
      · simp [ending?_of_all drops hf]
      · exact ended f (by rw [after]; exact List.mem_append_right _ hf)
    · rintro rfl
      simp [gone] at there
  | close _ stack closes =>
    obtain ⟨w, -, -, handles⟩ := closes.unmarked
    rw [handles] at gone
    split at gone
    case isTrue => cases gone
    case isFalse => exact before gone (by rwa [← stack]) z (by rwa [← closes.listeners])
  | @reclaim k w t batch rest _ split _ _ after _ handles _ listeners =>
    have other : k ≠ h := fun hk => ended _ (after ▸ List.mem_cons_self) (by rw [← hk]; rfl)
    rw [handles, Registry.get?_remove, if_neg other] at gone
    refine before gone (fun f hf => ?_) z (by rwa [← listeners])
    rw [split] at hf
    rcases List.mem_cons.1 hf with rfl | hf
    · simp [Frame.ending?]
    · exact ended f (by rw [after]; simp [hf])
  | @part k onClose failure rest _ split after loop =>
    have other : k ≠ h := fun hk => ended _ (after ▸ List.mem_cons_self) (by rw [← hk]; rfl)
    rw [loop] at gone hz
    refine before gone (fun f hf => ?_) z hz
    rw [split] at hf
    rcases List.mem_cons.1 hf with rfl | hf
    · simpa [Frame.ending?] using other
    · exact ended f (by rw [after]; simp [hf])
  | @endParting k failure rest _ split after loop =>
    rw [loop] at gone hz
    obtain ⟨hz, other⟩ := List.mem_filter.1 hz
    by_cases hk : k = h
    · simpa [hk] using other
    · refine before gone (fun f hf => ?_) z hz
      rw [split] at hf
      rcases List.mem_cons.1 hf with rfl | hf
      · simpa [Frame.ending?] using hk
      · exact ended f (by rwa [after])

end Turn

/-! ## Runs -/

/-- A 'close' event was told at some machine, and from there on the work below it stood still. -/
def Told (machines : List (Machine H)) (h : HandleId) (last : Option H.Closure)
    (below : List (Frame H)) : Prop :=
  ∃ before e between, machines = before ++ e :: between ∧ e.control = .emit h .close ∧
    e.stack = .reclaiming h last :: below ∧
    ∀ x ∈ between, ∃ above, x.stack = above ++ .reclaiming h last :: below

/-- What comes after a reached machine is a turn of it. -/
theorem Reached.turn (reached : Reached T enter past x) (next : Next T enter x y) : Turn T x y :=
  turn_of_next (Balanced.of_reached reached) next

/-- The last callback of a handle is the one that a close was given. -/
theorem Reached.onClose (reached : Reached T enter past m) {z : Handle H.Closure} {c : H.Closure}
    (found : m.loop.handles.get? h = some z) (last : z.onClose = some c) :
    ∃ i ∈ past, i.closed? T = some (h, c) := by
  refine reached.history (P := fun past m =>
    ∀ z, m.loop.handles.get? h = some z → z.onClose = some c →
    ∃ i ∈ past, i.closed? T = some (h, c)) ?_ ?_ z found last
  · intro options net shared p z found
    cases found
  · intro past x y reached ih next z found last
    obtain closed | ⟨w, found, last⟩ := (reached.turn next).onClose found last
    · exact ⟨x, by simp, closed⟩
    · obtain ⟨i, hi, closed⟩ := ih w found last
      exact ⟨i, List.mem_append_left _ hi, closed⟩

/-- Work that is to enter a last callback stands on a tick in its close phase. The 'close' event was
told above it, and the callback is the one that the close was given. -/
theorem Reached.told (reached : Reached T enter past m) (above : List (Frame H))
    {below : List (Frame H)} {last : Option H.Closure}
    (split : m.stack = above ++ .reclaiming h last :: below) :
    Told (past ++ [m]) h last below ∧
      (∃ t rest, below = .tick t :: rest ∧ t.stage.phase = .closeCallbacks) ∧
      ∀ c, last = some c → ∃ i ∈ past, i.closed? T = some (h, c) := by
  refine reached.history (P := fun past m =>
    ∀ above, m.stack = above ++ .reclaiming h last :: below →
    Told (past ++ [m]) h last below ∧
      (∃ t rest, below = .tick t :: rest ∧ t.stage.phase = .closeCallbacks) ∧
      ∀ c, last = some c → ∃ i ∈ past, i.closed? T = some (h, c)) ?_ ?_ above split
  · intro options net shared p above split
    simp [start, ofProgram] at split
  · intro past x y reached ih next above split
    obtain ⟨above', earlier⟩ | ⟨control, stack, phase, z, found, hlast⟩ :=
      (reached.turn next).below split
    · obtain ⟨⟨before, e, between, hpast, he, hstack, stands⟩, phase, closed⟩ := ih above' earlier
      refine ⟨⟨before, e, between ++ [y], by simp [hpast], he, hstack, fun z hz => ?_⟩, phase,
        fun c hc => ?_⟩
      · rcases List.mem_append.1 hz with hz | hz
        · exact stands z hz
        · rw [List.mem_singleton.1 hz]
          exact ⟨above, split⟩
      · obtain ⟨i, hi, closed⟩ := closed c hc
        exact ⟨i, List.mem_append_left _ hi, closed⟩
    · refine ⟨⟨past ++ [x], y, [], by simp, control, stack, by simp⟩, phase, fun c hc => ?_⟩
      obtain ⟨i, hi, closed⟩ := reached.onClose found (hlast.trans hc)
      exact ⟨i, List.mem_append_left _ hi, closed⟩

/-- The work at the end of a handle is about one that is gone. -/
theorem Reached.ending (reached : Reached T enter past m) {f : Frame H} (hf : f ∈ m.stack)
    (ends : f.ending? = some h) : h < m.loop.handles.next ∧ m.loop.handles.get? h = none := by
  refine reached.history (P := fun _ m => ∀ f ∈ m.stack, f.ending? = some h →
    h < m.loop.handles.next ∧ m.loop.handles.get? h = none) ?_ ?_ f hf ends
  · intro options net shared p f hf
    cases hf
  · intro past x y reached ih next f hf ends
    have turn := reached.turn next
    obtain ⟨g, hg, ends⟩ | ⟨there, handles⟩ := turn.ending hf ends
    · obtain ⟨known, gone⟩ := ih g hg ends
      obtain ⟨retired, back, -⟩ :=
        turn.fades (h := h) ⟨known, fun z hz => by rw [gone] at hz; cases hz⟩
      refine ⟨retired.1, Option.eq_none_iff_forall_not_mem.2 fun z hz => ?_⟩
      obtain ⟨w, hw, -⟩ := back z hz
      rw [gone] at hw
      cases hw
    · obtain ⟨z, found⟩ := Option.isSome_iff_exists.1 there
      have known : h < x.loop.handles.next := Registry.lt_next_of_get? found
      rw [handles]
      exact ⟨known, by rw [Registry.get?_remove, if_pos rfl]⟩

/-- A handle that is not there has no listeners, once its end is over. -/
theorem Reached.listeners (reached : Reached T enter past m) (gone : m.loop.handles.get? h = none)
    (ended : ∀ f ∈ m.stack, f.ending? ≠ some h) : ∀ z ∈ m.loop.listeners, z.handle ≠ h := by
  refine reached.history (P := fun _ m =>
    m.loop.handles.get? h = none → (∀ f ∈ m.stack, f.ending? ≠ some h) →
    ∀ z ∈ m.loop.listeners, z.handle ≠ h) ?_ ?_ gone ended
  · intro options net shared p _ _ z hz
    cases hz
  · intro past x y reached ih next gone ended
    exact (reached.turn next).listeners gone ended ih

/-- Over a whole run the last callback of a handle is entered at most once, and not
while the handle is there. -/
theorem Reached.parts_le (reached : Reached T enter past m) (h : HandleId) :
    (past ++ [m]).countP (parts h) + m.partings h + (m.unspent h).toNat ≤ 1 := by
  refine reached.history (P := fun past m =>
    (past ++ [m]).countP (parts h) + m.partings h + (m.unspent h).toNat ≤ 1) ?_ ?_
  · intro options net shared p
    simp [parts, parting?, start, ofProgram, partings, Bool.toNat_le]
  · intro past x y reached ih next
    have step := (reached.turn next).parts_le h
    have count : ([y].countP (parts h)) = (y.parts h).toNat := by
      cases hy : y.parts h <;> simp [hy]
    rw [List.countP_append, count]
    omega

/-- At most one frame belongs to the end of a handle. -/
theorem Reached.endings_le (reached : Reached T enter past m) (h : HandleId) :
    m.endings h + (m.unspent h).toNat ≤ 1 := by
  refine reached.history (P := fun _ m => m.endings h + (m.unspent h).toNat ≤ 1) ?_ ?_
  · intro options net shared p
    simp [start, ofProgram, endings, Bool.toNat_le]
  · intro past x y reached ih next
    exact Nat.le_trans ((reached.turn next).endings_le h) ih

/-- The return of a last callback is the end of its handle's end. -/
theorem Reached.over (reached : Reached T enter past m) {emitted failure : Option ListenerError}
    {rest : List (Frame H)} (stack : m.stack = .parting h emitted :: rest)
    (control : m.control = .returned failure) (next : Next T enter m y) : y.Over h := by
  have single := reached.endings_le h
  have gone : m.Gone h := reached.ending (f := .parting h emitted) (by simp [stack]) rfl
  obtain ⟨l, _, _⟩ := m
  obtain rfl : _ = _ := stack
  obtain rfl : _ = _ := control
  refine ⟨(reached.turn next).gone gone, ?_⟩
  simp only [endings, List.countP_cons, Frame.ending?_parting, decide_true, if_true] at single
  have none : rest.countP (·.ending? = some h) = 0 := by omega
  have none : ∀ f ∈ rest, f.ending? ≠ some h := by simpa using List.countP_eq_zero.1 none
  cases next with
  | step taken =>
    cases (rule_of_step? taken).2 with
    | endParting => exact none
  | resume p rest' => cases rest'

/-- Once a handle was closed it is closing or gone. -/
theorem Reached.retired (reached : Reached T enter past m) {i : Machine H} (hi : i ∈ past)
    {c : H.Closure} (closed : i.closed? T = some (h, c)) : m.loop.Retired h := by
  refine reached.history (P := fun past m => i ∈ past → m.loop.Retired h) ?_ ?_ hi
  · intro options net shared p hi
    cases hi
  · intro past x y reached ih next hi
    have turn := reached.turn next
    rcases List.mem_append.1 hi with hi | hi
    · exact (turn.fades (ih hi)).1
    · rw [List.mem_singleton.1 hi] at closed
      exact (turn.closes closed).1

/-- A handle whose end is over stays so. -/
theorem Turn.over (turn : Turn T x y) (ended : x.Over h) : y.Over h := by
  refine ⟨turn.gone ended.1, fun f hf ends => ?_⟩
  obtain ⟨g, hg, ends⟩ | ⟨there, -⟩ := turn.ending hf ends
  · exact ended.2 g hg ends
  · rw [ended.1.2] at there
    cases there

/-- What is kept by every step held ever since it held. -/
theorem Reached.since {P : Machine H → Prop} (reached : Reached T enter past m) {i : Machine H}
    (hi : i ∈ past) (holds : P i) (kept : ∀ x y, Turn T x y → P x → P y) : P m := by
  refine reached.history (P := fun past m => i ∈ past → P m) ?_ ?_ hi
  · intro options net shared p hi
    cases hi
  · intro past x y reached ih next hi
    rcases List.mem_append.1 hi with hi | hi
    · exact kept x y (reached.turn next) (ih hi)
    · rw [List.mem_singleton.1 hi] at holds
      exact kept x y (reached.turn next) holds

/-! ## The end of a handle -/

/-- What holds when the last callback `c` of a handle is about to be entered. -/
structure Parts (T : Transport H.Net H.Script) (past : List (Machine H)) (m : Machine H)
    (h : HandleId) (c : H.Closure) : Prop where
  /-- A tick is in its close phase, and above it the 'close' event of the
  handle has just been told. -/
  told : ∃ failure t rest, m.stack = .parting h failure :: .tick t :: rest ∧
    t.stage.phase = .closeCallbacks ∧ Told past h (some c) (.tick t :: rest)
  gone : m.Gone h
  /-- No request of the handle is pending, and none of its callbacks runs. -/
  idle : m.loop.pendingRequests h = 0 ∧ m.dispatching h = 0
  /-- Every request of the handle was answered. -/
  answered : ∀ before i after req r,
    past = before ++ i :: after → i.issued? T = some (req, r) → r.handle = h →
    ∃ waiting d y later status,
      after ++ [m] = waiting ++ d :: y :: later ∧ Answered T req r status waiting d y later
  /-- The callback is the one that a close of the handle was given. -/
  closed : ∃ i ∈ past, i.closed? T = some (h, c)

/-- A step that is about to enter a last callback has left the listeners of the handle. -/
theorem Turn.parts (turn : Turn T x y) {c : H.Closure}
    (entered : y.control = .enter c (.closed h)) :
    ∃ failure rest, x.stack = .reclaiming h (some c) :: rest ∧
      y.stack = .parting h failure :: rest := by
  have parts : y.parting? = some (h, c) := by simp [parting?, entered]
  cases turn with
  | ordinary _ _ _ _ _ _ _ _ _ parting | close _ _ _ parting | endParting _ _ _ _ parting =>
    rw [parting] at parts
    cases parts
  | reclaim _ _ _ _ _ control =>
    rw [control] at entered
    cases entered
  | @part k onClose failure rest _ before after _ parting =>
    rw [parting] at parts
    cases onClose with
    | none => cases parts
    | some c' =>
      cases parts
      exact ⟨failure, rest, before, after⟩

/-- When a last callback is about to be entered, its handle has gone through
all of its end before. -/
theorem Reached.parts (reached : Reached T enter past m) {c : H.Closure}
    (entered : m.control = .enter c (.closed h)) :
    Parts T past m h c := by
  obtain ⟨past, x, rfl, first, next⟩ := reached.previous entered
  obtain ⟨failure, rest, before, after⟩ := (first.turn next).parts entered
  obtain ⟨told, ⟨t, rest, rfl, phase⟩, closed⟩ := first.told [] before
  obtain ⟨i, hi, closed⟩ := closed c rfl
  have gone : m.Gone h := reached.ending (f := .parting h failure) (by simp [after]) rfl
  have b := Balanced.of_reached reached
  have unrequested {req r} (pending : m.loop.requests.get? req = some r) : r.handle ≠ h := by
    rintro rfl
    have there := b.requested pending
    rw [gone.2] at there
    cases there
  refine ⟨⟨failure, t, rest, after, phase, told⟩, gone, ⟨?_, ?_⟩, ?_, i,
    List.mem_append_left _ hi, closed⟩
  · refine Nat.eq_zero_of_not_pos fun pos => ?_
    obtain ⟨req, r, pending, same⟩ := (m.loop.pendingRequests_pos_iff h).1 pos
    exact unrequested pending same
  · refine Nat.eq_zero_of_not_pos fun pos => ?_
    have there := b.present (List.count_pos_iff.1 pos)
    rw [gone.2] at there
    cases there
  · intro before i after req r split issued same
    rw [split] at reached
    obtain ⟨-, waits⟩ | answered := reached.answered issued
    · exact (unrequested (waits m (by simp)).waiting same).elim
    · exact answered

/-! ## The whole run -/

/-- What a machine shows of the closes in its past. -/
structure KeepsClosed (T : Transport H.Net H.Script) (enter : Handlers H) (past : List (Machine H))
    (m : Machine H) :
    Prop where
  /-- A handle that was closed is not closed again, and nothing puts it to use. -/
  refuses : ∀ i ∈ past, ∀ h c, i.closed? T = some (h, c) →
    m.loop.Retired h ∧ (∀ c', m.closed? T ≠ some (h, c')) ∧
      (∀ o : Operation H.Closure, o.Uses h → ∃ e, o.failure? (m.loop.issue T o).1 = some e) ∧
      ∀ backlog c', ∃ e, (m.loop.beginListen T h backlog c').1 = .error e
  /-- From there on it gains neither a reference nor a request. -/
  fades : ∀ i ∈ past, ∀ h c, i.closed? T = some (h, c) → ∀ y, Next T enter m y →
    (∀ z, y.loop.handles.get? h = some z → ∃ w, m.loop.handles.get? h = some w ∧ z.refs ≤ w.refs) ∧
      y.loop.pendingRequests h ≤ m.loop.pendingRequests h
  /-- A closing handle without references is due exactly once, in the queue or in the batch of a
  tick; no other handle is due. -/
  due : ∀ h, (m.loop.closing ++ m.stack.flatMap Frame.due).count h =
    if (m.loop.handles.get? h).any Handle.reclaimable then 1 else 0
  /-- The last callback of a handle is entered at its end, and once. -/
  parts : ∀ h c, m.control = .enter c (.closed h) → Parts T past m h c
  once : ∀ h, (past ++ [m]).countP (Machine.parts h) ≤ 1
  /-- A handle that is gone does not come back, its number is not given out again, and every
  operation on it fails for want of it. -/
  gone : ∀ i ∈ past ++ [m], ∀ h, i.Gone h → m.Gone h ∧ (∀ kind, (m.loop.newHandle T kind).1 ≠ h) ∧
    (∀ o : Operation H.Closure, o.target? = some h →
      o.failure? (m.loop.issue T o).1 = some (.badHandle h)) ∧
    (∀ server, hasState m.loop server .listening = true →
      (m.loop.accept T server h).1 = .error (.badHandle h)) ∧
    (∀ backlog c, (m.loop.beginListen T h backlog c).1 = .error (.badHandle h)) ∧
    m.loop.answer T (.state h) = .error (.badHandle h) ∧
    m.loop.answer T (.kind h) = .error (.badHandle h) ∧
    m.loop.answer T (.readBuffer h) = .error (.badHandle h) ∧
    m.loop.answer T (.localAddress h) = .error (.badHandle h) ∧
    m.loop.answer T (.writeQueueSize h) = .error (.badHandle h) ∧
    m.loop.answer T (.isReading h) = false ∧ m.loop.answer T (.refCount h) = none
  /-- The return of the last callback is the end of the work at the handle's end. -/
  ends : ∀ h emitted rest failure,
    m.stack = .parting h emitted :: rest → m.control = .returned failure →
    ∀ y, Next T enter m y → y.Over h
  /-- Once the work at its end is over, it has no listeners. -/
  silent : ∀ i ∈ past ++ [m],
    ∀ h, i.Over h → m.Over h ∧ ∀ event, m.loop.answer T (.listenerCount h event) = (0 : Nat)

end Machine

open Machine

/-- A close is final: along every run, on any transport and with any handlers, a handle that was
closed is not used again, it is reclaimed once it is no longer referenced, and its last callback
comes last and once. -/
theorem close_is_final {past : List (Machine H)} {m : Machine H}
    (reached : Reached T enter past m) :
    KeepsClosed T enter past m where
  refuses i hi h c closed := by
    have retired := reached.retired hi closed
    have b := Balanced.of_reached reached
    refine ⟨retired, fun c' again => ?_, fun o uses => retired.refuses b uses, fun backlog c' =>
      retired.refuses_listen backlog c'⟩
    unfold closed? at again
    split at again
    case h_1 o next =>
      obtain ⟨e, failed⟩ := retired.refuses (T := T) b (Operation.uses_of_closed? again)
      rw [Operation.closed?_of_failure? failed] at again
      cases again
    case h_2 => cases again
  fades i hi h c closed y next := ((reached.turn next).fades (reached.retired hi closed)).2
  due h := (Balanced.of_reached reached).dueOnce h
  parts h c entered := reached.parts entered
  once h := by
    have := reached.parts_le h
    omega
  gone i hi h gone := by
    have gone : m.Gone h := by
      rcases List.mem_append.1 hi with hi | hi
      · exact reached.since hi gone fun _ _ turn => turn.gone
      · rwa [← List.mem_singleton.1 hi]
    refine ⟨gone, fun kind => (Nat.ne_of_lt gone.1).symm,
      fun o target => Loop.badHandle_issue gone.2 target, fun server listening => ?_,
      fun backlog c => Loop.badHandle_beginListen gone.2 backlog c, Loop.answer_of_gone gone.2⟩
    obtain ⟨s, found, state⟩ := (Option.any_eq_true _ _).1 listening
    exact Loop.badHandle_accept gone.2 found (by simpa using state)
  ends h emitted rest failure stack control y next := reached.over stack control next
  silent i hi h ended := by
    have ended : m.Over h := by
      rcases List.mem_append.1 hi with hi | hi
      · exact reached.since hi ended fun _ _ turn => turn.over
      · rwa [← List.mem_singleton.1 hi]
    have none := reached.listeners ended.1.2 ended.2
    have empty (event : EventName) : m.loop.listenersOf h event = [] := by
      refine List.filterMap_eq_nil_iff.2 fun z hz => if_neg fun named => none z hz named.1
    exact ⟨ended, fun event => congrArg List.length (empty event)⟩

/-- A client's last callback is entered in the close phase of its last tick, when its three
requests were answered. -/
theorem close_is_final_for_client :
    ∃ past, Reached Memory.transport (Echo.handlers _ _) past (Client.after 44) ∧
      (Client.after 44).control = .enter .afterClose (.closed 0) ∧
      Parts Memory.transport past (Client.after 44) 0 .afterClose ∧
      (Client.after 44).loop.requests.next = 3 := by
  obtain ⟨past, reached⟩ := Client.reached_after 44
  have entered : (Client.after 44).control = .enter .afterClose (.closed 0) := by rfl
  exact ⟨past, reached, entered, (close_is_final reached).parts 0 .afterClose entered, by rfl⟩

end Reactor
