import Reactor.Proofs.Buffers.Watching
import Reactor.Proofs.Loop.Outlines
import Reactor.Proofs.Memory.Pieces
import Reactor.Proofs.Stream.Buffers

/-!
# The reads of a tick

A tick reads in passes, once from each handle in each, until a pass finds nothing or there
were as many as the options allow. When those who are told only observe, that comes to the
same as an account of each handle for itself: its session gives up as many pieces as there are
passes, or all that it has.
-/

namespace Reactor

variable {S N C : Type} {enter : Handlers (Memory.host S N C)}

namespace Loop

/-- Whoever is told what a handle reads only observes, and does not fail. -/
def Observed {H : Host} (enter : Handlers H) (l : Loop H) : Prop :=
  ∀ h e, e.isRead = true → ∀ c ∈ l.listenersOf h e.name, (enter c (.event h e)).Observes (· = none)

/-- What the session of a handle has ahead of it, in pieces of the size that the options give. -/
def ahead (l : Loop (Memory.host S N C)) (h : HandleId) : List Event :=
  l.net.ahead l.options.readBufferSize h

/-- What the sessions of some handles have ahead at a place. -/
def round (l : Loop (Memory.host S N C)) (hs : List HandleId) (i : Nat) : List (HandleId × Event) :=
  hs.filterMap fun h => ((l.ahead h)[i]?).map (h, ·)

/-- In a round the first handle comes first, if it has a piece at the place, and then the others. -/
theorem round_cons (l : Loop (Memory.host S N C)) (h : HandleId) (hs : List HandleId) (i : Nat) :
    l.round (h :: hs) i = ((l.ahead h)[i]?.map (h, ·)).toList ++ l.round hs i := by
  rw [round, List.filterMap_cons]
  cases (l.ahead h)[i]? <;> rfl

/-- A round depends on what its handles have at the place. -/
theorem round_congr {l l' : Loop (Memory.host S N C)} {hs : List HandleId} {i j : Nat}
    (same : ∀ k ∈ hs, (l'.ahead k)[j]? = (l.ahead k)[i]?) : l'.round hs j = l.round hs i := by
  induction hs with
  | nil => rfl
  | cons h hs ih =>
    rw [round_cons, round_cons, same h List.mem_cons_self,
      ih fun k hk => same k (List.mem_cons_of_mem _ hk)]

/-- When no session has a first piece, none has any. -/
theorem ahead_of_round {l : Loop (Memory.host S N C)} {hs : List HandleId}
    (nothing : l.round hs 0 = []) {h : HandleId} (hh : h ∈ hs) : l.ahead h = [] := by
  have none := List.filterMap_eq_nil_iff.1 nothing h hh
  rwa [Option.map_eq_none_iff, ← List.head?_eq_getElem?, List.head?_eq_none_iff] at none

/-- Of each handle's session as many pieces were taken as are said, or all, and nothing else was
done that matters to reads. -/
structure Took (n : HandleId → Nat) (l l' : Loop (Memory.host S N C)) : Prop where
  net : l.net.Took l.options.readBufferSize n l'.net
  ids : l'.handles.ids = l.handles.ids
  options : l'.options = l.options
  listeners : l'.listeners = l.listeners

namespace Took

variable {l l' l'' : Loop (Memory.host S N C)} {n n' : HandleId → Nat}

/-- When pieces were taken, those after them are ahead. -/
theorem ahead (took : l.Took n l') (k : HandleId) : l'.ahead k = (l.ahead k).drop (n k) := by
  rw [Loop.ahead, took.options]
  exact took.net.ahead k

/-- Nothing was taken where nothing happened. -/
theorem refl (l : Loop (Memory.host S N C)) (solid : l.net.Solid) : l.Took (fun _ => 0) l :=
  ⟨.refl solid, rfl, rfl, rfl⟩

/-- What was taken in two turns was taken together. -/
theorem trans (first : l.Took n l') (second : l'.Took n' l'') :
    l.Took (fun k => n k + n' k) l'' where
  net := first.net.trans (first.options ▸ second.net)
  ids := second.ids.trans first.ids
  options := second.options.trans first.options
  listeners := second.listeners.trans first.listeners

/-- Where nothing is ahead it does not matter how much is taken. -/
theorem congr (took : l.Took n l') (same : ∀ k, l.ahead k ≠ [] → n' k = n k) : l.Took n' l' :=
  ⟨took.net.congr same, took.ids, took.options, took.listeners⟩

/-- A loop beside another has had the same taken. -/
theorem beside (took : l.Took n l') (beside : l'.Beside l'') : l.Took n l'' := by
  have agrees := beside.agrees
  refine ⟨?_, ?_, agrees.options.trans took.options, agrees.listeners.trans took.listeners⟩
  · rw [agrees.net]
    exact took.net
  · exact agrees.ids.trans took.ids

/-- Exposing a buffer takes no piece. -/
theorem expose (took : l.Took n l') (h : HandleId) (exposed : Bool) :
    l.Took n (Machine.expose l' h exposed) :=
  ⟨took.net, (ids_modifyBuffer ..).trans took.ids, took.options, took.listeners⟩

/-- Those who only observe what is read still do after pieces were taken. -/
theorem observed (took : l.Took n l') (observed : l.Observed enter) : l'.Observed enter := by
  intro h e read c hc
  refine observed h e read c ?_
  rw [listenersOf] at hc ⊢
  rwa [← took.listeners]

end Took

end Loop

namespace Machine

variable {options : Options} {shared : S} {p : Program (Memory.host S N C)}
  {past : List (Machine (Memory.host S N C))} {l l' : Loop (Memory.host S N C)}
  {base : List (Frame (Memory.host S N C))} {t : Tick} {h : HandleId} {e : Event}

/-! ## One read -/

/-- What a read has found is told to those who only observe. -/
theorem tells_observed {n : HandleId → Nat} {stack : List (Frame (Memory.host S N C))}
    (took : l.Took n l') (observed : l.Observed enter) (read : e.isRead = true)
    (rule : Rule Memory.transport enter (ofTick base t l) ⟨l', stack, .emit h e⟩)
    (b : Balanced (ofTick base t l)) :
    ∃ l', l.Took n l' ∧ Tells Memory.transport enter (ofTick base t l) [(h, e)]
      ⟨l', stack, .returned none⟩ := by
  obtain ⟨failure, l'', ⟨beside, ended⟩, told⟩ :=
    tells_observers (T := Memory.transport) (took.observed observed h e read) (b.rule rule)
  obtain rfl : failure = none := by simpa using ended
  have found : Tells Memory.transport enter (ofTick base t l) [] _ := .of_rule rule b
  exact ⟨l'', took.beside beside, found.after told⟩

/-- What a read has found is told, and the tick goes on. -/
theorem tells_found {n : HandleId → Nat} {t' : Tick} (took : l.Took n l')
    (observed : l.Observed enter) (read : e.isRead = true)
    (rule : Rule Memory.transport enter (ofTick base t l) ⟨l', .tick t' :: base, .emit h e⟩)
    (b : Balanced (ofTick base t l)) :
    ∃ l', l.Took n l' ∧ Tells Memory.transport enter (ofTick base t l) [(h, e)]
      (ofTick base t' l') := by
  obtain ⟨l'', took, way⟩ := tells_observed took observed read rule b
  have noted : Tells Memory.transport enter ⟨l'', .tick t' :: base, .returned none⟩ []
      (ofTick base t' l'') :=
    .of_rule .noteResult (way.balanced b)
  exact ⟨l'', took, way.trans noted⟩

/-- Bytes that a read has found are lent out and told, and the tick goes on. -/
theorem tells_lent {n : HandleId → Nat} {t' : Tick} {view : List UInt8} (took : l.Took n l')
    (observed : l.Observed enter)
    (rule : Rule Memory.transport enter (ofTick base t l)
      ⟨l', .lending h view :: .tick t' :: base, .emit h (.data view)⟩)
    (b : Balanced (ofTick base t l)) :
    ∃ l', l.Took n l' ∧ Tells Memory.transport enter (ofTick base t l) [(h, .data view)]
      (ofTick base t' l') := by
  obtain ⟨l'', took, way⟩ := tells_observed took observed rfl rule b
  have back : Tells Memory.transport enter ⟨l'', .lending h view :: .tick t' :: base,
      .returned none⟩ []
      ⟨expose l'' h false, .tick t' :: base, .returned none⟩ := .of_rule .endLoan (way.balanced b)
  have noted : Tells Memory.transport enter ⟨expose l'' h false, .tick t' :: base,
      .returned none⟩ []
      (ofTick base t' (expose l'' h false)) := .of_rule .noteResult (back.balanced (way.balanced b))
  exact ⟨expose l'' h false, took.expose h false, way.trans (back.trans noted)⟩

/-- The session of a handle that reads is closed in the transport too. -/
theorem net_endReading_fillBuffer {x : Handle C} (found : l.handles.get? h = some x)
    (reads : x.isReading = true) (b : ReadBuffer) (bytes : List UInt8) (next : ReadState) :
    ((fillBuffer l h b bytes).endReading Memory.transport h next).net =
      (Memory.setReading false h l.net).net := by
  have filled : (fillBuffer l h b bytes).handles.get? h =
      some { x with buffer := some (b.overwrite 0 bytes) } :=
    (Loop.get?_modifyHandle_of_some found _ h).trans (if_pos rfl)
  rw [Loop.net_endReading _ filled]
  exact if_pos reads

/-- A read of a handle that reads takes the first piece of its session, if there
is one, and tells it. -/
theorem tells_reading {size : Nat} (sized : l.Sized size) (room : 0 < size) {x : Handle C}
    (found : l.handles.get? h = some x) (reads : x.isReading = true)
    (reading : (l.net.endpoint h).reading = true) (free : (readBuffer l x).exposed = false)
    {passes : Nat} {rest : List HandleId} {productive : Bool}
    (here : t.stage = .reads passes (h :: rest) productive) (solid : l.net.Solid)
    (observed : l.Observed enter) (b : Balanced (ofTick base t l)) :
    ∃ l', l.Took (fun k => if k = h then 1 else 0) l' ∧
      Tells Memory.transport enter (ofTick base t l) ((l.net.ahead size h).head?.map (h, ·)).toList
        (ofTick base
          { t with stage := .reads passes rest (productive || (l.net.ahead size h).head?.isSome) }
          l') := by
  rcases read : l.ask (Memory.transport.read t.waker h (readBuffer l x).size)
      with ⟨⟨status, bytes⟩, l₁⟩
  have fits := sized.readBuffer found
  have answer : (Memory.read t.waker h size l.net).answer = (status, bytes) := by
    rw [← fits]; exact congrArg Prod.fst read
  obtain ⟨first, took⟩ := Memory.took_read solid room reading answer
  have asked : l₁ = (l.ask (Memory.transport.read t.waker h size)).2 := by rw [← fits, read]
  have one {y : Loop (Memory.host S N C)}
      (net : y.net = Memory.afterRead h (status.event? bytes) l₁.net)
      (ids : y.handles.ids = l₁.handles.ids) (options : y.options = l₁.options)
      (listeners : y.listeners = l₁.listeners) :
      l.Took (fun k => if k = h then 1 else 0) y := by
    rw [asked] at net ids options listeners
    refine ⟨?_, ids, options, listeners⟩
    rw [net, sized.1]
    exact took
  have handles : l₁.handles.get? h = some x := by rw [asked]; exact found
  have ended {y : Loop (Memory.host S N C)} (there : y.handles.get? h = some x)
      (net : y.net = l₁.net) {e : Event} (here : status.event? bytes = some e)
      (ends : e.endsSession = true) :
      ((fillBuffer y h (readBuffer l x) bytes).endReading Memory.transport h .ended).net =
        Memory.afterRead h (status.event? bytes) l₁.net := by
    rw [net_endReading_fillBuffer there reads, net, here]
    exact (if_pos ends).symm
  rw [first]
  cases status with
  | pending =>
    refine ⟨_, one (y := fillBuffer l₁ h (readBuffer l x) bytes) rfl (Loop.ids_modifyHandle ..)
      rfl rfl, ?_⟩
    rw [ReadStatus.event?, Option.isSome_none, Bool.or_false]
    exact .of_rule (.readNothing here found reads free read (.inl rfl)) b
  | data n =>
    obtain ⟨rfl, small⟩ := Memory.read_fits answer
    have whole : ((readBuffer l x).overwrite 0 bytes).view bytes.length = bytes :=
      ReadBuffer.view_overwrite (by rwa [fits])
    have filled : bytes.length ≠ 0 := fun zero => by
      have nothing := (Memory.nothing_of_read solid room reading answer (.inr (by rw [zero]))).1
      rw [Memory.ahead, reading, if_pos rfl, Memory.pieces, nothing] at first
      cases first
    have rule : Rule Memory.transport enter ⟨l, .tick t :: base, .advance⟩ _ :=
      .readData here found reads free read filled
    rw [whole] at rule
    have took :=
      one (y := expose ((fillBuffer l₁ h (readBuffer l x) bytes).meterAsync h .read true) h true)
      rfl ((Loop.ids_modifyBuffer ..).trans (Loop.ids_modifyHandle ..)) rfl rfl
    simpa [ReadStatus.event?] using tells_lent took observed rule b
  | eof =>
    have took :=
      one (ended handles rfl rfl rfl) ((Loop.ids_endReading ..).trans (Loop.ids_modifyHandle ..))
        (Loop.endReading_frame ..).1 (Loop.endReading_frame ..).2.2.2.1
    simpa [ReadStatus.event?]
      using tells_found took observed rfl (.readEof here found reads free read) b
  | failed status =>
    have took := one
      (y := ((fillBuffer l₁ h (readBuffer l x) bytes).meterAsync h .read false).endReading _ h
        .ended)
      (ended (y := l₁.meterAsync h .read false) handles rfl rfl rfl)
      ((Loop.ids_endReading ..).trans (Loop.ids_modifyHandle ..))
      (Loop.endReading_frame ..).1 (Loop.endReading_frame ..).2.2.2.1
    simpa [ReadStatus.event?]
      using tells_found took observed rfl (.readFailed here found reads free read) b

/-- A read of a tick takes the first piece of a session, if there is one, and tells it. -/
theorem tells_read (run : Run Memory.transport enter
    (start p (.fresh options Memory.initial shared)) past (ofTick base t l))
    {passes : Nat} {rest : List HandleId} {productive : Bool}
    (here : t.stage = .reads passes (h :: rest) productive) (solid : l.net.Solid)
    (observed : l.Observed enter) :
    ∃ l', l.Took (fun k => if k = h then 1 else 0) l' ∧
      Tells Memory.transport enter (ofTick base t l)
        (((l.ahead h).head?.map (h, ·)).toList)
        (ofTick base { t with stage := .reads passes rest (productive || (l.ahead h).head?.isSome) }
          l') := by
  have reached : Reached Memory.transport enter past (ofTick base t l) :=
    ⟨options, Memory.initial, shared, p, run⟩
  have b := Balanced.of_reached reached
  have mirrors : (l.net.endpoint h).reading = (l.handles.get? h).any (·.isReading) :=
    ((Coupled.of_run run).mirrors h).reading
  have sized : l.Sized options.readBufferSize := run.sized
  cases reading : (l.net.endpoint h).reading with
  | false =>
    have none : l.ahead h = [] := by rw [Loop.ahead, Memory.ahead, reading]; rfl
    have idle x (found : l.handles.get? h = some x) : x.isReading = false := by
      rw [reading, found] at mirrors
      exact mirrors.symm
    rw [none]
    refine ⟨l, (Loop.Took.refl l solid).congr fun k some => if_neg ?_, ?_⟩
    · rintro rfl
      exact some none
    · rw [List.head?_nil, Option.isSome_none, Bool.or_false]
      exact .of_rule (.skipRead here idle) b
  | true =>
    rw [reading] at mirrors
    obtain ⟨x, found, reads⟩ := (Option.any_eq_true _ _).1 mirrors.symm
    have unlent : h ∉ (loans (ofTick base t l)).map (·.1) := fun lent => by
      obtain ⟨⟨k, view⟩, there, rfl⟩ := List.mem_map.1 lent
      obtain gone | ⟨c, hc, meddles⟩ := reached.meddled (· = none) _ there
      · cases found.symm.trans gone.2
      · exact meddles (observed k _ rfl c hc)
    rw [Loop.ahead, sized.1]
    exact tells_reading sized options.readBufferSize.2.1 found reads reading
      (reached.guarded.free found unlent) here solid observed b

/-! ## Passes -/

/-- A pass over some handles takes the first piece of each session. -/
theorem tells_pass (run : Run Memory.transport enter
    (start p (.fresh options Memory.initial shared)) past (ofTick base t l))
    {passes : Nat} {rest : List HandleId} {productive : Bool}
    (here : t.stage = .reads passes rest productive) (once : rest.Nodup) (solid : l.net.Solid)
    (observed : l.Observed enter) :
    ∃ l', l.Took (fun k => if k ∈ rest then 1 else 0) l' ∧
      Tells Memory.transport enter (ofTick base t l) (l.round rest 0)
        (ofTick base { t with stage := .reads passes [] (productive || !(l.round rest 0).isEmpty) }
          l') := by
  induction rest generalizing past l t productive with
  | nil =>
    refine ⟨l, (Loop.Took.refl l solid).congr fun k _ => if_neg List.not_mem_nil, ?_⟩
    rw [show (!(l.round [] 0).isEmpty) = false from rfl, Bool.or_false, ← here]
    exact .refl _
  | cons h rest ih =>
    obtain ⟨new, once⟩ := List.nodup_cons.1 once
    obtain ⟨l₁, took, first⟩ := tells_read run here solid observed
    obtain ⟨later, run, -⟩ := first.run run
    obtain ⟨l', took', others⟩ := ih run rfl once took.net.solid (took.observed observed)
    have same (k : HandleId) (hk : k ∈ rest) : l₁.ahead k = l.ahead k := by
      rw [took.ahead, if_neg (ne_of_mem_of_not_mem hk new), List.drop_zero]
    refine ⟨l', (took.trans took').congr fun k _ => ?_, ?_⟩
    · by_cases same : k = h
      · rw [same, if_pos List.mem_cons_self, if_pos rfl, if_neg new]
      · simp [same]
    · have left : l₁.round rest 0 = l.round rest 0 := Loop.round_congr fun k hk => by rw [same k hk]
      rw [left, Bool.or_assoc] at others
      have some : (!(((l.ahead h).head?.map (h, ·)).toList ++ l.round rest 0).isEmpty) =
          ((l.ahead h).head?.isSome || !(l.round rest 0).isEmpty) := by
            cases (l.ahead h).head? <;> rfl
      rw [Loop.round_cons, ← List.head?_eq_getElem?, some]
      exact first.trans others

/-- What is ahead of a session in which nothing reads is nothing. -/
theorem ahead_of_gone
    (run : Run Memory.transport enter (start p (.fresh options Memory.initial shared)) past
      (ofTick base t l))
    (gone : h ∉ l.handles.ids) : l.ahead h = [] := by
  have mirrors : (l.net.endpoint h).reading = (l.handles.get? h).any (·.isReading) :=
    ((Coupled.of_run run).mirrors h).reading
  rw [Registry.mem_ids_iff, Option.not_isSome_iff_eq_none] at gone
  rw [Loop.ahead, Memory.ahead, mirrors, gone]
  rfl

/-- The last pass of so many is one that finds nothing, or the only one. -/
theorem tells_last_pass {passes : Nat}
    (run : Run Memory.transport enter (start p (.fresh options Memory.initial shared)) past
      (ofTick base (l.beginPass t (passes + 1)) l))
    (solid : l.net.Solid) (observed : l.Observed enter)
    (last : l.round l.handles.ids 0 = [] ∨ passes = 0) :
    ∃ l', l.Took (fun _ => passes + 1) l' ∧
      Tells Memory.transport enter (ofTick base (l.beginPass t (passes + 1)) l)
        ((List.range (passes + 1)).flatMap (l.round l.handles.ids))
        (ofTick base (l'.beginReclaims
          { t with worked := t.worked || !(l.round l.handles.ids 0).isEmpty }).1
          (l'.beginReclaims { t with worked := t.worked ||
            !(l.round l.handles.ids 0).isEmpty }).2) := by
  have b : Balanced (ofTick base (l.beginPass t (passes + 1)) l) :=
    .of_reached ⟨options, Memory.initial, shared, p, run⟩
  obtain ⟨l', took, pass⟩ := tells_pass run rfl l.handles.nodup_ids solid observed
  rw [Bool.false_or] at pass
  have stop : ¬((!(l.round l.handles.ids 0).isEmpty) = true ∧ 0 < passes) := by
    rintro ⟨some, more⟩
    obtain none | rfl := last
    · rw [none] at some
      cases some
    · exact Nat.lt_irrefl _ more
  have ends : Tells Memory.transport enter
      (ofTick base { t with stage := .reads passes [] _ } l') []
      (ofTick base (l'.beginReclaims { t with worked := t.worked || _ }).1
        (l'.beginReclaims { t with worked := t.worked || _ }).2) :=
    .of_rule (.beginReclaims rfl stop) (pass.balanced b)
  refine ⟨l', took.congr fun k some => ?_, ?_⟩
  · have there : k ∈ l.handles.ids := Decidable.not_not.1 fun gone => some (ahead_of_gone run gone)
    obtain none | rfl := last
    · exact (some (Loop.ahead_of_round none there)).elim
    · exact (if_pos there).symm
  · have told : (List.range (passes + 1)).flatMap (l.round l.handles.ids) =
        l.round l.handles.ids 0 := by
      obtain none | rfl := last
      · have nothing (i : Nat) : l.round l.handles.ids i = [] := by
          refine List.filterMap_eq_nil_iff.2 fun k hk => ?_
          rw [Loop.ahead_of_round none hk]
          rfl
        rw [none, List.flatMap_eq_nil_iff]
        exact fun i _ => nothing i
      · exact List.append_nil _
    rw [told]
    simpa using pass.trans ends

/-- So many passes take so many pieces of each session, in the order of the pieces, or all. -/
theorem tells_passes {passes : Nat}
    (run : Run Memory.transport enter (start p (.fresh options Memory.initial shared)) past
      (ofTick base (l.beginPass t (passes + 1)) l))
    (solid : l.net.Solid) (observed : l.Observed enter) :
    ∃ l', l.Took (fun _ => passes + 1) l' ∧
      Tells Memory.transport enter (ofTick base (l.beginPass t (passes + 1)) l)
        ((List.range (passes + 1)).flatMap (l.round l.handles.ids))
        (ofTick base (l'.beginReclaims
          { t with worked := t.worked || !(l.round l.handles.ids 0).isEmpty }).1
          (l'.beginReclaims { t with worked := t.worked ||
            !(l.round l.handles.ids 0).isEmpty }).2) := by
  induction passes generalizing past l t with
  | zero => exact tells_last_pass run solid observed (.inr rfl)
  | succ passes ih =>
    cases none : (l.round l.handles.ids 0).isEmpty with
    | true =>
      rw [← none]
      exact tells_last_pass run solid observed (.inl (List.isEmpty_iff.1 none))
    | false =>
      have b : Balanced (ofTick base (l.beginPass t (passes + 1 + 1)) l) :=
        .of_reached ⟨options, Memory.initial, shared, p, run⟩
      obtain ⟨l₁, took, pass⟩ := tells_pass run rfl l.handles.nodup_ids solid observed
      rw [none] at pass
      have next : Tells Memory.transport enter
          (ofTick base { t with stage := .reads (passes + 1) [] true } l₁) []
          (ofTick base (l₁.beginPass { t with worked := true } (passes + 1)) l₁) :=
        .of_rule (.nextPass rfl (Nat.succ_pos passes)) (pass.balanced b)
      obtain ⟨later, run', -⟩ := (pass.trans next).run run
      obtain ⟨l', took', passes'⟩ := ih run' took.net.solid (took.observed observed)
      refine ⟨l', (took.trans took').congr fun k some => ?_, ?_⟩
      · have there : k ∈ l.handles.ids :=
          Decidable.not_not.1 fun gone => some (ahead_of_gone run gone)
        rw [if_pos there, Nat.add_comm]
      · have shifted (i : Nat) : l₁.round l₁.handles.ids i = l.round l.handles.ids (i + 1) := by
          rw [took.ids]
          refine Loop.round_congr fun k hk => ?_
          rw [took.ahead, if_pos hk, List.getElem?_drop, Nat.add_comm]
        have told : (List.range (passes + 1 + 1)).flatMap (l.round l.handles.ids) =
            l.round l.handles.ids 0 ++ (List.range (passes + 1)).flatMap
              (l₁.round l₁.handles.ids) := by
          rw [List.range_succ_eq_map, List.flatMap_cons, List.flatMap_map]
          exact congrArg _ (congrArg (List.flatMap · _) (funext fun i => (shifted i).symm))
        rw [told, Bool.not_false, Bool.or_true]
        exact pass.trans (next.after passes')

end Machine

/-! ## The whole of a tick's reads -/

namespace Loop

/-- What has arrived for a handle, in the pieces in which it is read. -/
def pieces (l : Loop (Memory.host S N C)) (h : HandleId) : List Event :=
  l.net.pieces l.options.readBufferSize h

/-- How many pieces a handle has to read: those up to the end of its session, if it reads. -/
def due (l : Loop (Memory.host S N C)) (h : HandleId) : Nat :=
  if (l.handles.get? h).any (·.isReading) then (throughEnd (l.pieces h)).length else 0

/-- The reads of a tick: what they told, what loop they left, and whether they did any work. -/
structure ReadOut (l : Loop (Memory.host S N C)) (news : List (HandleId × Event))
    (l' : Loop (Memory.host S N C)) (worked : Bool) : Prop where
  /-- Of each handle the first pieces are told: as many as there are passes, or
  all that it has to read. -/
  told : ∀ h, news.filterMap (fun n => about h (some n)) =
    (l.pieces h).take (min l.options.maxReadPasses (l.due h))
  /-- The others are left. -/
  left : ∀ h, l'.pieces h = (l.pieces h).drop (min l.options.maxReadPasses (l.due h))
  /-- First pieces come first, then second ones, and so on, each time in the
  order of the handles. -/
  order : news = (List.range l.options.maxReadPasses).flatMap fun i =>
    l.handles.ids.filterMap fun h =>
    if i < l.due h then (l.pieces h)[i]?.map (h, ·) else none
  /-- There was work if there was anything to read. -/
  worked : worked = true ↔ ∃ h, 0 < l.due h

variable {l : Loop (Memory.host S N C)}

/-- Of a round only the piece of a handle is about it. -/
theorem about_round (h : HandleId) {hs : List HandleId} (once : hs.Nodup) (i : Nat) :
    (l.round hs i).filterMap (fun n => about h (some n)) =
      if h ∈ hs then (l.ahead h)[i]?.toList else [] := by
  induction hs with
  | nil => rfl
  | cons k hs ih =>
    obtain ⟨new, once⟩ := List.nodup_cons.1 once
    rw [round_cons, List.filterMap_append, ih once]
    by_cases same : k = h
    · subst same
      rw [if_pos List.mem_cons_self, if_neg new]
      cases (l.ahead k)[i]? <;> simp
    · cases (l.ahead k)[i]? <;> simp [same, Ne.symm same]

/-- Rounds give as many of a handle's pieces as there are of them. -/
theorem about_rounds (h : HandleId) {hs : List HandleId} (once : hs.Nodup)
    (gone : h ∉ hs → l.ahead h = []) (passes : Nat) :
    ((List.range passes).flatMap (l.round hs)).filterMap (fun n => about h (some n)) =
      (l.ahead h).take passes := by
  induction passes with
  | zero => rfl
  | succ passes ih =>
    rw [List.range_succ, List.flatMap_append, List.filterMap_append, ih, List.flatMap_singleton,
      about_round h once, List.take_add_one]
    split
    case isTrue => rfl
    case isFalse other => simp [gone other]

end Loop

open Machine

/-- In memory the reads of a tick are what an account of each handle for itself says, as long as all
who listen to them only observe: each handle that reads gives up its first pieces, so many as there
are passes or as it has up to the end of its session, whatever the others hold. -/
theorem reads_are_exact {options : Options} {shared : S} {p : Program (Memory.host S N C)}
    {past : List (Machine (Memory.host S N C))} {l : Loop (Memory.host S N C)} {t : Tick}
    {base : List (Frame (Memory.host S N C))}
    (run : Run Memory.transport enter (start p (.fresh options Memory.initial shared)) past
      (ofTick base t l))
    (here : t.stage = .completions []) (solid : l.net.Solid) (observed : l.Observed enter) :
    ∃ news l' worked, l.ReadOut news l' worked ∧
      Tells Memory.transport enter (ofTick base t l) news
        (ofTick base (l'.beginReclaims { t with worked := t.worked || worked }).1
          (l'.beginReclaims { t with worked := t.worked || worked }).2) := by
  have b : Balanced (ofTick base t l) := .of_reached ⟨options, Memory.initial, shared, p, run⟩
  have mirrors (h : HandleId) : (l.net.endpoint h).reading = (l.handles.get? h).any (·.isReading) :=
    ((Coupled.of_run run).mirrors h).reading
  have ahead (h : HandleId) : l.ahead h = (l.pieces h).take (l.due h) ∧
      (l.ahead h).length = l.due h := by
    rw [Loop.ahead, Memory.ahead, mirrors, Loop.due]
    split
    case isTrue => exact ⟨throughEnd_eq_take _, rfl⟩
    case isFalse => exact ⟨rfl, rfl⟩
  -- The completions are through, and the first pass begins.
  obtain ⟨passes, many⟩ : ∃ passes, (l.options.maxReadPasses : Nat) = passes + 1 :=
    ⟨l.options.maxReadPasses - 1, by have := l.options.maxReadPasses.2.1; omega⟩
  have first : Tells Memory.transport enter (ofTick base t l) []
      (ofTick base (l.beginPass t (passes + 1)) l) := by
    rw [← many]
    exact .of_rule (.firstPass here) b
  obtain ⟨later, run', -⟩ := first.run run
  obtain ⟨l', took, way⟩ := tells_passes run' solid observed
  refine ⟨_, l', _, ⟨fun h => ?_, fun h => ?_, ?_, ?_⟩, first.after way⟩
  case refine_1 =>
    rw [Loop.about_rounds h l.handles.nodup_ids (ahead_of_gone run'), (ahead h).1,
      List.take_take, many]
  case refine_2 =>
    have left := took.net.pieces h
    rw [show l.net.ahead l.options.readBufferSize h = l.ahead h from rfl, (ahead h).2] at left
    rw [Loop.pieces, took.options, many]
    exact left
  case refine_3 =>
    rw [many]
    refine congrArg (List.flatMap · _)
      (funext fun i => congrArg (List.filterMap · _) (funext fun h => ?_))
    rw [(ahead h).1, List.getElem?_take]
    split <;> rfl
  case refine_4 =>
    have some (h : HandleId) : 0 < l.due h ↔ l.ahead h ≠ [] := by
      rw [← (ahead h).2, List.length_pos_iff]
    simp only [Bool.not_eq_true', Bool.eq_false_iff, ne_eq, List.isEmpty_iff, some]
    constructor
    case mp =>
      intro told
      obtain ⟨⟨h, e⟩, there⟩ := List.exists_mem_of_ne_nil _ told
      obtain ⟨k, -, first⟩ := List.mem_filterMap.1 there
      refine ⟨k, fun none => ?_⟩
      rw [none] at first
      cases first
    case mpr =>
      rintro ⟨h, more⟩ nothing
      by_cases there : h ∈ l.handles.ids
      · exact more (Loop.ahead_of_round nothing there)
      · exact more (ahead_of_gone run' there)

/-! ## A client that reads from two handles -/

namespace Client

/-- Handlers that take a note and do nothing else. -/
def noting : Handlers (Memory.host Unit Unit Unit) := fun _ _ => .call (.note ()) fun _ => .skip

/-- Taking a note is only to observe. -/
theorem observes_noting (c : Unit) (o : Occasion) : (noting c o).Observes (· = none) :=
  .call rfl fun _ => .done rfl

/-- A client with five bytes to read from one of its handles, and one byte and the end of the stream
from the other. -/
def reader : Program (Memory.host Unit Unit Unit) :=
  .call (.issue (.newHandle .tcp)) fun (first : HandleId) =>
  .call (.issue (.newHandle .tcp)) fun (second : HandleId) =>
  .call (.issue (.connect first (.v4 ⟨127, 0, 0, 1⟩ 80))) fun _ =>
  .call (.issue (.connect second (.v4 ⟨127, 0, 0, 1⟩ 80))) fun _ =>
  .call (.tick .idle) fun _ =>
  .call (.issue (.on first .data ())) fun _ =>
  .call (.issue (.readStart first)) fun _ =>
  .call (.issue (.readStart second)) fun _ =>
  .call (.script (.pushData first [1, 2, 3, 4, 5])) fun _ =>
  .call (.script (.pushData second [6])) fun _ =>
  .call (.script (.pushEof second)) fun _ =>
  .call (.tick .idle) fun _ => .skip

/-- Options for two passes of reads of two bytes. -/
def pairwise : Options :=
  { Options.standard with readBufferSize := ⟨2, by decide⟩, maxReadPasses := ⟨2, by decide⟩ }

/-- The client so many steps after its start. -/
def reading (steps : Nat) : Machine (Memory.host Unit Unit Unit) :=
  (Machine.start reader (.fresh pairwise Memory.initial ())).run Memory.transport noting steps

end Client

/-- In two passes the client reads four of the five bytes from one handle, in turns with all there
is on the other. -/
theorem reads_are_exact_for_client :
    ∃ past base t, Client.reading 30 = ofTick base t (Client.reading 30).loop ∧
      t.stage = .completions [] ∧
      Run Memory.transport Client.noting
        (start Client.reader (.fresh Client.pairwise Memory.initial ())) past
        (ofTick base t (Client.reading 30).loop) ∧
      (Client.reading 30).loop.net.Solid ∧ (Client.reading 30).loop.Observed Client.noting ∧
      (Client.reading 30).loop.listenersOf 0 .data = [()] ∧
      ∃ news l' worked, (Client.reading 30).loop.ReadOut news l' worked ∧
        news = [(0, .data [1, 2]), (1, .data [6]), (0, .data [3, 4]), (1, .endOfStream)] ∧
        l'.pieces 0 = [.data [5]] ∧
        Tells Memory.transport Client.noting (ofTick base t (Client.reading 30).loop) news
          (ofTick base (l'.beginReclaims { t with worked := t.worked || worked }).1
            (l'.beginReclaims { t with worked := t.worked || worked }).2) := by
  obtain ⟨past, run, behind⟩ := Run.exists_of_run Memory.transport Client.noting
    (start Client.reader (.fresh Client.pairwise Memory.initial ())) 30
  have scripts : (List.range 30).all (fun k => decide ((Client.reading k).script? ∈ [none,
      some (.pushData 0 [1, 2, 3, 4, 5]), some (.pushData 1 [6]), some (.pushEof 1)])) = true := by
        rfl
  have solid : (Client.reading 30).loop.net.Solid :=
    Run.solid run (fun h there => by cases there) fun i hi h push => by
      obtain ⟨k, less, rfl⟩ := behind i hi
      have one := of_decide_eq_true (List.all_eq_true.1 scripts k (List.mem_range.2 less))
      rw [Client.reading, push] at one
      simp at one
  have observed : (Client.reading 30).loop.Observed Client.noting :=
    fun _ _ _ c _ => Client.observes_noting c _
  have here : Client.reading 30 =
      ofTick [.ticking fun _ => .skip] ⟨.idle, .completions [], false, none⟩
        (Client.reading 30).loop := by rfl
  have run : Run Memory.transport Client.noting _ past (Client.reading 30) := run
  rw [here] at run
  obtain ⟨news, l', worked, reads, way⟩ := reads_are_exact run rfl solid observed
  refine ⟨past, _, _, here, rfl, run, solid, observed, by rfl, news, l', worked, reads, ?_, ?_, way⟩
  · rw [reads.order]
    rfl
  · rw [reads.left]
    rfl

end Reactor
