import Reactor.Proofs.Machine.Steps
import Reactor.Proofs.Stream.Moves

/-!
# Discreet handlers

A discreet handler names no handles but the one that it is entered for and those that it creates. Of
a dormant stream nobody is told, and so among discreet handlers nobody comes to name it: once no
suspended work names it, it stays as it is for good. The same goes for a stream that is not there
yet, until it is created.
-/

namespace Reactor

variable {H : Host} {T : Transport H.Net H.Script} {enter : Handlers H} {h k : HandleId}

/-! ## Work that spares a handle -/

/-- A program that does not name a handle, unless the handle is created for it. -/
inductive Program.Spares (h : HandleId) : Program H → Prop where
  | done {failure} : Spares h (.done failure)
  | create {kind} {next : HandleId → Program H} (goes : ∀ k, k ≠ h → Spares h (next k)) :
    Spares h (.call (.issue (.newHandle kind)) next)
  | call {c next} (other : c.names h = false) (goes : ∀ a, Spares h (next a)) :
      Spares h (.call c next)

/-- What a program makes of a call that may fail spares a handle if what it
makes of every value does. -/
theorem Program.Spares.orRefuse {α : Type} {next : α → Program H} (goes : ∀ a, (next a).Spares h)
    (r : Except LoopError α) :
    (Program.orRefuse next r).Spares h := by
  cases r with
  | ok a => exact goes a
  | error e => exact .done

/-- Suspended work that neither tells of a handle nor names it when it goes on. -/
def Frame.Spares (h : HandleId) : Frame H → Prop
  | .emission k _ _ | .reclaiming k _ => k ≠ h
  | .listening _ next => ∀ a, (next a).Spares h
  | .ticking next | .running _ next | .polling _ next => ∀ a, (next a).Spares h
  | _ => True

/-- A stack of such work. -/
def Frame.AllSpare (h : HandleId) (stack : List (Frame H)) : Prop := ∀ f ∈ stack, f.Spares h

namespace Frame.AllSpare

variable {f g : Frame H} {stack : List (Frame H)}

/-- Where all work spares a handle, so does the work on top. -/
theorem top (spare : AllSpare h (f :: stack)) : f.Spares h := spare _ (.head _)

/-- Where all work spares a handle, so does all below the top. -/
theorem pop (spare : AllSpare h (f :: stack)) : AllSpare h stack := fun g hg => spare g (.tail _ hg)

/-- Work that spares a handle may come on top. -/
theorem push (spare : AllSpare h stack) (spares : f.Spares h) : AllSpare h (f :: stack) :=
  List.forall_mem_cons.2 ⟨spares, spare⟩

/-- Work that spares a handle may take the place of the top. -/
theorem replace (spare : AllSpare h (g :: stack)) (spares : f.Spares h) : AllSpare h (f :: stack) :=
  spare.pop.push spares

end Frame.AllSpare

/-- What neither tells of a handle nor names it. -/
def Control.Spares (h : HandleId) : Control H → Prop
  | .run p => p.Spares h
  | .enter _ o => o.handle ≠ h
  | .emit k _ => k ≠ h
  | _ => True

/-- Handlers that name no handles but those that they are entered for and those that they create. -/
def Discreet (enter : Handlers H) : Prop := ∀ c o h, o.handle ≠ h → (enter c o).Spares h

/-- What a program makes of a call that creates nothing spares what the program spares. -/
theorem Program.Spares.next {c : Call H} {next : c.Answer → Program H}
    (spares : (Program.call c next).Spares h) (old : ∀ kind, c ≠ .issue (.newHandle kind))
    (a : c.Answer) : (next a).Spares h := by
  cases spares with
  | create => exact (old _ rfl).elim
  | call _ goes => exact goes a

/-- A call that has done something with a stream has named it. -/
theorem Operation.names_of_deed? {κ : Type} {o : Operation κ} {a : o.Answer} {d : Deed}
    (did : o.deed? a = some (h, d)) :
    o.names h = true := by
  cases o with
  | connect | readStart | readStop | close =>
    obtain ⟨_, -, same⟩ := Option.map_eq_some_iff.1 did
    exact decide_eq_true (Prod.mk.inj same).1
  | _ => cases did

namespace Machine

variable {x y : Machine H} {s : Stance} {past : List (Machine H)}

/-- A step that does something with a stream names its handle. -/
theorem names_of_deed? {d : Deed} (did : x.deed? T = some (h, d)) : x.names h = true := by
  unfold deed? at did
  split at did
  case h_1 control =>
    rw [names, control]
    exact Operation.names_of_deed? did
  case h_2 control =>
    obtain ⟨_, -, same⟩ := Option.map_eq_some_iff.1 did
    rw [names, control]
    exact decide_eq_true (Prod.mk.inj same).1
  case h_3 => cases did

/-- No work that is done or suspended names a handle, or is told of it. -/
structure Spares (m : Machine H) (h : HandleId) : Prop where
  stack : Frame.AllSpare h m.stack
  control : m.control.Spares h

/-- Where a handle is spared the next step does not name it. -/
theorem Spares.unnamed (spares : x.Spares h) : x.names h = false := by
  obtain ⟨l, stack, control⟩ := x
  cases control with
  | run p =>
    cases spares.control with
    | done | create => rfl
    | call other => exact other
  | _ => rfl

/-- Nothing is told of a stream that is not named, unless something is under way on it. -/
theorem Rule.ne_of_emit (rule : Rule T enter x y) (b : x.Balanced)
    (dormant : ∀ s, x.loop.life h = .alive s → s.Dormant) (unnamed : x.names h = false) {e : Event}
    (told : y.control = .emit k e) : k ≠ h := by
  rintro rfl
  have undone : about k (x.deed? T) = none := Option.eq_none_iff_forall_ne_some.2 fun d did =>
    Bool.false_ne_true (unnamed.symm.trans (names_of_deed? (about_eq_some_iff.1 did)))
  have step := (rule.shifts b).moves k
  have tells : y.told? = some (k, e) := by rw [told?, told]
  rw [undone, about_eq_some_iff.2 tells] at step
  cases step.untold dormant

/-- The callback of a request is not about a stream on which nothing is under way. -/
theorem spares_deliver {l : Loop H} {stack : List (Frame H)} {r : Request H.Closure}
    {req : RequestId} {callback : Callback H.Closure} {outcome : RequestOutcome} (b : x.Balanced)
    (dormant : ∀ s, x.loop.life h = .alive s → s.Dormant)
    (pending : x.loop.requests.get? req = some r) (frames : Frame.AllSpare h stack) :
    (deliver l stack req r.handle callback outcome).Spares h := by
  have other : r.handle ≠ h := by
    rintro rfl
    obtain ⟨s, alive⟩ := life_of_pending b pending
    exact Loop.not_dormant_of_pending pending alive (dormant s alive)
  cases callback with
  | closure c => exact ⟨frames.push trivial, other⟩
  | promise => exact ⟨frames, trivial⟩

/-- Discreet handlers spare a stream for one more step if nothing is under way on it and it is not
created in the step. -/
theorem Rule.spares (discreet : Discreet enter) (rule : Rule T enter x y) (b : x.Balanced)
    (dormant : ∀ s, x.loop.life h = .alive s → s.Dormant) (same : y.loop.life h = x.loop.life h)
    (spares : x.Spares h) :
    y.Spares h := by
  have untold {k : HandleId} {e : Event} :=
    rule.ne_of_emit (k := k) (e := e) b dormant spares.unnamed
  obtain ⟨frames, control⟩ := spares
  cases rule with
  | finish => exact ⟨frames, trivial⟩
  | ask | script | survey | note | recallShared | update | refuseListen =>
    exact ⟨frames, control.next (by simp) _⟩
  | @issue l stack o next =>
    refine ⟨frames, ?_⟩
    cases control with
    | call _ goes => exact goes _
    | @create kind next goes =>
      refine goes _ fun created => ?_
      obtain rfl : l.handles.next = h := created
      have alive : (l.issue T (.newHandle kind)).2.life l.handles.next = .alive {} :=
        (Loop.shows_newHandle b kind).here
      cases alive.symm.trans (same.trans l.life_next)
  | beginListen => exact ⟨frames.push (control.next (by simp)), untold rfl⟩
  | tick => exact ⟨(frames.push (f := .ticking _) (control.next (by simp))).push trivial, trivial⟩
  | runLoop =>
    exact ⟨(frames.push (f := .running ..) (control.next (by simp))).push trivial, trivial⟩
  | poll => exact ⟨(frames.push (f := .polling ..) (control.next (by simp))).push trivial, trivial⟩
  | enter => exact ⟨frames, discreet _ _ h control⟩
  | emit => exact ⟨frames.push control, trivial⟩
  | nextListener => exact ⟨frames.replace frames.top, frames.top⟩
  | endEmission | endDelivery | endConnect | endLoan | endParting | endTick =>
    exact ⟨frames.pop, trivial⟩
  | beginParting => exact ⟨frames.replace trivial, frames.top⟩
  | endListen | failListen | ticked | runFailed | endRun | pollFailed | endPoll | pausePoll =>
    exact ⟨frames.pop, frames.top _⟩
  | runAgain => exact ⟨frames.push trivial, trivial⟩
  | completeWrite _ _ pending | completeShutdown _ _ pending =>
    exact spares_deliver (r := _) b dormant pending (frames.replace trivial)
  | connection | readEof | readFailed => exact ⟨frames.replace trivial, untold rfl⟩
  | completeConnect | failConnect | readData =>
    exact ⟨(frames.replace (f := .tick _) trivial).push trivial, untold rfl⟩
  | reclaim => exact ⟨(frames.replace (f := .tick _) trivial).push (untold rfl), untold rfl⟩
  | _ => exact ⟨frames.replace trivial, trivial⟩

/-! ## Runs among discreet handlers

What the embedder runs for itself runs on top of nothing, and is asked to spare the stream. What
handlers run spares it on its own. -/

/-- What comes next spares a stream on which nothing is under way, if it
leaves the stream as it is. -/
theorem Next.spares (discreet : Discreet enter) (next : Next T enter x y) (b : x.Balanced)
    (dormant : ∀ s, x.loop.life h = .alive s → s.Dormant) (same : y.loop.life h = x.loop.life h)
    (own : y.stack = [] → y.control.Spares h) (spares : x.Spares h) : y.Spares h := by
  cases next with
  | step taken => exact (rule_of_step? taken).2.spares discreet b dormant same spares
  | resume p rest => exact ⟨fun _ none => (List.not_mem_nil none).elim, own rfl⟩

/-- Among discreet handlers a stream on which nothing is under way, and which no work
names, stays as it is. -/
theorem Run.life_of_spares (discreet : Discreet enter) (run : Run T enter x past y) (b : x.Balanced)
    (own : ∀ z ∈ past ++ [y], z.stack = [] → z.control.Spares h) (alive : x.loop.life h = .alive s)
    (dormant : s.Dormant) (spares : x.Spares h) : y.loop.life h = .alive s ∧ y.Spares h := by
  induction run with
  | refl => exact ⟨alive, spares⟩
  | @snoc past z w first next ih =>
    obtain ⟨here, spares⟩ := ih fun z hz => own z (List.mem_append_left _ hz)
    have balanced := first.keeps (fun _ _ b next => b.next next) b
    have there := (next.shifts balanced).stays h s spares.unnamed here dormant
    have rests (s' : Stance) (alive : z.loop.life h = .alive s') : s'.Dormant := by
      obtain rfl := Life.alive.inj (here.symm.trans alive)
      exact dormant
    exact ⟨there, next.spares discreet balanced rests (there.trans here.symm)
      (own w (by simp)) spares⟩

/-- Among discreet handlers no work names a stream before it is created. -/
theorem Run.spares_of_unborn (discreet : Discreet enter) (run : Run T enter x past y)
    (b : x.Balanced) (own : ∀ z ∈ past ++ [y], z.stack = [] → z.control.Spares h)
    (unborn : y.loop.life h = .unborn) (spares : x.Spares h) :
    y.Spares h := by
  induction run with
  | refl => exact spares
  | @snoc past z w first next ih =>
    have balanced := first.keeps (fun _ _ b next => b.next next) b
    have step := next.moves balanced h
    rw [unborn] at step
    have before := step.unborn
    refine next.spares discreet balanced (fun s alive => ?_) (unborn.trans before.symm)
      (own w (by simp)) (ih (fun z hz => own z (List.mem_append_left _ hz)) before)
    cases alive.symm.trans before

/-- A handle that was not created yet is spared by discreet handlers if the embedder's
own programs spare it. -/
theorem Reached.spares_of_unborn (discreet : Discreet enter) (reached : Reached T enter past x)
    (own : ∀ z ∈ past ++ [x], z.stack = [] → z.control.Spares h)
    (unborn : x.loop.life h = .unborn) : x.Spares h := by
  obtain ⟨options, net, shared, p, run⟩ := reached
  refine run.spares_of_unborn discreet (Loop.Balanced.fresh options net shared) own unborn
    ⟨fun _ none => (List.not_mem_nil none).elim, own _ ?_ rfl⟩
  cases split : past ++ [x] with
  | nil => simp at split
  | cons first rest =>
    rw [run.head_eq split]
    exact .head _

end Machine

end Reactor
