import Reactor.Transport

/-!
# Injected answers

A layer over any transport that passes every primitive on, unless an answer was injected for it:
then the transport below never hears of the call. Injected completions follow the transport's own.
-/

namespace Reactor

/-- A primitive whose answer can be injected. -/
inductive Primitive where
  | adopt
  | bind
  | listen
  | accept
  | readStart
  | readStop
  | write
  | shutdown
  | connect
  deriving DecidableEq, Repr

/-- Something to inject. -/
inductive Injection where
  | answer (p : Primitive) (outcome : Outcome)
  | read (h : HandleId) (status : ReadStatus)
  | completion (c : Completion)

/-- The state of a transport with the answers that wait to be given. -/
structure Injected (σ : Type) where
  below : σ
  answers : List (Primitive × Outcome) := []
  reads : List (HandleId × ReadStatus) := []
  completions : List Completion := []

/-- The far side of the transport below obeys its scripts; anything may be injected besides. -/
inductive InjectedScript (τ : Type) where
  | inject (i : Injection)
  | below (s : τ)

namespace Injected

variable {σ τ α κ : Type} [DecidableEq κ]

/-- The first value of a key, and the list without it. -/
def takeFirst (key : κ) : List (κ × α) → Option (α × List (κ × α))
  | [] => none
  | (k, a) :: rest =>
    if k = key then some (a, rest)
    else (takeFirst key rest).map fun (b, rest) => (b, (k, a) :: rest)

/-- The reply of the transport below. -/
def lift (i : Injected σ) (f : σ → Reply σ α) : Reply (Injected σ) α :=
  let reply := f i.below
  ⟨reply.answer, { i with below := reply.net }, reply.wakes⟩

/-- The injected answer of a primitive, or else the reply of the transport below. -/
def answered (p : Primitive) (f : σ → Reply σ Outcome) (i : Injected σ) :
    Reply (Injected σ) Outcome :=
  match takeFirst p i.answers with
  | some (outcome, answers) => ⟨outcome, { i with answers }, false⟩
  | none => i.lift f

/-- The state with one more injection. -/
def inject (i : Injected σ) : Injection → Injected σ
  | .answer p outcome => { i with answers := i.answers ++ [(p, outcome)] }
  | .read h status => { i with reads := i.reads ++ [(h, status)] }
  | .completion c => { i with completions := i.completions ++ [c] }

/-- The layer over a transport. An injected read leaves the buffer as it is. -/
def transport (t : Transport σ τ) : Transport (Injected σ) (InjectedScript τ) where
  init h kind i := i.lift (t.init h kind)
  adopt h := answered .adopt (t.adopt h)
  bind h address := answered .bind (t.bind h address)
  listen h backlog := answered .listen (t.listen h backlog)
  accept server client := answered .accept (t.accept server client)
  readStart h := answered .readStart (t.readStart h)
  readStop h := answered .readStop (t.readStop h)
  read w h size i :=
    match takeFirst h i.reads with
    | some (status, reads) => ⟨(status, []), { i with reads }, false⟩
    | none => i.lift (t.read w h size)
  write req h data := answered .write (t.write req h data)
  shutdown req h := answered .shutdown (t.shutdown req h)
  connect req h address := answered .connect (t.connect req h address)
  queued h i := t.queued h i.below
  localAddress h i := t.localAddress h i.below
  close h i := i.lift (t.close h)
  collect w i :=
    let reply := i.lift (t.collect w)
    ⟨reply.answer ++ i.completions, { reply.net with completions := [] }, reply.wakes⟩
  perform s i :=
    match s with
    | .inject injection => ⟨(), i.inject injection, false⟩
    | .below s => i.lift (t.perform s)

end Injected

end Reactor
