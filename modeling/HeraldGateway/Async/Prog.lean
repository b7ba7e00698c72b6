import Mathlib.Data.List.Basic

/-!
# Asynchronous programs

A program that talks to its surroundings only through *calls*: it issues an operation, is suspended,
and goes on with whatever comes back, a result or an error. This is what an `async` function of a
single-threaded runtime is, seen from outside: between two `await`s nothing else happens, and at each
`await` anything may.

`Prog S ε α` is the free monad over the signature `S` with errors `ε`. It is an inductive type, so a
program is a finite-depth tree and every run of it ends; `andThen` continues with the *settled*
result of a program (its value or the error it threw), and `bind`, `tryCatch` and `settle` are
instances of it. `par` runs two programs concurrently: each `choose` node says whose call goes next.
-/

namespace Async

/-- The operations a program may call, each with the type of its result. -/
structure Signature where
  /-- The operations. -/
  Op : Type
  /-- The type of the value an operation gives when it succeeds. -/
  Res : Op → Type

/-- A program over the signature `S` that throws errors in `ε` and returns values in `α`. -/
inductive Prog (S : Signature) (ε α : Type) where
  /-- Return a value. -/
  | ret (a : α)
  /-- Throw an error. -/
  | throw (e : ε)
  /-- A choice the scheduler makes. -/
  | choose (k : Bool → Prog S ε α)
  /-- Call `o` and continue with its settled result. -/
  | call (o : S.Op) (k : Except ε (S.Res o) → Prog S ε α)

namespace Prog

variable {S : Signature} {ε α β γ : Type}

/-- Continue with the settled result of `p`. -/
def andThen (p : Prog S ε α) (f : Except ε α → Prog S ε β) : Prog S ε β :=
  match p with
  | ret a => f (.ok a)
  | throw e => f (.error e)
  | choose k => choose fun b => (k b).andThen f
  | call o k => call o fun r => (k r).andThen f

/-- Continue with the value of `p`; an error of `p` ends the whole program. -/
def bind (p : Prog S ε α) (f : α → Prog S ε β) : Prog S ε β :=
  p.andThen fun
    | .ok a => f a
    | .error e => throw e

instance : Monad (Prog S ε) where
  pure := ret
  bind := bind

/-- `try p catch e => h e`. -/
def tryCatch (p : Prog S ε α) (h : ε → Prog S ε α) : Prog S ε α :=
  p.andThen fun
    | .ok a => ret a
    | .error e => h e

/-- Run `p` and return how it settled. -/
def settle (p : Prog S ε α) : Prog S ε (Except ε α) :=
  p.andThen ret

/-- A single call. -/
def perform (o : S.Op) : Prog S ε (S.Res o) :=
  call o fun
    | .ok a => ret a
    | .error e => throw e

/-- The settled result of a program that has ended. -/
def result? : Prog S ε α → Option (Except ε α)
  | ret a => some (.ok a)
  | throw e => some (.error e)
  | _ => none

/-- The operation a program is about to call. -/
def next? : Prog S ε α → Option S.Op
  | call o _ => some o
  | _ => none

/-- The interleavings of a call `o` of one program, whose continuation runs in parallel by `K`, with
the other program. -/
def parCall (o : S.Op) (K : Except ε (S.Res o) → Prog S ε β → Prog S ε γ) :
    Prog S ε β → Prog S ε γ
  | ret b => call o fun r => K r (ret b)
  | throw e => call o fun r => K r (throw e)
  | choose k' => choose fun b => parCall o K (k' b)
  | call o' k' => choose fun b =>
      if b then call o fun r => K r (call o' k') else call o' fun r => parCall o K (k' r)

/-- Run two programs concurrently and return how each settled. -/
def par (p : Prog S ε α) (q : Prog S ε β) : Prog S ε (Except ε α × Except ε β) :=
  match p with
  | ret a => q.andThen fun r => ret (.ok a, r)
  | throw e => q.andThen fun r => ret (.error e, r)
  | choose k => choose fun b => (k b).par q
  | call o k => parCall o (fun r => (k r).par) q

/-- Run a list of programs concurrently and return how each settled. -/
def allSettled : List (Prog S ε α) → Prog S ε (List (Except ε α))
  | [] => ret []
  | p :: ps => (p.par (allSettled ps)).andThen fun
    | .ok (r, .ok rs) => ret (r :: rs)
    | .ok (_, .error e) | .error e => throw e

/-- Run `f` on the elements of a list one after another. -/
def forEach (f : α → Prog S ε Unit) : List α → Prog S ε Unit
  | [] => ret ()
  | a :: as => (f a).bind fun _ => forEach f as

/-- Run `f` on the elements of a list one after another and return the results. -/
def mapEach (f : α → Prog S ε β) : List α → Prog S ε (List β)
  | [] => ret []
  | a :: as => (f a).bind fun b => (mapEach f as).bind fun bs => ret (b :: bs)

@[simp] theorem pure_eq_ret (a : α) : (pure a : Prog S ε α) = ret a := rfl

@[simp] theorem bind_eq_bind (p : Prog S ε α) (f : α → Prog S ε β) : p >>= f = p.bind f := rfl

end Prog

/-!
## Handlers

A `Handler` answers the calls of a program from a state. What it cannot know (whether a call fails, what
an outside party answers) it takes from the choice it is given, so answering is a function and a run can
be replayed. An `Event` is a call that was answered, with the states around it.
-/

section

variable {S : Signature} {ε α σ C : Type}

/-- How the calls over `S` are answered from a state in `σ`, given the choice `C` of the surroundings. -/
def Handler (S : Signature) (ε σ C : Type) :=
  C → σ → (o : S.Op) → Except ε (S.Res o) × σ

/-- A call that was answered: the choice it met, the states around it, and the reply. -/
structure Event (S : Signature) (ε σ C : Type) where
  choice : C
  before : σ
  op : S.Op
  reply : Except ε (S.Res op)
  after : σ

/-- The event of a call under a choice. -/
def Handler.event (h : Handler S ε σ C) (c : C) (s : σ) (o : S.Op) : Event S ε σ C :=
  ⟨c, s, o, (h c s o).1, (h c s o).2⟩

/-- Run a program alone, where every call meets the same choice. -/
def Handler.exec (h : Handler S ε σ C) (c : C) : Prog S ε α → σ → Except ε α × σ
  | .ret a, s => (.ok a, s)
  | .throw e, s => (.error e, s)
  | .choose k, s => h.exec c (k true) s
  | .call o k, s => h.exec c (k (h c s o).1) (h c s o).2

variable {h : Handler S ε σ C} {c : C} {s s' : σ}

theorem exec_perform (o : S.Op) : h.exec c (Prog.perform o) s = h c s o := by
  show h.exec c (match (h c s o).1 with
    | .ok a => .ret a
    | .error e => .throw e) (h c s o).2 = _
  rcases h c s o with ⟨e | a, s'⟩ <;> rfl

/-- What every call does to the state a program does that runs alone. -/
theorem exec_rel {R : σ → σ → Prop} (hrefl : ∀ s, R s s) (htrans : ∀ s s' s'', R s s' → R s' s'' → R s s'')
    (hcall : ∀ s o, R s (h c s o).2) (p : Prog S ε α) (s : σ) : R s (h.exec c p s).2 := by
  induction p generalizing s with
  | ret a => exact hrefl s
  | throw e => exact hrefl s
  | choose k ih => exact ih true s
  | call o k ih => exact htrans s _ _ (hcall s o) (ih _ _)

theorem exec_andThen {β : Type} (p : Prog S ε α) (f : Except ε α → Prog S ε β) :
    h.exec c (p.andThen f) s = h.exec c (f (h.exec c p s).1) (h.exec c p s).2 := by
  induction p generalizing s with
  | ret a => rfl
  | throw e => rfl
  | choose k ih => exact ih true
  | call o k ih => exact ih (h c s o).1

/-- Alone, a program goes on from where the first of its parts left off. -/
theorem exec_bind {β : Type} {p : Prog S ε α} {a : α} (hp : h.exec c p s = (.ok a, s')) (f : α → Prog S ε β) :
    h.exec c (p.bind f) s = h.exec c (f a) s' := by
  rw [Prog.bind, exec_andThen, hp]

/-- What succeeds in the end has succeeded in its first part. -/
theorem exec_bind_ok {β : Type} {p : Prog S ε α} {f : α → Prog S ε β} {b : β} {s'' : σ}
    (hp : h.exec c (p.bind f) s = (.ok b, s'')) :
    ∃ a s', h.exec c p s = (.ok a, s') ∧ h.exec c (f a) s' = (.ok b, s'') := by
  rw [Prog.bind, exec_andThen] at hp
  rcases hfirst : h.exec c p s with ⟨e | a, s'⟩
  · rw [hfirst] at hp
    exact absurd (congrArg Prod.fst hp) nofun
  · rw [hfirst] at hp
    exact ⟨a, s', rfl, hp⟩

end

end Async
