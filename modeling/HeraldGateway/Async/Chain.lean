import HeraldGateway.Async.Pool

/-!
# What a program calls next

Of a program without choices of the scheduler one can say which call follows which: `Chained` relates every
call, with its reply, to the next one. In a pool, the next call of a thread is then known from its last one.
-/

namespace Async

variable {S : Signature} {ε α β ρ σ C E : Type}
  {follows : (o : S.Op) → Except ε (S.Res o) → Option S.Op → Prop}

/-- On every path the next call follows from the last one and its reply. -/
def Chained (follows : (o : S.Op) → Except ε (S.Res o) → Option S.Op → Prop) : Prog S ε α → Prop
  | .ret _ | .throw _ => True
  | .choose _ => False
  | .call o k => ∀ r, follows o r (k r).next? ∧ Chained follows (k r)

/-- A program in front of another one, which goes on with a first call of its own. -/
theorem Chained.andThen {p : Prog S ε α} {f : Except ε α → Prog S ε β} {first : Option S.Op → Prop}
    (hp : Chained follows p) (hf : ∀ r, first (f r).next? ∧ Chained follows (f r))
    (hlast : ∀ o r next, follows o r none → first next → follows o r next) :
    Chained follows (p.andThen f) := by
  induction p with
  | ret a => exact (hf _).2
  | throw e => exact (hf _).2
  | choose k => exact hp.elim
  | call o k ih =>
    intro r
    obtain ⟨hnext, hk⟩ := hp r
    refine ⟨?_, ih r hk⟩
    change follows o r ((k r).andThen f).next?
    revert hnext hk
    cases k r with
    | ret a => exact fun hnext _ => hlast o r _ hnext (hf _).1
    | throw e => exact fun hnext _ => hlast o r _ hnext (hf _).1
    | choose k' => exact fun _ hk => hk.elim
    | call o' k' => exact fun hnext _ => hnext

namespace System

variable {sys : System S ε α ρ σ C E} {p p' : Pool S ε α ρ σ C}

/-- What is left of every program of a pool is chained. -/
def AllChained (follows : (o : S.Op) → Except ε (S.Res o) → Option S.Op → Prop)
    (p : Pool S ε α ρ σ C) : Prop :=
  ∀ t ∈ p.threads, Chained follows t.prog

theorem allChained_empty (s : σ) : AllChained follows (Pool.empty s : Pool S ε α ρ σ C) := nofun

theorem AllChained.step {l : Label ρ C E} (hcode : ∀ r n, Chained follows (sys.code r n))
    (h : sys.step p l = some p') (hp : AllChained follows p) : AllChained follows p' := by
  intro t' ht'
  obtain ⟨i, hi⟩ := List.mem_iff_getElem?.1 ht'
  rcases thread_cases h hi with ht | ⟨r, -, -, -, rfl⟩ | ⟨t, c, k, -, ht, hprog, -, rfl⟩ |
    ⟨t, c, o, k, -, ht, hprog, -, rfl⟩
  · exact hp t' (List.mem_of_getElem? ht)
  · exact hcode r i
  · have hk := hp t (List.mem_of_getElem? ht)
    rw [hprog] at hk
    exact hk.elim
  · have hk := hp t (List.mem_of_getElem? ht)
    rw [hprog] at hk
    exact (hk _).2

/-- The next call of the program of a given number. -/
def next? (p : Pool S ε α ρ σ C) (i : Nat) : Option S.Op := p.threads[i]?.bind (·.prog.next?)

theorem next?_eq_some {i : Nat} {o : S.Op} :
    next? p i = some o ↔ ∃ t, p.threads[i]? = some t ∧ t.prog.next? = some o := Option.bind_eq_some_iff

/-- How the next calls change when a program of a chained pool makes its step. -/
theorem next?_pick {i : Nat} {c : Bool × C} (h : sys.step p (.pick i c) = some p')
    (hp : AllChained follows p) :
    ∃ o, next? p i = some o ∧ p'.store = (sys.handler c.2 p.store o).2 ∧
      follows o (sys.handler c.2 p.store o).1 (next? p' i) ∧ ∀ j, j ≠ i → next? p' j = next? p j := by
  obtain ⟨t, ht, ⟨k, hprog, rfl⟩ | ⟨o, k, hprog, rfl⟩⟩ := step_pick h
  · have hk := hp t (List.mem_of_getElem? ht)
    rw [hprog] at hk
    exact hk.elim
  · have hk := hp t (List.mem_of_getElem? ht)
    rw [hprog] at hk
    have hi := (List.getElem?_eq_some_iff.1 ht).1
    refine ⟨o, next?_eq_some.2 ⟨t, ht, by rw [hprog]; rfl⟩, rfl, ?_, fun j hj => ?_⟩
    · rw [next?, List.getElem?_set_self hi]
      exact (hk _).1
    · rw [next?, List.getElem?_set_ne (Ne.symm hj), next?]

/-- An arrival adds a first call. -/
theorem next?_arrive {r : ρ} (h : sys.step p (.arrive r) = some p') {i : Nat} {o : S.Op}
    (hi : next? p' i = some o) :
    next? p i = some o ∨ i = p.threads.length ∧ (sys.code r i).next? = some o := by
  obtain ⟨t, ht, ho⟩ := next?_eq_some.1 hi
  rcases thread_cases h ht with ht | ⟨_, hl, hn, -, rfl⟩ | ⟨_, _, _, hl, -⟩ | ⟨_, _, _, _, hl, -⟩
  · exact .inl (next?_eq_some.2 ⟨t, ht, ho⟩)
  · cases hl
    exact .inr ⟨hn, ho⟩
  · cases hl
  · cases hl

/-- A call that comes next still does after an arrival. -/
theorem next?_of_arrive {r : ρ} (h : sys.step p (.arrive r) = some p') {i : Nat} {o : S.Op}
    (hi : next? p i = some o) : next? p' i = some o := by
  obtain ⟨t, ht, ho⟩ := next?_eq_some.1 hi
  obtain rfl := step_arrive h
  exact next?_eq_some.2 ⟨t, (List.getElem?_append_left (List.getElem?_eq_some_iff.1 ht).1).trans ht, ho⟩

end System

end Async
