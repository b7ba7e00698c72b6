import HeraldGateway.Async.Pool
import Mathlib.Algebra.Order.BigOperators.Group.List
import Mathlib.Algebra.Order.Ring.Nat

/-!
# Totals over a pool

What the events of a pool weigh together, and the traces of programs that are put together from others.
-/

namespace Async

variable {S : Signature} {ε α β ρ σ C E : Type}

/-- What the events of a trace weigh. -/
def traceWeight (w : Event S ε σ C → Nat) (tr : List (Event S ε σ C)) : Nat := (tr.map w).sum

section traces

variable {w w' : Event S ε σ C → Nat} {tr tr' : List (Event S ε σ C)} {e : Event S ε σ C}

@[simp] theorem traceWeight_nil : traceWeight w [] = 0 := rfl

@[simp] theorem traceWeight_append : traceWeight w (tr ++ tr') = traceWeight w tr + traceWeight w tr' := by
  simp [traceWeight]

@[simp] theorem traceWeight_cons : traceWeight w (e :: tr) = w e + traceWeight w tr := by simp [traceWeight]

theorem traceWeight_eq_zero (h : ∀ e ∈ tr, w e = 0) : traceWeight w tr = 0 :=
  List.sum_eq_zero fun n hn => by
    obtain ⟨e, he, rfl⟩ := List.mem_map.1 hn
    exact h e he

theorem traceWeight_le (h : ∀ e ∈ tr, w e ≤ w' e) : traceWeight w tr ≤ traceWeight w' tr := by
  induction tr with
  | nil => exact Nat.le_refl 0
  | cons e tr ih =>
    have he := h e List.mem_cons_self
    have htr := ih fun e' he' => h e' (List.mem_cons_of_mem e he')
    rw [traceWeight_cons, traceWeight_cons]
    omega

end traces

/-- What the programs of a pool amount to together, by what one amounts to. -/
def Pool.sum (g : Thread S ε α ρ σ C → Nat) (p : Pool S ε α ρ σ C) : Nat := (p.threads.map g).sum

/-- What the traces of a pool amount to together, by what one amounts to. -/
def Pool.total (f : List (Event S ε σ C) → Nat) (p : Pool S ε α ρ σ C) : Nat :=
  (p.threads.map fun t => f t.trace).sum

/-- What the events of a pool weigh. -/
def Pool.weight (w : Event S ε σ C → Nat) (p : Pool S ε α ρ σ C) : Nat := p.total (traceWeight w)

namespace System

variable {sys : System S ε α ρ σ C E} {p p' : Pool S ε α ρ σ C} {l : Label ρ C E} {w : Event S ε σ C → Nat}
  {f : List (Event S ε σ C) → Nat}

@[simp] theorem total_empty (s : σ) : (Pool.empty s : Pool S ε α ρ σ C).total f = 0 := rfl

@[simp] theorem weight_empty (s : σ) : (Pool.empty s : Pool S ε α ρ σ C).weight w = 0 := rfl

/-- Replacing an entry of a list replaces its part of a sum. -/
theorem sum_map_set {γ : Type} {g : γ → Nat} {ts : List γ} {i : Nat} {t t' : γ} (ht : ts[i]? = some t) :
    ((ts.set i t').map g).sum + g t = (ts.map g).sum + g t' := by
  induction ts generalizing i with
  | nil => cases ht
  | cons u ts ih =>
    cases i with
    | zero =>
      obtain rfl := Option.some.inj ht
      simp only [List.set_cons_zero, List.map_cons, List.sum_cons]
      omega
    | succ i =>
      have hrest := ih ht
      simp only [List.set_cons_succ, List.map_cons, List.sum_cons]
      omega

/-- A step changes a sum by what it does to the program that arrives or goes on. -/
theorem sum_step {g : Thread S ε α ρ σ C → Nat} (h : sys.step p l = some p') :
    (∃ r, l = .arrive r ∧ p'.store = p.store ∧
      p'.sum g = p.sum g + g ⟨r, p.store, [], sys.code r p.threads.length⟩) ∨
    (∃ e, l = .outside e ∧ sys.outside e p.store = some p'.store ∧ p'.sum g = p.sum g) ∨
    (∃ i c t k, l = .pick i c ∧ p.threads[i]? = some t ∧ t.prog = .choose k ∧ p'.store = p.store ∧
      p'.sum g + g t = p.sum g + g { t with prog := k c.1 }) ∨
    ∃ i c t o k, l = .pick i c ∧ p.threads[i]? = some t ∧ t.prog = .call o k ∧
      p'.store = (sys.handler c.2 p.store o).2 ∧ p'.sum g + g t = p.sum g + g { t with
        trace := t.trace ++ [sys.handler.event c.2 p.store o]
        prog := k (sys.handler c.2 p.store o).1 } := by
  cases l with
  | arrive r =>
    obtain rfl := step_arrive h
    exact .inl ⟨r, rfl, rfl, by simp [Pool.sum]⟩
  | outside e =>
    obtain ⟨s, hs, rfl⟩ := step_outside h
    exact .inr (.inl ⟨e, rfl, hs, rfl⟩)
  | pick i c =>
    obtain ⟨t, ht, ⟨k, hprog, rfl⟩ | ⟨o, k, hprog, rfl⟩⟩ := step_pick h
    · exact .inr (.inr (.inl ⟨i, c, t, k, rfl, ht, hprog, rfl, sum_map_set ht⟩))
    · exact .inr (.inr (.inr ⟨i, c, t, o, k, rfl, ht, hprog, rfl, sum_map_set ht⟩))

/-- A step changes the total by what its call does to the trace of its thread, if it answers one. -/
theorem total_step (hf : f [] = 0) (h : sys.step p l = some p') :
    (p'.total f = p.total f ∧ (p'.store = p.store ∨ ∃ e, sys.outside e p.store = some p'.store)) ∨
    ∃ i c t o k, l = .pick i c ∧ p.threads[i]? = some t ∧ t.prog = .call o k ∧
      p'.store = (sys.handler c.2 p.store o).2 ∧
        p'.total f + f t.trace = p.total f + f (t.trace ++ [sys.handler.event c.2 p.store o]) := by
  rcases sum_step (g := fun t : Thread S ε α ρ σ C => f t.trace) h with ⟨r, -, hs, hsum⟩ | ⟨e, -, hs, hsum⟩ |
    ⟨i, c, t, k, -, -, -, hs, hsum⟩ | ⟨i, c, t, o, k, hl, ht, hprog, hs, hsum⟩
  · have hnew : p'.total f = p.total f + f [] := hsum
    exact .inl ⟨by rw [hnew, hf, Nat.add_zero], .inl hs⟩
  · exact .inl ⟨hsum, .inr ⟨e, hs⟩⟩
  · exact .inl ⟨Nat.add_right_cancel hsum, .inl hs⟩
  · exact .inr ⟨i, c, t, o, k, hl, ht, hprog, hs, hsum⟩

/-- A step adds what its call weighs, if it answers one. -/
theorem weight_step (h : sys.step p l = some p') :
    p'.weight w = p.weight w ∨ ∃ i c t o k, l = .pick i c ∧ p.threads[i]? = some t ∧ t.prog = .call o k ∧
      p'.weight w = p.weight w + w (sys.handler.event c.2 p.store o) := by
  rcases total_step traceWeight_nil h with ⟨hsame, -⟩ | ⟨i, c, t, o, k, hl, ht, hprog, -, hsum⟩
  · exact .inl hsame
  · refine .inr ⟨i, c, t, o, k, hl, ht, hprog, ?_⟩
    rw [traceWeight_append, traceWeight_cons, traceWeight_nil] at hsum
    have hsum' : p'.weight w + traceWeight w t.trace = p.weight w +
      (traceWeight w t.trace + (w (sys.handler.event c.2 p.store o) + 0)) := hsum
    omega

/-- What each trace amounts to bounds what all amount to. -/
theorem total_le {f' : List (Event S ε σ C) → Nat} (h : ∀ t ∈ p.threads, f t.trace ≤ f' t.trace) :
    p.total f ≤ p.total f' := List.sum_le_sum h

/-- What the events of each thread weigh bounds what all weigh. -/
theorem weight_le {w' : Event S ε σ C → Nat}
    (h : ∀ t ∈ p.threads, traceWeight w t.trace ≤ traceWeight w' t.trace) :
    p.weight w ≤ p.weight w' := total_le h

/-- A sum of which at most one part is positive is bounded as that part is. -/
theorem sum_map_le_of_alone {γ : Type} {f : γ → Nat} {ts : List γ} {n : Nat} (hle : ∀ t ∈ ts, f t ≤ n)
    (halone : ∀ (i j : Nat) t u, ts[i]? = some t → ts[j]? = some u → 0 < f t → 0 < f u → i = j) :
    (ts.map f).sum ≤ n := by
  induction ts with
  | nil => exact Nat.zero_le n
  | cons t ts ih =>
    rw [List.map_cons, List.sum_cons]
    rcases Nat.eq_zero_or_pos (f t) with hzero | hpos
    · rw [hzero, Nat.zero_add]
      refine ih (fun u hu => hle u (List.mem_cons_of_mem t hu)) fun i j u v hu hv hfu hfv => ?_
      exact Nat.succ.inj (halone (i + 1) (j + 1) u v hu hv hfu hfv)
    · have hrest : (ts.map f).sum = 0 := List.sum_eq_zero fun m hm => by
        obtain ⟨u, hu, rfl⟩ := List.mem_map.1 hm
        obtain ⟨j, hj⟩ := List.mem_iff_getElem?.1 hu
        by_contra hne
        have hsame := halone 0 (j + 1) t u rfl hj hpos (Nat.pos_of_ne_zero hne)
        omega
      have ht := hle t List.mem_cons_self
      omega

/-- Where at most one thread weighs anything, all weigh no more than it may. -/
theorem weight_le_of_alone {n : Nat} (hle : ∀ t ∈ p.threads, traceWeight w t.trace ≤ n)
    (halone : ∀ (i j : Nat) t u, p.threads[i]? = some t → p.threads[j]? = some u →
      0 < traceWeight w t.trace → 0 < traceWeight w u.trace → i = j) : p.weight w ≤ n :=
  sum_map_le_of_alone hle halone

/-- A trace that weighs something has an event that does. -/
theorem exists_of_traceWeight_pos {tr : List (Event S ε σ C)} (h : 0 < traceWeight w tr) :
    ∃ e ∈ tr, 0 < w e := by
  by_contra hno
  push Not at hno
  exact absurd (traceWeight_eq_zero fun e he => Nat.le_zero.1 (hno e he)) (Nat.pos_iff_ne_zero.1 h)

end System

/-! ### Programs in parts -/

/-- A program that goes on after another is still in the first, or went on with how that settled. -/
theorem Runs.andThen_cases {h : Handler S ε σ C} {p : Prog S ε α} {f : Except ε α → Prog S ε β}
    {q : Prog S ε β} {tr : List (Event S ε σ C)} (hr : Runs h (p.andThen f) tr q) :
    (∃ p', Runs h p tr p' ∧ q = p'.andThen f) ∨
    ∃ tr₁ tr₂ p' r, tr = tr₁ ++ tr₂ ∧ Runs h p tr₁ p' ∧ p'.result? = some r ∧ Runs h (f r) tr₂ q := by
  induction hr with
  | refl => exact .inl ⟨p, .refl, rfl⟩
  | @choose tr k b _ ih =>
    rcases ih with ⟨p', hp', hk⟩ | ⟨tr₁, tr₂, p', r, rfl, hp', hres, hf⟩
    · cases p' with
      | ret a => exact .inr ⟨tr, [], _, _, (List.append_nil tr).symm, hp', rfl, by
          have hrefl : Runs h (f (.ok a)) [] (f (.ok a)) := .refl
          rw [show f (.ok a) = .choose k from hk.symm] at hrefl ⊢
          exact hrefl.choose b⟩
      | throw e => exact .inr ⟨tr, [], _, _, (List.append_nil tr).symm, hp', rfl, by
          have hrefl : Runs h (f (.error e)) [] (f (.error e)) := .refl
          rw [show f (.error e) = .choose k from hk.symm] at hrefl ⊢
          exact hrefl.choose b⟩
      | choose k' =>
        obtain rfl := Prog.choose.inj hk
        exact .inl ⟨k' b, hp'.choose b, rfl⟩
      | call o k' => cases hk
    · exact .inr ⟨tr₁, tr₂, p', r, rfl, hp', hres, hf.choose b⟩
  | @call tr o k c s _ ih =>
    rcases ih with ⟨p', hp', hk⟩ | ⟨tr₁, tr₂, p', r, rfl, hp', hres, hf⟩
    · cases p' with
      | ret a => exact .inr ⟨tr, [h.event c s o], _, _, rfl, hp', rfl, by
          have hrefl : Runs h (f (.ok a)) [] (f (.ok a)) := .refl
          rw [show f (.ok a) = .call o k from hk.symm] at hrefl ⊢
          exact hrefl.call c s⟩
      | throw e => exact .inr ⟨tr, [h.event c s o], _, _, rfl, hp', rfl, by
          have hrefl : Runs h (f (.error e)) [] (f (.error e)) := .refl
          rw [show f (.error e) = .call o k from hk.symm] at hrefl ⊢
          exact hrefl.call c s⟩
      | choose k' => cases hk
      | call o' k' =>
        obtain ⟨rfl, hk⟩ := Prog.call.inj hk
        obtain rfl := eq_of_heq hk
        exact .inl ⟨k' (h c s o).1, hp'.call c s, rfl⟩
    · exact .inr ⟨tr₁, _, p', r, (List.append_assoc _ _ _), hp', hres, hf.call c s⟩

/-- After its first call a program goes on with the reply. -/
theorem Runs.call_cases {h : Handler S ε σ C} {o : S.Op} {k : Except ε (S.Res o) → Prog S ε β}
    {q : Prog S ε β} {tr : List (Event S ε σ C)} (hr : Runs h (.call o k) tr q) :
    (tr = [] ∧ q = .call o k) ∨ ∃ c s tr', tr = h.event c s o :: tr' ∧ Runs h (k (h c s o).1) tr' q := by
  induction hr with
  | refl => exact .inl ⟨rfl, rfl⟩
  | choose b _ ih =>
    rcases ih with ⟨-, hq⟩ | ⟨c, s, tr', rfl, hr⟩
    · cases hq
    · exact .inr ⟨c, s, tr', rfl, hr.choose b⟩
  | @call tr o' k' c s _ ih =>
    rcases ih with ⟨rfl, hq⟩ | ⟨c', s', tr', rfl, hr⟩
    · obtain ⟨rfl, hk⟩ := Prog.call.inj hq
      obtain rfl := eq_of_heq hk
      exact .inr ⟨c, s, [], rfl, .refl⟩
    · exact .inr ⟨c', s', _, rfl, hr.call c s⟩

/-- A program that has ended makes no more calls. -/
theorem Runs.ended {h : Handler S ε σ C} {p q : Prog S ε α} {r : Except ε α} {tr : List (Event S ε σ C)}
    (hr : Runs h p tr q) (hp : p.result? = some r) : tr = [] ∧ q = p := by
  induction hr with
  | refl => exact ⟨rfl, rfl⟩
  | choose b _ ih =>
    rw [← ih.2] at hp
    cases hp
  | call c s _ ih =>
    rw [← ih.2] at hp
    cases hp

/-- After a call there is its answer, and what followed it if it succeeded. -/
theorem Runs.perform_bind_cases {h : Handler S ε σ C} {o : S.Op} {f : S.Res o → Prog S ε β} {q : Prog S ε β}
    {tr : List (Event S ε σ C)} (hr : Runs h ((Prog.perform o).bind f) tr q) :
    tr = [] ∨ ∃ c s, (∃ e, (h c s o).1 = .error e ∧ tr = [h.event c s o]) ∨
      ∃ a tr', (h c s o).1 = .ok a ∧ tr = h.event c s o :: tr' ∧ Runs h (f a) tr' q := by
  rcases hr.call_cases with ⟨rfl, -⟩ | ⟨c, s, tr', rfl, hrest⟩
  · exact .inl rfl
  · refine .inr ⟨c, s, ?_⟩
    cases hreply : (h c s o).1 with
    | error e =>
      rw [hreply] at hrest
      exact .inl ⟨e, rfl, by rw [(hrest.ended rfl).1]⟩
    | ok a =>
      rw [hreply] at hrest
      exact .inr ⟨a, tr', rfl, rfl, hrest⟩

end Async
