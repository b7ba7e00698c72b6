import HeraldGateway.Async.Totals

/-!
# Programs that act one at a time

Some calls engage a program in something that the programs of a pool should do one at a time. Where a program
becomes engaged only once those that were engaged before have ended and did nothing, at most one does
anything.
-/

namespace Async

variable {S : Signature} {ε α ρ σ C E : Type}

/-- A program made a call that engages it. -/
def Thread.Started (starts : Event S ε σ C → Bool) (t : Thread S ε α ρ σ C) : Prop :=
  ∃ e ∈ t.trace, starts e = true

instance (starts : Event S ε σ C → Bool) (t : Thread S ε α ρ σ C) : Decidable (t.Started starts) := by
  unfold Thread.Started; infer_instance

/-- A program that is engaged runs, or did something. -/
def Thread.Engaged (starts does : Event S ε σ C → Bool) (t : Thread S ε α ρ σ C) : Prop :=
  t.Started starts ∧ (t.prog.running = true ∨ ∃ e ∈ t.trace, does e = true)

/-- No program that was engaged is still running or did something. -/
def Pool.Unengaged (starts does : Event S ε σ C → Bool) (p : Pool S ε α ρ σ C) : Prop :=
  ∀ u ∈ p.threads, u.Started starts → u.prog.running = false ∧ ∀ e ∈ u.trace, does e = false

instance (starts does : Event S ε σ C → Bool) (p : Pool S ε α ρ σ C) :
    Decidable (p.Unengaged starts does) := by
  unfold Pool.Unengaged; infer_instance

/-- At most one program is engaged. -/
def Pool.Alone (starts does : Event S ε σ C → Bool) (p : Pool S ε α ρ σ C) : Prop :=
  ∀ (i j : Nat) t u, p.threads[i]? = some t → p.threads[j]? = some u →
    t.Engaged starts does → u.Engaged starts does → i = j

theorem Pool.Unengaged.not_engaged {starts does : Event S ε σ C → Bool} {p : Pool S ε α ρ σ C}
    (h : p.Unengaged starts does) {u : Thread S ε α ρ σ C} (hu : u ∈ p.threads) :
    ¬ u.Engaged starts does := by
  rintro ⟨hstarted, hdoes⟩
  obtain ⟨hended, hidle⟩ := h u hu hstarted
  rcases hdoes with hrun | ⟨e, he, hdid⟩
  · rw [hended] at hrun
    cases hrun
  · rw [hidle e he] at hdid
    cases hdid

namespace System

variable {sys : System S ε α ρ σ C E} {starts does : Event S ε σ C → Bool} {p p' : Pool S ε α ρ σ C}
  {l : Label ρ C E}

theorem alone_empty (s : σ) : (Pool.empty s : Pool S ε α ρ σ C).Alone starts does := nofun

theorem started_append {t : Thread S ε α ρ σ C} {e : Event S ε σ C} {q : Prog S ε α} :
    Thread.Started starts { t with trace := t.trace ++ [e], prog := q } ↔
    t.Started starts ∨ starts e = true := by
  unfold Thread.Started
  simp only [List.mem_append, List.mem_singleton]
  constructor
  · rintro ⟨e', he' | rfl, h⟩
    · exact .inl ⟨e', he', h⟩
    · exact .inr h
  · rintro (⟨e', he', h⟩ | h)
    · exact ⟨e', .inl he', h⟩
    · exact ⟨e, .inr rfl, h⟩

/-- Whoever is engaged was so before, or becomes so by the call of the step. -/
theorem engaged_step (h : sys.step p l = some p') {i : Nat} {t' : Thread S ε α ρ σ C}
    (ht' : p'.threads[i]? = some t') (hengaged : t'.Engaged starts does) :
    (∃ t, p.threads[i]? = some t ∧ t.Engaged starts does) ∨
      ∃ c t o k, l = .pick i c ∧ p.threads[i]? = some t ∧ ¬ t.Started starts ∧ t.prog = .call o k ∧
        starts (sys.handler.event c.2 p.store o) = true := by
  obtain ⟨hstarted, hdoes⟩ := hengaged
  rcases thread_cases h ht' with ht | ⟨r, -, -, -, rfl⟩ | ⟨t, c, k, -, ht, hprog, -, rfl⟩ |
    ⟨t, c, o, k, hl, ht, hprog, -, rfl⟩
  · exact .inl ⟨t', ht, hstarted, hdoes⟩
  · obtain ⟨e, he, -⟩ := hstarted
    cases he
  · exact .inl ⟨t, ht, hstarted, .inl (by rw [hprog]; rfl)⟩
  · by_cases hbefore : t.Started starts
    · exact .inl ⟨t, ht, hbefore, .inl (by rw [hprog]; rfl)⟩
    · exact .inr ⟨c, t, o, k, hl, ht, hbefore, hprog, (started_append.1 hstarted).resolve_left hbefore⟩

/-- At most one program stays engaged if a step engages one only while no other is. -/
theorem alone_step (h : sys.step p l = some p') (hp : p.Alone starts does)
    (hok : ∀ i c t o k, l = .pick i c → p.threads[i]? = some t → ¬ t.Started starts → t.prog = .call o k →
      starts (sys.handler.event c.2 p.store o) = true → p.Unengaged starts does) : p'.Alone starts does := by
  intro i j t' u' ht' hu' hbt hbu
  rcases engaged_step h ht' hbt with ⟨t, ht, hbt⟩ | ⟨c, t, o, k, hl, ht, hnew, hprog, hstarts⟩
  · rcases engaged_step h hu' hbu with ⟨u, hu, hbu⟩ | ⟨c, u, o, k, hl, hu, hnew, hprog, hstarts⟩
    · exact hp i j t u ht hu hbt hbu
    · exact absurd hbt ((hok j c u o k hl hu hnew hprog hstarts).not_engaged (List.mem_of_getElem? ht))
  · rcases engaged_step h hu' hbu with ⟨u, hu, hbu⟩ | ⟨c', u, o', k', hl', -⟩
    · exact absurd hbu ((hok i c t o k hl ht hnew hprog hstarts).not_engaged (List.mem_of_getElem? hu))
    · rw [hl] at hl'
      exact (Label.pick.inj hl').1

/-- Where at most one program is engaged and only those weigh anything, all weigh no more than one may. -/
theorem weight_le_of_engaged {w : Event S ε σ C → Nat} {n : Nat} (halone : p.Alone starts does)
    (hle : ∀ t ∈ p.threads, traceWeight w t.trace ≤ n)
    (hengaged : ∀ t ∈ p.threads, ∀ e ∈ t.trace, 0 < w e → t.Engaged starts does) : p.weight w ≤ n := by
  have engaged : ∀ t ∈ p.threads, 0 < traceWeight w t.trace → t.Engaged starts does := by
    intro t ht hpos
    obtain ⟨e, he, hw⟩ := exists_of_traceWeight_pos hpos
    exact hengaged t ht e he hw
  exact weight_le_of_alone hle fun i j t u ht hu hwt hwu =>
    halone i j t u ht hu (engaged t (List.mem_of_getElem? ht) hwt) (engaged u (List.mem_of_getElem? hu) hwu)

end System

end Async
