import HeraldGateway.Async.Pool

/-!
# What happens in a replay, in order

A trace says what one program did. The log of a replay says in which order the calls of all of them were
answered, so that a property may speak of what happened between two calls.
-/

namespace Async

section

variable {S : Signature} {ε α ρ σ C E : Type}

namespace System

/-- The call that a step answers, with the number of its program. -/
def answered? (sys : System S ε α ρ σ C E) (p : Pool S ε α ρ σ C) : Label ρ C E → Option (Nat × Event S ε σ C)
  | .pick i c => do
    let t ← p.threads[i]?
    let o ← t.prog.next?
    return (i, sys.handler.event c.2 p.store o)
  | _ => none

/-- The calls that a replay answers, in their order. -/
def log (sys : System S ε α ρ σ C E) (p : Pool S ε α ρ σ C) : List (Label ρ C E) → List (Nat × Event S ε σ C)
  | [] => []
  | l :: ls => (sys.answered? p l).toList ++ match sys.step p l with
    | some p' => log sys p' ls
    | none => []

variable {sys : System S ε α ρ σ C E} {p p' : Pool S ε α ρ σ C} {l : Label ρ C E} {ls : List (Label ρ C E)}
  {ok ok' : Pool S ε α ρ σ C → Label ρ C E → Prop}

/-- The step that answers a call, and what the pool is after it. -/
theorem step_of_answered {x : Nat × Event S ε σ C} (h : sys.answered? p l = some x) :
    ∃ c t o k, l = .pick x.1 c ∧ p.threads[x.1]? = some t ∧ t.prog = .call o k ∧
      x.2 = sys.handler.event c.2 p.store o ∧
        sys.step p l = some ⟨(sys.handler c.2 p.store o).2, p.threads.set x.1
          { t with
            trace := t.trace ++ [sys.handler.event c.2 p.store o]
            prog := k (sys.handler c.2 p.store o).1 }⟩ := by
  cases l with
  | arrive r => cases h
  | outside e => cases h
  | pick i c =>
    simp only [answered?, Option.bind_eq_bind, Option.bind_eq_some_iff, Option.pure_def,
      Option.some.injEq] at h
    obtain ⟨t, ht, o, ho, rfl⟩ := h
    cases hprog : t.prog with
    | call o' k =>
      rw [hprog] at ho
      obtain rfl := Option.some.inj ho
      refine ⟨c, t, o', k, rfl, ht, hprog, rfl, ?_⟩
      simp [step, ht, hprog, advance]
    | ret | throw | choose =>
      rw [hprog] at ho
      cases ho

theorem answered_of_next {i : Nat} {c : Bool × C} {t : Thread S ε α ρ σ C} {o : S.Op}
    {k : Except ε (S.Res o) → Prog S ε α} (ht : p.threads[i]? = some t) (hprog : t.prog = .call o k) :
    sys.answered? p (.pick i c) = some (i, sys.handler.event c.2 p.store o) := by
  simp [answered?, ht, hprog, Prog.next?]

theorem log_cons (h : sys.step p l = some p') :
    sys.log p (l :: ls) = (sys.answered? p l).toList ++ sys.log p' ls := by
  rw [log, h]

/-- What every step preserves with the calls that it adds to the log holds after a run with its log. -/
theorem log_induction {R : List (Nat × Event S ε σ C) → Pool S ε α ρ σ C → Prop}
    (hstep : ∀ log p l p', R log p → sys.step p l = some p' → R (log ++ (sys.answered? p l).toList) p')
    {log : List (Nat × Event S ε σ C)} (hr : sys.run p ls = some p') (h0 : R log p) :
    R (log ++ sys.log p ls) p' := by
  induction ls generalizing p log with
  | nil =>
    obtain rfl := Option.some.inj hr
    rwa [System.log, List.append_nil]
  | cons l ls ih =>
    obtain ⟨p₁, hs, hr'⟩ := Option.bind_eq_some_iff.1 hr
    rw [log_cons hs, ← List.append_assoc]
    exact ih hr' (hstep log p l p₁ h0 hs)

theorem Keeps.of_cons (h : sys.Keeps ok p (l :: ls)) (hs : sys.step p l = some p') : sys.Keeps ok p' ls := by
  have hrest := h.2
  rwa [hs] at hrest

/-- A condition on every step of a replay holds of one in the middle. -/
theorem Keeps.at_step {ls₁ ls₂ : List (Label ρ C E)} (h : sys.Keeps ok p (ls₁ ++ l :: ls₂))
    (hr : sys.run p ls₁ = some p') : ok p' l := by
  induction ls₁ generalizing p with
  | nil =>
    obtain rfl := Option.some.inj hr
    exact h.1
  | cons l' ls₁ ih =>
    obtain ⟨p₁, hs, hr'⟩ := Option.bind_eq_some_iff.1 hr
    exact ih (h.of_cons hs) hr'

/-- A replay up to an entry of its log, the step that answers the call, and the rest of the replay. -/
structure Split (sys : System S ε α ρ σ C E) (ok : Pool S ε α ρ σ C → Label ρ C E → Prop)
    (p : Pool S ε α ρ σ C) (pre : List (Nat × Event S ε σ C)) (x : Nat × Event S ε σ C)
    (post : List (Nat × Event S ε σ C)) (ls₁ : List (Label ρ C E)) (l : Label ρ C E)
    (ls₂ : List (Label ρ C E)) (p₁ p₂ : Pool S ε α ρ σ C) : Prop where
  runs : sys.run p ls₁ = some p₁
  before : sys.log p ls₁ = pre
  kept : sys.Keeps ok p ls₁
  holds : ok p₁ l
  entry : sys.answered? p₁ l = some x
  steps : sys.step p₁ l = some p₂
  rest : sys.Keeps ok p₂ ls₂
  after : sys.log p₂ ls₂ = post

/-- Where the log of a replay has an entry, the replay has a step that answers the call. -/
theorem log_split {pre post : List (Nat × Event S ε σ C)} {x : Nat × Event S ε σ C}
    (h : sys.log p ls = pre ++ x :: post) (hok : sys.Keeps ok p ls) :
    ∃ ls₁ l ls₂ p₁ p₂, sys.Split ok p pre x post ls₁ l ls₂ p₁ p₂ := by
  induction ls generalizing p pre with
  | nil => cases pre <;> cases h
  | cons l ls ih =>
    -- A call that is answered is the first entry; the rest is the log of what follows.
    have later : ∀ {p' pre'}, sys.step p l = some p' → pre = (sys.answered? p l).toList ++ pre' →
        sys.log p' ls = pre' ++ x :: post → ∃ ls₁ l ls₂ p₁ p₂, sys.Split ok p pre x post ls₁ l ls₂ p₁ p₂ := by
      intro p' pre' hstep hpre hrest
      obtain ⟨ls₁, l', ls₂, p₁, p₂, hsplit⟩ := ih hrest (hok.of_cons hstep)
      refine ⟨l :: ls₁, l', ls₂, p₁, p₂, { hsplit with runs := ?_, before := ?_, kept := ⟨hok.1, ?_⟩ }⟩
      · rw [run, hstep]
        exact hsplit.runs
      · rw [log_cons hstep, hsplit.before, hpre]
      · rw [hstep]
        exact hsplit.kept
    cases hentry : sys.answered? p l with
    | none =>
      cases hstep : sys.step p l with
      | none =>
        rw [log, hentry, hstep] at h
        cases pre <;> cases h
      | some p' =>
        rw [log_cons hstep, hentry] at h
        exact later hstep (by rw [hentry]; rfl) h
    | some y =>
      obtain ⟨_, _, _, _, -, -, -, -, hstep⟩ := step_of_answered hentry
      rw [log_cons hstep, hentry] at h
      cases pre with
      | nil =>
        obtain ⟨rfl, hpost⟩ := List.cons.inj h
        exact ⟨[], l, ls, p, _, rfl, rfl, trivial, hok.1, hentry, hstep, hok.of_cons hstep, hpost⟩
      | cons y' pre =>
        obtain ⟨rfl, hrest⟩ := List.cons.inj h
        exact later hstep (by rw [hentry]; rfl) hrest

/-- What every entry of the log satisfies is a condition on the steps. -/
theorem keeps_of_log {P : Nat × Event S ε σ C → Prop} (h : ∀ x ∈ sys.log p ls, P x) :
    sys.Keeps (fun p l => ∀ x ∈ sys.answered? p l, P x) p ls := by
  induction ls generalizing p with
  | nil => trivial
  | cons l ls ih =>
    refine ⟨fun x hx => h x (List.mem_append_left _ (Option.mem_toList.2 hx)), ?_⟩
    cases hstep : sys.step p l with
    | none => trivial
    | some p' =>
      rw [log_cons hstep] at h
      exact ih fun x hx => h x (List.mem_append_right _ hx)

theorem Keeps.and (h : sys.Keeps ok p ls) (h' : sys.Keeps ok' p ls) :
    sys.Keeps (fun p l => ok p l ∧ ok' p l) p ls := by
  induction ls generalizing p with
  | nil => trivial
  | cons l ls ih =>
    refine ⟨⟨h.1, h'.1⟩, ?_⟩
    have hrest := h.2
    have hrest' := h'.2
    revert hrest hrest'
    cases sys.step p l with
    | none => exact fun _ _ => trivial
    | some p' => exact ih

end System

end

/-!
## In which order programs end

What programs did may count from when they ended. The endings of a replay are the programs that its steps end,
in their order, and what every step adds for the one that it ends a run adds for all of them.
-/

section

variable {S : Signature} {ε α β ρ σ C E : Type}

/-- The number of the program that a step is about, where `n` have arrived. -/
def Label.number (n : Nat) : Label ρ C E → Option Nat
  | .arrive _ => some n
  | .pick i _ => some i
  | .outside _ => none

namespace System

/-- The program that a step ends. -/
def ends? (sys : System S ε α ρ σ C E) (p : Pool S ε α ρ σ C) (l : Label ρ C E) :
    Option (Thread S ε α ρ σ C) :=
  do
  let p' ← sys.step p l
  let i ← l.number p.threads.length
  let t ← p'.threads[i]?
  if t.prog.running then none else some t

/-- The programs that a replay ends, in their order. -/
def endings (sys : System S ε α ρ σ C E) (p : Pool S ε α ρ σ C) :
    List (Label ρ C E) → List (Thread S ε α ρ σ C)
  | [] => []
  | l :: ls => (sys.ends? p l).toList ++ match sys.step p l with
    | some p' => endings sys p' ls
    | none => []

variable {sys : System S ε α ρ σ C E} {p p' : Pool S ε α ρ σ C} {l : Label ρ C E} {ls : List (Label ρ C E)}
  {ok : Pool S ε α ρ σ C → Label ρ C E → Prop}

theorem endings_cons (h : sys.step p l = some p') :
    sys.endings p (l :: ls) = (sys.ends? p l).toList ++ sys.endings p' ls := by rw [endings, h]

/-- What holds of a pool and what was added up so far holds after a run with what its endings add. -/
theorem endings_induction {f : β → Thread S ε α ρ σ C → β} {R : β → Pool S ε α ρ σ C → Prop}
    (hstep : ∀ b p l p', ok p l → R b p → sys.step p l = some p' → R ((sys.ends? p l).toList.foldl f b) p')
    {b : β} (hok : sys.Keeps ok p ls) (hr : sys.run p ls = some p') (h0 : R b p) :
    R ((sys.endings p ls).foldl f b) p' := by
  induction ls generalizing p b with
  | nil =>
    obtain rfl := Option.some.inj hr
    exact h0
  | cons l ls ih =>
    obtain ⟨p₁, hs, hr'⟩ := Option.bind_eq_some_iff.1 hr
    have hok₁ := hok.2
    rw [hs] at hok₁
    rw [endings_cons hs, List.foldl_append]
    exact ih hok₁ hr' (hstep b p l p₁ hok.1 h0 hs)

theorem ends?_outside {e : E} : sys.ends? p (.outside e) = none := by
  unfold ends?
  cases sys.step p (.outside e) <;> rfl

theorem ends?_arrive {r : ρ} (h : (sys.code r p.threads.length).running = true) :
    sys.ends? p (.arrive r) = none := by
  simp [ends?, step, Label.number, h]

/-- The program that a call ends is the one that makes it. -/
theorem ends?_call {i : Nat} {c : Bool × C} {t : Thread S ε α ρ σ C} {o : S.Op}
    {k : Except ε (S.Res o) → Prog S ε α} (ht : p.threads[i]? = some t) (hprog : t.prog = .call o k) :
    sys.ends? p (.pick i c) = if (k (sys.handler c.2 p.store o).1).running then none else some { t with
      trace := t.trace ++ [sys.handler.event c.2 p.store o]
      prog := k (sys.handler c.2 p.store o).1 } := by
  have hi := (List.getElem?_eq_some_iff.1 ht).1
  simp [ends?, step, ht, hprog, advance, Label.number, List.getElem?_set_self hi]

end System

end

end Async
