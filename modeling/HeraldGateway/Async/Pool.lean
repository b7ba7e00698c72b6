import HeraldGateway.Async.Prog

/-!
# Pools of running programs

Any number of programs run concurrently over one store, as the requests of a server do: requests
arrive, one call of one of them is answered at a time, and in between others may change the store.
The steps are a function of their labels, so a run can be replayed. Each program keeps the trace of its
calls, and `Runs` says what is left of it after them.
-/

namespace Async

variable {S : Signature} {ε α ρ σ C E : Type}

/-- Programs over a shared store. -/
structure System (S : Signature) (ε α ρ σ C E : Type) where
  /-- How calls are answered. -/
  handler : Handler S ε σ C
  /-- The program that serves a request, given how many arrived before it. -/
  code : ρ → Nat → Prog S ε α
  /-- What others do to the store, where they can. -/
  outside : E → σ → Option σ

/-- A program in a pool. -/
structure Thread (S : Signature) (ε α ρ σ C : Type) where
  /-- The request it serves. -/
  request : ρ
  /-- The store when the request arrived. -/
  birth : σ
  /-- The calls it has made. -/
  trace : List (Event S ε σ C)
  /-- What is left to run. -/
  prog : Prog S ε α

/-- What a program in a pool returned, if it has. -/
def Thread.answer? (t : Thread S ε α ρ σ C) : Option α :=
  match t.prog.result? with
  | some (.ok a) => some a
  | _ => none

theorem Thread.answer?_eq_some {t : Thread S ε α ρ σ C} {a : α} :
    t.answer? = some a ↔ t.prog.result? = some (.ok a) := by
  unfold answer?
  split
  · next h => rw [h, Option.some.injEq, Option.some.injEq, Except.ok.injEq]
  · next h => exact ⟨nofun, fun hr => absurd hr (h a)⟩

/-- Whether a program has calls or choices left. -/
def Prog.running (p : Prog S ε α) : Bool := p.result?.isNone

theorem Prog.result?_of_ended {p : Prog S ε α} (h : p.running = false) : ∃ r, p.result? = some r :=
  Option.isSome_iff_exists.1 (Option.isSome_iff_ne_none.2 fun hn => by
    rw [Prog.running, hn] at h
    cases h)

/-- A pool: the store and the programs in the order of their arrival. -/
structure Pool (S : Signature) (ε α ρ σ C : Type) where
  /-- The shared store. -/
  store : σ
  /-- The programs. -/
  threads : List (Thread S ε α ρ σ C)

/-- What happens next in a pool. -/
inductive Label (ρ C E : Type) where
  /-- A request arrives. -/
  | arrive (r : ρ)
  /-- The program of a given number makes its next step. -/
  | pick (i : Nat) (c : Bool × C)
  /-- Others change the store. -/
  | outside (e : E)

namespace System

variable (sys : System S ε α ρ σ C E)

/-- One step of a program: what is left of it, the event, if there is one, and the store. -/
def advance (c : Bool × C) (s : σ) :
    Prog S ε α → Option (Prog S ε α × List (Event S ε σ C) × σ)
  | .ret _ | .throw _ => none
  | .choose k => some (k c.1, [], s)
  | .call o k => some (k (sys.handler c.2 s o).1, [sys.handler.event c.2 s o], (sys.handler c.2 s o).2)

/-- One step of a pool. -/
def step (p : Pool S ε α ρ σ C) : Label ρ C E → Option (Pool S ε α ρ σ C)
  | .arrive r => some ⟨p.store, p.threads ++ [⟨r, p.store, [], sys.code r p.threads.length⟩]⟩
  | .pick i c => do
      let t ← p.threads[i]?
      let (q, es, s) ← sys.advance c p.store t.prog
      return ⟨s, p.threads.set i { t with trace := t.trace ++ es, prog := q }⟩
  | .outside e => do
      let s ← sys.outside e p.store
      return ⟨s, p.threads⟩

/-- Replay a list of labels. -/
def run (p : Pool S ε α ρ σ C) : List (Label ρ C E) → Option (Pool S ε α ρ σ C)
  | [] => some p
  | l :: ls => (sys.step p l).bind fun p' => run p' ls

/-- A condition on a step holds of every step of a replay. -/
def Keeps (ok : Pool S ε α ρ σ C → Label ρ C E → Prop) (p : Pool S ε α ρ σ C) :
    List (Label ρ C E) → Prop
  | [] => True
  | l :: ls => ok p l ∧ match sys.step p l with
    | some p' => Keeps ok p' ls
    | none => True

instance Keeps.decidable {ok : Pool S ε α ρ σ C → Label ρ C E → Prop}
    [∀ p l, Decidable (ok p l)] : ∀ p ls, Decidable (sys.Keeps ok p ls)
  | _, [] => isTrue trivial
  | p, l :: ls => @instDecidableAnd _ _ inferInstance (match sys.step p l with
    | some p' => Keeps.decidable p' ls
    | none => isTrue trivial)

/-- A condition that the labels of a replay meet in every pool holds of the replay. -/
theorem Keeps.of_labels {ok : Pool S ε α ρ σ C → Label ρ C E → Prop} {p : Pool S ε α ρ σ C}
    {ls : List (Label ρ C E)} (h : ∀ l ∈ ls, ∀ p, ok p l) : sys.Keeps ok p ls := by
  induction ls generalizing p with
  | nil => trivial
  | cons l ls ih =>
    refine ⟨h l List.mem_cons_self p, ?_⟩
    split
    · exact ih fun l' hl' => h l' (List.mem_cons_of_mem l hl')
    · trivial

/-- A condition on every step holds of every replay. -/
theorem Keeps.of_forall {ok : Pool S ε α ρ σ C → Label ρ C E → Prop} (h : ∀ p l, ok p l)
    {p : Pool S ε α ρ σ C} {ls : List (Label ρ C E)} : sys.Keeps ok p ls :=
  Keeps.of_labels sys fun l _ p => h p l

variable {sys} {ok : Pool S ε α ρ σ C → Label ρ C E → Prop} {p p' : Pool S ε α ρ σ C}

theorem Keeps.mono {ok' : Pool S ε α ρ σ C → Label ρ C E → Prop} {ls : List (Label ρ C E)}
    (h : sys.Keeps ok p ls) (himp : ∀ p l, ok p l → ok' p l) : sys.Keeps ok' p ls := by
  induction ls generalizing p with
  | nil => trivial
  | cons l ls ih =>
    refine ⟨himp p l h.1, ?_⟩
    have hrest := h.2
    revert hrest
    split
    · exact ih
    · exact id

/-- What a step does, by its label. -/
theorem step_arrive {r : ρ} (h : sys.step p (.arrive r) = some p') :
    p' = ⟨p.store, p.threads ++ [⟨r, p.store, [], sys.code r p.threads.length⟩]⟩ :=
  (Option.some.inj h).symm

theorem step_pick {i : Nat} {c : Bool × C} (h : sys.step p (.pick i c) = some p') :
    ∃ t, p.threads[i]? = some t ∧
      ((∃ k, t.prog = .choose k ∧ p' = ⟨p.store, p.threads.set i { t with prog := k c.1 }⟩) ∨
        ∃ o k, t.prog = .call o k ∧ p' = ⟨(sys.handler c.2 p.store o).2, p.threads.set i
          { t with
            trace := t.trace ++ [sys.handler.event c.2 p.store o]
            prog := k (sys.handler c.2 p.store o).1 }⟩) := by
  simp only [step, Option.bind_eq_bind, Option.bind_eq_some_iff, Option.pure_def] at h
  obtain ⟨t, ht, ⟨prog, es, s⟩, hadv, hp'⟩ := h
  obtain rfl := Option.some.inj hp'
  refine ⟨t, ht, ?_⟩
  cases hprog : t.prog with
  | ret a => rw [hprog] at hadv; cases hadv
  | throw e => rw [hprog] at hadv; cases hadv
  | choose k =>
    rw [hprog] at hadv
    obtain ⟨rfl, rfl, rfl⟩ : k c.1 = prog ∧ [] = es ∧ p.store = s := by
      simpa [advance] using hadv
    exact .inl ⟨k, rfl, by rw [List.append_nil]⟩
  | call o k =>
    rw [hprog] at hadv
    obtain ⟨rfl, rfl, rfl⟩ : k (sys.handler c.2 p.store o).1 = prog ∧
        [sys.handler.event c.2 p.store o] = es ∧ (sys.handler c.2 p.store o).2 = s := by
      simpa [advance] using hadv
    exact .inr ⟨o, k, rfl, rfl⟩

theorem step_outside {e : E} (h : sys.step p (.outside e) = some p') :
    ∃ s, sys.outside e p.store = some s ∧ p' = ⟨s, p.threads⟩ := by
  simp only [step, Option.bind_eq_bind, Option.bind_eq_some_iff, Option.pure_def] at h
  obtain ⟨s, hs, hp'⟩ := h
  exact ⟨s, hs, (Option.some.inj hp').symm⟩

/-- What every allowed step preserves holds after a run. -/
theorem Keeps.induction {I : Pool S ε α ρ σ C → Prop}
    (hstep : ∀ p l p', ok p l → I p → sys.step p l = some p' → I p') {ls : List (Label ρ C E)}
    (hok : sys.Keeps ok p ls) (hr : sys.run p ls = some p') (h0 : I p) : I p' := by
  induction ls generalizing p with
  | nil =>
    obtain rfl := Option.some.inj hr
    exact h0
  | cons l ls ih =>
    obtain ⟨p₁, hs, hr'⟩ := Option.bind_eq_some_iff.1 hr
    have hok₁ := hok.2
    rw [hs] at hok₁
    exact ih hok₁ hr' (hstep p l p₁ hok.1 h0 hs)

/-- What every step preserves holds after a run. -/
theorem run_induction {I : Pool S ε α ρ σ C → Prop} (hstep : ∀ p l p', I p → sys.step p l = some p' → I p')
    {ls : List (Label ρ C E)} (hr : sys.run p ls = some p') (h0 : I p) : I p' := by
  have hok : sys.Keeps (fun _ _ => True) p ls := Keeps.of_forall sys fun _ _ => trivial
  exact Keeps.induction (fun p l p' _ hp h => hstep p l p' hp h) hok hr h0

end System

/-! ### Traces -/

/-- What is left of a program after the calls of a trace. -/
inductive Runs (h : Handler S ε σ C) (p : Prog S ε α) : List (Event S ε σ C) → Prog S ε α → Prop where
  /-- Nothing has happened yet. -/
  | refl : Runs h p [] p
  /-- The scheduler chose. -/
  | choose {tr : List (Event S ε σ C)} {k : Bool → Prog S ε α} (b : Bool)
      (hr : Runs h p tr (.choose k)) : Runs h p tr (k b)
  /-- A call was answered. -/
  | call {tr : List (Event S ε σ C)} {o : S.Op} {k : Except ε (S.Res o) → Prog S ε α} (c : C) (s : σ)
      (hr : Runs h p tr (.call o k)) : Runs h p (tr ++ [h.event c s o]) (k (h c s o).1)

/-- Events are answers of the handler. -/
theorem Runs.event {h : Handler S ε σ C} {p q : Prog S ε α} {tr : List (Event S ε σ C)}
    (hr : Runs h p tr q) : ∀ e ∈ tr, ∃ c s o, e = h.event c s o := by
  induction hr with
  | refl => exact nofun
  | choose b _ ih => exact ih
  | @call tr o k c s _ ih =>
    intro e he
    rcases List.mem_append.1 he with he | he
    · exact ih e he
    · exact ⟨c, s, o, List.mem_singleton.1 he⟩

/-- The pool in which nobody has arrived. -/
def Pool.empty (s : σ) : Pool S ε α ρ σ C := ⟨s, []⟩

namespace System

variable {sys : System S ε α ρ σ C E} {ok : Pool S ε α ρ σ C → Label ρ C E → Prop}
  {p p' : Pool S ε α ρ σ C} {ls : List (Label ρ C E)}

/-- Where a thread comes from that a pool has after a step: it was there, it arrived, the scheduler chose
for it, or one of its calls was answered. -/
theorem thread_cases {l : Label ρ C E} {i : Nat} {t' : Thread S ε α ρ σ C}
    (h : sys.step p l = some p') (ht' : p'.threads[i]? = some t') :
    p.threads[i]? = some t' ∨
    (∃ r, l = .arrive r ∧ i = p.threads.length ∧ p'.store = p.store ∧
      t' = ⟨r, p.store, [], sys.code r i⟩) ∨
    (∃ t c k, l = .pick i c ∧ p.threads[i]? = some t ∧ t.prog = .choose k ∧ p'.store = p.store ∧
      t' = { t with prog := k c.1 }) ∨
    ∃ t c o k, l = .pick i c ∧ p.threads[i]? = some t ∧ t.prog = .call o k ∧
      p'.store = (sys.handler c.2 p.store o).2 ∧
        t' = { t with
          trace := t.trace ++ [sys.handler.event c.2 p.store o]
          prog := k (sys.handler c.2 p.store o).1 } := by
  cases l with
  | arrive r =>
    obtain rfl := step_arrive h
    rcases Nat.lt_trichotomy i p.threads.length with hi | rfl | hi
    · exact .inl (by rwa [List.getElem?_append_left hi] at ht')
    · simp only [List.getElem?_concat_length, Option.some.injEq] at ht'
      exact .inr (.inl ⟨r, rfl, rfl, rfl, ht'.symm⟩)
    · rw [List.getElem?_eq_none (by simp; omega)] at ht'
      cases ht'
  | pick j c =>
    obtain ⟨t, ht, hcase⟩ := step_pick h
    have hj := (List.getElem?_eq_some_iff.1 ht).1
    by_cases hij : i = j
    · subst hij
      rcases hcase with ⟨k, hprog, rfl⟩ | ⟨o, k, hprog, rfl⟩
      · rw [List.getElem?_set_self hj] at ht'
        exact .inr (.inr (.inl ⟨t, c, k, rfl, ht, hprog, rfl, (Option.some.inj ht').symm⟩))
      · rw [List.getElem?_set_self hj] at ht'
        exact .inr (.inr (.inr ⟨t, c, o, k, rfl, ht, hprog, rfl, (Option.some.inj ht').symm⟩))
    · left
      rcases hcase with ⟨k, hprog, rfl⟩ | ⟨o, k, hprog, rfl⟩
      · rwa [List.getElem?_set_ne (Ne.symm hij)] at ht'
      · rwa [List.getElem?_set_ne (Ne.symm hij)] at ht'
  | outside e =>
    obtain ⟨s, -, rfl⟩ := step_outside h
    exact .inl ht'

/-- A thread serves the request that it served before a step, or has just arrived. -/
theorem request_cases {l : Label ρ C E} {i : Nat} {t' : Thread S ε α ρ σ C}
    (h : sys.step p l = some p') (ht' : p'.threads[i]? = some t') :
    (∃ t, p.threads[i]? = some t ∧ t.request = t'.request) ∨
      ∃ r, l = .arrive r ∧ i = p.threads.length ∧ t' = ⟨r, p.store, [], sys.code r i⟩ := by
  rcases thread_cases h ht' with ht | ⟨r, hl, hi, -, rfl⟩ | ⟨t, _, _, -, ht, -, -, rfl⟩ |
    ⟨t, _, _, _, -, ht, -, -, rfl⟩
  · exact .inl ⟨t', ht, rfl⟩
  · exact .inr ⟨r, hl, hi, rfl⟩
  · exact .inl ⟨t, ht, rfl⟩
  · exact .inl ⟨t, ht, rfl⟩

/-- A thread stays, and what it did before. -/
theorem trace_step {l : Label ρ C E} {i : Nat} {t : Thread S ε α ρ σ C} (h : sys.step p l = some p')
    (ht : p.threads[i]? = some t) :
    ∃ t', p'.threads[i]? = some t' ∧ t'.request = t.request ∧ t.trace <+: t'.trace := by
  have hi := (List.getElem?_eq_some_iff.1 ht).1
  cases l with
  | arrive r =>
    obtain rfl := step_arrive h
    exact ⟨t, (List.getElem?_append_left hi).trans ht, rfl, List.prefix_rfl⟩
  | outside e =>
    obtain ⟨s, -, rfl⟩ := step_outside h
    exact ⟨t, ht, rfl, List.prefix_rfl⟩
  | pick j c =>
    obtain ⟨u, hu, hcase⟩ := step_pick h
    by_cases hij : i = j
    · subst hij
      obtain rfl := Option.some.inj (hu.symm.trans ht)
      rcases hcase with ⟨k, -, rfl⟩ | ⟨o, k, -, rfl⟩
      · exact ⟨_, List.getElem?_set_self hi, rfl, List.prefix_rfl⟩
      · exact ⟨_, List.getElem?_set_self hi, rfl, List.prefix_append _ _⟩
    · rcases hcase with ⟨k, -, rfl⟩ | ⟨o, k, -, rfl⟩
      · exact ⟨t, (List.getElem?_set_ne (Ne.symm hij)).trans ht, rfl, List.prefix_rfl⟩
      · exact ⟨t, (List.getElem?_set_ne (Ne.symm hij)).trans ht, rfl, List.prefix_rfl⟩

/-- A thread that has ended stays as it is. -/
theorem ended_step {l : Label ρ C E} {i : Nat} {t t' : Thread S ε α ρ σ C}
    (h : sys.step p l = some p') (ht : p.threads[i]? = some t) (ht' : p'.threads[i]? = some t')
    (hend : t.prog.running = false) : t' = t := by
  rcases thread_cases h ht' with hsame | ⟨_, -, hi, -, -⟩ | ⟨u, _, _, -, hu, hprog, -, -⟩ |
    ⟨u, _, _, _, -, hu, hprog, -, -⟩
  · exact Option.some.inj (hsame.symm.trans ht)
  · exact absurd (List.getElem?_eq_some_iff.1 ht).1 (by omega)
  · obtain rfl := Option.some.inj (hu.symm.trans ht)
    rw [hprog] at hend
    cases hend
  · obtain rfl := Option.some.inj (hu.symm.trans ht)
    rw [hprog] at hend
    cases hend

/-- Only arrivals add threads. -/
theorem length_step {l : Label ρ C E} (h : sys.step p l = some p') :
    (∃ r, l = .arrive r ∧ p'.threads.length = p.threads.length + 1) ∨
      p'.threads.length = p.threads.length := by
  cases l with
  | arrive r =>
    obtain rfl := step_arrive h
    exact .inl ⟨r, rfl, List.length_append⟩
  | pick i c =>
    obtain ⟨t, -, ⟨k, -, rfl⟩ | ⟨o, k, -, rfl⟩⟩ := step_pick h
    · exact .inr List.length_set
    · exact .inr List.length_set
  | outside e =>
    obtain ⟨s, -, rfl⟩ := step_outside h
    exact .inr rfl

/-- Where the store of a pool comes from after a step. -/
theorem store_cases {l : Label ρ C E} (h : sys.step p l = some p') :
    p'.store = p.store ∨
    (∃ i c t o k, l = .pick i c ∧ p.threads[i]? = some t ∧ t.prog = .call o k ∧
      p'.store = (sys.handler c.2 p.store o).2) ∨
    ∃ e, l = .outside e ∧ sys.outside e p.store = some p'.store := by
  cases l with
  | arrive r =>
    obtain rfl := step_arrive h
    exact .inl rfl
  | pick i c =>
    obtain ⟨t, ht, ⟨k, -, rfl⟩ | ⟨o, k, hprog, rfl⟩⟩ := step_pick h
    · exact .inl rfl
    · exact .inr (.inl ⟨i, c, t, o, k, rfl, ht, hprog, rfl⟩)
  | outside e =>
    obtain ⟨s, he, rfl⟩ := step_outside h
    exact .inr (.inr ⟨e, rfl, he⟩)

/-- A relation that calls and others keep holds between the stores around a step. -/
theorem store_rel {R : σ → σ → Prop} {l : Label ρ C E} (h : sys.step p l = some p') (hrefl : ∀ s, R s s)
    (hcall : ∀ c s o, R s (sys.handler c s o).2) (hout : ∀ e s s', sys.outside e s = some s' → R s s') :
    R p.store p'.store := by
  rcases store_cases h with hs | ⟨i, c, t, o, k, -, -, -, hs⟩ | ⟨e, -, he⟩
  · rw [hs]
    exact hrefl p.store
  · rw [hs]
    exact hcall c.2 p.store o
  · exact hout e _ _ he

/-- What a step is: one in which no call is answered, a change from outside, or a call. -/
theorem step_kinds {l : Label ρ C E} (h : sys.step p l = some p') :
    (p'.store = p.store ∧ ∀ (i : Nat) t', p'.threads[i]? = some t' → t'.trace = [] ∨
      ∃ t, p.threads[i]? = some t ∧ t'.request = t.request ∧ t'.trace = t.trace) ∨
    (∃ e, l = .outside e ∧ sys.outside e p.store = some p'.store ∧ p'.threads = p.threads) ∨
    ∃ i c t o k, l = .pick i c ∧ p.threads[i]? = some t ∧ t.prog = .call o k ∧
      p'.store = (sys.handler c.2 p.store o).2 ∧ ∀ (j : Nat) t', p'.threads[j]? = some t' →
        (j ≠ i ∧ p.threads[j]? = some t') ∨ j = i ∧ t' = { t with
          trace := t.trace ++ [sys.handler.event c.2 p.store o]
          prog := k (sys.handler c.2 p.store o).1 } := by
  cases l with
  | arrive r =>
    refine .inl ⟨by rw [step_arrive h], fun i t' ht' => ?_⟩
    rcases thread_cases h ht' with ht | ⟨_, -, -, -, rfl⟩ | ⟨_, _, _, hl, -⟩ | ⟨_, _, _, _, hl, -⟩
    · exact .inr ⟨t', ht, rfl, rfl⟩
    · exact .inl rfl
    · cases hl
    · cases hl
  | pick i c =>
    obtain ⟨t, ht, ⟨k, hprog, rfl⟩ | ⟨o, k, hprog, rfl⟩⟩ := step_pick h
    · refine .inl ⟨rfl, fun j t' ht' => .inr ?_⟩
      rw [List.getElem?_set] at ht'
      split at ht'
      · next hij =>
        subst hij
        split at ht'
        · obtain rfl := Option.some.inj ht'
          exact ⟨t, ht, rfl, rfl⟩
        · cases ht'
      · exact ⟨t', ht', rfl, rfl⟩
    · refine .inr (.inr ⟨i, c, t, o, k, rfl, ht, hprog, rfl, fun j t' ht' => ?_⟩)
      rw [List.getElem?_set] at ht'
      split at ht'
      · next hij =>
        split at ht'
        · exact .inr ⟨hij.symm, (Option.some.inj ht').symm⟩
        · cases ht'
      · next hij => exact .inl ⟨fun h => hij h.symm, ht'⟩
  | outside e =>
    obtain ⟨s, he, rfl⟩ := step_outside h
    exact .inr (.inl ⟨e, rfl, he, rfl⟩)

/-- Every thread is what the calls of its trace left of its code. -/
def Traced (sys : System S ε α ρ σ C E) (p : Pool S ε α ρ σ C) : Prop :=
  ∀ i t, p.threads[i]? = some t → Runs sys.handler (sys.code t.request i) t.trace t.prog

theorem traced_empty (s : σ) : sys.Traced (Pool.empty s) := nofun

theorem Traced.step {l : Label ρ C E} (h : sys.step p l = some p') (hp : sys.Traced p) :
    sys.Traced p' := by
  intro i t' ht'
  rcases thread_cases h ht' with ht | ⟨r, -, -, -, rfl⟩ | ⟨t, c, k, -, ht, hprog, -, rfl⟩ |
    ⟨t, c, o, k, -, ht, hprog, -, rfl⟩
  · exact hp i t' ht
  · exact .refl
  · have hr := hp i t ht
    rw [hprog] at hr
    exact hr.choose c.1
  · have hr := hp i t ht
    rw [hprog] at hr
    exact hr.call c.2 p.store

/-- In a run from the empty pool every thread is what its calls left of its code. -/
theorem traced_of_run {s : σ} (hr : sys.run (Pool.empty s) ls = some p) : sys.Traced p :=
  run_induction (fun _ _ _ hp h => Traced.step h hp) hr (traced_empty s)

theorem Traced.of_mem (hp : sys.Traced p) {t : Thread S ε α ρ σ C} (ht : t ∈ p.threads) :
    ∃ i, Runs sys.handler (sys.code t.request i) t.trace t.prog := by
  obtain ⟨i, hi⟩ := List.mem_iff_getElem?.1 ht
  exact ⟨i, hp i t hi⟩

/-- Every request of a pool has a property. -/
def Requests (P : ρ → Prop) (p : Pool S ε α ρ σ C) : Prop := ∀ t ∈ p.threads, P t.request

theorem requests_empty {P : ρ → Prop} (s : σ) :
    Requests P (Pool.empty s : Pool S ε α ρ σ C) := nofun

/-- A property of requests is kept by a step if a request that arrives in it has the property. -/
theorem Requests.step {P : ρ → Prop} {l : Label ρ C E} (h : sys.step p l = some p')
    (hp : Requests P p) (hnew : ∀ r, l = .arrive r → P r) : Requests P p' := by
  intro t' ht'
  obtain ⟨i, hi⟩ := List.mem_iff_getElem?.1 ht'
  rcases thread_cases h hi with ht | ⟨r, hl, -, -, rfl⟩ | ⟨t, c, k, -, ht, -, -, rfl⟩ |
    ⟨t, c, o, k, -, ht, -, -, rfl⟩
  · exact hp t' (List.mem_of_getElem? ht)
  · exact hnew r hl
  · exact hp t (List.mem_of_getElem? ht)
  · exact hp t (List.mem_of_getElem? ht)

/-- Every event of a pool has a property that depends on its request. -/
def Events (P : ρ → Event S ε σ C → Prop) (p : Pool S ε α ρ σ C) : Prop :=
  ∀ t ∈ p.threads, ∀ e ∈ t.trace, P t.request e

theorem events_empty {P : ρ → Event S ε σ C → Prop} (s : σ) :
    Events (α := α) P (Pool.empty s) := nofun

/-- A property of events is kept by a step if a call answered in it has the property. -/
theorem Events.step {P : ρ → Event S ε σ C → Prop} {l : Label ρ C E}
    (h : sys.step p l = some p') (hp : Events P p)
    (hnew : ∀ i c t o k, l = .pick i c → p.threads[i]? = some t → t.prog = .call o k →
      P t.request (sys.handler.event c.2 p.store o)) : Events P p' := by
  intro t' ht' e he
  obtain ⟨i, hi⟩ := List.mem_iff_getElem?.1 ht'
  rcases thread_cases h hi with ht | ⟨r, -, -, -, rfl⟩ | ⟨t, c, k, -, ht, -, -, rfl⟩ |
    ⟨t, c, o, k, hl, ht, hprog, -, rfl⟩
  · exact hp t' (List.mem_of_getElem? ht) e he
  · cases he
  · exact hp t (List.mem_of_getElem? ht) e he
  · rcases List.mem_append.1 he with he | he
    · exact hp t (List.mem_of_getElem? ht) e he
    · rw [List.mem_singleton.1 he]
      exact hnew i c t o k hl ht hprog

/-- Every event of the threads that arrived from the `n`-th on has a property that depends on the
request. -/
def EventsFrom (n : Nat) (P : ρ → Event S ε σ C → Prop) (p : Pool S ε α ρ σ C) : Prop :=
  ∀ i t, n ≤ i → p.threads[i]? = some t → ∀ e ∈ t.trace, P t.request e

theorem eventsFrom_length {P : ρ → Event S ε σ C → Prop} : EventsFrom p.threads.length P p :=
  fun _ _ hn ht => absurd (List.getElem?_eq_some_iff.1 ht).1 (Nat.not_lt.2 hn)

theorem EventsFrom.step {n : Nat} {P : ρ → Event S ε σ C → Prop} {l : Label ρ C E}
    (h : sys.step p l = some p') (hp : EventsFrom n P p)
    (hnew : ∀ i c t o k, n ≤ i → l = .pick i c → p.threads[i]? = some t → t.prog = .call o k →
      P t.request (sys.handler.event c.2 p.store o)) : EventsFrom n P p' := by
  intro i t' hn ht' e he
  rcases thread_cases h ht' with ht | ⟨r, -, -, -, rfl⟩ | ⟨t, c, k, -, ht, -, -, rfl⟩ |
    ⟨t, c, o, k, hl, ht, hprog, -, rfl⟩
  · exact hp i t' hn ht e he
  · cases he
  · exact hp i t hn ht e he
  · rcases List.mem_append.1 he with he | he
    · exact hp i t hn ht e he
    · rw [List.mem_singleton.1 he]
      exact hnew i c t o k hn hl ht hprog

/-- Every store of a pool, now and around its events, has a property. -/
def Always (J : σ → Prop) (p : Pool S ε α ρ σ C) : Prop :=
  J p.store ∧ ∀ t ∈ p.threads, ∀ e ∈ t.trace, J e.before ∧ J e.after

theorem always_empty {J : σ → Prop} {s : σ} (h : J s) :
    Always (α := α) (ρ := ρ) J (Pool.empty s : Pool S ε α ρ σ C) :=
  ⟨h, nofun⟩

/-- The store of a pool is related to those around each of its events. -/
def Since (R : σ → σ → Prop) (p : Pool S ε α ρ σ C) : Prop :=
  ∀ t ∈ p.threads, ∀ e ∈ t.trace, R e.before p.store ∧ R e.after p.store

theorem since_empty {R : σ → σ → Prop} (s : σ) :
    Since (α := α) (ρ := ρ) R (Pool.empty s : Pool S ε α ρ σ C) := nofun

/-- An event of a pool after a step was there before, or is the one of the step. -/
theorem event_cases {l : Label ρ C E} (h : sys.step p l = some p') {t' : Thread S ε α ρ σ C}
    (ht' : t' ∈ p'.threads) {e : Event S ε σ C} (he : e ∈ t'.trace) :
    (∃ t ∈ p.threads, e ∈ t.trace) ∨ e.before = p.store ∧ e.after = p'.store := by
  obtain ⟨i, hi⟩ := List.mem_iff_getElem?.1 ht'
  rcases thread_cases h hi with ht | ⟨r, -, -, -, rfl⟩ | ⟨t, c, k, -, ht, -, -, rfl⟩ |
    ⟨t, c, o, k, -, ht, -, hstore, rfl⟩
  · exact .inl ⟨t', List.mem_of_getElem? ht, he⟩
  · cases he
  · exact .inl ⟨t, List.mem_of_getElem? ht, he⟩
  · rcases List.mem_append.1 he with he | he
    · exact .inl ⟨t, List.mem_of_getElem? ht, he⟩
    · rw [List.mem_singleton.1 he, hstore]
      exact .inr ⟨rfl, rfl⟩

/-- A thread of a pool stays in it, with the calls that it made. -/
theorem thread_kept {l : Label ρ C E} (h : sys.step p l = some p') {t : Thread S ε α ρ σ C}
    (ht : t ∈ p.threads) :
    ∃ t' ∈ p'.threads, t'.request = t.request ∧ t.trace <+: t'.trace := by
  obtain ⟨i, hi⟩ := List.mem_iff_getElem?.1 ht
  obtain ⟨t', ht', hreq, hpre⟩ := trace_step h hi
  exact ⟨t', List.mem_of_getElem? ht', hreq, hpre⟩

/-- An event of a pool stays in it. -/
theorem event_kept {l : Label ρ C E} (h : sys.step p l = some p') {t : Thread S ε α ρ σ C}
    (ht : t ∈ p.threads) {e : Event S ε σ C} (he : e ∈ t.trace) : ∃ t' ∈ p'.threads, e ∈ t'.trace := by
  obtain ⟨t', ht', -, hpre⟩ := thread_kept h ht
  exact ⟨t', ht', hpre.subset he⟩

theorem Always.step {J : σ → Prop} {l : Label ρ C E} (h : sys.step p l = some p') (hp : Always J p)
    (hJ : J p'.store) : Always J p' := by
  refine ⟨hJ, fun t' ht' e he => ?_⟩
  rcases event_cases h ht' he with ⟨t, ht, he⟩ | ⟨hb, ha⟩
  · exact hp.2 t ht e he
  · rw [hb, ha]
    exact ⟨hp.1, hJ⟩

theorem Since.step {R : σ → σ → Prop} {l : Label ρ C E} (h : sys.step p l = some p') (hp : Since R p)
    (hrefl : ∀ s, R s s) (htrans : ∀ a b c, R a b → R b c → R a c) (hR : R p.store p'.store) :
    Since R p' := by
  intro t' ht' e he
  rcases event_cases h ht' he with ⟨t, ht, he⟩ | ⟨hb, ha⟩
  · obtain ⟨hb, ha⟩ := hp t ht e he
    exact ⟨htrans _ _ _ hb hR, htrans _ _ _ ha hR⟩
  · rw [hb, ha]
    exact ⟨hR, hrefl _⟩

end System

end Async
