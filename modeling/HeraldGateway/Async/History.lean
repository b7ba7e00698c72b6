import HeraldGateway.Async.Along
import Mathlib.Algebra.BigOperators.Group.Multiset.Basic
import Mathlib.Data.List.Forall2

/-!
# What programs did

What is said of the events of a program, in their order or as a multiset, together with what it returns.
-/

namespace Async

/-!
## Programs and their histories

What is said of an event may depend on the events before it. `Logs` follows a program along its history:
as long as every event obeys a law, the history keeps an invariant, and the program ends as it should.
-/

section

variable {S : Signature} {ε α β σ C : Type} {h : Handler S ε σ C}
  {law : List (Event S ε σ C) → Event S ε σ C → Prop} {I : List (Event S ε σ C) → Prop}
  {Q : List (Event S ε σ C) → Except ε α → Prop} {R : List (Event S ε σ C) → Except ε β → Prop}
  {tr : List (Event S ε σ C)}

/-- After the history `tr`, as long as its events obey the law, a program keeps the invariant and ends in
`Q`. -/
def Logs (h : Handler S ε σ C) (law : List (Event S ε σ C) → Event S ε σ C → Prop)
    (I : List (Event S ε σ C) → Prop) :
    (List (Event S ε σ C) → Except ε α → Prop) → Prog S ε α → List (Event S ε σ C) → Prop
  | Q, .ret a, tr => Q tr (.ok a)
  | Q, .throw e, tr => Q tr (.error e)
  | Q, .choose k, tr => ∀ b, Logs h law I Q (k b) tr
  | Q, .call o k, tr => ∀ c s, law tr (h.event c s o) →
      I (tr ++ [h.event c s o]) ∧ Logs h law I Q (k (h c s o).1) (tr ++ [h.event c s o])

namespace Logs

theorem mono {Q' : List (Event S ε σ C) → Except ε α → Prop} {p : Prog S ε α}
    (hQ : ∀ tr r, Q tr r → Q' tr r) (hp : Logs h law I Q p tr) : Logs h law I Q' p tr := by
  induction p generalizing tr with
  | ret a => exact hQ _ _ hp
  | throw e => exact hQ _ _ hp
  | choose k ih => exact fun b => ih b (hp b)
  | call o k ih => exact fun c s hl => ⟨(hp c s hl).1, ih _ (hp c s hl).2⟩

theorem andThen {p : Prog S ε α} {f : Except ε α → Prog S ε β}
    (hp : Logs h law I (fun tr r => Logs h law I R (f r) tr) p tr) : Logs h law I R (p.andThen f) tr := by
  induction p generalizing tr with
  | ret a => exact hp
  | throw e => exact hp
  | choose k ih => exact fun b => ih b (hp b)
  | call o k ih => exact fun c s hl => ⟨(hp c s hl).1, ih _ (hp c s hl).2⟩

theorem bind {p : Prog S ε α} {f : α → Prog S ε β} (hp : Logs h law I Q p tr)
    (hf : ∀ tr a, Q tr (.ok a) → Logs h law I R (f a) tr)
    (he : ∀ tr e, Q tr (.error e) → R tr (.error e)) : Logs h law I R (p.bind f) tr :=
  andThen (hp.mono fun tr r hr => by
    cases r with
    | ok a => exact hf tr a hr
    | error e => exact he tr e hr)

theorem tryCatch {p : Prog S ε α} {f : ε → Prog S ε α} {Q' : List (Event S ε σ C) → Except ε α → Prop}
    (hp : Logs h law I Q p tr) (hok : ∀ tr a, Q tr (.ok a) → Q' tr (.ok a))
    (he : ∀ tr e, Q tr (.error e) → Logs h law I Q' (f e) tr) : Logs h law I Q' (p.tryCatch f) tr :=
  andThen (hp.mono fun tr r hr => by
    cases r with
    | ok a => exact hok tr a hr
    | error e => exact he tr e hr)

theorem settle {p : Prog S ε α} (hp : Logs h law I Q p tr) :
    Logs h law I (fun tr r => ∃ r', r = .ok r' ∧ Q tr r') p.settle tr :=
  andThen (hp.mono fun _ r hr => ⟨r, rfl, hr⟩)

theorem perform {o : S.Op} {Q : List (Event S ε σ C) → Except ε (S.Res o) → Prop}
    (hp : ∀ c s, law tr (h.event c s o) →
      I (tr ++ [h.event c s o]) ∧ Q (tr ++ [h.event c s o]) (h c s o).1) :
    Logs h law I Q (Prog.perform o) tr := by
  intro c s hl
  obtain ⟨hI, hQ⟩ := hp c s hl
  refine ⟨hI, ?_⟩
  revert hQ
  cases (h c s o).1 with
  | ok a => exact id
  | error e => exact id

/-- A program whose events keep what was said of the history, and whose result is followed otherwise. -/
theorem of_along {allowed : S.Op → Prop} {good : (o : S.Op) → Except ε (S.Res o) → Prop}
    {M : List (Event S ε σ C) → Prop} {Q : Except ε α → Prop} {p : Prog S ε α}
    (hM : ∀ tr c s o, allowed o → M tr → law tr (h.event c s o) →
      good o (h c s o).1 ∧ I (tr ++ [h.event c s o]) ∧ M (tr ++ [h.event c s o]))
    (hp : Along allowed good Q p) (htr : M tr) : Logs h law I (fun tr r => M tr ∧ Q r) p tr := by
  induction p generalizing tr with
  | ret a => exact ⟨htr, hp⟩
  | throw e => exact ⟨htr, hp⟩
  | choose k ih => exact fun b => ih b (hp b) htr
  | call o k ih =>
    intro c s hl
    obtain ⟨hg, hI, htr'⟩ := hM tr c s o hp.1 htr hl
    exact ⟨hI, ih _ (hp.2 _ hg) htr'⟩

/-- A loop keeps what each round hands on to the next one, given the elements that were handled. -/
theorem forEach {f : α → Prog S ε Unit} {as : List α} {M : List α → List (Event S ε σ C) → Prop}
    (hf : ∀ done a rest, as = done ++ a :: rest → ∀ tr, M done tr →
      Logs h law I (fun tr r => r = .ok () ∧ M (done ++ [a]) tr) (f a) tr)
    (h0 : M [] tr) : Logs h law I (fun tr r => r = .ok () ∧ M as tr) (Prog.forEach f as) tr := by
  suffices loop : ∀ rest done, as = done ++ rest → ∀ tr, M done tr →
      Logs h law I (fun tr r => r = .ok () ∧ M as tr) (Prog.forEach f rest) tr from
    loop as [] rfl tr h0
  intro rest
  induction rest with
  | nil =>
    intro done hdone tr hM
    rw [List.append_nil] at hdone
    exact ⟨rfl, hdone ▸ hM⟩
  | cons a rest ih =>
    intro done hdone tr hM
    refine (hf done a rest hdone tr hM).bind (fun tr' _ hM' => ?_) fun _ _ he => nomatch he.1
    exact ih (done ++ [a]) (by rw [hdone, List.append_assoc, List.singleton_append]) tr' hM'.2

end Logs

/-- Every event of a history obeys the law. -/
def Obeys (law : List (Event S ε σ C) → Event S ε σ C → Prop) (tr : List (Event S ε σ C)) : Prop :=
  ∀ pre e post, tr = pre ++ e :: post → law pre e

theorem obeys_nil : Obeys law [] := fun pre _ _ h => by
  cases pre <;> cases h

theorem Obeys.append {e : Event S ε σ C} (htr : Obeys law tr) (he : law tr e) :
    Obeys law (tr ++ [e]) := by
  intro pre e' post heq
  rcases List.eq_nil_or_concat post with rfl | ⟨post, e'', rfl⟩
  · obtain ⟨rfl, heq'⟩ := List.append_inj' heq rfl
    obtain rfl := (List.cons.inj heq').1
    exact he
  · rw [List.concat_eq_append, ← List.cons_append, ← List.append_assoc] at heq
    exact htr pre e' post (List.append_inj' heq rfl).1

theorem Obeys.of_append {tr' : List (Event S ε σ C)} (htr : Obeys law (tr ++ tr')) : Obeys law tr :=
  fun pre e post heq => htr pre e (post ++ tr') (by rw [heq, List.append_assoc, List.cons_append])

/-- What a program did kept the invariant, and what is left of it goes on so. -/
theorem Runs.logs {p q : Prog S ε α} (hr : Runs h p tr q) (hp : Logs h law I Q p []) (h0 : I [])
    (hl : Obeys law tr) : I tr ∧ Logs h law I Q q tr := by
  induction hr with
  | refl => exact ⟨h0, hp⟩
  | choose b _ ih => exact ⟨(ih hl).1, (ih hl).2 b⟩
  | @call tr o k c s _ ih => exact (ih hl.of_append).2 c s (hl tr _ [] rfl)

namespace System

variable {ρ E : Type} {sys : System S ε α ρ σ C E} {p p' : Pool S ε α ρ σ C}

/-- The history of every program of a pool obeys the law of its request. -/
def Histories (law : ρ → List (Event S ε σ C) → Event S ε σ C → Prop) (p : Pool S ε α ρ σ C) : Prop :=
  ∀ t ∈ p.threads, Obeys (law t.request) t.trace

theorem histories_empty {law : ρ → List (Event S ε σ C) → Event S ε σ C → Prop} (s : σ) :
    Histories (α := α) law (Pool.empty s) := nofun

theorem Histories.step {law : ρ → List (Event S ε σ C) → Event S ε σ C → Prop} {l : Label ρ C E}
    (hs : sys.step p l = some p') (hp : Histories law p)
    (hnew : ∀ i c t o k, l = .pick i c → p.threads[i]? = some t → t.prog = .call o k →
      law t.request t.trace (sys.handler.event c.2 p.store o)) : Histories law p' := by
  intro t' ht'
  obtain ⟨i, hi⟩ := List.mem_iff_getElem?.1 ht'
  rcases thread_cases hs hi with ht | ⟨r, -, -, -, rfl⟩ | ⟨t, c, k, -, ht, -, -, rfl⟩ |
    ⟨t, c, o, k, hl, ht, hprog, -, rfl⟩
  · exact hp t' (List.mem_of_getElem? ht)
  · exact obeys_nil
  · exact hp t (List.mem_of_getElem? ht)
  · exact (hp t (List.mem_of_getElem? ht)).append (hnew i c t o k hl ht hprog)

end System

end

/-!
## The events of a program

`Yields` says what the events of a program and its result have to do with each other, whatever runs beside it.
The events form a multiset: those of programs that run concurrently are the events of the one and of the
other.
-/

section

variable {S : Signature} {ε α β γ σ C : Type} {h : Handler S ε σ C}

/-- However the calls of a program are answered, its events and its result satisfy `Q`. -/
def Yields (h : Handler S ε σ C) :
    (Multiset (Event S ε σ C) → Except ε α → Prop) → Prog S ε α → Prop
  | Q, .ret a => Q 0 (.ok a)
  | Q, .throw e => Q 0 (.error e)
  | Q, .choose k => ∀ b, Yields h Q (k b)
  | Q, .call o k => ∀ c s, Yields h (fun m r => Q (h.event c s o ::ₘ m) r) (k (h c s o).1)

namespace Yields

variable {Q Q' : Multiset (Event S ε σ C) → Except ε α → Prop}
  {R : Multiset (Event S ε σ C) → Except ε β → Prop}

theorem mono {p : Prog S ε α} (hQ : ∀ m r, Q m r → Q' m r) (hp : Yields h Q p) : Yields h Q' p := by
  induction p generalizing Q Q' with
  | ret a => exact hQ _ _ hp
  | throw e => exact hQ _ _ hp
  | choose k ih => exact fun b => ih b hQ (hp b)
  | call o k ih => exact fun c s => ih _ (fun m r => hQ _ r) (hp c s)

/-- What follows a program adds its events to those of the program. -/
theorem andThen {p : Prog S ε α} {f : Except ε α → Prog S ε β}
    (hp : Yields h (fun m r => Yields h (fun m' r' => R (m + m') r') (f r)) p) :
    Yields h R (p.andThen f) := by
  induction p generalizing R with
  | ret a => exact mono (fun m r hm => by rwa [zero_add] at hm) (show Yields h _ (f (.ok a)) from hp)
  | throw e => exact mono (fun m r hm => by rwa [zero_add] at hm) (show Yields h _ (f (.error e)) from hp)
  | choose k ih => exact fun b => ih b (hp b)
  | call o k ih =>
    intro c s
    refine ih _ ((hp c s).mono fun m r hm => ?_)
    simpa only [Multiset.cons_add] using hm

theorem bind {p : Prog S ε α} {f : α → Prog S ε β} (hp : Yields h Q p)
    (hf : ∀ m a, Q m (.ok a) → Yields h (fun m' r => R (m + m') r) (f a))
    (he : ∀ m e, Q m (.error e) → R m (.error e)) : Yields h R (p.bind f) := by
  refine andThen (hp.mono fun m r hr => ?_)
  cases r with
  | ok a => exact hf m a hr
  | error e =>
    have hm := he m e hr
    rw [← add_zero m] at hm
    exact hm

theorem tryCatch {Q' : Multiset (Event S ε σ C) → Except ε α → Prop} {p : Prog S ε α} {f : ε → Prog S ε α}
    (hp : Yields h Q p) (ha : ∀ m a, Q m (.ok a) → Q' m (.ok a))
    (hf : ∀ m e, Q m (.error e) → Yields h (fun m' r => Q' (m + m') r) (f e)) :
    Yields h Q' (p.tryCatch f) := by
  refine andThen (hp.mono fun m r hr => ?_)
  cases r with
  | ok a =>
    have hm := ha m a hr
    rw [← add_zero m] at hm
    exact hm
  | error e => exact hf m e hr

theorem perform {o : S.Op} {Q : Multiset (Event S ε σ C) → Except ε (S.Res o) → Prop}
    (hQ : ∀ c s, Q {h.event c s o} (h c s o).1) : Yields h Q (Prog.perform o) := by
  intro c s
  have hcs := hQ c s
  cases hr : (h c s o).1 with
  | ok a =>
    rw [hr] at hcs
    exact hcs
  | error e =>
    rw [hr] at hcs
    exact hcs

/-- The events of two programs that run concurrently are those of the one and of the other. -/
theorem par {p : Prog S ε α} {q : Prog S ε β} (hp : Yields h Q p) (hq : Yields h R q) :
    Yields h (fun m r => ∃ m₁ m₂ a b, m = m₁ + m₂ ∧ r = .ok (a, b) ∧ Q m₁ a ∧ R m₂ b) (p.par q) := by
  induction p generalizing q Q R with
  | ret a => exact andThen (hq.mono fun m r hr => ⟨0, m, _, r, by simp, rfl, hp, hr⟩)
  | throw e => exact andThen (hq.mono fun m r hr => ⟨0, m, _, r, by simp, rfl, hp, hr⟩)
  | choose k ih => exact fun b => ih b (hp b) hq
  | call o k ih =>
    -- the call of the first program, at whatever point of the second
    have first : ∀ {R : Multiset (Event S ε σ C) → Except ε β → Prop} {q : Prog S ε β}, Yields h R q → ∀ c s,
        Yields h (fun m r => ∃ m₁ m₂ a b, h.event c s o ::ₘ m = m₁ + m₂ ∧ r = .ok (a, b) ∧ Q m₁ a ∧ R m₂ b)
          ((k (h c s o).1).par q) := by
      intro R q hq c s
      refine (ih _ (hp c s) hq).mono ?_
      rintro m r ⟨m₁, m₂, a, b, rfl, rfl, ha, hb⟩
      exact ⟨_, m₂, a, b, (Multiset.cons_add _ _ _).symm, rfl, ha, hb⟩
    rw [Prog.par]
    induction q generalizing R with
    | ret b => exact first hq
    | throw e => exact first hq
    | choose k' ihq => exact fun b => ihq b (hq b)
    | call o' k' ihq =>
      intro b
      cases b with
      | true => exact first hq
      | false =>
        intro c s
        refine (ihq _ (hq c s)).mono ?_
        rintro m r ⟨m₁, m₂, a, b, rfl, rfl, ha, hb⟩
        exact ⟨m₁, _, a, b, (Multiset.add_cons _ _ _).symm, rfl, ha, hb⟩

variable {x : γ} {xs : List γ} {f : γ → Prog S ε α} {P : γ → Multiset (Event S ε σ C) → Except ε α → Prop}

/-- The events of a list of programs that run concurrently are those of each. -/
theorem allSettled (hf : ∀ x ∈ xs, Yields h (P x) (f x)) :
    Yields h (fun m r => ∃ parts : List (Multiset (Event S ε σ C) × Except ε α), m = (parts.map (·.1)).sum ∧
      r = .ok (parts.map (·.2)) ∧ List.Forall₂ (fun x part => P x part.1 part.2) xs parts)
      (Prog.allSettled (xs.map f)) := by
  induction xs with
  | nil => exact ⟨[], rfl, rfl, .nil⟩
  | cons x xs ih =>
    have hrest := ih fun y hy => hf y (List.mem_cons_of_mem x hy)
    refine andThen (((hf x List.mem_cons_self).par hrest).mono ?_)
    rintro m r ⟨m₁, m₂, a, b, rfl, rfl, ha, parts, rfl, rfl, hparts⟩
    exact ⟨(m₁, a) :: parts, by simp, rfl, .cons ha hparts⟩

/-- What holds of each event of a program that calls only allowed operations, and of the union of events of
which it holds, holds of the events of the program. -/
theorem of_along {allowed : S.Op → Prop} {Q : Except ε α → Prop} {T : Multiset (Event S ε σ C) → Prop}
    {p : Prog S ε α} (hp : Along allowed (fun _ _ => True) Q p) (h0 : T 0)
    (hcons : ∀ c s o m, allowed o → T m → T (h.event c s o ::ₘ m)) : Yields h (fun m r => T m ∧ Q r) p := by
  induction p with
  | ret a => exact ⟨h0, hp⟩
  | throw e => exact ⟨h0, hp⟩
  | choose k ih => exact fun b => ih b (hp b)
  | call o k ih =>
    exact fun c s => (ih _ (hp.2 _ trivial)).mono fun m r hm => ⟨hcons c s o m hp.1 hm.1, hm.2⟩

end Yields

/-- After some calls, what is left of a program yields the rest. -/
theorem Runs.yields {Q : Multiset (Event S ε σ C) → Except ε α → Prop} {p q : Prog S ε α}
    {tr : List (Event S ε σ C)} (hr : Runs h p tr q) (hp : Yields h Q p) :
    Yields h (fun m r => Q (tr + m) r) q := by
  induction hr with
  | refl => simpa using hp
  | choose b _ ih => exact ih b
  | @call tr o k c s _ ih =>
    refine (ih c s).mono fun m r hm => ?_
    have hsplit : ((tr ++ [h.event c s o] : List (Event S ε σ C)) : Multiset (Event S ε σ C)) + m =
        tr + h.event c s o ::ₘ m := by
      rw [← Multiset.coe_add, add_assoc]
      rfl
    rwa [hsplit]

/-- The trace and the result of a program that has ended. -/
theorem Runs.yields_result {Q : Multiset (Event S ε σ C) → Except ε α → Prop} {p q : Prog S ε α}
    {tr : List (Event S ε σ C)} {r : Except ε α} (hr : Runs h p tr q) (hp : Yields h Q p)
    (hq : q.result? = some r) :
    Q tr r := by
  have hleft := hr.yields hp
  cases q with
  | ret a =>
    obtain rfl := Option.some.inj hq
    have hend : Q (↑tr + 0) (.ok a) := hleft
    rwa [add_zero] at hend
  | throw e =>
    obtain rfl := Option.some.inj hq
    have hend : Q (↑tr + 0) (.error e) := hleft
    rwa [add_zero] at hend
  | choose k | call o k => cases hq

end

end Async
