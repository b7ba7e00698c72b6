import HeraldGateway.Async.Along
import Mathlib.Algebra.Order.BigOperators.Group.List
import Mathlib.Algebra.Order.Ring.Nat

/-!
# How often a program calls

A budget bounds what the calls of a program cost on every path, whatever runs beside it: the budgets of
parts add up, also where they run concurrently. A program is sealed by a reply if after it there are only
some calls left.
-/

namespace Async

variable {S : Signature} {ε α β σ C : Type} {cost : S.Op → Nat} {m n : Nat}

/-- The calls of a program cost at most `n`. -/
def Budget (cost : S.Op → Nat) : Nat → Prog S ε α → Prop
  | _, .ret _ => True
  | _, .throw _ => True
  | n, .choose k => ∀ b, Budget cost n (k b)
  | n, .call o k => cost o ≤ n ∧ ∀ r, Budget cost (n - cost o) (k r)

namespace Budget

variable {p : Prog S ε α} {q : Prog S ε β}

theorem mono (hp : Budget cost m p) (h : m ≤ n) : Budget cost n p := by
  induction p generalizing m n with
  | ret a => trivial
  | throw e => trivial
  | choose k ih => exact fun b => ih b (hp b) h
  | call o k ih => exact ⟨Nat.le_trans hp.1 h, fun r => ih r (hp.2 r) (Nat.sub_le_sub_right h _)⟩

/-- What calls nothing that costs is within every budget. -/
theorem of_within (hp : Within (fun o => cost o = 0) (fun _ _ => True) p) : Budget cost n p := by
  induction p with
  | ret a => trivial
  | throw e => trivial
  | choose k ih => exact fun b => ih b (hp b)
  | call o k ih =>
    have h0 : cost o = 0 := hp.1
    refine ⟨by rw [h0]; exact Nat.zero_le n, fun r => ?_⟩
    rw [h0]
    exact ih r (hp.2 r trivial)

theorem andThen {f : Except ε α → Prog S ε β} (hp : Budget cost m p)
    (hf : ∀ r, Budget cost n (f r)) : Budget cost (m + n) (p.andThen f) := by
  induction p generalizing m with
  | ret a => exact (hf _).mono (Nat.le_add_left n m)
  | throw e => exact (hf _).mono (Nat.le_add_left n m)
  | choose k ih => exact fun b => ih b (hp b)
  | call o k ih =>
    obtain ⟨hcost, hk⟩ := hp
    refine ⟨by omega, fun r => ?_⟩
    have hr := ih r (hk r)
    rwa [show m - cost o + n = m + n - cost o by omega] at hr

theorem bind {f : α → Prog S ε β} (hp : Budget cost m p) (hf : ∀ a, Budget cost n (f a)) :
    Budget cost (m + n) (p.bind f) :=
  hp.andThen fun r => by
    cases r with
    | ok a => exact hf a
    | error e => trivial

/-- What a program returns may bound what the calls after it cost. -/
theorem bind_along {f : α → Prog S ε β} {Q : Except ε α → Prop} (hp : Budget cost m p)
    (hq : Along (fun _ => True) (fun _ _ => True) Q p) (hf : ∀ a, Q (.ok a) → Budget cost n (f a)) :
    Budget cost (m + n) (p.bind f) := by
  induction p generalizing m with
  | ret a => exact (hf a hq).mono (Nat.le_add_left n m)
  | throw e => trivial
  | choose k ih => exact fun b => ih b (hp b) (hq b)
  | call o k ih =>
    obtain ⟨hcost, hk⟩ := hp
    refine ⟨by omega, fun r => ?_⟩
    have hr := ih r (hk r) (hq.2 r trivial)
    rwa [show m - cost o + n = m + n - cost o by omega] at hr

theorem tryCatch {f : ε → Prog S ε α} (hp : Budget cost m p) (hf : ∀ e, Budget cost n (f e)) :
    Budget cost (m + n) (p.tryCatch f) :=
  hp.andThen fun r => by
    cases r with
    | ok a => trivial
    | error e => exact hf e

theorem settle (hp : Budget cost n p) : Budget cost n p.settle := hp.andThen (n := 0) fun _ => trivial

/-! What costs nothing may stand before and after. -/

theorem free_bind {f : α → Prog S ε β} (hp : Within (fun o => cost o = 0) (fun _ _ => True) p)
    (hf : ∀ a, Budget cost n (f a)) : Budget cost n (p.bind f) :=
  mono (bind (of_within hp) hf) (Nat.zero_add n).le

theorem bind_free {f : α → Prog S ε β} (hp : Budget cost n p)
    (hf : ∀ a, Within (fun o => cost o = 0) (fun _ _ => True) (f a)) : Budget cost n (p.bind f) :=
  bind hp fun a => of_within (n := 0) (hf a)

theorem tryCatch_free {f : ε → Prog S ε α} (hp : Budget cost n p)
    (hf : ∀ e, Within (fun o => cost o = 0) (fun _ _ => True) (f e)) : Budget cost n (p.tryCatch f) :=
  tryCatch hp fun e => of_within (n := 0) (hf e)

theorem perform {o : S.Op} (h : cost o ≤ n) : Budget cost n (Prog.perform (ε := ε) o) :=
  ⟨h, fun r => by cases r <;> trivial⟩

theorem ite {c : Prop} [Decidable c] {p q : Prog S ε α} (hp : c → Budget cost n p)
    (hq : ¬ c → Budget cost n q) : Budget cost n (if c then p else q) := by
  split
  · next h => exact hp h
  · next h => exact hq h

theorem par (hp : Budget cost m p) (hq : Budget cost n q) : Budget cost (m + n) (p.par q) := by
  induction p generalizing q m n with
  | ret a =>
    refine Budget.mono ?_ (Nat.le_add_left n m)
    exact hq.andThen (n := 0) fun _ => trivial
  | throw e =>
    refine Budget.mono ?_ (Nat.le_add_left n m)
    exact hq.andThen (n := 0) fun _ => trivial
  | choose k ih => exact fun b => ih b (hp b) hq
  | call o k ih =>
    obtain ⟨hcost, hk⟩ := hp
    -- the calls of the first program, at whatever point of the second
    have first : ∀ {n : Nat} {q : Prog S ε β}, Budget cost n q →
        cost o ≤ m + n ∧ ∀ r, Budget cost (m + n - cost o) ((k r).par q) := by
      intro n q hq
      refine ⟨by omega, fun r => ?_⟩
      have hr := ih r (hk r) hq
      rwa [show m - cost o + n = m + n - cost o by omega] at hr
    rw [Prog.par]
    induction q generalizing n with
    | ret b => exact first hq
    | throw e => exact first hq
    | choose k' ihq => exact fun b => ihq b (hq b)
    | call o' k' ihq =>
      intro b
      cases b with
      | true => exact first hq
      | false =>
        obtain ⟨hcost', hk'⟩ := hq
        refine ⟨by omega, fun r => ?_⟩
        have hr := ihq r (hk' r)
        rwa [show m + (n - cost o') = m + n - cost o' by omega] at hr

theorem allSettled {ns : List Nat} {ps : List (Prog S ε α)} (h : List.Forall₂ (Budget cost) ns ps) :
    Budget cost ns.sum (Prog.allSettled ps) := by
  induction h with
  | nil => trivial
  | cons hp _ ih =>
    rw [List.sum_cons]
    refine ((hp.par ih).andThen (n := 0) fun r => ?_).mono (by omega)
    match r with
    | .ok (_, .ok _) | .ok (_, .error _) | .error _ => trivial

/-- Programs that cost the same. -/
theorem allSettled_const {ps : List (Prog S ε α)} (h : ∀ p ∈ ps, Budget cost n p) :
    Budget cost (ps.length * n) (Prog.allSettled ps) := by
  have hall : List.Forall₂ (Budget cost) (List.replicate ps.length n) ps := by
    induction ps with
    | nil => exact .nil
    | cons p ps ih =>
      exact .cons (h p List.mem_cons_self) (ih fun q hq => h q (List.mem_cons_of_mem p hq))
  have hsum := allSettled hall
  rwa [List.sum_replicate_nat] at hsum

end Budget

/-- What the calls of a trace cost. -/
def traceCost (cost : S.Op → Nat) (tr : List (Event S ε σ C)) : Nat := (tr.map fun e => cost e.op).sum

/-- After some calls, what is left of a program is within what is left of its budget. -/
theorem Runs.budget {h : Handler S ε σ C} {p q : Prog S ε α} {tr : List (Event S ε σ C)}
    (hr : Runs h p tr q) (hp : Budget cost n p) :
    traceCost cost tr ≤ n ∧ Budget cost (n - traceCost cost tr) q := by
  induction hr with
  | refl => exact ⟨Nat.zero_le n, hp⟩
  | choose b _ ih => exact ⟨ih.1, ih.2 b⟩
  | call c s _ ih =>
    obtain ⟨hle, hcost, hk⟩ := ih
    simp only [traceCost, List.map_append, List.map_cons, List.map_nil, List.sum_append, List.sum_cons,
      List.sum_nil, Handler.event] at *
    refine ⟨by omega, ?_⟩
    rw [Nat.add_zero, ← Nat.sub_sub]
    exact hk _

theorem cost_le_traceCost {tr : List (Event S ε σ C)} {e : Event S ε σ C} (he : e ∈ tr) :
    cost e.op ≤ traceCost cost tr :=
  List.single_le_sum (fun _ _ => Nat.zero_le _) _ (List.mem_map.2 ⟨e, he, rfl⟩)

/-- A trace that costs at most one has at most one event that costs. -/
theorem eq_of_traceCost {tr : List (Event S ε σ C)} {e e' : Event S ε σ C}
    (htr : traceCost cost tr ≤ 1) (he : e ∈ tr) (he' : e' ∈ tr) (hc : 0 < cost e.op)
    (hc' : 0 < cost e'.op) : e = e' := by
  induction tr with
  | nil => cases he
  | cons a tr ih =>
    have hsplit : cost a.op + traceCost cost tr ≤ 1 := by simpa [traceCost] using htr
    rcases List.mem_cons.1 he with rfl | hmem
    · rcases List.mem_cons.1 he' with rfl | hmem'
      · rfl
      · have : cost e'.op ≤ traceCost cost tr := cost_le_traceCost hmem'
        omega
    · rcases List.mem_cons.1 he' with rfl | hmem'
      · have : cost e.op ≤ traceCost cost tr := cost_le_traceCost hmem
        omega
      · exact ih ((Nat.le_add_left _ _).trans hsplit) hmem hmem'

/-! ### Sealed programs -/

/-- While replies are good, a program makes only calls in `after` once it got a reply in `mark`, and then
ends in `Q`. -/
def Sealed (mark good : (o : S.Op) → Except ε (S.Res o) → Prop) (after : S.Op → Prop)
    (Q : Except ε α → Prop) : Prog S ε α → Prop
  | .ret _ => True
  | .throw _ => True
  | .choose k => ∀ b, Sealed mark good after Q (k b)
  | .call o k => ∀ r, good o r →
      (mark o r → Along after good Q (k r)) ∧ Sealed mark good after Q (k r)

namespace Sealed

variable {mark good : (o : S.Op) → Except ε (S.Res o) → Prop} {after : S.Op → Prop}
  {Q : Except ε α → Prop} {R : Except ε β → Prop} {p : Prog S ε α}

/-- A program without marked replies is sealed by them. -/
theorem of_within {allowed : S.Op → Prop} (ha : ∀ o, allowed o → ∀ r, ¬ mark o r)
    (hp : Within allowed good p) : Sealed mark good after Q p := by
  induction p with
  | ret a => trivial
  | throw e => trivial
  | choose k ih => exact fun b => ih b (hp b)
  | call o k ih => exact fun r hr => ⟨fun hm => absurd hm (ha o hp.1 r), ih r (hp.2 r hr)⟩

theorem andThen {f : Except ε α → Prog S ε β}
    (hp : Sealed mark good after (fun r => Along after good R (f r)) p)
    (hf : ∀ r, Sealed mark good after R (f r)) : Sealed mark good after R (p.andThen f) := by
  induction p with
  | ret a => exact hf _
  | throw e => exact hf _
  | choose k ih => exact fun b => ih b (hp b)
  | call o k ih =>
    exact fun r hr => ⟨fun hm => Along.andThen ((hp r hr).1 hm), ih r (hp r hr).2⟩

theorem bind {f : α → Prog S ε β}
    (hp : Sealed mark good after (fun
      | .ok a => Along after good R (f a)
      | .error e => R (.error e)) p)
    (hf : ∀ a, Sealed mark good after R (f a)) : Sealed mark good after R (p.bind f) := by
  refine andThen ?_ fun r => ?_
  · convert hp using 2 with r
    cases r <;> rfl
  · cases r with
    | ok a => exact hf a
    | error e => trivial

theorem tryCatch {f : ε → Prog S ε α}
    (hp : Sealed mark good after (fun
      | .ok a => Q (.ok a)
      | .error e => Along after good Q (f e)) p)
    (hf : ∀ e, Sealed mark good after Q (f e)) : Sealed mark good after Q (p.tryCatch f) := by
  refine andThen ?_ fun r => ?_
  · convert hp using 2 with r
    cases r <;> rfl
  · cases r with
    | ok a => trivial
    | error e => exact hf e

theorem mono {Q' : Except ε α → Prop} (hQ : ∀ r, Q r → Q' r) (hp : Sealed mark good after Q p) :
    Sealed mark good after Q' p := by
  induction p with
  | ret a => trivial
  | throw e => trivial
  | choose k ih => exact fun b => ih b (hp b)
  | call o k ih =>
    exact fun r hr => ⟨fun hm => ((hp r hr).1 hm).mono hQ, ih r (hp r hr).2⟩

theorem perform {o : S.Op} {Q : Except ε (S.Res o) → Prop} (h : ∀ r, good o r → mark o r → Q r) :
    Sealed mark good after Q (Prog.perform o) := fun r hr => by
  cases r with
  | ok a => exact ⟨h _ hr, trivial⟩
  | error e => exact ⟨h _ hr, trivial⟩

theorem ite {c : Prop} [Decidable c] {p q : Prog S ε α} (hp : c → Sealed mark good after Q p)
    (hq : ¬ c → Sealed mark good after Q q) : Sealed mark good after Q (if c then p else q) := by
  split
  · next h => exact hp h
  · next h => exact hq h

end Sealed

/-- What is left of a sealed program once it got a marked reply. -/
theorem Runs.sealed {mark good : (o : S.Op) → Except ε (S.Res o) → Prop} {after : S.Op → Prop}
    {Q : Except ε α → Prop} {h : Handler S ε σ C} {p q : Prog S ε α} {tr : List (Event S ε σ C)}
    (hr : Runs h p tr q) (hp : Sealed mark good after Q p) (hg : ∀ e ∈ tr, good e.op e.reply) :
    Sealed mark good after Q q ∧ ((∃ e ∈ tr, mark e.op e.reply) → Along after good Q q) := by
  induction hr with
  | refl => exact ⟨hp, fun ⟨e, he, _⟩ => absurd he List.not_mem_nil⟩
  | choose b _ ih =>
    obtain ⟨hk, hm⟩ := ih hg
    exact ⟨hk b, fun he => hm he b⟩
  | call c s _ ih =>
    obtain ⟨hk, hm⟩ := ih fun e he => hg e (List.mem_append_left _ he)
    have hlast := hg _ (List.mem_append_right _ (List.mem_singleton.2 rfl))
    refine ⟨(hk _ hlast).2, ?_⟩
    rintro ⟨e, he, hmark⟩
    rcases List.mem_append.1 he with he | he
    · exact (hm ⟨e, he, hmark⟩).2 _ hlast
    · rw [List.mem_singleton.1 he] at hmark
      exact (hk _ hlast).1 hmark

end Async
