import HeraldGateway.Async.Budget
import HeraldGateway.Async.Totals

/-!
# Calls that are paid for

Some replies give a program credit and some of its calls take it. A program is backed from some credit if on
every path a call is made only where the credit suffices for it. Programs that run concurrently share what
they have.
-/

namespace Async

variable {S : Signature} {ε α β σ C : Type} {good : (o : S.Op) → Except ε (S.Res o) → Prop}
  {gain : (o : S.Op) → Except ε (S.Res o) → Nat} {spend : S.Op → Nat} {m n : Nat}

/-- While replies are good, a program pays for its calls, from credit `n` on, and ends with credit and a
result in `Q`. -/
def Backed (good : (o : S.Op) → Except ε (S.Res o) → Prop) (gain : (o : S.Op) → Except ε (S.Res o) → Nat)
    (spend : S.Op → Nat) (Q : Nat → Except ε α → Prop) : Nat → Prog S ε α → Prop
  | n, .ret a => Q n (.ok a)
  | n, .throw e => Q n (.error e)
  | n, .choose k => ∀ b, Backed good gain spend Q n (k b)
  | n, .call o k => spend o ≤ n ∧ ∀ r, good o r → Backed good gain spend Q (n - spend o + gain o r) (k r)

/-- A program that pays for its calls, whatever it ends with. -/
abbrev Solvent (good : (o : S.Op) → Except ε (S.Res o) → Prop) (gain : (o : S.Op) → Except ε (S.Res o) → Nat)
    (spend : S.Op → Nat) (n : Nat) (p : Prog S ε α) : Prop :=
  Backed good gain spend (fun _ _ => True) n p

namespace Backed

variable {Q : Nat → Except ε α → Prop} {R : Nat → Except ε β → Prop} {p : Prog S ε α} {q : Prog S ε β}

/-- More credit is left over. -/
theorem mono {Q' : Nat → Except ε α → Prop} (hp : Backed good gain spend Q m p) (h : m ≤ n)
    (hQ : ∀ k k' r, k ≤ k' → Q k r → Q' k' r) : Backed good gain spend Q' n p := by
  induction p generalizing m n with
  | ret a => exact hQ m n _ h hp
  | throw e => exact hQ m n _ h hp
  | choose k ih => exact fun b => ih b (hp b) h
  | call o k ih =>
    obtain ⟨hle, hk⟩ := hp
    exact ⟨Nat.le_trans hle h, fun r hr => ih r (hk r hr) (by omega)⟩

theorem solvent (hp : Backed good gain spend Q m p) (h : m ≤ n) : Solvent good gain spend n p :=
  hp.mono h fun _ _ _ _ _ => trivial

/-- What takes no credit leaves what there is. -/
theorem of_along {P : Except ε α → Prop} (hp : Along (fun o => spend o = 0) good P p) :
    Backed good gain spend (fun k r => n ≤ k ∧ P r) n p := by
  induction p generalizing n with
  | ret a => exact ⟨Nat.le_refl n, hp⟩
  | throw e => exact ⟨Nat.le_refl n, hp⟩
  | choose k ih => exact fun b => ih b (hp b)
  | call o k ih =>
    obtain ⟨hfree, hk⟩ := hp
    have hfree : spend o = 0 := hfree
    refine ⟨by omega, fun r hr => (ih r (hk r hr)).mono (Nat.le_refl _) fun k k' r hle hP => ⟨?_, hP.2⟩⟩
    have := hP.1
    omega

/-- What keeps within a budget is paid from it. -/
theorem of_budget (hp : Budget spend n p) : Solvent good gain spend n p := by
  induction p generalizing n with
  | ret a => trivial
  | throw e => trivial
  | choose k ih => exact fun b => ih b (hp b)
  | call o k ih => exact ⟨hp.1, fun r _ => (ih r (hp.2 r)).solvent (Nat.le_add_right _ _)⟩

theorem andThen {f : Except ε α → Prog S ε β}
    (hp : Backed good gain spend (fun k r => Backed good gain spend R k (f r)) n p) :
    Backed good gain spend R n (p.andThen f) := by
  induction p generalizing n with
  | ret a => exact hp
  | throw e => exact hp
  | choose k ih => exact fun b => ih b (hp b)
  | call o k ih => exact ⟨hp.1, fun r hr => ih r (hp.2 r hr)⟩

theorem imp {Q' : Nat → Except ε α → Prop} (hp : Backed good gain spend Q n p) (h : ∀ k r, Q k r → Q' k r) :
    Backed good gain spend Q' n p := by
  induction p generalizing n with
  | ret a => exact h n _ hp
  | throw e => exact h n _ hp
  | choose k ih => exact fun b => ih b (hp b)
  | call o k ih => exact ⟨hp.1, fun r hr => ih r (hp.2 r hr)⟩

theorem bind {f : α → Prog S ε β} (hp : Backed good gain spend Q n p)
    (hf : ∀ k a, Q k (.ok a) → Backed good gain spend R k (f a))
    (he : ∀ k e, Q k (.error e) → R k (.error e)) :
    Backed good gain spend R n (p.bind f) :=
  andThen <| hp.imp fun k r hQ => by
    cases r with
    | ok a => exact hf k a hQ
    | error e => exact he k e hQ

theorem ite {c : Prop} [Decidable c] {p q : Prog S ε α} (hp : c → Backed good gain spend Q n p)
    (hq : ¬ c → Backed good gain spend Q n q) : Backed good gain spend Q n (if c then p else q) := by
  split
  · next h => exact hp h
  · next h => exact hq h

/-- What is solvent without credit may come after. -/
theorem followed {f : Except ε α → Prog S ε β} (hp : Solvent good gain spend n p)
    (hf : ∀ r, Solvent good gain spend 0 (f r)) : Solvent good gain spend n (p.andThen f) :=
  andThen (R := fun _ _ => True) <| hp.imp fun k r _ => (hf r).solvent (Nat.zero_le k)

/-- What takes no credit may stand in front. -/
theorem free_bind {f : α → Prog S ε β} (hp : Within (fun o => spend o = 0) good p)
    (hf : ∀ a, Solvent good gain spend n (f a)) : Solvent good gain spend n (p.bind f) :=
  bind (of_along hp) (fun _ a hk => (hf a).solvent hk.1) fun _ _ _ => trivial

/-- What takes no credit may come after. -/
theorem bind_free {f : α → Prog S ε β} (hp : Solvent good gain spend n p)
    (hf : ∀ a, Within (fun o => spend o = 0) good (f a)) : Solvent good gain spend n (p.bind f) :=
  bind hp (fun _ a _ => (of_along (hf a)).solvent (Nat.le_refl _)) fun _ _ _ => trivial

/-- Programs that run concurrently pay from what they have together. -/
theorem par (hp : Solvent good gain spend m p) (hq : Solvent good gain spend n q) :
    Solvent good gain spend (m + n) (p.par q) := by
  induction p generalizing q m n with
  | ret a =>
    have hlast : Solvent good gain spend n ((Prog.ret a).par q) := followed hq fun _ => trivial
    exact hlast.solvent (Nat.le_add_left n m)
  | throw e =>
    have hlast : Solvent good gain spend n ((Prog.throw e : Prog S ε α).par q) := followed hq fun _ => trivial
    exact hlast.solvent (Nat.le_add_left n m)
  | choose k ih => exact fun b => ih b (hp b) hq
  | call o k ih =>
    obtain ⟨hle, hk⟩ := hp
    -- the calls of the first program, at whatever point of the second
    have first : ∀ {n : Nat} {q : Prog S ε β}, Solvent good gain spend n q → spend o ≤ m + n ∧
        ∀ r, good o r → Solvent good gain spend (m + n - spend o + gain o r) ((k r).par q) := by
      intro n q hq
      exact ⟨by omega, fun r hr => (ih r (hk r hr) hq).solvent (by omega)⟩
    rw [Prog.par]
    induction q generalizing n with
    | ret b => exact first hq
    | throw e => exact first hq
    | choose k' ihq => exact fun b => ihq b (hq b)
    | call o' k' ihq =>
      intro b
      cases b with
      | true => exact first hq
      | false =>
        obtain ⟨hle', hk'⟩ := hq
        exact ⟨by omega, fun r hr => (ihq r (hk' r hr)).solvent (by omega)⟩

theorem allSettled {ps : List (Prog S ε α)} (h : ∀ p ∈ ps, Solvent good gain spend 0 p) :
    Solvent good gain spend 0 (Prog.allSettled ps) := by
  induction ps with
  | nil => trivial
  | cons p ps ih =>
    have hrest := ih fun q hq => h q (List.mem_cons_of_mem p hq)
    refine followed ((h p List.mem_cons_self).par hrest) fun r => ?_
    match r with
    | .ok (_, .ok _) | .ok (_, .error _) | .error _ => trivial

end Backed

/-- After some calls with good replies, what a program took is covered by what it had and was given, and it
goes on with the rest. -/
theorem Runs.backed {h : Handler S ε σ C} {Q : Nat → Except ε α → Prop} {p q : Prog S ε α}
    {tr : List (Event S ε σ C)} (hr : Runs h p tr q) (hp : Backed good gain spend Q n p)
    (hg : ∀ e ∈ tr, good e.op e.reply) :
    ∃ k, k + traceWeight (fun e => spend e.op) tr = n + traceWeight (fun e => gain e.op e.reply) tr ∧
      Backed good gain spend Q k q := by
  induction hr with
  | refl => exact ⟨n, rfl, hp⟩
  | choose b _ ih =>
    obtain ⟨k, hk, hq⟩ := ih hg
    exact ⟨k, hk, hq b⟩
  | call c s _ ih =>
    obtain ⟨k, hk, hle, hq⟩ := ih fun e he => hg e (List.mem_append_left _ he)
    have hlast := hg _ (List.mem_append_right _ (List.mem_singleton.2 rfl))
    refine ⟨_, ?_, hq _ hlast⟩
    simp only [traceWeight_append, traceWeight_cons, traceWeight_nil, Handler.event]
    omega

end Async
