import Mathlib.Data.Nat.Basic
import Mathlib.Tactic.Push

/-!
# The next time at which something holds

Times are counted in fine units, `B` of which make a coarse one. Where a property of times is one of the
coarse unit and one of the fine unit within it, the next time that has both is found unit by unit.
-/

namespace HeraldGateway

/-- `t'` is the first time after `t` that has a property. -/
def IsNext (P : Nat → Prop) (t t' : Nat) : Prop := t < t' ∧ P t' ∧ ∀ u, t < u → u < t' → ¬ P u

variable {P Q : Nat → Prop} {B t t' : Nat}

theorem IsNext.congr {P' : Nat → Prop} (h : ∀ u, P u ↔ P' u) : IsNext P t t' ↔ IsNext P' t t' := by
  have hP : P = P' := funext fun u => propext (h u)
  rw [hP]

/-- The first time of another coarse unit. -/
def IsFirstOfUnit (P Q : Nat → Prop) (B t t' : Nat) : Prop :=
  t / B < t' / B ∧ (∀ k, k < t' % B → ¬ Q k) ∧ (∀ c, t / B < c → c < t' / B → ¬ P c) ∧
    (P (t / B) → ∀ k, t % B < k → k < B → ¬ Q k)

/-- The next time is in the same coarse unit, or the first one of a later unit. -/
theorem isNext_iff (hB : 0 < B) : IsNext (fun u => P (u / B) ∧ Q (u % B)) t t' ↔
    P (t' / B) ∧ Q (t' % B) ∧
      ((t' / B = t / B ∧ t % B < t' % B ∧ ∀ k, t % B < k → k < t' % B → ¬ Q k) ∨ IsFirstOfUnit P Q B t t') := by
  have hlt : t % B < B := Nat.mod_lt t hB
  have hlt' : t' % B < B := Nat.mod_lt t' hB
  have ht : B * (t / B) + t % B = t := Nat.div_add_mod t B
  have ht' : B * (t' / B) + t' % B = t' := Nat.div_add_mod t' B
  -- the time of a fine unit within a coarse one
  have slot : ∀ c k, k < B → (B * c + k) / B = c ∧ (B * c + k) % B = k := by
    intro c k hk
    constructor
    · rw [Nat.mul_add_div hB, Nat.div_eq_of_lt hk, Nat.add_zero]
    · rw [Nat.mul_add_mod, Nat.mod_eq_of_lt hk]
  have mono : ∀ {a b : Nat}, a < b → B * a + B ≤ B * b := fun {a b} h => by
    rw [← Nat.mul_succ]
    exact Nat.mul_le_mul_left B h
  constructor
  · rintro ⟨hnext, ⟨hP, hQ⟩, hfirst⟩
    have never : ∀ c k, k < B → t < B * c + k → B * c + k < t' → P c → ¬ Q k := by
      intro c k hk hafter hbefore hc hq
      obtain ⟨hdiv, hmod⟩ := slot c k hk
      exact hfirst _ hafter hbefore ⟨hdiv.symm ▸ hc, hmod.symm ▸ hq⟩
    refine ⟨hP, hQ, ?_⟩
    rcases Nat.lt_trichotomy (t / B) (t' / B) with hdiv | hdiv | hdiv
    · have hstep := mono hdiv
      refine .inr ⟨hdiv, fun k hk => ?_, fun c hc hc' hpc => ?_, fun hpt k hk hkB => ?_⟩
      · exact never (t' / B) k (by omega) (by omega) (by omega) hP
      · have h₁ := mono hc
        have h₂ := mono hc'
        exact never c (t' % B) hlt' (by omega) (by omega) hpc hQ
      · exact never (t / B) k hkB (by omega) (by omega) hpt
    · rw [← hdiv] at ht'
      refine .inl ⟨hdiv.symm, by omega, fun k hk hk' => ?_⟩
      exact never (t / B) k (by omega) (by omega) (by omega) (hdiv ▸ hP)
    · have hstep := mono hdiv
      omega
  · rintro ⟨hP, hQ, ⟨hdiv, hmod, hfirst⟩ | ⟨hdiv, hfirst, hunits, hrest⟩⟩
    · rw [hdiv] at ht'
      refine ⟨by omega, ⟨hP, hQ⟩, ?_⟩
      rintro u hu hu' ⟨-, hq⟩
      have hdivu : u / B = t / B :=
        Nat.le_antisymm (hdiv ▸ Nat.div_le_div_right (Nat.le_of_lt hu')) (Nat.div_le_div_right (Nat.le_of_lt hu))
      have hu₀ : B * (u / B) + u % B = u := Nat.div_add_mod u B
      rw [hdivu] at hu₀
      exact hfirst (u % B) (by omega) (by omega) hq
    · have hstep := mono hdiv
      refine ⟨by omega, ⟨hP, hQ⟩, ?_⟩
      rintro u hu hu' ⟨hp, hq⟩
      have hu₀ : B * (u / B) + u % B = u := Nat.div_add_mod u B
      have hltu : u % B < B := Nat.mod_lt u hB
      have hle : t / B ≤ u / B := Nat.div_le_div_right (Nat.le_of_lt hu)
      have hle' : u / B ≤ t' / B := Nat.div_le_div_right (Nat.le_of_lt hu')
      rcases Nat.eq_or_lt_of_le hle with heq | hlt₁
      · rw [← heq] at hu₀ hp
        exact hrest hp (u % B) (by omega) hltu hq
      · rcases Nat.eq_or_lt_of_le hle' with heq | hlt₂
        · rw [heq] at hu₀
          exact hfirst (u % B) (by omega) hq
        · exact hunits (u / B) hlt₁ hlt₂ hp

/-- Some multiple of a step is among as many numbers in a row. -/
theorem exists_multiple {n : Nat} (hn : 0 < n) (m : Nat) : ∃ k, m < k ∧ k ≤ m + n ∧ n ∣ k := by
  refine ⟨n * (m / n + 1), ?_, ?_, Nat.dvd_mul_right n _⟩
  · exact Nat.lt_mul_div_succ m hn
  · rw [Nat.mul_succ]
    exact Nat.add_le_add_right (Nat.mul_div_le m n) n

/-- Where all multiples of `n` below `B` are slots of a unit, the time `n` slots later is the next one that
has both properties exactly if it comes in the same unit after a multiple without other slots in between, or
starts the next unit that has its property. -/
theorem isNext_step_iff {n : Nat} (hB : 0 < B) (hn : 0 < n) (hQ : ∀ k, k < B → n ∣ k → Q k) :
    IsNext (fun u => P (u / B) ∧ Q (u % B)) t (t + n) ↔
      (t % B + n < B ∧ n ∣ t % B ∧ P (t / B) ∧ ∀ k, t % B < k → k < t % B + n → ¬ Q k) ∨
      ((t + n) % B = 0 ∧ P ((t + n) / B) ∧ (∀ c, t / B < c → c < (t + n) / B → ¬ P c) ∧
        (P (t / B) → ∀ k, t % B < k → k < B → ¬ Q k)) := by
  have hlt : t % B < B := Nat.mod_lt t hB
  have ht : B * (t / B) + t % B = t := Nat.div_add_mod t B
  rw [isNext_iff hB]
  by_cases hsame : t % B + n < B
  · have hdiv : (t + n) / B = t / B := by
      rw [← ht, Nat.add_assoc, Nat.mul_add_div hB, Nat.div_eq_of_lt hsame, Nat.mul_add_div hB,
        Nat.div_eq_of_lt hlt]
    have hmod : (t + n) % B = t % B + n := by
      conv_lhs => rw [← ht, Nat.add_assoc, Nat.mul_add_mod, Nat.mod_eq_of_lt hsame]
    rw [hdiv, hmod]
    constructor
    · rintro ⟨hP, hq, ⟨-, -, hfirst⟩ | ⟨hdiv', -⟩⟩
      · obtain ⟨k, hk, hk', hdvd⟩ := exists_multiple hn (t % B)
        rcases Nat.eq_or_lt_of_le hk' with heq | hlt'
        · exact .inl ⟨hsame, (Nat.dvd_add_left (Nat.dvd_refl n)).1 (heq ▸ hdvd), hP, hfirst⟩
        · exact absurd (hQ k (by omega) hdvd) (hfirst k hk hlt')
      · exact absurd hdiv' (by omega)
    · rintro (⟨-, hdvd, hP, hfirst⟩ | ⟨hzero, -⟩)
      · refine ⟨hP, hQ _ hsame ((Nat.dvd_add_left (Nat.dvd_refl n)).2 hdvd), .inl ⟨rfl, by omega, hfirst⟩⟩
      · omega
  · have hle : B * (t / B + 1) ≤ t + n := by
      rw [Nat.mul_succ]
      omega
    have hdiv : t / B < (t + n) / B := (Nat.le_div_iff_mul_le hB).2 (by rwa [Nat.mul_comm])
    constructor
    · rintro ⟨hP, hq, ⟨heq, -⟩ | ⟨-, hfirst, hunits, hrest⟩⟩
      · omega
      · -- the slot at the start of the unit would come first
        have hzero : (t + n) % B = 0 := by
          by_contra hne
          exact hfirst 0 (by omega) (hQ 0 hB (Nat.dvd_zero n))
        exact .inr ⟨hzero, hP, hunits, hrest⟩
    · rintro (⟨hlt', -⟩ | ⟨hzero, hP, hunits, hrest⟩)
      · omega
      · rw [hzero]
        refine ⟨hP, hQ 0 hB (Nat.dvd_zero n), .inr ⟨hdiv, ?_, hunits, hrest⟩⟩
        rw [hzero]
        intro k hk
        omega

end HeraldGateway
