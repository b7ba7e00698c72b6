import HeraldGateway.Scanner
import HeraldGateway.Text.Proofs.PatternsProofs

/-!
# What the scanner finds

The scanner tests its patterns by derivatives. What it triggers on are the texts that contain a word of the
language of a pattern, and a text that contains none passes.
-/

namespace HeraldGateway.Scanner

open Text

variable {text subject body : JsString} {p : Suspicious}

/-- A text triggers a pattern if it contains a word of its language. -/
theorem mem_triggered :
    p ∈ triggered text ↔ p ∈ suspiciousPatterns ∧ ∃ u v x, text = u ++ v ++ x ∧ v ∈ p.pattern.lang := by
  rw [triggered, List.mem_filter, Regex.test_iff]

/-- Terms that lower the score do not raise it. -/
theorem foldl_allow_le (patterns : List Pattern) (score : Nat) :
    patterns.foldl (fun n safe => if safe.test text then n - 10 else n) score ≤ score := by
  induction patterns generalizing score with
  | nil => exact Nat.le_refl score
  | cons safe patterns ih =>
    refine (ih _).trans ?_
    dsimp only
    split
    · exact Nat.sub_le score 10
    · exact Nat.le_refl score

/-- A text that contains nothing suspicious passes. -/
theorem pass_of_clean
    (h : ∀ p ∈ suspiciousPatterns, ∀ u v x, scanned subject body = u ++ v ++ x → v ∉ p.pattern.lang) :
    (scan subject body).verdict = .pass := by
  have hnone : triggered (scanned subject body) = [] := by
    rw [List.eq_nil_iff_forall_not_mem]
    intro p hp
    obtain ⟨hp, u, v, x, heq, hv⟩ := mem_triggered.1 hp
    exact h p hp u v x heq hv
  have hscore : (scan subject body).riskScore = 0 := by
    unfold scan
    dsimp only
    rw [hnone]
    have hle : allowTerms.foldl (fun n safe => if safe.test (scanned subject body) then n - 10 else n) 0 ≤ 0 :=
      foldl_allow_le allowTerms 0
    rw [List.map_nil, List.sum_nil, Nat.le_zero.1 hle]
    exact Nat.min_zero 100
  have hverdict : (scan subject body).verdict = verdictOf (scan subject body).riskScore := rfl
  rw [hverdict, hscore]
  rfl

end HeraldGateway.Scanner
