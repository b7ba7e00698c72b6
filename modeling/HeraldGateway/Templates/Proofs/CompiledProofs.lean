import HeraldGateway.Templates.Compiled
import Mathlib.Data.Nat.Digits.Lemmas
import Mathlib.Data.Int.ModEq

/-!
# Which sources share an entry

Two sources have one hash exactly if they are congruent modulo 2^32 as numbers in base 31. The caches are
transparent for sources of which no two are.
-/

namespace HeraldGateway

variable {δ : Type} {s t : JsString}

/-! ### Numbers in base 36 -/

theorem digit36_inj : ∀ d < 36, ∀ e < 36, digit36 d = digit36 e → d = e := by decide

theorem digit36_ne : ∀ d < 36, digit36 d ≠ 45 := by decide

/-- The digits of a number, the most significant first. -/
theorem natToString36_eq (n : Nat) :
    ∃ digits : List Nat, natToString36 n = digits.map digit36 ∧ (∀ d ∈ digits, d < 36) ∧
      n = Nat.ofDigits 36 digits.reverse := by
  by_cases hn : n = 0
  · subst hn
    exact ⟨[0], by decide, by decide, rfl⟩
  · refine ⟨(Nat.digits 36 n).reverse, if_neg hn, fun d hd => ?_, ?_⟩
    · exact Nat.digits_lt_base (by decide) (List.mem_reverse.1 hd)
    · rw [List.reverse_reverse, Nat.ofDigits_digits]

theorem map_digit36_inj {ds es : List Nat} (hds : ∀ d ∈ ds, d < 36) (hes : ∀ d ∈ es, d < 36)
    (h : ds.map digit36 = es.map digit36) : ds = es := by
  induction ds generalizing es with
  | nil => exact (List.map_eq_nil_iff.1 h.symm).symm
  | cons d ds ih =>
    cases es with
    | nil => cases h
    | cons e es =>
      obtain ⟨hhead, htail⟩ := List.cons.inj h
      have hhead := digit36_inj d (hds d List.mem_cons_self) e (hes e List.mem_cons_self) hhead
      have htail := ih (fun d hd => hds d (List.mem_cons_of_mem _ hd))
        (fun e he => hes e (List.mem_cons_of_mem _ he)) htail
      rw [hhead, htail]

theorem natToString36_inj {m n : Nat} (h : natToString36 m = natToString36 n) : m = n := by
  obtain ⟨ds, hds, hlt, hm⟩ := natToString36_eq m
  obtain ⟨es, hes, hlt', hn⟩ := natToString36_eq n
  rw [hm, hn, map_digit36_inj hlt hlt' (hds.symm.trans (h.trans hes))]

/-- No natural number begins with a sign. -/
theorem natToString36_no_sign (m n : Nat) : js "-" ++ natToString36 m ≠ natToString36 n := by
  intro h
  obtain ⟨es, hes, hlt, -⟩ := natToString36_eq n
  rw [hes] at h
  cases es with
  | nil => cases h
  | cons e es => exact digit36_ne e (hlt e List.mem_cons_self) (List.cons.inj h).1.symm

theorem toString36_inj {m n : Int} (h : toString36 m = toString36 n) : m = n := by
  unfold toString36 at h
  by_cases hm : m < 0 <;> by_cases hn : n < 0
  · rw [if_pos hm, if_pos hn] at h
    have := natToString36_inj (List.append_cancel_left h)
    omega
  · rw [if_pos hm, if_neg hn] at h
    exact absurd h (natToString36_no_sign _ _)
  · rw [if_neg hm, if_pos hn] at h
    exact absurd h.symm (natToString36_no_sign _ _)
  · rw [if_neg hm, if_neg hn] at h
    have := natToString36_inj h
    omega

/-! ### The hash -/

/-- One step of the hash is a step in base 31, modulo 2^32. -/
theorem sha_step (n : Nat) (u : UInt16) :
    toInt32 (imul 31 (toInt32 n) + u.toNat) = toInt32 ((31 * n + u.toNat : Nat) : Int) := by
  rw [imul, toInt32, toInt32, toInt32, toInt32, Int.mul_bmod_bmod, Int.bmod_add_bmod]
  push_cast
  rfl

theorem shaValue_eq (str : JsString) : shaValue str = toInt32 (base31 str) := by
  have hfold : ∀ (str : JsString) (n : Nat),
      str.foldl (fun h u => toInt32 (imul 31 h + u.toNat)) (toInt32 n) =
        toInt32 (str.foldl (fun n u => 31 * n + u.toNat) n : Nat) := by
    intro str
    induction str with
    | nil =>
      intro n
      rw [List.foldl_nil, List.foldl_nil]
    | cons u str ih =>
      intro n
      rw [List.foldl_cons, List.foldl_cons, sha_step]
      exact ih _
  exact hfold str 0

theorem toInt32_eq_iff {m n : Nat} : toInt32 m = toInt32 n ↔ m ≡ n [MOD 2 ^ 32] := by
  rw [Nat.ModEq.comm, Nat.modEq_iff_dvd, Int.dvd_iff_bmod_eq_zero, ← Int.bmod_eq_bmod_iff_bmod_sub_eq_zero]
  rfl

/-- Sources share an entry exactly if they are congruent in base 31. -/
theorem sha_eq_iff : sha s = sha t ↔ base31 s ≡ base31 t [MOD 2 ^ 32] := by
  rw [← toInt32_eq_iff, ← shaValue_eq, ← shaValue_eq]
  exact ⟨toString36_inj, congrArg toString36⟩

/-! ### The caches -/

theorem compiledTemplates_eq (compile : JsString → δ) (templateCache : List (JsString × δ))
    (sources : List JsString) :
    compiledTemplates compile templateCache sources = Memo.fetchAll sha compile id templateCache sources := by
  have hfetch : ∀ cache source,
    getCompiledTemplate compile cache source = Memo.fetch sha compile id cache source := by
    intro cache source
    simp only [getCompiledTemplate, Memo.fetch]
    cases cache.lookup (sha source) <;> rfl
  induction sources generalizing templateCache with
  | nil => rfl
  | cons source sources ih => rw [compiledTemplates, Memo.fetchAll, hfetch, ih]

/-- Each render uses its own template in exactly the sequences of which no two sources are congruent in
base 31 modulo 2^32. -/
theorem own_templates_iff (compile : JsString → δ) (sources : List JsString) :
    OwnTemplates compile sources ↔
      ∀ s ∈ sources, ∀ t ∈ sources, s ≠ t → ¬base31 s ≡ base31 t [MOD 2 ^ 32] := by
  constructor
  · intro h s hs t ht hne hcongr
    exact h.apart s hs t ht hne (sha_eq_iff.2 hcongr)
  · intro h
    refine ⟨?_, fun s hs t ht hne hsha => h s hs t ht hne (sha_eq_iff.1 hsha)⟩
    rw [compiledTemplates_eq]
    refine Memo.fetchAll_eq_map (fun _ => List.Subset.refl _) fun s hs t ht hsha => ?_
    by_cases hst : s = t
    · rw [hst]
    · exact absurd (sha_eq_iff.1 hsha) (h s hs t ht hst)

/-- The template of one protocol is rendered for another. -/
theorem shared_entry :
    ¬OwnTemplates (fun source => source) [js "<p>Aa</p>", js "<p>BB</p>"] := by
  intro h
  exact h.apart _ List.mem_cons_self _ (List.mem_cons_of_mem _ List.mem_cons_self) (by decide +kernel)
    (by decide +kernel)

/-! ### MJML -/

/-- The MJML compiler computes the same number in another way. -/
theorem hashValue_eq (source : JsString) : hashValue source = shaValue source := by
  have hstep : (fun (hash : Int) (u : UInt16) => toInt32 (shiftLeft5 hash - hash + u.toNat)) =
      fun h u => toInt32 (imul 31 h + u.toNat) := by
    funext h u
    have hsub : shiftLeft5 h - h + u.toNat = toInt32 (h * 2 ^ 5) + (u.toNat - h) := by
      rw [shiftLeft5]
      ring
    have hmul : (h * 2 ^ 5 + (u.toNat - h) : Int) = 31 * h + u.toNat := by ring
    rw [hsub, toInt32, toInt32, toInt32, imul, toInt32, Int.bmod_add_bmod, Int.bmod_add_bmod, hmul]
  rw [hashValue, shaValue, hstep]

/-- Its hash also forgets the sign. -/
theorem hashSource_eq_iff : hashSource s = hashSource t ↔ (shaValue s).natAbs = (shaValue t).natAbs := by
  rw [hashSource, hashSource, hashValue_eq, hashValue_eq]
  constructor
  · intro h
    exact Int.natCast_inj.1 (toString36_inj h)
  · intro h
    rw [h]

/-- The MJML compiler uses the template of each source, whatever it evicts, where no two different sources
have one hash up to sign. -/
theorem compiledMjml_own {compile : JsString → δ} {sources : List JsString}
    (h : ∀ s ∈ sources, ∀ t ∈ sources, s ≠ t → (shaValue s).natAbs ≠ (shaValue t).natAbs) :
    compiledMjml compile [] sources = sources.map compile := by
  have hfetch : ∀ (cache : List (JsString × δ)) source, getCompiledMjml compile cache source =
      Memo.fetch hashSource compile (fun c => if c.length ≥ maxCacheSize then c.tail else c) cache source := by
    intro cache source
    cases hlookup : cache.lookup (hashSource source) with
    | none => simp only [getCompiledMjml, Memo.fetch, hlookup]
    | some value => simp only [getCompiledMjml, Memo.fetch, hlookup]
  have hrun : ∀ cache : List (JsString × δ), compiledMjml compile cache sources =
      Memo.fetchAll hashSource compile (fun c => if c.length ≥ maxCacheSize then c.tail else c) cache sources := by
    clear h
    induction sources with
    | nil => exact fun _ => rfl
    | cons source sources ih => exact fun cache => by rw [compiledMjml, Memo.fetchAll, hfetch, ih]
  rw [hrun]
  refine Memo.fetchAll_eq_map (fun cache e he => ?_) fun s hs t ht hhash => ?_
  · by_cases hfull : cache.length ≥ maxCacheSize
    · rw [if_pos hfull] at he
      exact List.mem_of_mem_tail he
    · rwa [if_neg hfull] at he
  · by_cases hst : s = t
    · rw [hst]
    · exact absurd (hashSource_eq_iff.1 hhash) (h s hs t ht hst)

end HeraldGateway
