import HeraldGateway.Domains.Logos

/-!
# When logos are judged right

Names of tags and attributes stand in the document as they are spelled, so what is spelled as it is sought is
found. The search also finds the texts where they are no markup, and misses other spellings.
-/

namespace HeraldGateway

open Text

variable {doc : SvgDocument} {decode : JsString → JsString} {tag : Xml.Tag} {body : JsString}

/-! ### The search -/

theorem reported_nil {p : Prop} [Decidable p] {error : JsString} :
    (if p then [error] else []) = [] ↔ ¬ p := by
  split
  · next h => exact iff_of_false (List.cons_ne_nil _ _) (not_not_intro h)
  · next h => exact iff_of_true rfl h

/-- A small document is valid exactly if the root is found and none of the texts. -/
theorem valid_iff (doc : SvgDocument) :
    (validateLogo (.ok doc.text)).valid = true ↔
      includes (js "<svg")
      (toLowerCase doc.text) = true ∧ ∀ t ∈ soughtTexts, includes t doc.text = false := by
  have hvalid : (validateLogo (.ok doc.text)).valid = true ↔ logoErrors doc.text = [] := by
    unfold validateLogo
    rw [beq_iff_eq, List.length_eq_zero_iff]
  rw [hvalid, logoErrors, List.append_eq_nil_iff, List.append_eq_nil_iff, List.append_eq_nil_iff,
    List.append_eq_nil_iff, reported_nil, reported_nil, reported_nil, reported_nil, reported_nil, soughtTexts,
    List.forall_mem_cons, List.forall_mem_cons, List.forall_mem_cons, List.forall_mem_cons,
    List.forall_mem_singleton, Bool.not_eq_true', Bool.not_eq_false, Bool.or_eq_true, Bool.or_eq_true, not_or,
    not_or, Bool.not_eq_true, Bool.not_eq_true, Bool.not_eq_true, Bool.not_eq_true, Bool.not_eq_true]
  constructor
  · rintro ⟨⟨⟨⟨-, hroot⟩, hscript, hon⟩, hforeign⟩, himage, hlink⟩
    exact ⟨hroot, hscript, hon, hforeign, himage, hlink⟩
  · rintro ⟨hroot, hscript, hon, hforeign, himage, hlink⟩
    exact ⟨⟨⟨⟨Nat.not_lt.2 doc.small, hroot⟩, hscript, hon⟩, hforeign⟩, himage, hlink⟩

/-! ### Spellings -/

theorem includes_of_isPrefixOf {p n : JsString} (hp : p.isPrefixOf n = true) (h : 60 :: n <:+: body) :
    includes (60 :: p) body = true := by
  obtain ⟨rest, rfl⟩ := List.isPrefixOf_iff_prefix.1 hp
  exact includes_iff.2 (List.IsInfix.trans (List.prefix_append (60 :: p) rest).isInfix h)

theorem includes_of_includes {p n : JsString} (hp : includes p n = true) (h : n <:+: body) :
    includes p body = true := includes_iff.2 ((includes_iff.1 hp).trans h)

/-- Where a tag is spelled as it is sought, one of the texts stands in the document. -/
theorem sought_found (hmem : tag ∈ Xml.tags body) (hsought : isSought tag = true) :
    ∃ t ∈ soughtTexts, includes t body = true := by
  have hstands := Xml.stands_tags tag hmem
  rcases Bool.or_eq_true_iff.1 hsought with hname | hattr
  · obtain ⟨p, hp, hhead⟩ := List.any_eq_true.1 hname
    refine ⟨60 :: p, ?_, includes_of_isPrefixOf hhead hstands.name⟩
    simp only [List.mem_cons, List.not_mem_nil, or_false] at hp
    rcases hp with rfl | rfl | rfl <;> decide
  · obtain ⟨a, ha, hfound⟩ := List.any_eq_true.1 hattr
    rcases Bool.or_eq_true_iff.1 hfound with hon | hlink
    · exact ⟨js "on", by decide, includes_of_includes hon (hstands.attrs a ha)⟩
    · exact ⟨js "xlink:href", by decide, includes_of_includes hlink (hstands.attrs a ha)⟩

/-- A document with a tag that is spelled as it is sought is not valid. -/
theorem invalid_of_sought (hmem : tag ∈ Xml.tags doc.text) (hsought : isSought tag = true) :
    (validateLogo (.ok doc.text)).valid = false := by
  rw [Bool.eq_false_iff]
  intro hvalid
  obtain ⟨t, ht, hfound⟩ := sought_found hmem hsought
  rw [((valid_iff doc).1 hvalid).2 t ht] at hfound
  cases hfound

/-- A document that names its version. -/
def versioned : SvgDocument := ⟨js "<svg version=\"1.2\"></svg>", by decide, by decide⟩

/-- A document with a script in capitals. -/
def capitalScript : SvgDocument := ⟨js "<svg><SCRIPT></SCRIPT></svg>", by decide, by decide⟩

end HeraldGateway

