import HeraldGateway.Formatting.Links

/-!
# Escapes and back

Escaping replaces the signs of markup all at once, since no reference has one of the signs that are left. Going back,
the ampersands come first, and with them come the references that the text had itself: these are taken for signs
too. So a text comes back exactly if it has none of the other four references.
-/

namespace HeraldGateway.LinkParser

open Text Filling

variable {s t p : JsString} {u : UInt16}

/-- Signs and what stands for them. -/
abbrev Escapes : Type := List (UInt16 × JsString)

/-- What stands for a sign. -/
def escapeUnit (es : Escapes) (u : UInt16) : JsString := (es.lookup u).getD [u]

/-- A text with its signs replaced. -/
def escapeUnits (es : Escapes) (s : JsString) : JsString := s.flatMap (escapeUnit es)

/-- References that begin with `&`, which is in none of them again, and have none of the signs. -/
structure References (es : Escapes) : Prop where
  head : ∀ e ∈ es, ∃ name, e.2 = 38 :: name ∧ 38 ∉ name
  plain : ∀ e ∈ es, ∀ u ∈ e.2, es.lookup u = none

theorem escapeUnits_cons (es : Escapes) (u : UInt16) (s : JsString) :
    escapeUnits es (u :: s) = escapeUnit es u ++ escapeUnits es s := List.flatMap_cons

theorem escapeUnit_of_none {es : Escapes} (h : es.lookup u = none) : escapeUnit es u = [u] := by
  rw [escapeUnit, h]
  rfl

theorem escapeUnit_of_some {es : Escapes} {reference : JsString} (h : es.lookup u = some reference) :
    escapeUnit es u = reference ∧ (u, reference) ∈ es := by
  refine ⟨by rw [escapeUnit, h]; rfl, ?_⟩
  rw [List.lookup_eq_some_iff] at h
  obtain ⟨l, l', rfl, -⟩ := h
  exact List.mem_append_right l (List.mem_cons_self ..)

/-- A text without signs is its own escape. -/
theorem escapeUnits_append_plain {es : Escapes} (h : ∀ u ∈ p, es.lookup u = none) (s : JsString) :
    escapeUnits es (p ++ s) = p ++ escapeUnits es s := by
  induction p with
  | nil => rfl
  | cons u p ih =>
    obtain ⟨hu, hp⟩ := List.forall_mem_cons.1 h
    rw [List.cons_append, escapeUnits_cons, escapeUnit_of_none hu, ih hp]
    rfl

/-- What an escaped text begins with up to an ampersand, the text begins with. -/
theorem prefix_of_escapeUnits {es : Escapes} (hes : References es) (hp : 38 ∉ p) (h : p <+: escapeUnits es s) :
    p <+: s := by
  induction p generalizing s with
  | nil => exact List.nil_prefix
  | cons u p ih =>
    obtain ⟨hu, hp⟩ := List.ne_and_not_mem_of_not_mem_cons hp
    cases s with
    | nil => exact absurd (List.prefix_nil.1 h) (List.cons_ne_nil u p)
    | cons v s =>
      rw [escapeUnits_cons] at h
      cases hv : es.lookup v with
      | none =>
        rw [escapeUnit_of_none hv, List.singleton_append, List.cons_prefix_cons] at h
        exact List.cons_prefix_cons.2 ⟨h.1, ih hp h.2⟩
      | some reference =>
        obtain ⟨heq, hmem⟩ := escapeUnit_of_some hv
        obtain ⟨name, hname, -⟩ := hes.head _ hmem
        rw [heq, show reference = 38 :: name from hname, List.cons_append, List.cons_prefix_cons] at h
        exact absurd h.1.symm hu

/-- Within a reference no other one begins. -/
theorem fill_reference {reference : JsString} {name name' : JsString} {value : JsString}
    (hname : reference = 38 :: name) (hin : 38 ∉ name) (hother : ¬(38 :: name') <+: reference ++ s) :
    fill [(38 :: name', value)] (reference ++ s) = reference ++ fill [(38 :: name', value)] s := by
  refine fill_append fun v w hvw hw e he hpre => ?_
  rw [List.mem_singleton.1 he] at hpre
  cases v with
  | nil =>
    rw [List.nil_append] at hvw
    exact hother (hvw ▸ hpre)
  | cons a v =>
    cases w with
    | nil => exact hw rfl
    | cons b w =>
      rw [hname, List.cons_append] at hvw
      have hb : b ∈ name := (List.cons.inj hvw).2 ▸ List.mem_append_right v (List.mem_cons_self ..)
      rw [List.cons_append, List.cons_prefix_cons] at hpre
      exact hin (hpre.1 ▸ hb)

/-- A reference at the beginning is filled in. -/
theorem fill_first {reference value : JsString} (hne : reference ≠ []) (s : JsString) :
    fill [(reference, value)] (reference ++ s) = value ++ fill [(reference, value)] s :=
  fill_word (e := (reference, value)) hne (entryAt?_singleton (List.prefix_append ..))

/-- Putting a sign back for its reference takes it from the escapes, and does the same to the text. -/
theorem fill_escapeUnits {es : Escapes} {sign : UInt16} {reference : JsString}
    (hes : References ((sign, reference) :: es)) (hsign : es.lookup sign = none)
    (hother : ∀ e ∈ es, ∀ s, ¬reference <+: e.2 ++ s) (s : JsString) :
    fill [(reference, [sign])] (escapeUnits ((sign, reference) :: es) s) =
      escapeUnits es (fill [(reference, [sign])] s) := by
  obtain ⟨name, hname, hin⟩ := hes.head _ (List.mem_cons_self ..)
  have hname : reference = 38 :: name := hname
  have hne : reference ≠ [] := hname ▸ List.cons_ne_nil 38 name
  have hplain : ∀ u ∈ reference, ((sign, reference) :: es).lookup u = none := hes.plain _ (List.mem_cons_self ..)
  have hwords : ∀ e ∈ [(reference, [sign])], e.1 ≠ [] := fun e he => List.mem_singleton.1 he ▸ hne
  induction s using words_induction hwords with
  | nil => rfl
  | word e he t ih =>
    obtain rfl := List.mem_singleton.1 he
    show fill _ (escapeUnits _ (reference ++ t)) = escapeUnits es (fill _ (reference ++ t))
    rw [escapeUnits_append_plain hplain, fill_first hne, fill_first hne, ih, List.singleton_append,
      List.singleton_append, escapeUnits_cons, escapeUnit_of_none hsign, List.singleton_append]
  | letter a t hno ih =>
    have hno : ¬reference <+: a :: t := hno _ (List.mem_singleton_self _)
    rw [fill_cons fun e he => List.mem_singleton.1 he ▸ hno, escapeUnits_cons, escapeUnits_cons, ← ih]
    by_cases ha : a = sign
    · subst ha
      have hlookup : ((a, reference) :: es).lookup a = some reference := by
        rw [List.lookup_cons, beq_self_eq_true]
      rw [(escapeUnit_of_some hlookup).1, fill_first hne, escapeUnit_of_none hsign]
    · have hlookup : ((sign, reference) :: es).lookup a = es.lookup a := by
        rw [List.lookup_cons, beq_eq_false_iff_ne.2 ha]
      cases hes' : es.lookup a with
      | none =>
        rw [escapeUnit_of_none hes', escapeUnit_of_none (hlookup.trans hes'), List.singleton_append,
          List.singleton_append, fill_cons fun e he hpre => ?_]
        -- A reference that begins here would begin here in the text.
        rw [List.mem_singleton.1 he] at hpre
        have hpre : 38 :: name <+: a :: escapeUnits ((sign, reference) :: es) t := hname ▸ hpre
        obtain ⟨ha, hname'⟩ := List.cons_prefix_cons.1 hpre
        exact hno (hname ▸ List.cons_prefix_cons.2 ⟨ha, prefix_of_escapeUnits hes hin hname'⟩)
      | some other =>
        obtain ⟨heq, hmem⟩ := escapeUnit_of_some hes'
        obtain ⟨name', hname', hin'⟩ := hes.head _ (List.mem_cons_of_mem _ hmem)
        have hothers := hother _ hmem
        rw [heq, (escapeUnit_of_some (hlookup.trans hes')).1, hname]
        exact fill_reference hname' hin' (hname ▸ hothers _)

/-- What is filled in for each reference. -/
def signs (es : Escapes) : List (JsString × JsString) := es.map fun e => (e.2, [e.1])

/-- Putting every sign back does to an escaped text what it does to the text. -/
theorem fillEach_escapeUnits {es : Escapes} (hes : References es)
    (hapart : es.Pairwise fun e e' => e.1 ≠ e'.1 ∧ ∀ s, ¬e.2 <+: e'.2 ++ s) (s : JsString) :
    fillEach (signs es) (escapeUnits es s) = fillEach (signs es) s := by
  induction es generalizing s with
  | nil => exact congrArg _ (List.flatMap_singleton' s)
  | cons e es ih =>
    obtain ⟨hfirst, hrest⟩ := List.pairwise_cons.1 hapart
    have hsign : es.lookup e.1 = none := by
      rw [List.lookup_eq_none_iff]
      exact fun e' he' => bne_iff_ne.2 (hfirst e' he').1
    have hes' : References es := by
      refine ⟨fun e' he' => hes.head e' (List.mem_cons_of_mem e he'), fun e' he' u hu => ?_⟩
      have hnone := hes.plain e' (List.mem_cons_of_mem e he') u hu
      rw [List.lookup_cons] at hnone
      split at hnone
      · cases hnone
      · exact hnone
    have hfill := fill_escapeUnits hes hsign (fun e' he' => (hfirst e' he').2) s
    show fillEach (signs es) (fill [(e.2, [e.1])] (escapeUnits (e :: es) s)) = _
    rw [hfill, ih hes' hrest]
    rfl

/-- A sign that is replaced last, and is in every reference, comes back first. -/
theorem fill_ampersand {es : Escapes} {reference : JsString} {name : JsString} (hname : reference = 38 :: name)
    (hes : References es) (hplain : es.lookup 38 = none) (hother : ∀ e ∈ es, ∀ s, ¬reference <+: e.2 ++ s)
    (s : JsString) : fill [(reference, [38])] (escapeUnits ((38, reference) :: es) s) = escapeUnits es s := by
  have hne : reference ≠ [] := hname ▸ List.cons_ne_nil 38 name
  induction s with
  | nil => rfl
  | cons a s ih =>
    rw [escapeUnits_cons, escapeUnits_cons]
    by_cases ha : a = 38
    · subst ha
      have hlookup : ((38, reference) :: es).lookup 38 = some reference := by
        rw [List.lookup_cons, beq_self_eq_true]
      rw [(escapeUnit_of_some hlookup).1, escapeUnit_of_none hplain, ← ih, fill_first hne]
    · have hlookup : ((38, reference) :: es).lookup a = es.lookup a := by
        rw [List.lookup_cons, beq_eq_false_iff_ne.2 ha]
      rw [← ih]
      cases hes' : es.lookup a with
      | none =>
        rw [escapeUnit_of_none hes', escapeUnit_of_none (hlookup.trans hes'), List.singleton_append,
          List.singleton_append, fill_cons fun e he hpre => ?_]
        rw [List.mem_singleton.1 he, hname, List.cons_prefix_cons] at hpre
        exact ha hpre.1.symm
      | some other =>
        obtain ⟨heq, hmem⟩ := escapeUnit_of_some hes'
        obtain ⟨name', hname', hin'⟩ := hes.head _ hmem
        have hothers := hother _ hmem
        rw [heq, (escapeUnit_of_some (hlookup.trans hes')).1, hname]
        exact fill_reference hname' hin' (hname ▸ hothers _)

/-! ### The program's escapes -/

/-- The references that going back takes for signs wherever they are from. -/
def ESCAPES : Escapes :=
  [(60, js "&lt;"), (62, js "&gt;"), (34, js "&quot;"), (39, js "&#039;")]

/-- A sign is replaced in an escaped text, which has it only where the text does. -/
theorem replaceEvery_sign {reference : JsString} (hplain : hasPattern reference = false) (s : JsString) :
    replaceEvery [u] reference s = s.flatMap fun a => if a = u then reference else [a] := by
  rw [replaceEvery_eq_fill hplain]
  induction s with
  | nil => rfl
  | cons a s ih =>
    rw [List.flatMap_cons, ← ih]
    by_cases ha : a = u
    · rw [if_pos ha, ha]
      exact fill_first (List.cons_ne_nil u []) s
    · rw [if_neg ha, fill_cons fun e he hpre => ?_]
      · rfl
      · rw [List.mem_singleton.1 he, List.cons_prefix_cons] at hpre
        exact ha hpre.1.symm

/-- The signs are replaced all at once. -/
theorem escapeHtml_eq (s : JsString) : escapeHtml s = escapeUnits ((38, js "&amp;") :: ESCAPES) s := by
  have hplain : ∀ reference ∈ [js "&amp;", js "&lt;", js "&gt;", js "&quot;", js "&#039;"],
      hasPattern reference = false := by
    decide
  unfold escapeHtml
  show replaceEvery [39] _ (replaceEvery [34] _ (replaceEvery [62] _ (replaceEvery [60] _
    (replaceEvery [38] _ s)))) = s.flatMap _
  rw [replaceEvery_sign (hplain _ (by simp)), replaceEvery_sign (hplain _ (by simp)),
    replaceEvery_sign (hplain _ (by simp)), replaceEvery_sign (hplain _ (by simp)),
    replaceEvery_sign (hplain _ (by simp)), List.flatMap_assoc, List.flatMap_assoc, List.flatMap_assoc,
    List.flatMap_assoc]
  refine List.flatMap_congr fun a _ => ?_
  by_cases hsign : a ∈ [38, 60, 62, 34, 39]
  · have hall : ([38, 60, 62, 34, 39] : List UInt16).all (fun a => decide (((((
        (if a = 38 then js "&amp;" else [a]).flatMap fun a => if a = 60 then js "&lt;" else [a]).flatMap
          fun a => if a = 62 then js "&gt;" else [a]).flatMap fun a => if a = 34 then js "&quot;" else [a]).flatMap
            fun a => if a = 39 then js "&#039;" else [a]) = escapeUnit ((38, js "&amp;") :: ESCAPES) a)) = true := by
      decide
    simpa only [List.flatMap_assoc] using of_decide_eq_true (List.all_eq_true.1 hall a hsign)
  · simp only [List.mem_cons, List.not_mem_nil, or_false, not_or] at hsign
    obtain ⟨h38, h60, h62, h34, h39⟩ := hsign
    have hlookup : ((38, js "&amp;") :: ESCAPES).lookup a = none := by
      simp [ESCAPES, List.lookup_eq_none_iff, h38, h60, h62, h34, h39]
    rw [escapeUnit_of_none hlookup]
    simp [h38, h60, h62, h34, h39]

theorem unescapeHtml_eq (s : JsString) :
    unescapeHtml s = fillEach (signs ESCAPES) (fill [(js "&amp;", [38])] s) := by
  unfold unescapeHtml
  show replaceEvery _ [39] (replaceEvery _ [34] (replaceEvery _ [62] (replaceEvery _ [60]
    (replaceEvery _ [38] s)))) = _
  rw [replaceEvery_eq_fill rfl, replaceEvery_eq_fill rfl, replaceEvery_eq_fill rfl, replaceEvery_eq_fill rfl,
    replaceEvery_eq_fill rfl]
  rfl

/-- No reference is another one's beginning. -/
theorem not_prefix_reference {reference other : JsString} (hend : ∃ name, reference = name ++ [59] ∧ 59 ∉ name)
    (hother : ∃ name, other = name ++ [59] ∧ 59 ∉ name) (hne : reference ≠ other) (s : JsString) :
    ¬reference <+: other ++ s := by
  obtain ⟨name, rfl, hin⟩ := hend
  obtain ⟨name', rfl, hin'⟩ := hother
  rintro ⟨t, ht⟩
  have hsplit : name ++ 59 :: t = name' ++ 59 :: s := by simpa using ht
  have hname : name = name' := by
    have htake := congrArg (List.takeWhile (· != 59)) hsplit
    rwa [takeWhile_stop hin, takeWhile_stop hin'] at htake
  exact hne (by rw [hname])

theorem references_escapes : References ESCAPES where
  head := by
    intro e he
    have hall : ESCAPES.all (fun e => e.2.head? == some 38 && !e.2.tail.contains 38) = true := by decide
    have hone := Bool.and_eq_true_iff.1 (List.all_eq_true.1 hall e he)
    have hhead := eq_of_beq hone.1
    refine ⟨e.2.tail, (List.cons_head?_tail hhead).symm, fun hin => ?_⟩
    rw [List.contains_iff_mem.2 hin] at hone
    exact absurd hone.2 Bool.false_ne_true
  plain := by
    intro e he u hu
    have hall : ESCAPES.all (fun e => e.2.all fun u => (ESCAPES.lookup u).isNone) = true := by decide
    exact Option.isNone_iff_eq_none.1 (List.all_eq_true.1 (List.all_eq_true.1 hall e he) u hu)

/-- Every reference ends where it has its only semicolon. -/
theorem reference_ends {reference : JsString} (h : reference ∈ js "&amp;" :: ESCAPES.map Prod.snd) :
    ∃ name, reference = name ++ [59] ∧ 59 ∉ name := by
  have hall : (js "&amp;" :: ESCAPES.map Prod.snd).all
      (fun r => r.dropLast ++ [59] == r && !r.dropLast.contains 59) = true := by
    decide
  have hone := Bool.and_eq_true_iff.1 (List.all_eq_true.1 hall reference h)
  refine ⟨reference.dropLast, (eq_of_beq hone.1).symm, fun hin => ?_⟩
  rw [List.contains_iff_mem.2 hin] at hone
  exact absurd hone.2 Bool.false_ne_true

/-- What going back makes of an escaped text. -/
theorem unescape_escape (t : JsString) : unescapeHtml (escapeHtml t) = fillEach (signs ESCAPES) t := by
  have hmem : ∀ e ∈ ESCAPES, e.2 ∈ js "&amp;" :: ESCAPES.map Prod.snd := fun e he =>
    List.mem_cons_of_mem _ (List.mem_map_of_mem he)
  have hdistinct : ESCAPES.Pairwise fun e e' => e.1 ≠ e'.1 ∧ e.2 ≠ e'.2 := by decide
  have hamp : ∀ e ∈ ESCAPES, js "&amp;" ≠ e.2 := by decide
  have hname : js "&amp;" = 38 :: js "amp;" := rfl
  rw [escapeHtml_eq, unescapeHtml_eq, fill_ampersand hname references_escapes (by decide) fun e he =>
    not_prefix_reference (reference_ends (List.mem_cons_self ..)) (reference_ends (hmem e he)) (hamp e he)]
  refine fillEach_escapeUnits references_escapes (hdistinct.imp_of_mem fun {e e'} he he' h => ⟨h.1, ?_⟩) t
  exact not_prefix_reference (reference_ends (hmem e he)) (reference_ends (hmem e' he')) h.2

/-- A text comes back from its escape exactly if it has none of the references for `<`, `>` and the quotes. -/
theorem unescape_escape_iff (t : JsString) :
    unescapeHtml (escapeHtml t) = t ↔ ∀ reference ∈ lateReferences, includes reference t = false := by
  rw [unescape_escape, fillEach_eq_self_iff (by decide)]
  have hnot : ∀ reference : JsString, includes reference t = false ↔ ¬reference <:+: t := fun reference => by
    rw [← includes_iff, Bool.not_eq_true]
  constructor
  · intro h reference hreference
    have hall : ∀ reference ∈ lateReferences, ∃ e ∈ signs ESCAPES, e.1 = reference := by decide
    obtain ⟨e, he, rfl⟩ := hall reference hreference
    exact (hnot e.1).2 (h e he)
  · intro h e he
    have hall : ∀ e ∈ signs ESCAPES, e.1 ∈ lateReferences := by decide
    exact (hnot e.1).1 (h e.1 (hall e he))

/-- A text that shows a reference loses it. -/
theorem reference_lost : unescapeHtml (escapeHtml (js "write &lt; here")) ≠ js "write &lt; here" := by
  decide +kernel

end HeraldGateway.LinkParser
