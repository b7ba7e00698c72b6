import HeraldGateway.Text.Decoding
import HeraldGateway.Text.Json
import Mathlib.Data.List.Infix

/-!
# Braces of JSON

The grammar of JSON, and a scan that counts the braces outside of string literals. A text of JSON closes what
it opens, and an object is open from its first brace to its last. The scan finds the same in the bytes of a
text as in the text, wherever the bytes are cut.
-/

namespace Text

/-! ## The grammar -/

namespace Json

/-- White space between tokens. -/
def Blank (s : List UInt16) : Prop := ∀ u ∈ s, u = 32 ∨ u = 9 ∨ u = 10 ∨ u = 13

/-- One digit or more. -/
def Digits (s : List UInt16) : Prop := s ≠ [] ∧ ∀ u ∈ s, isDigit u = true

/-- The part of a numeral behind its point. -/
inductive Fraction : List UInt16 → Prop where
  | absent : Fraction []
  | present {s : List UInt16} (digits : Digits s) : Fraction (46 :: s)

/-- The power of ten of a numeral. -/
inductive Exponent : List UInt16 → Prop where
  | absent : Exponent []
  | present {letter : UInt16} {sign s : List UInt16} (letter_ok : letter = 101 ∨ letter = 69)
      (sign_ok : sign = [] ∨ sign = [43] ∨ sign = [45]) (digits : Digits s) : Exponent (letter :: (sign ++ s))

/-- A numeral. -/
inductive Numeral : List UInt16 → Prop where
  | intro {sign whole fraction exponent : List UInt16} (sign_ok : sign = [] ∨ sign = [45])
      (whole_ok : Digits whole) (leading : whole.head? = some 48 → whole = [48])
      (fraction_ok : Fraction fraction) (exponent_ok : Exponent exponent) :
      Numeral (sign ++ whole ++ fraction ++ exponent)

/-- What stands between the quotation marks of a string literal. -/
inductive Characters : List UInt16 → Prop where
  | nil : Characters []
  | plain {u : UInt16} {s : List UInt16} (control : 32 ≤ u) (mark : u ≠ 34) (backslash : u ≠ 92)
      (rest : Characters s) : Characters (u :: s)
  | escape {u : UInt16} {s : List UInt16} (letter : u ∈ ascii "\"\\/bfnrt") (rest : Characters s) :
      Characters (92 :: u :: s)
  | unicode {a b c d : UInt16} {s : List UInt16} (digits : (codeUnit? a b c d).isSome) (rest : Characters s) :
      Characters (92 :: 117 :: a :: b :: c :: d :: s)

/-- A string literal. -/
inductive Literal : List UInt16 → Prop where
  | intro {s : List UInt16} (characters : Characters s) : Literal (34 :: (s ++ [34]))

/-- The symbols of the grammar. -/
inductive Symbol where
  | value
  /-- A value between white space, as a whole text of JSON is. -/
  | element
  | elements
  | member
  | members

/-- What the grammar derives from a symbol. -/
inductive Derives : Symbol → List UInt16 → Prop where
  | word {s : List UInt16} (known : s = ascii "null" ∨ s = ascii "true" ∨ s = ascii "false") :
      Derives .value s
  | number {s : List UInt16} (numeral : Numeral s) : Derives .value s
  | string {s : List UInt16} (literal : Literal s) : Derives .value s
  | emptyArray {b : List UInt16} (blank : Blank b) : Derives .value (91 :: (b ++ [93]))
  | array {s : List UInt16} (inner : Derives .elements s) : Derives .value (91 :: (s ++ [93]))
  | emptyObject {b : List UInt16} (blank : Blank b) : Derives .value (123 :: (b ++ [125]))
  | object {s : List UInt16} (inner : Derives .members s) : Derives .value (123 :: (s ++ [125]))
  | element {b s b' : List UInt16} (before : Blank b) (value : Derives .value s) (after : Blank b') :
      Derives .element (b ++ s ++ b')
  | lastElement {s : List UInt16} (element : Derives .element s) : Derives .elements s
  | nextElement {s t : List UInt16} (element : Derives .element s) (rest : Derives .elements t) :
      Derives .elements (s ++ 44 :: t)
  | member {b key b' t : List UInt16} (before : Blank b) (literal : Literal key) (after : Blank b')
      (value : Derives .element t) : Derives .member (b ++ key ++ b' ++ 58 :: t)
  | lastMember {s : List UInt16} (member : Derives .member s) : Derives .members s
  | nextMember {s t : List UInt16} (member : Derives .member s) (rest : Derives .members t) :
      Derives .members (s ++ 44 :: t)

/-- A text of JSON. -/
def IsText (s : List UInt16) : Prop := Derives .element s

end Json

/-! ## The scan -/

namespace Braces

/-- Where a scan stands towards string literals. -/
inductive Mode where
  | plain
  | quoted
  /-- Behind a backslash. -/
  | escaped
  deriving DecidableEq, Repr

/-- A scan: how many braces are open, and whether it is within a literal. -/
@[ext] structure Scan where
  depth : Nat
  mode : Mode
  deriving DecidableEq, Repr

/-- A scan that is in no literal. -/
def Scan.at (d : Nat) : Scan := ⟨d, .plain⟩

/-- Scan one number of a byte or a code unit. -/
def Scan.step (σ : Scan) (n : Nat) : Scan :=
  match σ.mode with
  | .escaped => { σ with mode := .quoted }
  | .quoted =>
    if n = 34 then { σ with mode := .plain } else if n = 92 then { σ with mode := .escaped } else σ
  | .plain =>
    if n = 34 then { σ with mode := .quoted }
    else if n = 123 then { σ with depth := σ.depth + 1 }
    else if n = 125 then { σ with depth := σ.depth - 1 }
    else σ

/-- Scan numbers. -/
def Scan.run (σ : Scan) (ns : List Nat) : Scan := ns.foldl Scan.step σ

/-- Scan bytes. -/
def Scan.bytes (σ : Scan) (bs : List UInt8) : Scan := σ.run (bs.map (·.toNat))

/-- Scan text. -/
def Scan.text (σ : Scan) (s : List UInt16) : Scan := σ.run (s.map (·.toNat))

variable {σ : Scan} {s t : List UInt16} {as bs : List UInt8}

@[simp] theorem text_nil (σ : Scan) : σ.text [] = σ := rfl

@[simp] theorem text_cons (σ : Scan) (u : UInt16) (s : List UInt16) :
    σ.text (u :: s) = (σ.step u.toNat).text s := rfl

@[simp] theorem bytes_cons (σ : Scan) (b : UInt8) (bs : List UInt8) :
    σ.bytes (b :: bs) = (σ.step b.toNat).bytes bs := rfl

theorem text_append (σ : Scan) (s t : List UInt16) : σ.text (s ++ t) = (σ.text s).text t := by
  unfold Scan.text Scan.run
  rw [List.map_append, List.foldl_append]

theorem bytes_append (σ : Scan) (as bs : List UInt8) : σ.bytes (as ++ bs) = (σ.bytes as).bytes bs := by
  unfold Scan.bytes Scan.run
  rw [List.map_append, List.foldl_append]

/-! ### What a text of JSON leaves open -/

/-- A scan never gets below a depth. -/
def Stays (d : Nat) : Scan → List UInt16 → Prop
  | σ, [] => d ≤ σ.depth
  | σ, u :: s => d ≤ σ.depth ∧ Stays d (σ.step u.toNat) s

@[simp] theorem stays_cons {d : Nat} {u : UInt16} :
    Stays d σ (u :: s) ↔ d ≤ σ.depth ∧ Stays d (σ.step u.toNat) s := Iff.rfl

theorem Stays.start {d : Nat} (h : Stays d σ s) : d ≤ σ.depth := by
  cases s with
  | nil => exact h
  | cons u s => exact h.1

theorem Stays.mono {d d' : Nat} (hd : d' ≤ d) (h : Stays d σ s) : Stays d' σ s := by
  induction s generalizing σ with
  | nil => exact hd.trans h
  | cons u s ih => exact ⟨hd.trans h.1, ih h.2⟩

theorem stays_append {d : Nat} : Stays d σ (s ++ t) ↔ Stays d σ s ∧ Stays d (σ.text s) t := by
  induction s generalizing σ with
  | nil => exact ⟨fun h => ⟨h.start, h⟩, fun h => h.2⟩
  | cons u s ih => rw [List.cons_append, stays_cons, stays_cons, ih, and_assoc, text_cons]

/-- It is not below the depth behind any part it has read. -/
theorem Stays.depth_le {d : Nat} (h : Stays d σ (s ++ t)) : d ≤ (σ.text s).depth := (stays_append.1 h).2.start

/-- A text closes what it opens from where a scan stands, and nothing else. -/
structure Keeps (σ : Scan) (s : List UInt16) : Prop where
  ends : σ.text s = σ
  stays : Stays σ.depth σ s

theorem Keeps.append (hs : Keeps σ s) (ht : Keeps σ t) : Keeps σ (s ++ t) where
  ends := by rw [text_append, hs.ends, ht.ends]
  stays := stays_append.2 ⟨hs.stays, by rw [hs.ends]; exact ht.stays⟩

theorem keeps_of_steps (h : ∀ u ∈ s, σ.step u.toNat = σ) : Keeps σ s := by
  induction s with
  | nil => exact ⟨rfl, le_refl _⟩
  | cons u s ih =>
    have hstep := h u (List.mem_cons_self ..)
    obtain ⟨hends, hstays⟩ := ih fun v hv => h v (List.mem_cons_of_mem u hv)
    refine ⟨?_, le_refl _, ?_⟩
    · rw [text_cons, hstep, hends]
    · rw [hstep]
      exact hstays

theorem toNat_ne {u v : UInt16} (h : u ≠ v) : u.toNat ≠ v.toNat := fun he => h (UInt16.toNat_inj.1 he)

/-- A text that closes what it opens outside of literals. -/
def Closed (s : List UInt16) : Prop := ∀ d, Keeps (.at d) s

/-- A code unit that means nothing to a scan outside of literals. -/
def Inert (u : UInt16) : Prop := u ≠ 34 ∧ u ≠ 123 ∧ u ≠ 125

instance (u : UInt16) : Decidable (Inert u) := inferInstanceAs (Decidable (_ ∧ _ ∧ _))

theorem closed_inert (h : ∀ u ∈ s, Inert u) : Closed s := by
  refine fun d => keeps_of_steps fun u hu => ?_
  obtain ⟨hmark, hopen, hclose⟩ := h u hu
  exact (if_neg (toNat_ne hmark)).trans ((if_neg (toNat_ne hopen)).trans (if_neg (toNat_ne hclose)))

theorem Closed.append (hs : Closed s) (ht : Closed t) : Closed (s ++ t) := fun d => (hs d).append (ht d)

theorem closed_cons {u : UInt16} (hu : Inert u) (hs : Closed s) : Closed (u :: s) :=
  Closed.append (s := [u]) (closed_inert fun _ hv => List.mem_singleton.1 hv ▸ hu) hs

/-- A code unit that neither ends a literal nor begins an escape keeps a scan within it. -/
theorem step_quoted {u : UInt16} (hmark : u ≠ 34) (hback : u ≠ 92) (d : Nat) :
    Scan.step ⟨d, .quoted⟩ u.toNat = ⟨d, .quoted⟩ := (if_neg (toNat_ne hmark)).trans (if_neg (toNat_ne hback))

theorem step_hex {u : UInt16} (h : (Json.hexValue? u).isSome) (d : Nat) :
    Scan.step ⟨d, .quoted⟩ u.toNat = ⟨d, .quoted⟩ := by
  refine step_quoted (fun he => ?_) (fun he => ?_) d
  · rw [he] at h
    exact absurd h (by decide)
  · rw [he] at h
    exact absurd h (by decide)

theorem codeUnit?_digits {x y z w : UInt16} (h : (Json.codeUnit? x y z w).isSome) :
    ∀ u ∈ [x, y, z, w], (Json.hexValue? u).isSome := by
  unfold Json.codeUnit? at h
  cases hx : Json.hexValue? x <;> cases hy : Json.hexValue? y <;> cases hz : Json.hexValue? z <;>
    cases hw : Json.hexValue? w <;> simp_all

/-- An escape of one letter, whatever comes behind the backslash. -/
theorem keeps_escape (u : UInt16) (d : Nat) : Keeps ⟨d, .quoted⟩ [92, u] :=
  ⟨rfl, le_refl d, le_refl d, le_refl d⟩

/-- The characters of a literal keep a scan within it. -/
theorem keeps_characters (h : Json.Characters s) (d : Nat) : Keeps ⟨d, .quoted⟩ s := by
  induction h with
  | nil => exact ⟨rfl, le_refl d⟩
  | @plain u s hcontrol hmark hback hrest ih =>
    refine Keeps.append (s := [u]) (keeps_of_steps fun v hv => ?_) ih
    rw [List.mem_singleton.1 hv]
    exact step_quoted hmark hback d
  | @escape u s hletter hrest ih => exact (keeps_escape u d).append ih
  | @unicode x y z w s hdigits hrest ih =>
    have hhex : Keeps ⟨d, .quoted⟩ [x, y, z, w] :=
      keeps_of_steps fun u hu => step_hex (codeUnit?_digits hdigits u hu) d
    exact ((keeps_escape 117 d).append hhex).append ih

theorem closed_literal (h : Json.Literal s) : Closed s := by
  cases h with
  | @intro s hs =>
    intro d
    have hopen : (Scan.at d).step (34 : UInt16).toNat = ⟨d, .quoted⟩ := rfl
    obtain ⟨hends, hstays⟩ := keeps_characters hs d
    refine ⟨?_, le_refl d, ?_⟩
    · rw [text_cons, hopen, text_append, hends]
      rfl
    · rw [hopen, stays_append, hends]
      exact ⟨hstays, le_refl d, le_refl d⟩

theorem closed_blank (h : Json.Blank s) : Closed s := by
  refine closed_inert fun u hu => ?_
  rcases h u hu with rfl | rfl | rfl | rfl <;> decide

theorem inert_digit {u : UInt16} (h : Json.isDigit u = true) : Inert u := by
  refine ⟨fun he => ?_, fun he => ?_, fun he => ?_⟩
  all_goals
    rw [he] at h
    exact absurd h (by decide)

/-- No code unit of a numeral means anything to a scan. -/
theorem inert_numeral (h : Json.Numeral s) : ∀ u ∈ s, Inert u := by
  have hdigits : ∀ s : List UInt16, Json.Digits s → ∀ u ∈ s, Inert u :=
    fun s hs u hu => inert_digit (hs.2 u hu)
  have hone : ∀ v : UInt16, Inert v → ∀ u ∈ [v], Inert u := fun v hv u hu => List.mem_singleton.1 hu ▸ hv
  have hnone : ∀ u ∈ ([] : List UInt16), Inert u := fun u hu => absurd hu List.not_mem_nil
  cases h with
  | @intro sign whole fraction exponent hsign hwhole _ hfraction hexponent =>
    have h1 : ∀ u ∈ sign, Inert u := by
      rcases hsign with rfl | rfl
      · exact hnone
      · exact hone 45 (by decide)
    have h3 : ∀ u ∈ fraction, Inert u := by
      cases hfraction with
      | absent => exact hnone
      | present hs => exact List.forall_mem_cons.2 ⟨by decide, hdigits _ hs⟩
    have h4 : ∀ u ∈ exponent, Inert u := by
      cases hexponent with
      | absent => exact hnone
      | @present letter sign s hletter hsign hs =>
        refine List.forall_mem_cons.2 ⟨?_, List.forall_mem_append.2 ⟨?_, hdigits s hs⟩⟩
        · rcases hletter with rfl | rfl <;> decide
        · rcases hsign with rfl | rfl | rfl
          · exact hnone
          · exact hone 43 (by decide)
          · exact hone 45 (by decide)
    have h2 : ∀ u ∈ sign ++ whole, Inert u := List.forall_mem_append.2 ⟨h1, hdigits _ hwhole⟩
    exact List.forall_mem_append.2 ⟨List.forall_mem_append.2 ⟨h2, h3⟩, h4⟩

/-- An object within which nothing is left open is open from its first brace to its last. -/
theorem object_stays (h : Closed s) (d : Nat) :
    (Scan.at d).text (123 :: s) = .at (d + 1) ∧ Stays (d + 1) ((Scan.at d).step 123) s := by
  obtain ⟨hends, hstays⟩ := h (d + 1)
  exact ⟨hends, hstays⟩

theorem closed_object (h : Closed s) : Closed (123 :: (s ++ [125])) := by
  intro d
  obtain ⟨hends, hstays⟩ := object_stays h d
  refine ⟨?_, le_refl d, ?_⟩
  · rw [← List.cons_append, text_append, hends]
    rfl
  · refine stays_append.2 ⟨hstays.mono (Nat.le_succ d), ?_⟩
    have hinner : ((Scan.at d).step (123 : UInt16).toNat).text s = .at (d + 1) := hends
    rw [hinner]
    exact ⟨Nat.le_succ d, le_refl d⟩

theorem closed_array (h : Closed s) : Closed (91 :: (s ++ [93])) := by
  have hclose : Closed [93] := closed_inert fun u hu => List.mem_singleton.1 hu ▸ by decide
  exact closed_cons (by decide) (h.append hclose)

/-- Whatever the grammar derives closes what it opens. -/
theorem closed_derives {k : Json.Symbol} (h : Json.Derives k s) : Closed s := by
  have hcomma : Inert 44 := by decide
  induction h with
  | @word s hknown =>
    refine closed_inert fun u hu => ?_
    have hinert : s.all (fun u => decide (Inert u)) = true := by rcases hknown with rfl | rfl | rfl <;> decide
    exact of_decide_eq_true (List.all_eq_true.1 hinert u hu)
  | number h => exact closed_inert (inert_numeral h)
  | string h => exact closed_literal h
  | emptyArray h => exact closed_array (closed_blank h)
  | array _ ih => exact closed_array ih
  | emptyObject h => exact closed_object (closed_blank h)
  | object _ ih => exact closed_object ih
  | element hb _ hb' ih => exact ((closed_blank hb).append ih).append (closed_blank hb')
  | lastElement _ ih => exact ih
  | nextElement _ _ ih ih' => exact ih.append (closed_cons hcomma ih')
  | member hb hkey hb' _ ih =>
    exact (((closed_blank hb).append (closed_literal hkey)).append (closed_blank hb')).append
      (closed_cons (by decide) ih)
  | lastMember _ ih => exact ih
  | nextMember _ _ ih ih' => exact ih.append (closed_cons hcomma ih')

/-- What stands between the braces of an object closes what it opens. -/
theorem closed_within (h : Json.IsText (123 :: (s ++ [125]))) : Closed s := by
  generalize ht : 123 :: (s ++ [125]) = t at h
  cases h with
  | @element b v b' hb hv hb' =>
    have hb0 : b = [] := by
      rcases b with - | ⟨x, b⟩
      · rfl
      · rw [List.cons_append, List.cons_append] at ht
        have hx := hb x (List.mem_cons_self ..)
        rw [← (List.cons.inj ht).1] at hx
        exact absurd hx (by decide)
    have hb1 : b' = [] := by
      rcases List.eq_nil_or_concat b' with h | ⟨b', x, rfl⟩
      · exact h
      · rw [List.concat_eq_append, ← List.append_assoc, ← List.cons_append] at ht
        have hx :=
          hb' x (by rw [List.concat_eq_append]; exact List.mem_append_right b' (List.mem_singleton_self x))
        rw [← (List.cons.inj (List.append_inj_right' ht rfl)).1] at hx
        exact absurd hx (by decide)
    subst hb0 hb1
    rw [List.nil_append, List.append_nil] at ht
    subst ht
    generalize ht : 123 :: (s ++ [125]) = t at hv
    cases hv with
    | word hknown => rcases hknown with rfl | rfl | rfl <;> cases ht
    | number hn => exact absurd (inert_numeral hn 123 (ht ▸ List.mem_cons_self ..)) (by decide)
    | string hl =>
      cases hl
      cases ht
    | emptyArray => cases ht
    | array => cases ht
    | emptyObject hb =>
      obtain ⟨-, he⟩ := List.cons.inj ht
      exact List.append_cancel_right he ▸ closed_blank hb
    | object hinner =>
      obtain ⟨-, he⟩ := List.cons.inj ht
      exact List.append_cancel_right he ▸ closed_derives hinner

/-! ### The scan of bytes -/

/-- What any number of code units beyond ASCII does to a scan: an escape is over. -/
def Scan.absorb (σ : Scan) : Scan :=
  match σ.mode with
  | .escaped => { σ with mode := .quoted }
  | _ => σ

/-- A scan behind some bytes of a character that is not complete. -/
def Scan.pend (st : Decoder.State) (σ : Scan) : Scan := if st = .start then σ else σ.absorb

theorem step_beyond {n : Nat} (h : 128 ≤ n) (σ : Scan) : σ.step n = σ.absorb := by
  obtain ⟨d, m⟩ := σ
  cases m with
  | plain => exact (if_neg (by omega)).trans ((if_neg (by omega)).trans (if_neg (by omega)))
  | quoted => exact (if_neg (by omega)).trans (if_neg (by omega))
  | escaped => rfl

@[simp] theorem absorb_absorb (σ : Scan) : σ.absorb.absorb = σ.absorb := by
  obtain ⟨d, m⟩ := σ
  cases m <;> rfl

@[simp] theorem depth_absorb (σ : Scan) : σ.absorb.depth = σ.depth := by
  obtain ⟨d, m⟩ := σ
  cases m <;> rfl

theorem depth_pend (st : Decoder.State) (σ : Scan) : (σ.pend st).depth = σ.depth := by
  unfold Scan.pend
  split
  · rfl
  · exact depth_absorb σ

theorem absorb_pend (st : Decoder.State) (σ : Scan) : (σ.pend st).absorb = σ.absorb := by
  unfold Scan.pend
  split
  · rfl
  · exact absorb_absorb σ

theorem pend_absorb (st : Decoder.State) (σ : Scan) : σ.absorb.pend st = σ.absorb := by
  unfold Scan.pend
  split
  · rfl
  · exact absorb_absorb σ

theorem text_beyond (h : ∀ u ∈ s, 128 ≤ u.toNat) (hne : s ≠ []) (σ : Scan) : σ.text s = σ.absorb := by
  induction s generalizing σ with
  | nil => exact absurd rfl hne
  | cons u s ih =>
    obtain ⟨hu, hs⟩ := List.forall_mem_cons.1 h
    rw [text_cons, step_beyond hu]
    by_cases he : s = []
    · rw [he, text_nil]
    · rw [ih hs he, absorb_absorb]

theorem text_flush (st : Decoder.State) (σ : Scan) : σ.text (Decoder.flush st) = σ.pend st := by
  unfold Decoder.flush Scan.pend
  split
  · rfl
  · rw [text_cons, step_beyond (by decide), text_nil]

/-- A byte means to a scan what the code units mean that it yields. -/
theorem step_pend {st : Decoder.State} (hst : st.Fits) (σ : Scan) (b : UInt8) :
    (σ.pend st).step b.toNat = (σ.text (Decoder.step st b).1).pend (Decoder.step st b).2 := by
  by_cases hb : b.toNat < 0x80
  · have hof : (UInt16.ofNat b.toNat).toNat = b.toNat := UInt16.toNat_ofNat_of_lt' (hb.trans (by decide))
    rw [Decoder.step_ascii hb, text_append, text_flush, text_cons, text_nil, hof]
    rfl
  · obtain ⟨-, hbeyond, hdue⟩ := Decoder.high_step hst (by omega : 128 ≤ b.toNat)
    rw [step_beyond (by omega), absorb_pend]
    by_cases hnil : (Decoder.step st b).1 = []
    · rw [hnil, text_nil]
      exact (if_neg (hdue hnil)).symm
    · rw [text_beyond hbeyond hnil, pend_absorb]

theorem bytes_pend {st : Decoder.State} (hst : st.Fits) (σ : Scan) (bs : List UInt8) :
    (σ.pend st).bytes bs = (σ.text (Decoder.run st bs).1).pend (Decoder.run st bs).2 := by
  induction bs generalizing st σ with
  | nil => rfl
  | cons b bs ih => rw [bytes_cons, step_pend hst, ih (Decoder.fits_step hst b), Decoder.run, text_append]

/-- Bytes open and close what their text does. -/
theorem text_decode (σ : Scan) (bs : List UInt8) : σ.text (Decoder.decode bs) = σ.bytes bs := by
  unfold Decoder.decode
  rw [text_append, text_flush]
  exact (@bytes_pend .start trivial σ bs).symm

/-- So do pieces of them that are decoded apart. -/
theorem text_pieces (σ : Scan) (pieces : List (List UInt8)) :
    σ.text (pieces.flatMap Decoder.decode) = σ.bytes pieces.flatten := by
  induction pieces generalizing σ with
  | nil => rfl
  | cons piece pieces ih =>
    rw [List.flatMap_cons, text_append, text_decode, ih, List.flatten_cons, bytes_append]

/-- The text of the bytes of an object. -/
theorem decode_object (bs : List UInt8) :
    Decoder.decode (123 :: (bs ++ [125])) = 123 :: (Decoder.decode bs ++ [125]) := by
  rw [← List.cons_append, Decoder.decode_concat_ascii (by decide), ← List.singleton_append,
    Decoder.decode_append (by rfl)]
  rfl

/-- The bytes of an object are no text of JSON until the last of them, in whatever pieces they are decoded. -/
theorem not_text_of_front {as bs cs : List UInt8} {pieces : List (List UInt8)} (hbs : bs = as ++ cs)
    (h : Json.IsText (Decoder.decode (123 :: (bs ++ [125])))) (hpieces : pieces.flatten = 123 :: as) :
    ¬Json.IsText (pieces.flatMap Decoder.decode) := by
  intro hjson
  rw [decode_object] at h
  obtain ⟨-, hstays⟩ := closed_within h 1
  have hends := (closed_derives hjson 0).ends
  rw [text_pieces, hpieces, bytes_cons] at hends
  have hopen : (Scan.at 0).step (123 : UInt8).toNat = .at 1 := rfl
  have hbytes : (Scan.at 1).bytes as = _ := @bytes_pend .start trivial (.at 1) as
  have hdecode : Decoder.decode bs = (Decoder.run .start as).1 ++
      ((Decoder.run (Decoder.run .start as).2 cs).1 ++ Decoder.flush (Decoder.run .start bs).2) := by
    rw [Decoder.decode, hbs, Decoder.run_append, List.append_assoc]
  rw [hdecode] at hstays
  have hdepth : 1 ≤ ((Scan.at 1).text (Decoder.run .start as).1).depth := hstays.depth_le
  rw [hopen, hbytes] at hends
  have h0 := congrArg Scan.depth hends
  rw [depth_pend] at h0
  have hzero : (Scan.at 0).depth = 0 := rfl
  omega

end Braces

end Text
