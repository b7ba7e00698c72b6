import Mathlib.Data.List.Basic
import Mathlib.Data.List.Induction

/-!
# Text out of bytes, a piece at a time

A decoder of UTF-8 goes from byte to byte and replaces what is no character, as `toString` of a buffer does. A
buffer that ends within a character ends with a replacement, whatever the next one begins with.
-/

namespace Text

namespace Decoder

/-- Where a decoder stands: between characters, or behind some bytes of one, of which it has the first
bits. -/
inductive State where
  | start
  /-- One more byte is due. -/
  | tail1 (bits : Nat)
  | tail2 (bits : Nat)
  | tail3 (bits : Nat)
  | afterE0
  | afterED
  | afterF0
  | afterF4
  deriving DecidableEq, Repr

/-- The replacement character. -/
def replacement : UInt16 := 0xFFFD

/-- The code units of a character by its number. -/
def unitsOf (n : Nat) : List UInt16 :=
  if n < 0x10000 then [UInt16.ofNat n]
  else [UInt16.ofNat (0xD800 + (n - 0x10000) / 0x400), UInt16.ofNat (0xDC00 + (n - 0x10000) % 0x400)]

/-- Read a byte between characters. -/
def first (b : UInt8) : List UInt16 × State :=
  let n := b.toNat
  if n < 0x80 then ([UInt16.ofNat n], .start)
  else if 0xC2 ≤ n ∧ n ≤ 0xDF then ([], .tail1 (n - 0xC0))
  else if n = 0xE0 then ([], .afterE0)
  else if n = 0xED then ([], .afterED)
  else if 0xE1 ≤ n ∧ n ≤ 0xEF then ([], .tail2 (n - 0xE0))
  else if n = 0xF0 then ([], .afterF0)
  else if 0xF1 ≤ n ∧ n ≤ 0xF3 then ([], .tail3 (n - 0xF0))
  else if n = 0xF4 then ([], .afterF4)
  else ([replacement], .start)

/-- What comes of the next byte of a character, if it is in the range. -/
def within (low high : Nat) (b : UInt8) (f : Nat → List UInt16 × State) : Option (List UInt16 × State) :=
  if low ≤ b.toNat ∧ b.toNat ≤ high then some (f (b.toNat - 0x80)) else none

/-- Read a byte within a character, if it goes on with it. -/
def next? : State → UInt8 → Option (List UInt16 × State)
  | .start, _ => none
  | .tail1 bits, b => within 0x80 0xBF b fun x => (unitsOf (bits * 64 + x), .start)
  | .tail2 bits, b => within 0x80 0xBF b fun x => ([], .tail1 (bits * 64 + x))
  | .tail3 bits, b => within 0x80 0xBF b fun x => ([], .tail2 (bits * 64 + x))
  | .afterE0, b => within 0xA0 0xBF b fun x => ([], .tail1 x)
  | .afterED, b => within 0x80 0x9F b fun x => ([], .tail1 (0xD * 64 + x))
  | .afterF0, b => within 0x90 0xBF b fun x => ([], .tail2 x)
  | .afterF4, b => within 0x80 0x8F b fun x => ([], .tail2 (4 * 64 + x))

/-- Read a byte. One that does not go on with a character ends it with a replacement, and begins anew. -/
def step (st : State) (b : UInt8) : List UInt16 × State :=
  if st = .start then first b
  else match next? st b with
    | some r => r
    | none => (replacement :: (first b).1, (first b).2)

/-- Read bytes. -/
def run : State → List UInt8 → List UInt16 × State
  | st, [] => ([], st)
  | st, b :: bs => ((step st b).1 ++ (run (step st b).2 bs).1, (run (step st b).2 bs).2)

/-- What stands for the bytes of a character that is not complete. -/
def flush (st : State) : List UInt16 := if st = .start then [] else [replacement]

/-- `buffer.toString()` -/
def decode (bs : List UInt8) : List UInt16 := (run .start bs).1 ++ flush (run .start bs).2

/-! ### Rules -/

variable {st : State} {as bs : List UInt8}

theorem run_append : run st (as ++ bs) =
    ((run st as).1 ++ (run (run st as).2 bs).1, (run (run st as).2 bs).2) := by
  induction as generalizing st with
  | nil => rfl
  | cons a as ih =>
    rw [List.cons_append, run, ih]
    simp only [run, List.append_assoc]

@[simp] theorem flush_start : flush .start = [] := rfl

/-- Between characters bytes may be decoded apart. -/
theorem decode_append (h : (run .start as).2 = .start) (bs : List UInt8) :
    decode (as ++ bs) = decode as ++ decode bs := by
  unfold decode
  rw [run_append, h]
  simp [flush, List.append_assoc]

/-- A byte of ASCII is its own text, whatever came before it. -/
theorem first_ascii {b : UInt8} (h : b.toNat < 0x80) : first b = ([UInt16.ofNat b.toNat], .start) := by
  unfold first
  exact if_pos h

/-- No byte of ASCII goes on with a character. -/
theorem next_ascii {b : UInt8} (h : b.toNat < 0x80) : next? st b = none := by
  cases st with
  | start => rfl
  | _ =>
    unfold next? within
    exact if_neg fun hin => by omega

theorem step_ascii {b : UInt8} (h : b.toNat < 0x80) :
    step st b = (flush st ++ [UInt16.ofNat b.toNat], .start) := by
  unfold step flush
  by_cases hst : st = .start
  · rw [if_pos hst, if_pos hst, first_ascii h]
    rfl
  · rw [if_neg hst, if_neg hst, next_ascii h, first_ascii h]
    rfl

/-- Bytes that end with one of ASCII are a text that ends with it. -/
theorem decode_concat_ascii {b : UInt8} (h : b.toNat < 0x80) (as : List UInt8) :
    decode (as ++ [b]) = decode as ++ [UInt16.ofNat b.toNat] := by
  unfold decode
  rw [run_append]
  simp only [run, step_ascii h, flush_start, List.append_nil, List.append_assoc]

/-- So are pieces of such bytes that are decoded apart. -/
theorem pieces_concat_ascii {b : UInt8} (h : b.toNat < 0x80) {pieces : List (List UInt8)}
    (hpieces : pieces.flatten = as ++ [b]) : ∃ s, pieces.flatMap decode = s ++ [UInt16.ofNat b.toNat] := by
  induction pieces using List.reverseRecOn with
  | nil => exact absurd hpieces.symm (List.append_ne_nil_of_right_ne_nil as (List.cons_ne_nil b []))
  | append_singleton pieces piece ih =>
    rw [List.flatten_append, List.flatten_singleton] at hpieces
    rw [List.flatMap_append, List.flatMap_singleton]
    rcases List.eq_nil_or_concat piece with rfl | ⟨front, x, rfl⟩
    · rw [List.append_nil] at hpieces
      obtain ⟨s, hs⟩ := ih hpieces
      exact ⟨s, by rw [hs]; exact List.append_nil _⟩
    · rw [List.concat_eq_append, ← List.append_assoc] at hpieces
      obtain rfl := (List.cons.inj (List.append_inj_right' hpieces rfl)).1
      exact ⟨pieces.flatMap decode ++ decode front, by
        rw [List.concat_eq_append, decode_concat_ascii h, List.append_assoc]⟩

/-- Pieces that end between characters may be decoded apart. -/
theorem pieces_eq {pieces : List (List UInt8)}
    (h : ∀ front, front <+: pieces → (run .start front.flatten).2 = .start) :
    pieces.flatMap decode = decode pieces.flatten := by
  induction pieces using List.reverseRecOn with
  | nil => rfl
  | append_singleton pieces piece ih =>
    rw [List.flatMap_append, List.flatMap_singleton, List.flatten_append, List.flatten_singleton,
      decode_append (h pieces (List.prefix_append ..)),
        ih fun front hf => h front (hf.trans (List.prefix_append ..))]

/-! ### Bytes beyond ASCII -/

/-- The bits of a character are such that it is beyond ASCII and has a number. -/
def State.Fits : State → Prop
  | tail1 bits => 2 ≤ bits ∧ bits < 0x4400
  | tail2 bits => 1 ≤ bits ∧ bits < 0x110
  | tail3 bits => 1 ≤ bits ∧ bits < 4
  | _ => True

/-- What a byte beyond ASCII does: it yields nothing of ASCII, and something unless more of a character is
due. -/
structure High (r : List UInt16 × State) : Prop where
  fits : r.2.Fits
  beyond : ∀ u ∈ r.1, 128 ≤ u.toNat
  due : r.1 = [] → r.2 ≠ .start

theorem unitsOf_beyond {n : Nat} (h : 128 ≤ n) (h' : n < 0x110000) : ∀ u ∈ unitsOf n, 128 ≤ u.toNat := by
  have hof : ∀ m : Nat, m < 65536 → (UInt16.ofNat m).toNat = m := fun m hm => UInt16.toNat_ofNat_of_lt' hm
  unfold unitsOf
  split
  · intro u hu
    rw [List.mem_singleton.1 hu, hof n (by omega)]
    exact h
  · intro u hu
    rcases List.mem_cons.1 hu with rfl | hu
    · rw [hof _ (by omega)]
      omega
    · rw [List.mem_singleton.1 hu, hof _ (by omega)]
      omega

theorem unitsOf_ne_nil (n : Nat) : unitsOf n ≠ [] := by
  unfold unitsOf
  split
  · exact List.cons_ne_nil _ _
  · exact List.cons_ne_nil _ _

theorem high_due {st : State} (h : st.Fits) (hst : st ≠ .start) : High ([], st) :=
  ⟨h, fun _ hu => absurd hu List.not_mem_nil, fun _ => hst⟩

theorem high_units {n : Nat} (h : 128 ≤ n) (h' : n < 0x110000) : High (unitsOf n, .start) :=
  ⟨trivial, unitsOf_beyond h h', fun he => absurd he (unitsOf_ne_nil n)⟩

theorem high_first {b : UInt8} (h : 128 ≤ b.toNat) : High (first b) := by
  unfold first
  dsimp only
  rw [if_neg (by omega)]
  split
  · exact high_due ⟨by omega, by omega⟩ nofun
  split
  · exact high_due trivial nofun
  split
  · exact high_due trivial nofun
  split
  · exact high_due ⟨by omega, by omega⟩ nofun
  split
  · exact high_due trivial nofun
  split
  · exact high_due ⟨by omega, by omega⟩ nofun
  split
  · exact high_due trivial nofun
  · exact ⟨trivial, fun u hu => List.mem_singleton.1 hu ▸ by decide, nofun⟩

theorem within_eq_some {low high : Nat} {b : UInt8} {f : Nat → List UInt16 × State} {r : List UInt16 × State}
    (h : within low high b f = some r) : low ≤ b.toNat ∧ b.toNat ≤ high ∧ r = f (b.toNat - 0x80) := by
  unfold within at h
  by_cases hin : low ≤ b.toNat ∧ b.toNat ≤ high
  · rw [if_pos hin] at h
    exact ⟨hin.1, hin.2, (Option.some.inj h).symm⟩
  · rw [if_neg hin] at h
    cases h

theorem high_next {b : UInt8} {r : List UInt16 × State} (hst : st.Fits)
    (h : next? st b = some r) : High r := by
  cases st with
  | start => cases h
  | tail1 bits =>
    rw [next?] at h
    obtain ⟨hlow, hhigh, rfl⟩ := within_eq_some h
    obtain ⟨h1, h2⟩ := hst
    exact high_units (by omega) (by omega)
  | tail2 bits =>
    rw [next?] at h
    obtain ⟨hlow, hhigh, rfl⟩ := within_eq_some h
    obtain ⟨h1, h2⟩ := hst
    exact high_due ⟨by omega, by omega⟩ nofun
  | tail3 bits =>
    rw [next?] at h
    obtain ⟨hlow, hhigh, rfl⟩ := within_eq_some h
    obtain ⟨h1, h2⟩ := hst
    exact high_due ⟨by omega, by omega⟩ nofun
  | _ =>
    rw [next?] at h
    obtain ⟨hlow, hhigh, rfl⟩ := within_eq_some h
    exact high_due ⟨by omega, by omega⟩ nofun

theorem high_step {b : UInt8} (hst : st.Fits) (h : 128 ≤ b.toNat) : High (step st b) := by
  unfold step
  split
  · exact high_first h
  · split
    · next r hr => exact high_next hst hr
    · obtain ⟨hfits, hbeyond, -⟩ := high_first h
      exact ⟨hfits, List.forall_mem_cons.2 ⟨by decide, hbeyond⟩, nofun⟩

/-- The bits of characters stay such, whatever the bytes are. -/
theorem fits_step (hst : st.Fits) (b : UInt8) : (step st b).2.Fits := by
  by_cases h : b.toNat < 0x80
  · rw [step_ascii h]
    trivial
  · exact (high_step hst (by omega)).fits

end Decoder

end Text
