import HeraldGateway.Text.Uri

/-!
# Hosts of URLs of the web

Where a parser of URLs finds the host of a URL whose scheme is `http` or `https`: behind all slashes, up to the next
separator, behind the credentials and before the port. What a host itself may be is left to a parser of hosts.
-/

namespace Text

namespace Url

/-- `/` or `\`, which are the same in a URL of the web. -/
def isSlash (u : UInt16) : Bool := u == 47 || u == 92

/-- What ends an authority: a slash, `?` or `#`. -/
def endsAuthority (u : UInt16) : Bool := isSlash u || u == 63 || u == 35

/-- The authority of what follows the scheme. -/
def authority (s : List UInt16) : List UInt16 := (s.dropWhile isSlash).takeWhile (!endsAuthority ·)

/-- A host up to a colon outside of brackets, and what is behind the colon. -/
def splitPort : Bool → List UInt16 → List UInt16 × Option (List UInt16)
  | _, [] => ([], none)
  | inside, u :: s =>
    if u = 58 && !inside then ([], some s)
    else
      let (host, port) := splitPort (if u = 91 then true else if u = 93 then false else inside) s
      (u :: host, port)

/-- Digits of a port that is not too large. -/
def isPort (s : List UInt16) : Bool :=
  s.all (fun u => 48 ≤ u && u ≤ 57) && s.foldl (fun n u => n * 10 + (u.toNat - 48)) 0 < 65536

variable (parseHost : List UInt16 → Option (List UInt16))

/-- The host that follows the scheme, if that makes a URL. -/
def hostBehind? (s : List UInt16) : Option (List UInt16) :=
  let (host, port) := splitPort false ((authority s).rtakeWhile (· != 64))
  if host.isEmpty || !port.all isPort then none else parseHost host

/-- Whether a scheme is one of the web. -/
def isWebScheme (x : List UInt16) : Bool := x == [104, 116, 116, 112] || x == [104, 116, 116, 112, 115]

/-- The host of an absolute URL of the web. -/
def hostname? (s : List UInt16) : Option (List UInt16) :=
  if (scheme? (strip s)).any isWebScheme then hostBehind? parseHost (((strip s).dropWhile (· != 58)).drop 1) else none

/-- The host of an absolute URL of the web, or of one that takes the scheme of another. -/
def webHost? (s : List UInt16) : Option (List UInt16) :=
  if scheme? (strip s) = none ∧ 2 ≤ ((strip s).takeWhile isSlash).length then hostBehind? parseHost (strip s)
  else hostname? parseHost s

/-! ### Letter case

Nothing that separates the parts of a URL is a letter, so a URL in lower case has the host in lower case.
-/

section

variable {p : UInt16 → Bool} {s : List UInt16} {u : UInt16}

/-- What is the same for both cases of the letters of ASCII. -/
theorem apply_lower {α : Type} (f : UInt16 → α)
    (h : ∀ n < 26, f (UInt16.ofNat (97 + n)) = f (UInt16.ofNat (65 + n))) (u : UInt16) : f (lower u) = f u := by
  unfold lower
  split
  · rename_i hupper
    rw [Bool.and_eq_true, decide_eq_true_iff, decide_eq_true_iff, UInt16.le_iff_toNat_le, UInt16.le_iff_toNat_le]
      at hupper
    simp only [UInt16.reduceToNat] at hupper
    have hn := h (u.toNat - 65) (by omega)
    have hu : UInt16.ofNat (65 + (u.toNat - 65)) = u := by
      rw [Nat.add_sub_of_le hupper.1, UInt16.ofNat_toNat]
    have hlower : UInt16.ofNat (97 + (u.toNat - 65)) = u + 32 := by
      conv_rhs => rw [← hu]
      rw [← UInt16.toNat_inj, UInt16.toNat_add, UInt16.toNat_ofNat', UInt16.toNat_ofNat']
      simp only [UInt16.reduceToNat]
      omega
    rwa [hu, hlower] at hn
  · rfl

theorem lower_lower (u : UInt16) : lower (lower u) = lower u := apply_lower lower (by decide) u

theorem takeWhile_lower (h : ∀ u, p (lower u) = p u) (s : List UInt16) :
    (s.map lower).takeWhile p = (s.takeWhile p).map lower := by
  rw [List.takeWhile_map, show p ∘ lower = p from funext h]

theorem dropWhile_lower (h : ∀ u, p (lower u) = p u) (s : List UInt16) :
    (s.map lower).dropWhile p = (s.dropWhile p).map lower := by
  rw [List.dropWhile_map, show p ∘ lower = p from funext h]

theorem strip_lower (s : List UInt16) : strip (s.map lower) = (strip s).map lower := by
  have hcontrol : ∀ u, isControl (lower u) = isControl u := apply_lower isControl (by decide)
  have hbreak : (fun u => !isBreak u) ∘ lower = fun u => !isBreak u :=
    funext (apply_lower (fun u => !isBreak u) (by decide))
  rw [strip, dropWhile_lower hcontrol, List.rdropWhile, ← List.map_reverse, dropWhile_lower hcontrol,
    ← List.map_reverse, List.filter_map, hbreak]
  rfl

theorem scheme?_lower (s : List UInt16) : scheme? (s.map lower) = scheme? s := by
  have hunit : ∀ u, isSchemeUnit (lower u) = isSchemeUnit u := apply_lower isSchemeUnit (by decide)
  have hletter : (fun u => isLetter (lower u)) = isLetter := funext (apply_lower isLetter (by decide))
  have hcolon : ∀ u, (lower u == 58) = (u == 58) := apply_lower (· == 58) (by decide)
  have hidem : lower ∘ lower = lower := funext lower_lower
  have hend : ∀ o : Option UInt16, (o.map lower == some 58) = (o == some 58) := by
    intro o
    cases o with
    | none => rfl
    | some u => exact hcolon u
  unfold scheme?
  dsimp only
  rw [takeWhile_lower hunit, dropWhile_lower hunit, List.head?_map, List.head?_map, Option.any_map, hletter,
    List.map_map, hidem, hend]

theorem splitPort_lower (inside : Bool) (s : List UInt16) : splitPort inside (s.map lower) =
    ((splitPort inside s).1.map lower, (splitPort inside s).2.map (List.map lower)) := by
  have hcolon : ∀ u, decide (lower u = 58) = decide (u = 58) := apply_lower (fun u => decide (u = 58)) (by decide)
  have hopen : ∀ u, decide (lower u = 91) = decide (u = 91) := apply_lower (fun u => decide (u = 91)) (by decide)
  have hclose : ∀ u, decide (lower u = 93) = decide (u = 93) := apply_lower (fun u => decide (u = 93)) (by decide)
  induction s generalizing inside with
  | nil => rfl
  | cons u s ih =>
    rw [List.map_cons, splitPort, splitPort, hcolon]
    simp only [decide_eq_decide.1 (hopen u), decide_eq_decide.1 (hclose u), ih]
    split <;> rfl

theorem isPort_lower (s : List UInt16) : isPort (s.map lower) = isPort s := by
  have hdigit : (fun u => decide (48 ≤ u) && decide (u ≤ 57)) ∘ lower = fun u => decide (48 ≤ u) && decide (u ≤ 57) :=
    funext (apply_lower (fun u => decide (48 ≤ u) && decide (u ≤ 57)) (by decide))
  unfold isPort
  rw [List.all_map, hdigit]
  cases hall : s.all fun u => decide (48 ≤ u) && decide (u ≤ 57) with
  | false => rfl
  | true =>
    have hsame : s.map lower = s := by
      refine (List.map_congr_left fun u hu => ?_).trans (List.map_id s)
      have hu := List.all_eq_true.1 hall u hu
      rw [Bool.and_eq_true, decide_eq_true_iff, decide_eq_true_iff] at hu
      refine if_neg fun hupper => ?_
      rw [Bool.and_eq_true, decide_eq_true_iff, decide_eq_true_iff] at hupper
      exact absurd (UInt16.le_trans hupper.1 hu.2) (by decide)
    rw [hsame]

theorem authority_lower (s : List UInt16) : authority (s.map lower) = (authority s).map lower := by
  have hslash : ∀ u, isSlash (lower u) = isSlash u := apply_lower isSlash (by decide)
  have hends : ∀ u, (!endsAuthority (lower u)) = !endsAuthority u := apply_lower (fun u => !endsAuthority u) (by decide)
  rw [authority, dropWhile_lower hslash, takeWhile_lower hends, authority]

theorem hostBehind?_lower (s : List UInt16) :
    hostBehind? parseHost (s.map lower) = hostBehind? (fun host => parseHost (host.map lower)) s := by
  have hat : ∀ u, (lower u != 64) = (u != 64) := apply_lower (· != 64) (by decide)
  unfold hostBehind?
  rw [authority_lower, List.rtakeWhile, ← List.map_reverse, takeWhile_lower hat, ← List.map_reverse, splitPort_lower]
  simp only [List.isEmpty_map, Option.all_map, isPort_lower]
  rfl

/-- The host of a URL in lower case. -/
theorem hostname?_lower (s : List UInt16) :
    hostname? parseHost (s.map lower) = hostname? (fun host => parseHost (host.map lower)) s := by
  have hcolon : ∀ u, (lower u != 58) = (u != 58) := apply_lower (· != 58) (by decide)
  rw [hostname?, strip_lower, scheme?_lower, dropWhile_lower hcolon, ← List.map_drop, hostBehind?_lower, hostname?]

end

end Url

end Text
