import Mathlib.Data.List.Basic
import Mathlib.Data.List.Infix
import Mathlib.Data.List.TakeWhile

/-!
# Regular expressions with groups

The regular expressions of the language, as far as what they repeat is a class of code units. An expression tells
the ways in which it matches at a place of a text, in the order in which they are tried, and a search goes from
place to place. Letters of a text carry a code unit each, so that they can be followed through a replacement.
-/

namespace Text

/-- Letters that carry a code unit each. -/
class Coded (α : Type) where
  code : α → UInt16
  /-- The letter of a code unit that a program writes itself. -/
  lit : UInt16 → α
  code_lit : ∀ u, code (lit u) = u

instance : Coded UInt16 where
  code := id
  lit := id
  code_lit _ := rfl

open Coded (code lit)

/-- A text that a program writes itself. -/
def lits {α : Type} [Coded α] (us : List UInt16) : List α := us.map lit

/-- A regular expression with the flag `m`. -/
inductive RegExp where
  /-- These code units. -/
  | word (us : List UInt16)
  /-- At least `fewest` code units of a class, and at most `most` if that is given: first as many as there are, or
  as few. -/
  | many (p : UInt16 → Bool) (fewest : Nat) (most : Option Nat) (lazily : Bool)
  | seq (r t : RegExp)
  | alt (r t : RegExp)
  /-- `r?` -/
  | opt (r : RegExp)
  /-- The group of a number. -/
  | group (n : Nat) (r : RegExp)
  /-- `^` -/
  | lineStart
  /-- `$` -/
  | lineEnd

/-- A match at a place of a text: what it takes, what is behind it, and what its groups took. -/
structure Match (α : Type) where
  text : List α
  rest : List α
  groups : List (Nat × List α) := []

namespace Match

variable {α β : Type}

/-- A match, and one behind it. -/
def append (m m' : Match α) : Match α := ⟨m.text ++ m'.text, m'.rest, m.groups ++ m'.groups⟩

/-- What a group took. -/
def group (m : Match α) (n : Nat) : List α := (m.groups.lookup n).getD []

/-- The same match in another text. -/
def map (f : α → β) (m : Match α) : Match β :=
  ⟨m.text.map f, m.rest.map f, m.groups.map fun g => (g.1, g.2.map f)⟩

theorem group_map (f : α → β) (m : Match α) (n : Nat) : (m.map f).group n = (m.group n).map f := by
  have hlookup : ∀ gs : List (Nat × List α),
      ((gs.map fun g => (g.1, g.2.map f)).lookup n).getD [] = ((gs.lookup n).getD []).map f := by
    intro gs
    induction gs with
    | nil => rfl
    | cons g gs ih =>
      rw [List.map_cons, List.lookup_cons, List.lookup_cons]
      cases n == g.1 with
      | true => rfl
      | false => exact ih
  exact hlookup m.groups

end Match

namespace RegExp

variable {α β : Type}

/-- The end of a line. -/
def isTerminator (u : UInt16) : Bool := u == 10 || u == 13 || u == 0x2028 || u == 0x2029

/-- `r*`, `r+` and `r{n,}` for a class -/
def atLeast (n : Nat) (p : UInt16 → Bool) : RegExp := many p n none false

/-- One after another. -/
def all : List RegExp → RegExp
  | [] => word []
  | [r] => r
  | r :: rs => seq r (all rs)

/-- A mark, one letter of a class or more as the first group, and the mark again. -/
def enclosed (mark : List UInt16) (p : UInt16 → Bool) : RegExp :=
  all [word mark, group 1 (atLeast 1 p), word mark]

section

variable [Coded α] [Coded β]

/-- How many letters of a class are tried at a place. -/
def counts (p : UInt16 → Bool) (fewest : Nat) (most : Option Nat) (lazily : Bool) (s : List α) : List Nat :=
  let run := (s.takeWhile fun a => p (code a)).length
  let ns := (List.range (most.elim run (Nat.min run) + 1)).filter (fewest ≤ ·)
  if lazily then ns else ns.reverse

/-- Whether a line ends at a letter, or the text does. -/
def ends (a : Option α) : Bool := a.all fun a => isTerminator (code a)

/-- The ways in which an expression matches at a place, given the letter before it. -/
def ways : RegExp → Option α → List α → List (Match α)
  | word us, _, s => if (s.take us.length).map code = us then [⟨s.take us.length, s.drop us.length, []⟩] else []
  | many p fewest most lazily, _, s => (counts p fewest most lazily s).map fun n => ⟨s.take n, s.drop n, []⟩
  | seq r t, before, s =>
    (ways r before s).flatMap fun m => (ways t (m.text.getLast?.or before) m.rest).map m.append
  | alt r t, before, s => ways r before s ++ ways t before s
  | opt r, before, s => ways r before s ++ [⟨[], s, []⟩]
  | group n r, before, s => (ways r before s).map fun m => { m with groups := (n, m.text) :: m.groups }
  | lineStart, before, s => if ends before then [⟨[], s, []⟩] else []
  | lineEnd, _, s => if ends s.head? then [⟨[], s, []⟩] else []

/-- The match at a place. -/
def matchAt? (r : RegExp) (before : Option α) (s : List α) : Option (Match α) := (ways r before s).head?

/-- The first match from a place on, and how far it is. -/
def find? (r : RegExp) : Option α → List α → Option (Nat × Match α)
  | before, [] => (matchAt? r before []).map (0, ·)
  | before, a :: s =>
    match matchAt? r before (a :: s) with
    | some m => some (0, m)
    | none => (find? r (some a) s).map fun (i, m) => (i + 1, m)

/-- `r.exec(s)` for an expression with the flag `g` whose `lastIndex` is given: the index of the match, and the
match. -/
def exec (r : RegExp) (lastIndex : Nat) (s : List α) : Option (Nat × Match α) :=
  (find? r (s.take lastIndex).getLast? (s.drop lastIndex)).map fun (i, m) => (lastIndex + i, m)

/-- A letter between matches, or a match. -/
inductive Piece (α : Type) where
  | letter (a : α)
  | hit (m : Match α)

/-- The matches of an expression that takes a letter at least, and what is between them, where `skip` letters of
a match are left. -/
def pieces (r : RegExp) : Nat → Option α → List α → List (Piece α)
  | _, _, [] => []
  | skip + 1, _, a :: s => pieces r skip (some a) s
  | 0, before, a :: s =>
    match matchAt? r before (a :: s) with
    | some m => .hit m :: pieces r (m.text.length - 1) (some a) s
    | none => .letter a :: pieces r 0 (some a) s

/-- What a replacement makes of a piece. -/
def Piece.replace (f : Match α → List α) : Piece α → List α
  | letter a => [a]
  | hit m => f m

/-- `s.replace(r, f)` for an expression with the flag `g` -/
def replaceAll (r : RegExp) (f : Match α → List α) (s : List α) : List α :=
  (pieces r 0 none s).flatMap (Piece.replace f)

/-- How many letters a match takes at least. -/
def least : RegExp → Nat
  | word us => us.length
  | many _ fewest _ _ => fewest
  | seq r t => r.least + t.least
  | alt r t => Nat.min r.least t.least
  | opt _ | lineStart | lineEnd => 0
  | group _ r => r.least

/-- Whether each match takes a code unit of a class. -/
def Needs (q : UInt16 → Bool) : RegExp → Prop
  | word us => ∃ u ∈ us, q u = true
  | many p fewest _ _ => 0 < fewest ∧ ∀ u, p u = true → q u = true
  | seq r t => r.Needs q ∨ t.Needs q
  | alt r t => r.Needs q ∧ t.Needs q
  | group _ r => r.Needs q
  | opt _ | lineStart | lineEnd => False

/-- Whether matches take code units of a class only. -/
def Within (q : UInt16 → Bool) : RegExp → Prop
  | word us => ∀ u ∈ us, q u = true
  | many p _ _ _ => ∀ u, p u = true → q u = true
  | seq r t | alt r t => r.Within q ∧ t.Within q
  | opt r | group _ r => r.Within q
  | lineStart | lineEnd => True

/-! ### Matches -/

variable {r t : RegExp} {before : Option α} {s : List α} {m : Match α} {us : List UInt16} {p : UInt16 → Bool}
  {n : Nat}

example (r : RegExp) (n : Nat) (before : Option α) : pieces r n before [] = [] := by rw [pieces]

theorem mem_counts {fewest : Nat} {most : Option Nat} {lazily : Bool} :
    n ∈ counts p fewest most lazily s ↔
      fewest ≤ n ∧ n ≤ (s.takeWhile fun a => p (code a)).length ∧ ∀ k ∈ most, n ≤ k := by
  unfold counts
  have hif : ∀ ns : List Nat, n ∈ (if lazily = true then ns else ns.reverse) ↔ n ∈ ns := by
    intro ns
    split
    · exact Iff.rfl
    · exact List.mem_reverse
  rw [hif, List.mem_filter, List.mem_range, decide_eq_true_iff, Nat.lt_succ_iff, and_comm]
  refine and_congr_right fun _ => ?_
  cases most with
  | none => exact (and_iff_left nofun).symm
  | some k =>
    have hmin : n ≤ Nat.min (s.takeWhile fun a => p (code a)).length k ↔ _ := Nat.le_min
    exact hmin.trans (and_congr_right fun _ => ⟨fun h _ hk => Option.some.inj hk ▸ h, fun h => h k rfl⟩)

theorem mem_ways_word : m ∈ ways (word us) before s ↔ m.text.map code = us ∧ m.text ++ m.rest = s ∧ m.groups = [] := by
  show m ∈ (if (s.take us.length).map code = us then [⟨s.take us.length, s.drop us.length, []⟩] else []) ↔ _
  constructor
  · intro hm
    split at hm
    · next htake =>
      rw [List.mem_singleton.1 hm]
      exact ⟨htake, List.take_append_drop .., rfl⟩
    · cases hm
  · rintro ⟨htext, rfl, hgroups⟩
    have hlen : us.length = m.text.length := by rw [← htext, List.length_map]
    rw [hlen, List.take_left, List.drop_left, if_pos htext, List.mem_singleton, ← hgroups]

theorem mem_ways_many {fewest : Nat} {most : Option Nat} {lazily : Bool} :
    m ∈ ways (many p fewest most lazily) before s ↔ (∀ a ∈ m.text, p (code a) = true) ∧
      fewest ≤ m.text.length ∧ (∀ k ∈ most, m.text.length ≤ k) ∧ m.text ++ m.rest = s ∧ m.groups = [] := by
  refine List.mem_map.trans ?_
  constructor
  · rintro ⟨n, hn, rfl⟩
    obtain ⟨hmin, hrun, hmax⟩ := mem_counts.1 hn
    have hpre := List.takeWhile_prefix (l := s) fun a => p (code a)
    have htake : s.take n <+: s.takeWhile fun a => p (code a) :=
      List.prefix_of_prefix_length_le (List.take_prefix n s) hpre ((List.length_take_le n s).trans hrun)
    have hlen : (s.take n).length = n := List.length_take_of_le (hrun.trans hpre.length_le)
    refine ⟨fun a ha => ?_, hlen.symm ▸ hmin, fun k hk => hlen.symm ▸ hmax k hk,
      List.take_append_drop .., rfl⟩
    exact List.mem_takeWhile_imp (p := fun a => p (code a)) (htake.subset ha)
  · rintro ⟨hp, hmin, hmax, rfl, hgroups⟩
    refine ⟨m.text.length, mem_counts.2 ⟨hmin, ?_, hmax⟩, ?_⟩
    · rw [List.takeWhile_append_of_pos hp, List.length_append]
      exact Nat.le_add_right ..
    · rw [List.take_left, List.drop_left, ← hgroups]

theorem mem_ways_seq : m ∈ ways (seq r t) before s ↔
    ∃ m₁ ∈ ways r before s, ∃ m₂ ∈ ways t (m₁.text.getLast?.or before) m₁.rest, m = m₁.append m₂ := by
  refine List.mem_flatMap.trans ?_
  refine exists_congr fun m₁ => and_congr_right fun _ => ?_
  rw [List.mem_map]
  exact exists_congr fun m₂ => and_congr_right fun _ => eq_comm

theorem mem_ways_alt : m ∈ ways (alt r t) before s ↔ m ∈ ways r before s ∨ m ∈ ways t before s :=
  List.mem_append

theorem mem_ways_opt : m ∈ ways (opt r) before s ↔ m ∈ ways r before s ∨ m = ⟨[], s, []⟩ :=
  List.mem_append.trans (or_congr_right List.mem_singleton)

theorem mem_ways_group : m ∈ ways (group n r) before s ↔
    ∃ m' ∈ ways r before s, m = { m' with groups := (n, m'.text) :: m'.groups } :=
  List.mem_map.trans (exists_congr fun _ => and_congr_right fun _ => eq_comm)

theorem ends_eq_true {o : Option α} : ends o = true ↔ ∀ a ∈ o, isTerminator (code a) = true := by
  cases o with
  | none => exact ⟨fun _ => nofun, fun _ => rfl⟩
  | some a => exact ⟨fun h _ hb => Option.some.inj hb ▸ h, fun h => h a rfl⟩

theorem mem_ways_lineStart :
    m ∈ ways lineStart before s ↔ (∀ a ∈ before, isTerminator (code a) = true) ∧ m = ⟨[], s, []⟩ := by
  show m ∈ (if ends before then [⟨[], s, []⟩] else []) ↔ _
  rw [← ends_eq_true]
  split
  · next h => rw [List.mem_singleton, h, eq_self_iff_true, true_and]
  · next h => exact ⟨nofun, fun hm => absurd hm.1 h⟩

theorem mem_ways_lineEnd :
    m ∈ ways lineEnd before s ↔ (∀ a ∈ s.head?, isTerminator (code a) = true) ∧ m = ⟨[], s, []⟩ := by
  show m ∈ (if ends s.head? then [⟨[], s, []⟩] else []) ↔ _
  rw [← ends_eq_true]
  split
  · next h => rw [List.mem_singleton, h, eq_self_iff_true, true_and]
  · next h => exact ⟨nofun, fun hm => absurd hm.1 h⟩

/-- A match is of the text at its place. -/
theorem text_append_rest (h : m ∈ ways r before s) : m.text ++ m.rest = s := by
  induction r generalizing before s m with
  | word us => exact (mem_ways_word.1 h).2.1
  | many p fewest most lazily => exact (mem_ways_many.1 h).2.2.2.1
  | seq r t ihr iht =>
    obtain ⟨m₁, h₁, m₂, h₂, rfl⟩ := mem_ways_seq.1 h
    rw [← ihr h₁, ← iht h₂]
    exact List.append_assoc ..
  | alt r t ihr iht => exact (mem_ways_alt.1 h).elim ihr iht
  | opt r ih =>
    rcases mem_ways_opt.1 h with h | rfl
    · exact ih h
    · rfl
  | group n r ih =>
    obtain ⟨m', h', rfl⟩ := mem_ways_group.1 h
    exact @ih before s m' h'
  | lineStart =>
    obtain ⟨-, rfl⟩ := mem_ways_lineStart.1 h
    rfl
  | lineEnd =>
    obtain ⟨-, rfl⟩ := mem_ways_lineEnd.1 h
    rfl

theorem least_le (h : m ∈ ways r before s) : r.least ≤ m.text.length := by
  induction r generalizing before s m with
  | word us =>
    rw [least, ← (mem_ways_word.1 h).1, List.length_map]
  | many p fewest most lazily => exact (mem_ways_many.1 h).2.1
  | seq r t ihr iht =>
    obtain ⟨m₁, h₁, m₂, h₂, rfl⟩ := mem_ways_seq.1 h
    rw [least, Match.append, List.length_append]
    exact Nat.add_le_add (ihr h₁) (iht h₂)
  | alt r t ihr iht =>
    rcases mem_ways_alt.1 h with h | h
    · exact (Nat.min_le_left ..).trans (ihr h)
    · exact (Nat.min_le_right ..).trans (iht h)
  | opt r ih => exact Nat.zero_le _
  | group n r ih =>
    obtain ⟨m', h', rfl⟩ := mem_ways_group.1 h
    exact @ih before s m' h'
  | lineStart | lineEnd => exact Nat.zero_le _

theorem exists_of_needs {q : UInt16 → Bool} (hr : r.Needs q) (h : m ∈ ways r before s) :
    ∃ a ∈ m.text, q (code a) = true := by
  induction r generalizing before s m with
  | word us =>
    obtain ⟨u, hu, hq⟩ := hr
    rw [← (mem_ways_word.1 h).1] at hu
    obtain ⟨a, ha, rfl⟩ := List.mem_map.1 hu
    exact ⟨a, ha, hq⟩
  | many p fewest most lazily =>
    obtain ⟨hp, hfewest, -⟩ := mem_ways_many.1 h
    obtain ⟨a, ha⟩ := List.exists_mem_of_ne_nil _ (List.ne_nil_of_length_pos (hr.1.trans_le hfewest))
    exact ⟨a, ha, hr.2 _ (hp a ha)⟩
  | seq r t ihr iht =>
    obtain ⟨m₁, h₁, m₂, h₂, rfl⟩ := mem_ways_seq.1 h
    rcases hr with hr | ht
    · obtain ⟨a, ha, hq⟩ := ihr hr h₁
      exact ⟨a, List.mem_append_left _ ha, hq⟩
    · obtain ⟨a, ha, hq⟩ := iht ht h₂
      exact ⟨a, List.mem_append_right _ ha, hq⟩
  | alt r t ihr iht => exact (mem_ways_alt.1 h).elim (ihr hr.1) (iht hr.2)
  | group n r ih =>
    obtain ⟨m', h', rfl⟩ := mem_ways_group.1 h
    exact @ih before s m' hr h'
  | opt r ih | lineStart | lineEnd => exact hr.elim

theorem code_of_within {q : UInt16 → Bool} (hr : r.Within q) (h : m ∈ ways r before s) :
    ∀ a ∈ m.text, q (code a) = true := by
  induction r generalizing before s m with
  | word us =>
    intro a ha
    exact hr _ ((mem_ways_word.1 h).1 ▸ List.mem_map_of_mem ha)
  | many p fewest most lazily => exact fun a ha => hr _ ((mem_ways_many.1 h).1 a ha)
  | seq r t ihr iht =>
    obtain ⟨m₁, h₁, m₂, h₂, rfl⟩ := mem_ways_seq.1 h
    exact fun a ha => (List.mem_append.1 ha).elim (ihr hr.1 h₁ a) (iht hr.2 h₂ a)
  | alt r t ihr iht => exact (mem_ways_alt.1 h).elim (ihr hr.1) (iht hr.2)
  | opt r ih =>
    rcases mem_ways_opt.1 h with h | rfl
    · exact ih hr h
    · exact nofun
  | group n r ih =>
    obtain ⟨m', h', rfl⟩ := mem_ways_group.1 h
    exact @ih before s m' hr h'
  | lineStart =>
    obtain ⟨-, rfl⟩ := mem_ways_lineStart.1 h
    exact nofun
  | lineEnd =>
    obtain ⟨-, rfl⟩ := mem_ways_lineEnd.1 h
    exact nofun

/-- A group of some letters of a class. -/
theorem mem_ways_taken {k : Nat} : m ∈ ways (group n (atLeast k p)) before s ↔
    (∀ a ∈ m.text, p (code a) = true) ∧ k ≤ m.text.length ∧ m.text ++ m.rest = s ∧ m.groups = [(n, m.text)] := by
  rw [mem_ways_group]
  constructor
  · rintro ⟨m', hm', rfl⟩
    obtain ⟨hp, hk, -, hs, hgroups⟩ := mem_ways_many.1 hm'
    exact ⟨hp, hk, hs, by rw [hgroups]⟩
  · rintro ⟨hp, hk, hs, hgroups⟩
    refine ⟨⟨m.text, m.rest, []⟩, mem_ways_many.2 ⟨hp, hk, nofun, hs, rfl⟩, ?_⟩
    rw [← hgroups]

/-- What stands between two marks. -/
theorem exists_of_enclosed {mark : List UInt16} (h : m ∈ ways (enclosed mark p) before s) :
    ∃ d d', m.text = d ++ (m.group 1 ++ d') ∧ d.map code = mark ∧ d'.map code = mark ∧
      m.group 1 ≠ [] ∧ ∀ a ∈ m.group 1, p (code a) = true := by
  obtain ⟨m₁, h₁, m', h', rfl⟩ := mem_ways_seq.1 h
  obtain ⟨m₂, h₂, m₃, h₃, rfl⟩ := mem_ways_seq.1 h'
  obtain ⟨hmark, -, hgroups⟩ := mem_ways_word.1 h₁
  obtain ⟨hp, hone, -, hgroups'⟩ := mem_ways_taken.1 h₂
  obtain ⟨hmark', -, -⟩ := mem_ways_word.1 h₃
  have hgroup : (m₁.append (m₂.append m₃)).group 1 = m₂.text := by
    simp [Match.group, Match.append, hgroups, hgroups']
  rw [hgroup]
  exact ⟨m₁.text, m₃.text, rfl, hmark, hmark', List.ne_nil_of_length_pos hone, hp⟩

theorem matchAt?_mem (h : matchAt? r before s = some m) : m ∈ ways r before s := List.mem_of_head? h

/-! ### Searches -/

omit [Coded α] in
/-- The letter before a place, behind some more letters. -/
theorem getLast?_cons_or (a : α) (l : List α) (before : Option α) :
    (a :: l).getLast?.or before = l.getLast?.or (some a) := by
  cases l with
  | nil => rfl
  | cons b l =>
    rw [List.getLast?_cons_cons, List.getLast?_cons]
    rfl

theorem pieces_skip (r : RegExp) (before : Option α) (s : List α) :
    pieces r n before s = pieces r 0 ((s.take n).getLast?.or before) (s.drop n) := by
  induction s generalizing n before with
  | nil => rw [List.drop_nil, pieces, pieces]
  | cons a s ih =>
    cases n with
    | zero => rfl
    | succ n => rw [pieces, ih, List.take_succ_cons, List.drop_succ_cons, getLast?_cons_or]

theorem pieces_hit (hr : 0 < r.least) (h : matchAt? r before s = some m) :
    pieces r 0 before s = .hit m :: pieces r 0 (m.text.getLast?.or before) m.rest := by
  have hmem := matchAt?_mem h
  have htext := text_append_rest hmem
  have hpos := hr.trans_le (least_le hmem)
  cases s with
  | nil => exact absurd (List.append_eq_nil_iff.1 htext).1 (List.ne_nil_of_length_pos hpos)
  | cons a s =>
    obtain ⟨text, rest, groups⟩ := m
    cases text with
    | nil => exact absurd hpos (Nat.lt_irrefl 0)
    | cons b text =>
      obtain ⟨rfl, rfl⟩ := List.cons.inj htext
      have hskip := pieces_skip (n := text.length) r (some b) (text ++ rest)
      rw [List.take_left, List.drop_left] at hskip
      have hstep : pieces r 0 before (b :: (text ++ rest)) = .hit ⟨b :: text, rest, groups⟩ ::
          pieces r text.length (some b) (text ++ rest) := by
        rw [pieces, show matchAt? r before (b :: (text ++ rest)) = _ from h]
        rfl
      exact hstep.trans (congrArg _ (hskip.trans (by rw [getLast?_cons_or])))

theorem pieces_letter {a : α} (h : matchAt? r before (a :: s) = none) :
    pieces r 0 before (a :: s) = .letter a :: pieces r 0 (some a) s := by
  rw [pieces, h]

/-- A search is at the end, at a match, or at a letter where there is none. -/
@[elab_as_elim] theorem search_induction {P : Option α → List α → Prop} (hr : 0 < r.least)
    (nil : ∀ before, P before [])
    (hit : ∀ before s m, matchAt? r before s = some m → P (m.text.getLast?.or before) m.rest → P before s)
    (letter : ∀ before a s, matchAt? r before (a :: s) = none → P (some a) s → P before (a :: s))
    (before : Option α) (s : List α) : P before s := by
  induction hn : s.length using Nat.strong_induction_on generalizing before s with
  | _ n ih =>
    cases h : matchAt? r before s with
    | some m =>
      have hmem := matchAt?_mem h
      have hlen := congrArg List.length (text_append_rest hmem)
      have hpos := hr.trans_le (least_le hmem)
      rw [List.length_append] at hlen
      exact hit before s m h (ih m.rest.length (by omega) _ _ rfl)
    | none =>
      cases s with
      | nil => exact nil before
      | cons a s =>
        rw [List.length_cons] at hn
        exact letter before a s h (ih s.length (by omega) _ _ rfl)

/-- The text of a piece. -/
def Piece.text : Piece α → List α
  | letter a => [a]
  | hit m => m.text

/-- The pieces make the text. -/
theorem flatMap_pieces (hr : 0 < r.least) (before : Option α) (s : List α) :
    (pieces r 0 before s).flatMap Piece.text = s := by
  induction before, s using @search_induction α _ r _ hr with
  | nil before => rfl
  | hit before s m h ih =>
    rw [pieces_hit hr h, List.flatMap_cons, ih]
    exact text_append_rest (matchAt?_mem h)
  | letter before a s h ih =>
    rw [pieces_letter h, List.flatMap_cons, ih]
    rfl

/-- A match of a search is one at its place. -/
theorem exists_of_hit (hr : 0 < r.least) (h : .hit m ∈ pieces r 0 before s) :
    ∃ u, s = u ++ (m.text ++ m.rest) ∧ m ∈ ways r (u.getLast?.or before) (m.text ++ m.rest) := by
  induction before, s using @search_induction α _ r _ hr with
  | nil before => cases h
  | hit before s m' h' ih =>
    have hmem := matchAt?_mem h'
    have htext := text_append_rest hmem
    rw [pieces_hit hr h'] at h
    rcases List.mem_cons.1 h with heq | h
    · cases heq
      exact ⟨[], htext.symm, by rwa [htext]⟩
    · obtain ⟨u, hu, hm⟩ := ih h
      refine ⟨m'.text ++ u, by rw [← htext, hu, List.append_assoc], ?_⟩
      rwa [List.getLast?_append, Option.or_assoc]
  | letter before a s h' ih =>
    rw [pieces_letter h'] at h
    rcases List.mem_cons.1 h with heq | h
    · cases heq
    · obtain ⟨u, hu, hm⟩ := ih h
      refine ⟨a :: u, by rw [hu, List.cons_append], ?_⟩
      rwa [getLast?_cons_or]

/-- A text without what each match needs stays as it is. -/
theorem replaceAll_of_lacking {q : UInt16 → Bool} (hr : 0 < r.least) (hneeds : r.Needs q)
    (hs : ∀ a ∈ s, q (code a) = false) (f : Match α → List α) : replaceAll r f s = s := by
  conv_rhs => rw [← flatMap_pieces hr none s]
  refine List.flatMap_congr fun piece hpiece => ?_
  cases piece with
  | letter a => rfl
  | hit m =>
    obtain ⟨u, hu, hm⟩ := exists_of_hit hr hpiece
    obtain ⟨a, ha, hq⟩ := exists_of_needs hneeds hm
    have hmem : a ∈ s := hu ▸ List.mem_append_right u (List.mem_append_left _ ha)
    cases (hs a hmem).symm.trans hq

/-- Where no match is found from a place on, there are letters only, and else there are letters up to the first
match. -/
theorem pieces_of_find? (hr : 0 < r.least) (before : Option α) (s : List α) :
    match find? r before s with
    | none => pieces r 0 before s = s.map .letter
    | some (i, m) => pieces r 0 before s = (s.take i).map .letter ++
        .hit m :: pieces r 0 ((s.take i ++ m.text).getLast?.or before) m.rest ∧ s = s.take i ++ (m.text ++ m.rest) := by
  induction s generalizing before with
  | nil =>
    have hnone : matchAt? r before [] = none := by
      rw [Option.eq_none_iff_forall_not_mem]
      intro m hm
      have hmem := matchAt?_mem hm
      have hpos := hr.trans_le (least_le hmem)
      exact absurd (List.append_eq_nil_iff.1 (text_append_rest hmem)).1 (List.ne_nil_of_length_pos hpos)
    rw [find?, hnone]
    rfl
  | cons a s ih =>
    unfold find?
    cases h : matchAt? r before (a :: s) with
    | some m => exact ⟨pieces_hit hr h, (text_append_rest (matchAt?_mem h)).symm⟩
    | none =>
      have ih := ih (some a)
      dsimp only
      cases hfind : find? r (some a) s with
      | none =>
        rw [hfind] at ih
        show pieces r 0 before (a :: s) = _
        rw [pieces_letter h, ih]
        rfl
      | some found =>
        obtain ⟨i, m⟩ := found
        rw [hfind] at ih
        obtain ⟨hpieces, hs⟩ := ih
        refine ⟨?_, ?_⟩
        · rw [pieces_letter h, hpieces]
          show _ = List.map Piece.letter (a :: s.take i) ++
            .hit m :: pieces r 0 ((a :: s.take i ++ m.text).getLast?.or before) m.rest
          rw [List.cons_append, getLast?_cons_or]
          rfl
        · exact congrArg (a :: ·) hs

/-! ### Letters that are replaced by others with the same code units -/

variable {f : α → β} (hf : ∀ a, code (f a) = code a)
include hf

theorem map_code (s : List α) : (s.map f).map code = s.map code := by
  rw [List.map_map]
  exact List.map_congr_left fun a _ => hf a

theorem ends_map (o : Option α) : ends (o.map f) = ends o := by
  cases o with
  | none => rfl
  | some a => exact congrArg isTerminator (hf a)

theorem ways_map (r : RegExp) (before : Option α) (s : List α) :
    ways r (before.map f) (s.map f) = (ways r before s).map (Match.map f) := by
  induction r generalizing before s with
  | word us =>
    unfold ways
    rw [← List.map_take, map_code hf, ← List.map_drop]
    split <;> rfl
  | many p fewest most lazily =>
    have hcounts : counts p fewest most lazily (s.map f) = counts p fewest most lazily s := by
      have hpred : (fun a : β => p (code a)) ∘ f = fun a => p (code a) := funext fun a => congrArg p (hf a)
      unfold counts
      rw [List.takeWhile_map, hpred, List.length_map]
    rw [ways, ways, hcounts, List.map_map]
    refine List.map_congr_left fun n _ => ?_
    rw [← List.map_take, ← List.map_drop]
    rfl
  | seq r t ihr iht =>
    have hbehind : ∀ m : Match α, (m.map f).text.getLast?.or (before.map f) =
        (m.text.getLast?.or before).map f := by
      intro m
      show (m.text.map f).getLast?.or (before.map f) = _
      rw [List.getLast?_map]
      cases m.text.getLast? <;> rfl
    have happend : ∀ m m' : Match α, (m.map f).append (m'.map f) = (m.append m').map f := by
      intro m m'
      simp only [Match.append, Match.map, List.map_append]
    rw [ways, ways, ihr, List.flatMap_map, List.map_flatMap]
    refine List.flatMap_congr fun m _ => ?_
    have hrest : (m.map f).rest = m.rest.map f := rfl
    rw [hbehind, hrest, iht, List.map_map, List.map_map]
    exact List.map_congr_left fun m' _ => happend m m'
  | alt r t ihr iht => rw [ways, ways, ihr, iht, List.map_append]
  | opt r ih => rw [ways, ways, ih, List.map_append]; rfl
  | group n r ih =>
    rw [ways, ways, ih, List.map_map, List.map_map]
    rfl
  | lineStart =>
    rw [ways, ways, ends_map hf]
    split <;> rfl
  | lineEnd =>
    rw [ways, ways, List.head?_map, ends_map hf]
    split <;> rfl

theorem matchAt?_map (r : RegExp) (before : Option α) (s : List α) :
    matchAt? r (before.map f) (s.map f) = (matchAt? r before s).map (Match.map f) := by
  rw [matchAt?, ways_map hf, List.head?_map]
  rfl

/-- The same piece of another text. -/
def Piece.map (f : α → β) : Piece α → Piece β
  | letter a => letter (f a)
  | hit m => hit (m.map f)

theorem pieces_map (r : RegExp) (n : Nat) (before : Option α) (s : List α) :
    pieces r n (before.map f) (s.map f) = (pieces r n before s).map (Piece.map f) := by
  induction s generalizing n before with
  | nil => rw [List.map_nil, pieces, pieces, List.map_nil]
  | cons a s ih =>
    cases n with
    | succ n => exact ih n (some a)
    | zero =>
      have hmatch := matchAt?_map hf r before (a :: s)
      rw [List.map_cons] at hmatch ⊢
      rw [pieces, pieces, hmatch]
      cases matchAt? r before (a :: s) with
      | none => exact congrArg _ (ih 0 (some a))
      | some m =>
        have hlen : (m.map f).text.length = m.text.length := List.length_map f
        show Piece.hit (m.map f) :: pieces r ((m.map f).text.length - 1) (some (f a)) (s.map f) = _
        rw [hlen]
        exact congrArg _ (ih _ (some a))

theorem replaceAll_map {g : Match α → List α} {g' : Match β → List β} (hg : ∀ m, g' (m.map f) = (g m).map f)
    (r : RegExp) (s : List α) : replaceAll r g' (s.map f) = (replaceAll r g s).map f := by
  have hpieces := pieces_map hf r 0 none s
  rw [Option.map_none] at hpieces
  rw [replaceAll, replaceAll, hpieces, List.flatMap_map, List.map_flatMap]
  refine List.flatMap_congr fun piece _ => ?_
  cases piece with
  | letter a => rfl
  | hit m => exact hg m

end

end RegExp

end Text
