import Mathlib.Data.List.Basic

/-!
# Protocols of parties over a shared ledger

Any number of parties arrive one after another, each with a request, and move through phases of their
own while they read and write one ledger; others may change the ledger too. A `Protocol` says which
arrivals, moves and outside changes there are, as relations, so a party's next move may depend on
anything in the ledger.

`Protocol.Invariant` packages the induction over runs: a property of the ledger, a property of each
party with the ledger, and a relation between any two live parties. One has to show what an arrival, a
move of one party and an outside change do to each; `Invariant.of_reachable` then gives all three in
every reachable configuration.
-/

namespace Async

/-- A party of a protocol: its request, its phase, and whether it still moves. -/
structure Party (ρ φ : Type) where
  /-- What the party came with. -/
  request : ρ
  /-- How far it has come. -/
  phase : φ
  /-- Whether it has not ended yet. -/
  live : Bool

/-- A configuration: the ledger and the parties in the order of their arrival. -/
structure Config (ρ φ L : Type) where
  /-- The shared ledger. -/
  ledger : L
  /-- The parties; the index of a party is its number. -/
  parties : List (Party ρ φ)

/-- What the parties and their surroundings may do. -/
structure Protocol (ρ φ L : Type) where
  /-- The phase of a party that has just arrived. -/
  start : φ
  /-- Which request may arrive in a configuration. -/
  arrives : Config ρ φ L → ρ → Prop
  /-- The moves of the party of a given number and request. -/
  moves : Nat → ρ → φ → L → φ → L → Prop
  /-- What others may do to the ledger. -/
  outside : L → L → Prop
  /-- A party may stay where it is. -/
  stays : ∀ i r x l, moves i r x l x l

namespace Protocol

variable {ρ φ L : Type} {P : Protocol ρ φ L}

/-- One step of a protocol. -/
inductive Step (P : Protocol ρ φ L) : Config ρ φ L → Config ρ φ L → Prop where
  /-- A party arrives. -/
  | arrive {c : Config ρ φ L} {r : ρ} (live : Bool) (h : P.arrives c r) :
      Step P c ⟨c.ledger, c.parties ++ [⟨r, P.start, live⟩]⟩
  /-- A live party moves, and may end with it. -/
  | move {c : Config ρ φ L} {i : Nat} {r : ρ} {x y : φ} {l : L} (live : Bool)
      (hi : c.parties[i]? = some ⟨r, x, true⟩) (h : P.moves i r x c.ledger y l) :
      Step P c ⟨l, c.parties.set i ⟨r, y, live⟩⟩
  /-- The surroundings change the ledger. -/
  | outside {c : Config ρ φ L} {l : L} (h : P.outside c.ledger l) : Step P c ⟨l, c.parties⟩

/-- The configurations that runs from the ledger `l` lead to. -/
inductive Reachable (P : Protocol ρ φ L) (l : L) : Config ρ φ L → Prop where
  /-- Nobody has arrived yet. -/
  | init : Reachable P l ⟨l, []⟩
  /-- One step further. -/
  | step {c c' : Config ρ φ L} (h : Reachable P l c) (hs : Step P c c') : Reachable P l c'

/-- An inductive invariant of a protocol: `common` of the number of parties and the ledger, `own` of
each party, and `apart` of any two live ones. -/
structure Invariant (P : Protocol ρ φ L) where
  /-- What holds of the ledger, given how many parties have arrived. -/
  common : Nat → L → Prop
  /-- What holds of the party with a given number. -/
  own : Nat → Party ρ φ → L → Prop
  /-- What holds between the requests of two live parties. -/
  apart : ρ → ρ → L → Prop
  /-- It does not matter in which order two parties are named. -/
  apart_symm : ∀ {r r' l}, apart r r' l → apart r' r l
  /-- An arrival adds a party and changes nothing else. -/
  common_arrive : ∀ {c r}, P.arrives c r → common c.parties.length c.ledger →
    common (c.parties.length + 1) c.ledger
  /-- A party that arrives satisfies its part. -/
  own_arrive : ∀ {c r} live, P.arrives c r → common c.parties.length c.ledger →
    own c.parties.length ⟨r, P.start, live⟩ c.ledger
  /-- A party that arrives is apart from every live one. -/
  apart_arrive : ∀ {c r}, P.arrives c r → common c.parties.length c.ledger →
    ∀ p ∈ c.parties, p.live = true → apart p.request r c.ledger
  /-- A move keeps what holds of the ledger. -/
  common_move : ∀ {n i r x l y l'}, i < n → common n l → own i ⟨r, x, true⟩ l →
    P.moves i r x l y l' → common n l'
  /-- A move keeps what holds of the party that makes it. -/
  own_move : ∀ {n i r x l y l'} live, i < n → common n l → own i ⟨r, x, true⟩ l →
    P.moves i r x l y l' → own i ⟨r, y, live⟩ l'
  /-- A move keeps what holds of every other party. -/
  own_other : ∀ {n i r x l y l' j p}, i < n → common n l → own i ⟨r, x, true⟩ l →
    P.moves i r x l y l' → j ≠ i → (p.live = true → apart r p.request l) → own j p l → own j p l'
  /-- A move keeps what holds between any two parties. -/
  apart_move : ∀ {i r x l y l' r₁ r₂}, P.moves i r x l y l' → apart r₁ r₂ l → apart r₁ r₂ l'
  /-- So do changes from outside. -/
  common_outside : ∀ {n l l'}, P.outside l l' → common n l → common n l'
  /-- So do changes from outside. -/
  own_outside : ∀ {n i p l l'}, P.outside l l' → common n l → own i p l → own i p l'
  /-- So do changes from outside. -/
  apart_outside : ∀ {l l' r₁ r₂}, P.outside l l' → apart r₁ r₂ l → apart r₁ r₂ l'

/-- An invariant holds of a configuration. -/
structure Invariant.Holds (I : Invariant P) (c : Config ρ φ L) : Prop where
  /-- The ledger satisfies the common part. -/
  common : I.common c.parties.length c.ledger
  /-- Every party satisfies its own part. -/
  own : ∀ (i : Nat) (p : Party ρ φ), c.parties[i]? = some p → I.own i p c.ledger
  /-- Any two live parties are apart. -/
  apart : ∀ (i j : Nat) (p q : Party ρ φ), c.parties[i]? = some p → c.parties[j]? = some q → i ≠ j →
    p.live = true → q.live = true → I.apart p.request q.request c.ledger

namespace Invariant

variable {I : Invariant P} {c c' : Config ρ φ L}

/-- The number of a party is below the number of parties. -/
theorem lt_of_getElem? {ps : List (Party ρ φ)} {i : Nat} {p : Party ρ φ} (h : ps[i]? = some p) :
    i < ps.length :=
  (List.getElem?_eq_some_iff.1 h).1

theorem holds_arrive {r : ρ} (live : Bool) (h : P.arrives c r) (hc : I.Holds c) :
    I.Holds ⟨c.ledger, c.parties ++ [⟨r, P.start, live⟩]⟩ := by
  have old : ∀ {i p}, (c.parties ++ [⟨r, P.start, live⟩])[i]? = some p →
      c.parties[i]? = some p ∨ i = c.parties.length ∧ p = ⟨r, P.start, live⟩ := by
    intro i p hp
    rcases Nat.lt_trichotomy i c.parties.length with hi | rfl | hi
    · exact .inl (by rwa [List.getElem?_append_left hi] at hp)
    · simp at hp
      exact .inr ⟨rfl, hp.symm⟩
    · rw [List.getElem?_eq_none (by simp; omega)] at hp
      cases hp
  refine ⟨?_, ?_, ?_⟩
  · simpa using I.common_arrive h hc.common
  · intro i p hp
    rcases old hp with hp | ⟨rfl, rfl⟩
    · exact hc.own i p hp
    · exact I.own_arrive live h hc.common
  · intro i j p q hp hq hij hlp hlq
    rcases old hp with hp | ⟨rfl, rfl⟩ <;> rcases old hq with hq | ⟨rfl, rfl⟩
    · exact hc.apart i j p q hp hq hij hlp hlq
    · exact I.apart_arrive h hc.common p (List.mem_of_getElem? hp) hlp
    · exact I.apart_symm (I.apart_arrive h hc.common q (List.mem_of_getElem? hq) hlq)
    · exact absurd rfl hij

theorem holds_move {i : Nat} {r : ρ} {x y : φ} {l : L} (live : Bool)
    (hi : c.parties[i]? = some ⟨r, x, true⟩) (h : P.moves i r x c.ledger y l) (hc : I.Holds c) :
    I.Holds ⟨l, c.parties.set i ⟨r, y, live⟩⟩ := by
  have hlt := lt_of_getElem? hi
  have hown := hc.own i _ hi
  have cases_set : ∀ {j p}, (c.parties.set i ⟨r, y, live⟩)[j]? = some p →
      j = i ∧ p = ⟨r, y, live⟩ ∨ j ≠ i ∧ c.parties[j]? = some p := by
    intro j p hp
    by_cases hj : j = i
    · subst hj
      rw [List.getElem?_set_self hlt] at hp
      exact .inl ⟨rfl, (Option.some.inj hp).symm⟩
    · rw [List.getElem?_set_ne (Ne.symm hj)] at hp
      exact .inr ⟨hj, hp⟩
  refine ⟨?_, ?_, ?_⟩
  · simpa using I.common_move hlt hc.common hown h
  · intro j p hp
    rcases cases_set hp with ⟨rfl, rfl⟩ | ⟨hj, hp⟩
    · exact I.own_move live hlt hc.common hown h
    · exact I.own_other hlt hc.common hown h hj
        (fun hl => hc.apart i j _ p hi hp (Ne.symm hj) rfl hl) (hc.own j p hp)
  · intro j k p q hp hq hjk hlp hlq
    refine I.apart_move h ?_
    rcases cases_set hp with ⟨hj, hp'⟩ | ⟨hj, hp'⟩ <;>
      rcases cases_set hq with ⟨hk, hq'⟩ | ⟨hk, hq'⟩
    · exact absurd (hj.trans hk.symm) hjk
    · rw [hp']
      exact hc.apart i k ⟨r, x, true⟩ q hi hq' (Ne.symm hk) rfl hlq
    · rw [hq']
      exact hc.apart j i p ⟨r, x, true⟩ hp' hi hj hlp rfl
    · exact hc.apart j k p q hp' hq' hjk hlp hlq

theorem holds_step (hs : P.Step c c') (hc : I.Holds c) : I.Holds c' := by
  cases hs with
  | arrive live h => exact holds_arrive live h hc
  | move live hi h => exact holds_move live hi h hc
  | outside h =>
    refine ⟨I.common_outside h hc.common, fun i p hp => ?_, fun i j p q hp hq hij hlp hlq => ?_⟩
    · exact I.own_outside h hc.common (hc.own i p hp)
    · exact I.apart_outside h (hc.apart i j p q hp hq hij hlp hlq)

/-- An invariant that holds of the first ledger holds of every reachable configuration. -/
theorem of_reachable {l : L} (h0 : I.common 0 l) (h : P.Reachable l c) : I.Holds c := by
  induction h with
  | init => exact ⟨h0, nofun, nofun⟩
  | step _ hs ih => exact holds_step hs ih

end Invariant

end Protocol

end Async
