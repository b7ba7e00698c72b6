import HeraldGateway.Async.Pool
import HeraldGateway.Async.Protocol

/-!
# Pools that refine a protocol

`Follows` relates a program to the moves of a party of a `Protocol`: whatever the store is when a call
is answered, the call is a move. A pool of programs that follow a protocol refines it: every run of the
pool is a run of the protocol on a view of its store, and what a program returned or threw is what its
party's last phase allows.
-/

namespace Async

variable {S : Signature} {ε α ρ σ C E φ L : Type}

/-- Whatever the store is when a call of the program is answered, the call is a move from the phase
the party is in, and the phase it ends in allows the program's result. -/
def Follows (h : Handler S ε σ C) (allows : C → σ → S.Op → Prop) (moves : φ → σ → φ → σ → Prop)
    (done : φ → Except ε α → Prop) : Prog S ε α → φ → Prop
  | .ret a, x => done x (.ok a)
  | .throw e, x => done x (.error e)
  | .choose k, x => ∀ b, Follows h allows moves done (k b) x
  | .call o k, x => ∀ c s, allows c s o →
      ∃ y, moves x s y (h c s o).2 ∧ Follows h allows moves done (k (h c s o).1) y

section follows

variable {h : Handler S ε σ C} {allows : C → σ → S.Op → Prop} {moves : φ → σ → φ → σ → Prop}
  {done done' : φ → Except ε α → Prop} {β : Type} {x : φ}

theorem Follows.mono {p : Prog S ε α} (hd : ∀ x r, done x r → done' x r)
    (hp : Follows h allows moves done p x) : Follows h allows moves done' p x := by
  induction p generalizing x with
  | ret a => exact hd _ _ hp
  | throw e => exact hd _ _ hp
  | choose k ih => exact fun b => ih b (hp b)
  | call o k ih =>
    intro c s hc
    obtain ⟨y, hm, hk⟩ := hp c s hc
    exact ⟨y, hm, ih _ hk⟩

/-- A program that has ended did so in a phase that allows its result. -/
theorem Follows.result {p : Prog S ε α} {r : Except ε α} (hp : Follows h allows moves done p x)
    (hr : p.result? = some r) : done x r := by
  cases p with
  | ret | throw =>
    obtain rfl := Option.some.inj hr
    exact hp
  | choose | call => cases hr

theorem Follows.andThen {p : Prog S ε β} {f : Except ε β → Prog S ε α}
    (hp : Follows h allows moves (fun y r => Follows h allows moves done (f r) y) p x) :
    Follows h allows moves done (p.andThen f) x := by
  induction p generalizing x with
  | ret a => exact hp
  | throw e => exact hp
  | choose k ih => exact fun b => ih b (hp b)
  | call o k ih =>
    intro c s hc
    obtain ⟨y, hm, hk⟩ := hp c s hc
    exact ⟨y, hm, ih _ hk⟩

theorem Follows.bind {p : Prog S ε β} {f : β → Prog S ε α} {mid : φ → Except ε β → Prop}
    (hp : Follows h allows moves mid p x) (hf : ∀ y a, mid y (.ok a) → Follows h allows moves done (f a) y)
    (he : ∀ y e, mid y (.error e) → done y (.error e)) :
    Follows h allows moves done (p.bind f) x :=
  Follows.andThen (hp.mono fun y r hr => by
    cases r with
    | ok a => exact hf y a hr
    | error e => exact he y e hr)

theorem Follows.tryCatch {p : Prog S ε α} {f : ε → Prog S ε α} {mid : φ → Except ε α → Prop}
    (hp : Follows h allows moves mid p x) (hok : ∀ y a, mid y (.ok a) → done y (.ok a))
    (he : ∀ y e, mid y (.error e) → Follows h allows moves done (f e) y) :
    Follows h allows moves done (p.tryCatch f) x :=
  Follows.andThen (hp.mono fun y r hr => by
    cases r with
    | ok a => exact hok y a hr
    | error e => exact he y e hr)

/-- What comes after a call whose failure is kept as a result. -/
theorem Follows.bind_settle {p : Prog S ε β} {f : Except ε β → Prog S ε α} {mid : φ → Except ε β → Prop}
    (hp : Follows h allows moves mid p x) (hf : ∀ y r, mid y r → Follows h allows moves done (f r) y) :
    Follows h allows moves done (p.settle.bind f) x := by
  have hsettle : Follows h allows moves (fun y r => ∃ r', r = .ok r' ∧ mid y r') p.settle x :=
    Follows.andThen (hp.mono fun _ r hr => ⟨r, rfl, hr⟩)
  refine hsettle.bind (fun y a ⟨r, ha, hr⟩ => ?_) fun y e ⟨r, he, _⟩ => nomatch he
  rw [Except.ok.inj ha]
  exact hf y r hr

theorem Follows.perform {o : S.Op} {done : φ → Except ε (S.Res o) → Prop}
    (hp : ∀ c s, allows c s o → ∃ y, moves x s y (h c s o).2 ∧ done y (h c s o).1) :
    Follows h allows moves done (Prog.perform o) x := by
  intro c s hc
  obtain ⟨y, hm, hd⟩ := hp c s hc
  refine ⟨y, hm, ?_⟩
  cases hr : (h c s o).1 <;> rw [hr] at hd <;> exact hd

end follows

section refinement

variable {sys : System S ε α ρ σ C E} {P : Protocol (ρ × σ) φ L}

/-- How the programs of a system relate to a protocol over a view of their store, in runs whose steps
satisfy `ok`. -/
structure Refinement (sys : System S ε α ρ σ C E) (P : Protocol (ρ × σ) φ L) where
  /-- What the protocol sees of the store. -/
  view : σ → L
  /-- The steps considered. -/
  ok : Pool S ε α ρ σ C → Label ρ C E → Prop
  /-- The answers considered, by the request whose call is answered. -/
  allows : ρ → C → σ → S.Op → Prop
  /-- The results a phase allows. -/
  done : Nat → ρ × σ → φ → Except ε α → Prop
  /-- The program of a request follows the protocol. -/
  follows : ∀ i r s, Follows sys.handler (allows r)
    (fun x s₁ y s₂ => P.moves i (r, s) x (view s₁) y (view s₂)) (done i (r, s)) (sys.code r i) P.start
  /-- A request that arrives in a pool may arrive in any configuration that the pool refines. -/
  arrives : ∀ p r, ok p (.arrive r) → ∀ ps : List (Party (ρ × σ) φ),
    (∀ q ∈ ps, ∃ t ∈ p.threads, q.request = (t.request, t.birth) ∧ q.live = t.prog.running) →
      P.arrives ⟨view p.store, ps⟩ (r, p.store)
  /-- The answers of the steps considered are among those considered. -/
  picks : ∀ p i c t o k, ok p (.pick i c) → p.threads[i]? = some t → t.prog = .call o k →
    allows t.request c.2 p.store o
  /-- Changes from outside are changes from outside. -/
  outside : ∀ p e s, ok p (.outside e) → sys.outside e p.store = some s →
    P.outside (view p.store) (view s)

namespace Refinement

variable (F : Refinement sys P)

/-- A thread refines a party. -/
structure Matches (i : Nat) (t : Thread S ε α ρ σ C) (q : Party (ρ × σ) φ) : Prop where
  /-- They have the same request. -/
  request : q.request = (t.request, t.birth)
  /-- They end together. -/
  live : q.live = t.prog.running
  /-- What is left of the program follows the protocol from the party's phase. -/
  follows : Follows sys.handler (F.allows t.request)
    (fun x s₁ y s₂ => P.moves i (t.request, t.birth) x (F.view s₁) y (F.view s₂))
    (F.done i (t.request, t.birth)) t.prog q.phase

/-- A pool refines a configuration. -/
structure Refines (p : Pool S ε α ρ σ C) (c : Config (ρ × σ) φ L) : Prop where
  /-- The ledger is what the protocol sees of the store. -/
  ledger : c.ledger = F.view p.store
  /-- Threads and parties correspond by their numbers. -/
  length : c.parties.length = p.threads.length
  /-- Each thread refines its party. -/
  threads : ∀ (i : Nat) t q, p.threads[i]? = some t → c.parties[i]? = some q → F.Matches i t q

variable {F} {p p' : Pool S ε α ρ σ C} {c : Config (ρ × σ) φ L}

theorem Refines.party (h : F.Refines p c) {i : Nat} {t : Thread S ε α ρ σ C}
    (ht : p.threads[i]? = some t) : ∃ q, c.parties[i]? = some q ∧ F.Matches i t q := by
  have hi : i < c.parties.length := h.length ▸ (List.getElem?_eq_some_iff.1 ht).1
  exact ⟨c.parties[i], List.getElem?_eq_getElem hi, h.threads i t _ ht (List.getElem?_eq_getElem hi)⟩

theorem Refines.thread (h : F.Refines p c) {i : Nat} {q : Party (ρ × σ) φ}
    (hq : c.parties[i]? = some q) : ∃ t, p.threads[i]? = some t ∧ F.Matches i t q := by
  have hi : i < p.threads.length := h.length ▸ (List.getElem?_eq_some_iff.1 hq).1
  exact ⟨p.threads[i], List.getElem?_eq_getElem hi, h.threads i _ q (List.getElem?_eq_getElem hi) hq⟩

theorem refines_arrive {r : ρ} (hok : F.ok p (.arrive r)) (h : F.Refines p c) :
    ∃ c', P.Step c c' ∧
      F.Refines ⟨p.store, p.threads ++ [⟨r, p.store, [], sys.code r p.threads.length⟩]⟩ c' := by
  have harr : P.arrives c (r, p.store) := by
    have := F.arrives p r hok c.parties fun q hq => by
      obtain ⟨i, hi⟩ := List.mem_iff_getElem?.1 hq
      obtain ⟨t, ht, hm⟩ := h.thread hi
      exact ⟨t, List.mem_of_getElem? ht, hm.request, hm.live⟩
    rwa [← h.ledger] at this
  refine ⟨_, .arrive (sys.code r p.threads.length).running harr, h.ledger, by simp [h.length], ?_⟩
  intro i t q ht hq
  rcases Nat.lt_trichotomy i p.threads.length with hi | rfl | hi
  · rw [List.getElem?_append_left hi] at ht
    rw [List.getElem?_append_left (h.length ▸ hi)] at hq
    exact h.threads i t q ht hq
  · rw [List.getElem?_append_right (Nat.le_of_eq h.length)] at hq
    simp only [h.length, Nat.sub_self, List.getElem?_cons_zero, List.getElem?_concat_length,
      Option.some.injEq] at ht hq
    subst ht hq
    exact ⟨rfl, rfl, F.follows _ _ _⟩
  · rw [List.getElem?_eq_none (by simp; omega)] at ht
    cases ht

/-- Replacing a thread and its party by ones that match keeps the refinement. -/
theorem refines_set {i : Nat} {t : Thread S ε α ρ σ C} {q : Party (ρ × σ) φ} {s : σ} {l : L}
    (h : F.Refines p c) (hl : l = F.view s) (hm : F.Matches i t q) :
    F.Refines ⟨s, p.threads.set i t⟩ ⟨l, c.parties.set i q⟩ := by
  refine ⟨hl, by simp [h.length], fun j t' q' ht hq => ?_⟩
  by_cases hj : j = i
  · subst hj
    rw [List.getElem?_set] at ht hq
    by_cases hlt : j < p.threads.length
    · simp only [if_pos hlt, if_pos (h.length ▸ hlt), if_true, Option.some.injEq] at ht hq
      subst ht hq
      exact hm
    · simp [hlt] at ht
  · rw [List.getElem?_set_ne (Ne.symm hj)] at ht hq
    exact h.threads j t' q' ht hq

theorem refines_pick {i : Nat} {b : Bool × C} (hok : F.ok p (.pick i b))
    (hs : sys.step p (.pick i b) = some p') (h : F.Refines p c) :
    ∃ c', P.Step c c' ∧ F.Refines p' c' := by
  obtain ⟨t, ht, hcase⟩ := System.step_pick hs
  obtain ⟨⟨req, x, live⟩, hq, hm⟩ := h.party ht
  obtain rfl : req = _ := hm.request
  have hf := hm.follows
  rcases hcase with ⟨k, hprog, rfl⟩ | ⟨o, k, hprog, rfl⟩
  · have hlive : live = true := by simpa [hprog, Prog.running, Prog.result?] using hm.live
    subst hlive
    rw [hprog] at hf
    exact ⟨_, .move (k b.1).running hq (P.stays i _ x c.ledger),
      refines_set h h.ledger ⟨rfl, rfl, hf b.1⟩⟩
  · have hlive : live = true := by simpa [hprog, Prog.running, Prog.result?] using hm.live
    subst hlive
    rw [hprog] at hf
    obtain ⟨y, hmove, hk⟩ := hf b.2 p.store (F.picks p i b t o k hok ht hprog)
    rw [← h.ledger] at hmove
    exact ⟨_, .move _ hq hmove, refines_set h rfl ⟨rfl, rfl, hk⟩⟩

/-- One step of the pool is one step of the protocol. -/
theorem refines_step {l : Label ρ C E} (hok : F.ok p l) (hs : sys.step p l = some p')
    (h : F.Refines p c) : ∃ c', P.Step c c' ∧ F.Refines p' c' := by
  cases l with
  | arrive r =>
    obtain rfl := Option.some.inj hs
    exact refines_arrive hok h
  | pick i b => exact refines_pick hok hs h
  | outside e =>
    obtain ⟨s, he, rfl⟩ := System.step_outside hs
    have hout := F.outside p e s hok he
    rw [← h.ledger] at hout
    exact ⟨_, .outside hout, rfl, h.length, h.threads⟩

/-- A pool whose programs follow a protocol refines it: whatever its run, some run of the protocol
matches it. -/
theorem refines_run {ls : List (Label ρ C E)} {l : L} (hok : sys.Keeps F.ok p ls)
    (hr : sys.run p ls = some p') (hc : P.Reachable l c) (h : F.Refines p c) :
    ∃ c', P.Reachable l c' ∧ F.Refines p' c' := by
  refine System.Keeps.induction (I := fun p => ∃ c, P.Reachable l c ∧ F.Refines p c) ?_ hok hr
    ⟨c, hc, h⟩
  rintro p lb p' hok ⟨c, hc, h⟩ hs
  obtain ⟨c', hstep, h'⟩ := refines_step hok hs h
  exact ⟨c', hc.step hstep, h'⟩

/-- The same from the empty pool. -/
theorem refines_of_empty {ls : List (Label ρ C E)} {s : σ} (hok : sys.Keeps F.ok (Pool.empty s) ls)
    (hr : sys.run (Pool.empty s) ls = some p') :
    ∃ c, P.Reachable (F.view s) c ∧ F.Refines p' c :=
  refines_run hok hr .init ⟨rfl, rfl, nofun⟩

end Refinement

end refinement

end Async
