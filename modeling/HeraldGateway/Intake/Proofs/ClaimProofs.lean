import HeraldGateway.Intake.Claim
import Mathlib.Data.List.Perm.Basic
import Mathlib.Data.List.Nodup
import Mathlib.Data.List.Pairwise

/-!
# What the idempotency protocol guarantees

One invariant carries the three guarantees that need no assumption on arrivals beyond ownership of
keys: at most one slot and one job for a key, no job of a request that gave up (unless abandoned adds
complete), and, in settled runs, an answer that names an enqueued slot of the asker's. The invariant is
stated for a ledger (`Common`) and for one request (`Own`); `Frames` is what a step of somebody else
does to what a request owns.
-/

namespace Intake

open Async

variable {Id Key Owner ρ : Type} {R : Rules Id Key Owner ρ}

/-- What holds of the ledger once `n` requests have arrived. -/
structure Common (R : Rules Id Key Owner ρ) (n : Nat) (l : Ledger Id Key Owner) : Prop where
  /-- Every slot is of a request that has arrived. -/
  slotOf : ∀ s ∈ l.slots, ∃ j < n, s.id = R.ident j
  /-- So is every hold. -/
  heldBy : ∀ k id, l.held k = some id → ∃ j < n, id = R.ident j
  /-- A key is held by a notification stored under it, where that is stored. -/
  heldKey : ∀ k, ∀ s ∈ l.slots, l.held k = some s.id → s.key = some k
  /-- No two slots have one key. -/
  keys : l.slots.Pairwise fun s s' => ∀ k, s.key = some k → s'.key ≠ some k
  /-- No notification is put on the queue twice. -/
  jobs : (l.queued ++ l.pending).Nodup
  /-- Every job is of a stored notification. -/
  backed : ∀ id ∈ l.queued ++ l.pending, ∃ s ∈ l.slots, s.id = id
  /-- Slots belong to those who may use their key. -/
  owned : ∀ s ∈ l.slots, ∀ k, s.key = some k → R.owns k s.owner

/-- What holds of the `i`-th request. -/
structure Own (R : Rules Id Key Owner ρ) (i : Nat) (p : Party ρ (Phase Id))
    (l : Ledger Id Key Owner) : Prop where
  /-- Its slot is what it asked to store. -/
  slot : ∀ s ∈ l.slots, s.id = R.ident i → s.key = R.key p.request ∧ s.owner = R.owner p.request
  /-- It has no slot before it stores one. -/
  early : p.phase.Early → ∀ s ∈ l.slots, s.id ≠ R.ident i
  /-- It has no job before it reaches the queue. -/
  job : R.ident i ∈ l.queued ++ l.pending → p.phase = .enqueued ∨ p.phase = .failing
  /-- Having given up, it has none on the queue unless abandoned adds complete. -/
  queued : R.ident i ∈ l.queued → p.phase = .enqueued ∨ R.late
  /-- Having stored, it has a slot. -/
  stored : p.phase = .stored → ∃ s ∈ l.slots, s.id = R.ident i
  /-- It holds no key but its own. -/
  held : ∀ k, l.held k = some (R.ident i) → R.key p.request = some k
  /-- It may use its key. -/
  owns : ∀ k, R.key p.request = some k → R.owns k (R.owner p.request)
  /-- In settled runs its answer names an enqueued slot of its key. -/
  answer : ∀ j, p.phase = .answered j → R.settled →
    ∃ s ∈ l.slots, s.id = j ∧ j ∈ l.queued ∧ ∃ k, R.key p.request = some k ∧ s.key = some k

/-- A step that leaves what belongs to `id` as it is, up to abandoned adds. -/
structure Frames (R : Rules Id Key Owner ρ) (id : Id) (l l' : Ledger Id Key Owner) : Prop where
  /-- Slots stay. -/
  slots : ∀ s ∈ l.slots, s ∈ l'.slots
  /-- Jobs stay. -/
  jobs : ∀ j ∈ l.queued, j ∈ l'.queued
  /-- No slot of `id` comes. -/
  slotOf : ∀ s ∈ l'.slots, s.id = id → s ∈ l.slots
  /-- No job of `id` comes. -/
  jobOf : id ∈ l'.queued ++ l'.pending → id ∈ l.queued ++ l.pending
  /-- Jobs of `id` reach the queue only by late completion. -/
  queuedOf : id ∈ l'.queued → id ∈ l.queued ∨ R.late
  /-- No hold of `id` comes. -/
  heldOf : ∀ k, l'.held k = some id → l.held k = some id

theorem Own.of_frames {i : Nat} {p : Party ρ (Phase Id)} {l l' : Ledger Id Key Owner}
    (hf : Frames R (R.ident i) l l') (h : Own R i p l) : Own R i p l' where
  slot s hs hid := h.slot s (hf.slotOf s hs hid) hid
  early he s hs hid := h.early he s (hf.slotOf s hs hid) hid
  job hj := h.job (hf.jobOf hj)
  queued hq := (hf.queuedOf hq).elim h.queued .inr
  stored hx := by
    obtain ⟨s, hs, hid⟩ := h.stored hx
    exact ⟨s, hf.slots s hs, hid⟩
  held k hk := h.held k (hf.heldOf k hk)
  owns := h.owns
  answer j hx hset := by
    obtain ⟨s, hs, hid, hq, hk⟩ := h.answer j hx hset
    exact ⟨s, hf.slots s hs, hid, hf.jobs j hq, hk⟩

theorem Frames.refl {id : Id} {l : Ledger Id Key Owner} : Frames R id l l :=
  ⟨fun _ h => h, fun _ h => h, fun _ h _ => h, fun h => h, .inl, fun _ h => h⟩

variable {l : Ledger Id Key Owner}

theorem frames_store {id : Id} {s : Slot Id Key Owner} (hs : s.id ≠ id) :
    Frames R id l (l.store s) := by
  refine ⟨fun _ h => List.mem_append_left _ h, fun _ h => h, fun s' hs' hid => ?_, fun h => h, .inl,
    fun _ h => h⟩
  rcases List.mem_append.1 hs' with hs' | hs'
  · exact hs'
  · exact absurd (List.mem_singleton.1 hs' ▸ hid) hs

theorem frames_enqueue {id id' : Id} (hid : id' ≠ id) : Frames R id l (l.enqueue id') := by
  refine ⟨fun _ h => h, fun _ h => List.mem_append_left _ h, fun _ h _ => h, fun h => ?_, fun h => ?_,
    fun _ h => h⟩
  · simp only [Ledger.enqueue, List.mem_append, List.mem_singleton] at h ⊢
    rcases h with (h | rfl) | h
    · exact .inl h
    · exact absurd rfl hid
    · exact .inr h
  · simp only [Ledger.enqueue, List.mem_append, List.mem_singleton] at h
    exact h.elim .inl fun h => absurd h.symm hid

theorem frames_abandon {id id' : Id} (hid : id' ≠ id) : Frames R id l (l.abandon id') := by
  refine ⟨fun _ h => h, fun _ h => h, fun _ h _ => h, fun h => ?_, .inl, fun _ h => h⟩
  simp only [Ledger.abandon, List.mem_append, List.mem_singleton] at h ⊢
  rcases h with h | h | rfl
  · exact .inl h
  · exact .inr h
  · exact absurd rfl hid

/-- Changes from outside leave alone what belongs to anybody. -/
theorem Outside.frames {id : Id} {l' : Ledger Id Key Owner} (h : Outside R l l') :
    Frames R id l l' := by
  cases h with
  | expire held hheld =>
    refine ⟨fun _ h => h, fun _ h => h, fun _ h _ => h, fun h => h, .inl, fun k hk => ?_⟩
    exact (hheld k).elim (fun he => he ▸ hk) fun he => absurd (he.symm.trans hk) nofun
  | complete hlate hp =>
    refine ⟨fun _ h => h, fun _ h => List.mem_append_left _ h, fun _ h _ => h, fun h => ?_,
      fun _ => .inr hlate, fun _ h => h⟩
    simp only [hp, List.mem_append, List.mem_cons, List.not_mem_nil, or_false] at h ⊢
    tauto
  | drop hp =>
    refine ⟨fun _ h => h, fun _ h => h, fun _ h _ => h, fun h => ?_, .inl, fun _ h => h⟩
    simp only [hp, List.mem_append, List.mem_cons] at h ⊢
    tauto

/-! ### The ledger -/

theorem Common.store {n i : Nat} {s : Slot Id Key Owner} (hi : i < n) (hid : s.id = R.ident i)
    (hv : ∀ k, s.key = some k → l.Vacant k) (hh : ∀ k, l.held k = some s.id → s.key = some k)
    (ho : ∀ k, s.key = some k → R.owns k s.owner) (hc : Common R n l) : Common R n (l.store s) where
  slotOf := by
    simp only [Ledger.store, List.mem_append, List.mem_singleton]
    rintro s' (hs' | rfl)
    · exact hc.slotOf s' hs'
    · exact ⟨i, hi, hid⟩
  heldBy := hc.heldBy
  heldKey k := by
    simp only [Ledger.store, List.mem_append, List.mem_singleton]
    rintro s' (hs' | rfl)
    · exact hc.heldKey k s' hs'
    · exact hh k
  keys := by
    refine List.pairwise_append.2 ⟨hc.keys, List.pairwise_singleton _ _, fun s' hs' s'' hs'' k hk => ?_⟩
    rw [List.mem_singleton.1 hs'']
    exact fun hk' => hv k hk' s' hs' hk
  jobs := hc.jobs
  backed id hb := by
    obtain ⟨s', hs', he⟩ := hc.backed id hb
    exact ⟨s', List.mem_append_left _ hs', he⟩
  owned := by
    simp only [Ledger.store, List.mem_append, List.mem_singleton]
    rintro s' (hs' | rfl)
    · exact hc.owned s' hs'
    · exact ho

/-- Adding a job of a stored notification that has none, on the queue or as an abandoned add. -/
theorem Common.addJob {n : Nat} {id : Id} {queued pending : List Id}
    (hp : (queued ++ pending).Perm (id :: (l.queued ++ l.pending)))
    (hn : id ∉ l.queued ++ l.pending) (hs : ∃ s ∈ l.slots, s.id = id) (hc : Common R n l) :
    Common R n { l with queued := queued, pending := pending } where
  slotOf := hc.slotOf
  heldBy := hc.heldBy
  heldKey := hc.heldKey
  keys := hc.keys
  jobs := hp.nodup_iff.2 (List.nodup_cons.2 ⟨hn, hc.jobs⟩)
  backed id' hb := by
    rcases List.mem_cons.1 (hp.mem_iff.1 hb) with rfl | hb
    · exact hs
    · exact hc.backed id' hb
  owned := hc.owned

theorem Common.outside {n : Nat} {l' : Ledger Id Key Owner} (h : Outside R l l') (hc : Common R n l) :
    Common R n l' := by
  cases h with
  | expire held hheld =>
    have back : ∀ {k id}, held k = some id → l.held k = some id := fun {k id} hk =>
      (hheld k).elim (fun he => he ▸ hk) fun he => absurd (he.symm.trans hk) nofun
    exact ⟨hc.slotOf, fun k id hk => hc.heldBy k id (back hk), fun k s hs hk => hc.heldKey k s hs (back hk),
      hc.keys, hc.jobs, hc.backed, hc.owned⟩
  | @complete before after id hlate hp =>
    have hperm : ((l.queued ++ [id]) ++ (before ++ after)).Perm (l.queued ++ l.pending) := by
      rw [hp, List.append_assoc, List.singleton_append]
      exact List.Perm.append_left _ List.perm_middle.symm
    exact ⟨hc.slotOf, hc.heldBy, hc.heldKey, hc.keys, hperm.nodup_iff.2 hc.jobs,
      fun id' hb => hc.backed id' (hperm.mem_iff.1 hb), hc.owned⟩
  | @drop before after id hp =>
    have hsub : (l.queued ++ (before ++ after)).Sublist (l.queued ++ l.pending) := by
      rw [hp]
      exact (List.sublist_cons_self id after).append_left before |>.append_left l.queued
    exact ⟨hc.slotOf, hc.heldBy, hc.heldKey, hc.keys, hc.jobs.sublist hsub,
      fun id' hb => hc.backed id' (hsub.subset hb), hc.owned⟩

section moves

variable [DecidableEq Key]

theorem frames_setHeld {id id' : Id} {k : Key} {v : Option Id} (hv : v = some id' → id' ≠ id)
    (hv' : v = none ∨ v = some id') : Frames R id l (l.setHeld k v) := by
  refine ⟨fun _ h => h, fun _ h => h, fun _ h _ => h, fun h => h, .inl, fun k' hk' => ?_⟩
  simp only [Ledger.setHeld] at hk'
  split at hk'
  · rcases hv' with rfl | rfl
    · cases hk'
    · exact absurd (Option.some.inj hk') (hv rfl)
  · exact hk'

/-- A move of one request leaves alone what belongs to another. -/
theorem Moves.frames {i j : Nat} {r : ρ} {x y : Phase Id} {l' : Ledger Id Key Owner}
    (h : Moves R i r x l y l') (hij : j ≠ i) : Frames R (R.ident j) l l' := by
  have hne : R.ident i ≠ R.ident j := fun he => hij (R.ident_inj he.symm)
  cases h with
  | claim | claimUnheard => exact frames_setHeld (fun _ => hne) (.inr rfl)
  | store | storeUnheard => exact frames_store hne
  | enqueue => exact frames_enqueue hne
  | abandon => exact frames_abandon hne
  | release => exact frames_setHeld (show none = some (R.ident i) → _ from nofun) (.inl rfl)
  | _ => exact Frames.refl

theorem Common.setHeld {n i : Nat} {k : Key} (hi : i < n) (hc : Common R n l)
    (hs : ∀ s ∈ l.slots, s.id ≠ R.ident i) : Common R n (l.setHeld k (some (R.ident i))) where
  slotOf := hc.slotOf
  heldBy k' id hk' := by
    simp only [Ledger.setHeld] at hk'
    split at hk'
    · exact ⟨i, hi, (Option.some.inj hk').symm⟩
    · exact hc.heldBy k' id hk'
  heldKey k' s hm hk' := by
    simp only [Ledger.setHeld] at hk'
    split at hk'
    · exact absurd (Option.some.inj hk').symm (hs s hm)
    · exact hc.heldKey k' s hm hk'
  keys := hc.keys
  jobs := hc.jobs
  backed := hc.backed
  owned := hc.owned

theorem Common.release {n : Nat} {k : Key} (hc : Common R n l) : Common R n (l.setHeld k none) where
  slotOf := hc.slotOf
  heldBy k' id hk' := by
    simp only [Ledger.setHeld] at hk'
    split at hk'
    · cases hk'
    · exact hc.heldBy k' id hk'
  heldKey k' s hm hk' := by
    simp only [Ledger.setHeld] at hk'
    split at hk'
    · cases hk'
    · exact hc.heldKey k' s hm hk'
  keys := hc.keys
  jobs := hc.jobs
  backed := hc.backed
  owned := hc.owned

theorem Common.move {n i : Nat} {r : ρ} {x y : Phase Id} {l' : Ledger Id Key Owner} (hi : i < n)
    (hc : Common R n l) (ho : Own R i ⟨r, x, true⟩ l) (h : Moves R i r x l y l') : Common R n l' := by
  cases h with
  | claim | claimUnheard => exact hc.setHeld hi (ho.early .arrived)
  | store hx hv | storeUnheard hx hv => exact hc.store hi rfl hv ho.held ho.owns
  | enqueue =>
    refine hc.addJob ?_ (fun hj => ?_) (ho.stored rfl)
    · rw [List.append_assoc]
      exact List.perm_middle
    · rcases ho.job hj with h | h <;> cases h
  | abandon =>
    refine hc.addJob ?_ (fun hj => ?_) (ho.stored rfl)
    · rw [← List.append_assoc]
      exact List.perm_append_singleton _ _
    · rcases ho.job hj with h | h <;> cases h
  | release => exact hc.release
  | _ => exact hc

end moves

/-! ### The request that moves -/

theorem Own.noJob {i : Nat} {p : Party ρ (Phase Id)} (ho : Own R i p l) (h₁ : p.phase ≠ .enqueued)
    (h₂ : p.phase ≠ .failing) : R.ident i ∉ l.queued ++ l.pending :=
  fun hj => (ho.job hj).elim h₁ h₂

/-- A request that has no job may go to any phase that claims nothing for it. -/
theorem Own.toPhase {i : Nat} {r : ρ} {x y : Phase Id} {b live : Bool} (ho : Own R i ⟨r, x, b⟩ l)
    (hn : R.ident i ∉ l.queued ++ l.pending) (he : y.Early → x.Early)
    (hs : y = .stored → ∃ s ∈ l.slots, s.id = R.ident i)
    (ha : ∀ j, y = .answered j → R.settled →
      ∃ s ∈ l.slots, s.id = j ∧ j ∈ l.queued ∧ ∃ k, R.key r = some k ∧ s.key = some k) :
    Own R i ⟨r, y, live⟩ l where
  slot := ho.slot
  early h := ho.early (he h)
  job hj := absurd hj hn
  queued hq := absurd (List.mem_append_left _ hq) hn
  stored := hs
  held := ho.held
  owns := ho.owns
  answer := ha

/-- A request that holds its key, or lets go of it. -/
theorem Own.setHeld [DecidableEq Key] {i : Nat} {p : Party ρ (Phase Id)} {k : Key} {v : Option Id}
    (hk : R.key p.request = some k) (ho : Own R i p l) : Own R i p (l.setHeld k v) where
  slot := ho.slot
  early := ho.early
  job := ho.job
  queued := ho.queued
  stored := ho.stored
  held k' hk' := by
    simp only [Ledger.setHeld] at hk'
    split at hk'
    · next he => rw [he, hk]
    · exact ho.held k' hk'
  owns := ho.owns
  answer := ho.answer

/-- A request that stores its slot. -/
theorem Own.store {i : Nat} {p : Party ρ (Phase Id)} (he : ¬ p.phase.Early)
    (ho : Own R i p l) : Own R i p (l.store ⟨R.ident i, R.key p.request, R.owner p.request⟩) where
  slot s hs hid := by
    rcases List.mem_append.1 hs with hs | hs
    · exact ho.slot s hs hid
    · rw [List.mem_singleton.1 hs]
      exact ⟨rfl, rfl⟩
  early h := absurd h he
  job := ho.job
  queued := ho.queued
  stored _ := ⟨_, List.mem_append_right _ (List.mem_singleton.2 rfl), rfl⟩
  held := ho.held
  owns := ho.owns
  answer j hx hset := by
    obtain ⟨s, hs, h⟩ := ho.answer j hx hset
    exact ⟨s, List.mem_append_left _ hs, h⟩

/-- A phase in which a request has no job. -/
theorem Phase.Early.ne {x : Phase Id} (hx : x.Early) : x ≠ .enqueued ∧ x ≠ .failing := by
  cases hx <;> exact ⟨nofun, nofun⟩

theorem Own.move [DecidableEq Key] {n i : Nat} {r : ρ} {x y : Phase Id} {l' : Ledger Id Key Owner}
    (live : Bool) (hc : Common R n l) (ho : Own R i ⟨r, x, true⟩ l) (h : Moves R i r x l y l') :
    Own R i ⟨r, y, live⟩ l' := by
  have stored : x.Early →
      Own R i ⟨r, .lost, live⟩ (l.store ⟨R.ident i, R.key r, R.owner r⟩) := fun hx =>
    Own.store nofun (ho.toPhase (ho.noJob hx.ne.1 hx.ne.2) nofun nofun nofun)
  cases h with
  | stay => exact ⟨ho.slot, ho.early, ho.job, ho.queued, ho.stored, ho.held, ho.owns, ho.answer⟩
  | claim hg hk =>
    refine Own.setHeld hk ?_
    exact ho.toPhase (ho.noJob nofun nofun) (fun _ => .arrived) nofun nofun
  | claimUnheard hg hk =>
    refine Own.setHeld hk ?_
    exact ho.toPhase (ho.noJob nofun nofun) nofun nofun nofun
  | refuse => exact ho.toPhase (ho.noJob nofun nofun) nofun nofun nofun
  | readHolder hk hl hs =>
    refine ho.toPhase (ho.noJob nofun nofun) nofun nofun fun j hj hset => ?_
    cases hj
    obtain ⟨s, hm, rfl⟩ := hc.backed _ (List.mem_append_left _ (hs hset))
    exact ⟨s, hm, rfl, hs hset, _, hk, hc.heldKey _ s hm hl⟩
  | readNobody hs =>
    exact ho.toPhase (ho.noJob nofun nofun) nofun nofun fun _ _ hset => absurd hset hs
  | find hk hm hl hs =>
    refine ho.toPhase (ho.noJob nofun nofun) nofun nofun fun j hj hset => ?_
    cases hj
    exact ⟨_, hm, rfl, hs hset, _, hk, hl⟩
  | store hx hv =>
    have h := stored hx
    exact h.toPhase (h.noJob nofun nofun) nofun
      (fun _ => ⟨_, List.mem_append_right _ (List.mem_singleton.2 rfl), rfl⟩) nofun
  | storeUnheard hx hv => exact stored hx
  | reject hx => exact ho.toPhase (ho.noJob hx.ne.1 hx.ne.2) nofun nofun nofun
  | enqueue =>
    exact ⟨ho.slot, nofun, fun _ => .inl rfl, fun _ => .inl rfl, nofun, ho.held, ho.owns, nofun⟩
  | abandon =>
    refine ⟨ho.slot, nofun, fun _ => .inr rfl, fun hq => ?_, nofun, ho.held, ho.owns, nofun⟩
    exact absurd (List.mem_append_left _ hq) (ho.noJob nofun nofun)
  | enqueueFails => exact ho.toPhase (ho.noJob nofun nofun) nofun nofun nofun
  | release hk => exact Own.setHeld hk ⟨ho.slot, ho.early, ho.job, ho.queued, ho.stored, ho.held, ho.owns,
      ho.answer⟩
  | fail hx =>
    refine ho.toPhase (ho.noJob ?_ ?_) nofun nofun nofun <;>
      exact hx.elim (fun h => by cases h <;> nofun) (fun h => by rw [h]; nofun)

/-! ### The guarantees -/

/-- A key has one slot. -/
theorem Common.slot_eq {n : Nat} {s s' : Slot Id Key Owner} {k : Key} (hc : Common R n l)
    (hs : s ∈ l.slots) (hs' : s' ∈ l.slots) (hk : s.key = some k) (hk' : s'.key = some k) : s = s' := by
  by_contra hne
  have : Std.Symm fun s s' : Slot Id Key Owner => ∀ k, s.key = some k → s'.key ≠ some k :=
    ⟨fun _ _ h k hb ha => h k ha hb⟩
  exact hc.keys.forall hs hs' hne k hk hk'

theorem Common.arrive {n : Nat} (hc : Common R n l) : Common R (n + 1) l where
  slotOf s hs := by
    obtain ⟨j, hj, hid⟩ := hc.slotOf s hs
    exact ⟨j, Nat.lt_succ_of_lt hj, hid⟩
  heldBy k id hk := by
    obtain ⟨j, hj, hid⟩ := hc.heldBy k id hk
    exact ⟨j, Nat.lt_succ_of_lt hj, hid⟩
  heldKey := hc.heldKey
  keys := hc.keys
  jobs := hc.jobs
  backed := hc.backed
  owned := hc.owned

/-- A request that has not arrived owns nothing. -/
theorem Common.own_arrive {n : Nat} {r : ρ} (live : Bool) (hc : Common R n l)
    (ho : ∀ k, R.key r = some k → R.owns k (R.owner r)) : Own R n ⟨r, .arrived, live⟩ l := by
  have hno : ∀ {j}, j < n → R.ident j ≠ R.ident n := fun hj he =>
    absurd (R.ident_inj he) (Nat.ne_of_lt hj)
  have hslot : ∀ s ∈ l.slots, s.id ≠ R.ident n := fun s hs he => by
    obtain ⟨j, hj, hid⟩ := hc.slotOf s hs
    exact hno hj (hid ▸ he)
  have hjob : R.ident n ∉ l.queued ++ l.pending := fun hj => by
    obtain ⟨s, hs, hid⟩ := hc.backed _ hj
    exact hslot s hs hid
  refine ⟨fun s hs hid => absurd hid (hslot s hs), fun _ => hslot, fun hj => absurd hj hjob,
    fun hq => absurd (List.mem_append_left _ hq) hjob, nofun, fun k hk => ?_, ho, nofun⟩
  obtain ⟨j, hj, hid⟩ := hc.heldBy k _ hk
  exact absurd hid.symm (hno hj)

/-- A ledger in which nobody has claimed anything. -/
structure Ledger.Blank (l : Ledger Id Key Owner) : Prop where
  /-- No key is held. -/
  held : ∀ k, l.held k = none
  /-- Nothing is stored. -/
  slots : l.slots = []
  /-- Nothing is on the queue. -/
  queued : l.queued = []
  /-- No add was abandoned. -/
  pending : l.pending = []

theorem Common.of_blank {n : Nat} (h : l.Blank) : Common R n l := by
  obtain ⟨hh, hs, hq, hp⟩ := h
  refine ⟨?_, fun k id hk => absurd ((hh k).symm.trans hk) nofun, ?_, ?_, ?_, ?_, ?_⟩ <;>
    simp [hs, hq, hp]

section guarantees

variable [DecidableEq Key]

/-- The invariant of the idempotency protocol. -/
def claimInvariant (R : Rules Id Key Owner ρ) : (protocol R).Invariant where
  common := Common R
  own := Own R
  apart _ _ _ := True
  apart_symm h := h
  common_arrive _ h := h.arrive
  own_arrive live ha h := h.own_arrive live fun _ => R.owns_of_arrives ha
  apart_arrive _ _ _ _ _ := trivial
  common_move hi hc ho h := hc.move hi ho h
  own_move live _ hc ho h := ho.move live hc h
  own_other _ _ _ h hj _ := Own.of_frames (h.frames hj)
  apart_move _ _ := trivial
  common_outside h hc := hc.outside h
  own_outside h _ := Own.of_frames h.frames
  apart_outside _ _ := trivial

/-- The invariant holds in every run from a blank ledger. -/
theorem claim_holds {c : Config ρ (Phase Id) (Ledger Id Key Owner)} (hl : l.Blank)
    (h : (protocol R).Reachable l c) : (claimInvariant R).Holds c :=
  Protocol.Invariant.of_reachable (.of_blank hl) h

end guarantees

/-! ### Requests that find their key free -/

section clear

/-- A request may arrive under `Clear` if it asks nothing of its key (`exempt`) and the key has an
enqueued notification, or if its key is free and no live request has it. -/
def Clear (R : Rules Id Key Owner ρ) (exempt : ρ → Prop)
    (c : Config ρ (Phase Id) (Ledger Id Key Owner)) (r : ρ) : Prop :=
  ∀ k, R.key r = some k → exempt r ∧ c.ledger.Enqueued k ∨
    c.ledger.Vacant k ∧ (R.guards r → c.ledger.held k = none) ∧
      ∀ p ∈ c.parties, p.live = true → R.key p.request ≠ some k

/-- What a request that found its key free has seen so far. -/
structure Unhindered (R : Rules Id Key Owner ρ) (k : Key) (p : Party ρ (Phase Id))
    (l : Ledger Id Key Owner) : Prop where
  /-- The key is free in store until the request stores. -/
  vacant : p.live = true → p.phase.Early → l.Vacant k
  /-- The key is not held until the request takes it. -/
  unheld : p.live = true → p.phase = .arrived → R.guards p.request → l.held k = none
  /-- It was not told that its key is held. -/
  not_refused : p.phase ≠ .refused
  /-- It answered no duplicate. -/
  not_answered : ∀ j, p.phase ≠ .answered j
  /-- It was not rejected. -/
  not_rejected : p.phase ≠ .rejected

/-- Every request with a key is exempt or unhindered. -/
def Fresh (R : Rules Id Key Owner ρ) (exempt : ρ → Prop) (p : Party ρ (Phase Id))
    (l : Ledger Id Key Owner) : Prop :=
  ∀ k, R.key p.request = some k → exempt p.request ∨ Unhindered R k p l

variable {exempt : ρ → Prop} {k : Key}

theorem Ledger.Enqueued.not_vacant (h : l.Enqueued k) : ¬ l.Vacant k := by
  obtain ⟨s, hs, hk, -⟩ := h
  exact fun hv => hv s hs hk

theorem Unhindered.outside {p : Party ρ (Phase Id)} {l' : Ledger Id Key Owner}
    (hu : Unhindered R k p l) (h : Outside R l l') : Unhindered R k p l' := by
  cases h with
  | expire held hheld =>
    refine ⟨hu.vacant, fun hl he hg => ?_, hu.not_refused, hu.not_answered, hu.not_rejected⟩
    exact (hheld k).elim (fun h => h.trans (hu.unheld hl he hg)) id
  | complete | drop =>
    exact ⟨hu.vacant, hu.unheld, hu.not_refused, hu.not_answered, hu.not_rejected⟩

section moves

variable [DecidableEq Key]

/-- No move frees a key in store. -/
theorem Moves.not_vacant {i : Nat} {r : ρ} {x y : Phase Id} {l' : Ledger Id Key Owner}
    (h : Moves R i r x l y l') (hv : ¬ l.Vacant k) : ¬ l'.Vacant k := by
  have keep : ∀ s, ¬ (l.store s).Vacant k := fun s hv' => hv fun s' hs' =>
    hv' s' (List.mem_append_left _ hs')
  cases h with
  | store | storeUnheard => exact keep _
  | _ => exact hv

/-- The request that moves stays unhindered. -/
theorem Unhindered.move {i : Nat} {r : ρ} {x y : Phase Id} {l' : Ledger Id Key Owner} {live : Bool}
    (hk : R.key r = some k) (ho : Own R i ⟨r, x, true⟩ l) (hu : Unhindered R k ⟨r, x, true⟩ l)
    (h : Moves R i r x l y l') : Unhindered R k ⟨r, y, live⟩ l' := by
  have same : ∀ {k'}, R.key r = some k' → k' = k := fun hk' => Option.some.inj (hk'.symm.trans hk)
  cases h with
  | stay =>
    exact ⟨fun _ => hu.vacant rfl, fun _ => hu.unheld rfl, hu.not_refused, hu.not_answered,
      hu.not_rejected⟩
  | claim => exact ⟨fun _ _ => hu.vacant rfl .arrived, nofun, nofun, nofun, nofun⟩
  | refuse hg hk' hl =>
    rw [same hk', hu.unheld rfl rfl hg] at hl
    cases hl
  | readHolder => exact absurd rfl hu.not_refused
  | readNobody => exact absurd rfl hu.not_refused
  | find hk' hm hl => exact absurd (same hk' ▸ hl) (hu.vacant rfl .arrived _ hm)
  | reject hx hm hs =>
    rcases hs with hs | ⟨hs, -⟩
    · exact absurd hs (ho.early hx _ hm)
    · exact absurd (hs.trans hk) (hu.vacant rfl hx _ hm)
  | _ => exact ⟨nofun, nofun, nofun, nofun, nofun⟩

/-- A request stays unhindered when one of another key, or one that met it, moves. -/
theorem Unhindered.other {i : Nat} {r : ρ} {x y : Phase Id} {l' : Ledger Id Key Owner}
    {p : Party ρ (Phase Id)} (ha : p.live = true → R.key r = some k → ¬ l.Vacant k)
    (hu : Unhindered R k p l) (h : Moves R i r x l y l') : Unhindered R k p l' := by
  refine ⟨fun hl he => ?_, fun hl he hg => ?_, hu.not_refused, hu.not_answered, hu.not_rejected⟩
  · have hv := hu.vacant hl he
    have store : (l.store ⟨R.ident i, R.key r, R.owner r⟩).Vacant k := fun s hs => by
      rcases List.mem_append.1 hs with hs | hs
      · exact hv s hs
      · rw [List.mem_singleton.1 hs]
        exact fun hk => ha hl hk hv
    cases h with
    | store | storeUnheard => exact store
    | _ => exact hv
  · have hv := hu.vacant hl (he ▸ .arrived)
    have hh := hu.unheld hl he hg
    have claim : ∀ {k' v}, R.key r = some k' → (l.setHeld k' v).held k = none := fun hk' => by
      simp only [Ledger.setHeld]
      split
      · next he => exact absurd hv (ha hl (he ▸ hk'))
      · exact hh
    cases h with
    | claim _ hk' | claimUnheard _ hk' => exact claim hk'
    | release hk' => exact claim hk'
    | _ => exact hh

/-- The invariant of runs in which requests arrive under `Clear`. -/
def clearInvariant (R : Rules Id Key Owner ρ) (exempt : ρ → Prop)
    (hR : ∀ {c r}, R.arrives c r → Clear R exempt c r) : (protocol R).Invariant where
  common := Common R
  own i p l := Own R i p l ∧ Fresh R exempt p l
  apart r r' l := ∀ k, R.key r = some k → R.key r' = some k → ¬ l.Vacant k
  apart_symm h k hk hk' := h k hk' hk
  common_arrive _ h := h.arrive
  own_arrive live ha h := by
    refine ⟨h.own_arrive live fun _ => R.owns_of_arrives ha, fun k hk => ?_⟩
    rcases hR ha k hk with ⟨he, -⟩ | ⟨hv, hh, -⟩
    · exact .inl he
    · exact .inr ⟨fun _ _ => hv, fun _ _ => hh, nofun, nofun, nofun⟩
  apart_arrive ha _ p hp hl k hk hk' := by
    rcases hR ha k hk' with ⟨-, he⟩ | ⟨-, -, hno⟩
    · exact he.not_vacant
    · exact absurd hk (hno p hp hl)
  common_move hi hc ho h := hc.move hi ho.1 h
  own_move live _ hc ho h := by
    refine ⟨ho.1.move live hc h, fun k hk => ?_⟩
    exact (ho.2 k hk).imp id fun hu => hu.move hk ho.1 h
  own_other _ _ _ h hj ha ho := by
    refine ⟨ho.1.of_frames (h.frames hj), fun k hk => ?_⟩
    exact (ho.2 k hk).imp id fun hu => hu.other (fun hl hk' => ha hl k hk' hk) h
  apart_move h ha k hk hk' := h.not_vacant (ha k hk hk')
  common_outside h hc := hc.outside h
  own_outside h _ ho := by
    refine ⟨ho.1.of_frames h.frames, fun k hk => ?_⟩
    exact (ho.2 k hk).imp id fun hu => hu.outside h
  apart_outside h ha k hk hk' := by
    have hv := ha k hk hk'
    cases h <;> exact hv

/-- In every such run from a blank ledger, a request with a key that is not exempt was answered no
duplicate and was not rejected. -/
theorem clear_holds {c : Config ρ (Phase Id) (Ledger Id Key Owner)} (hl : l.Blank)
    (hR : ∀ {c r}, R.arrives c r → Clear R exempt c r) (h : (protocol R).Reachable l c) :
    (clearInvariant R exempt hR).Holds c :=
  Protocol.Invariant.of_reachable (.of_blank hl) h

end moves

end clear

end Intake
