import HeraldGateway.Intake.Guarantees
import HeraldGateway.Intake.Proofs.SystemProofs

/-!
# The guarantees of notify requests

Each guarantee of `Intake/Guarantees` under the weakest premises it needs, read off the invariants of
the idempotency protocol through the refinement, and a run without those premises that breaks it.
-/

namespace HeraldGateway

open Async Intake

variable {env : Env} {A : Premises} {s : World} {ls : List IntakeLabel} {p : IntakePool}
  {c : Config (NotifyRequest × World) (Phase NotificationId)
    (Ledger NotificationId JsString JsString)}

/-! ### From the protocol to the stores -/

theorem blank_of_unused (hs : s.Unused) : (ledgerOf s).Blank where
  held k := by simp [ledgerOf, World.holder, hs.idempotency k, Timed.live]
  slots := by simp [ledgerOf, hs.notifications]
  queued := by simp [ledgerOf, hs.notificationQueue]
  pending := by simp [ledgerOf, hs.pendingAdds]

/-- A run of the system is one of the protocol, with its invariant. -/
theorem claim_of_run (hs : s.Unused) (hok : (intake env).Keeps A.Allow (Pool.empty s) ls)
    (hr : (intake env).run (Pool.empty s) ls = some p) :
    ∃ c, (intakeRefinement env A).Refines p c ∧ (claimInvariant A.rules).Holds c := by
  obtain ⟨c, hc, hp⟩ := Refinement.refines_of_empty (F := intakeRefinement env A) hok hr
  exact ⟨c, hp, claim_holds (blank_of_unused hs) hc⟩

theorem ledger_eq (hp : (intakeRefinement env A).Refines p c) : c.ledger = ledgerOf p.store := hp.ledger

/-- The key of a stored slot is that of the request that drew its identifier. -/
theorem keyOf_slot (hp : (intakeRefinement env A).Refines p c) (hI : (claimInvariant A.rules).Holds c)
    {slot : Slot NotificationId JsString JsString} (hm : slot ∈ (ledgerOf p.store).slots) :
    keyOf p slot.id = slot.key := by
  obtain ⟨n, hn, hid⟩ := hI.common.slotOf slot (ledger_eq hp ▸ hm)
  obtain ⟨q, hq⟩ : ∃ q, c.parties[n]? = some q := ⟨_, List.getElem?_eq_getElem hn⟩
  obtain ⟨t, ht, hmatch⟩ := hp.thread hq
  have hkey := ((hI.own n q hq).slot slot (ledger_eq hp ▸ hm) hid).1
  rw [hmatch.request] at hkey
  rw [hid, hkey]
  simp only [keyOf, Premises.rules, intakeReading, ht, Option.bind_some]

/-- A list any two of whose entries are not both selected has at most one selected entry. -/
theorem length_filter_le_one {α : Type} {f : α → Bool} {as : List α}
    (h : as.Pairwise fun a b => f a = true → f b ≠ true) : (as.filter f).length ≤ 1 := by
  have hp := h.filter f
  match hf : as.filter f with
  | [] | [_] => simp
  | a :: b :: bs =>
    rw [hf] at hp
    have sel : ∀ x ∈ a :: b :: bs, f x = true := fun x hx => (List.mem_filter.1 (hf ▸ hx)).2
    exact absurd (sel b (by simp))
      ((List.pairwise_cons.1 hp).1 b List.mem_cons_self (sel a List.mem_cons_self))

theorem rowsOf_le_one (hp : (intakeRefinement env A).Refines p c)
    (hI : (claimInvariant A.rules).Holds c) (k : JsString) : (rowsOf p k).length ≤ 1 := by
  refine length_filter_le_one ?_
  have hkeys := hI.common.keys
  rw [ledger_eq hp] at hkeys
  refine (List.pairwise_map.1 hkeys).imp fun h hk => ?_
  exact fun hk' => h k (of_decide_eq_true hk) (of_decide_eq_true hk')

theorem jobsOf_le_one (hp : (intakeRefinement env A).Refines p c)
    (hI : (claimInvariant A.rules).Holds c) (k : JsString) : (jobsOf p k).length ≤ 1 := by
  refine length_filter_le_one ?_
  have hnodup : (ledgerOf p.store).queued.Nodup := ledger_eq hp ▸ (List.nodup_append.1 hI.common.jobs).1
  -- a job of the key has a slot of the key
  have slotOf : ∀ j ∈ p.store.notificationQueue, keyOf p j.data.notificationId = some k →
      ∃ slot ∈ c.ledger.slots, slot.id = j.data.notificationId ∧ slot.key = some k := by
    intro j hj hk
    have hq : j.data.notificationId ∈ c.ledger.queued := ledger_eq hp ▸ List.mem_map_of_mem hj
    obtain ⟨slot, hm, hid⟩ := hI.common.backed _ (List.mem_append_left _ hq)
    exact ⟨slot, hm, hid, by rw [← keyOf_slot hp hI (ledger_eq hp ▸ hm), hid, hk]⟩
  refine (List.pairwise_map.1 hnodup).imp_of_mem fun {j j'} hj hj' hne hk hk' => hne ?_
  obtain ⟨slot, hm, hid, hkey⟩ := slotOf j hj (of_decide_eq_true hk)
  obtain ⟨slot', hm', hid', hkey'⟩ := slotOf j' hj' (of_decide_eq_true hk')
  rw [← hid, ← hid', hI.common.slot_eq hm hm' hkey hkey']

/-- A request that was answered ended in a phase that allows its answer. -/
theorem concludes_of_thread (hp : (intakeRefinement env A).Refines p c)
    {t : Thread Calls Err NotifyResponseDto NotifyRequest World Choice} (ht : t ∈ p.threads) :
    ∃ n q, c.parties[n]? = some q ∧ q.request = (t.request, t.birth) ∧
      ∀ r, t.prog.result? = some r → Concludes (.uuid n) q.phase r := by
  obtain ⟨n, hn⟩ := List.mem_iff_getElem?.1 ht
  obtain ⟨q, hq, hm⟩ := hp.party hn
  exact ⟨n, q, hq, hm.request, fun r hr => hm.follows.result hr⟩

/-! ### At most once for a key -/

/-- In every run, one key has at most one notification and at most one job, ever. -/
theorem once_per_key (hs : s.Unused) (hr : (intake env).run (Pool.empty s) ls = some p)
    (k : JsString) : (rowsOf p k).length ≤ 1 ∧ (jobsOf p k).length ≤ 1 := by
  have hok : (intake env).Keeps Premises.any.Allow (Pool.empty s) ls :=
    System.Keeps.of_forall _ fun p l => by
      match l with
      | .arrive _ | .outside (.completeAdd _) | .outside (.tick _) | .outside (.update ..)
      | .outside (.configure ..) => exact trivial
      | .pick .. => exact nofun
  obtain ⟨c, hp, hI⟩ := claim_of_run hs hok hr
  exact ⟨rowsOf_le_one hp hI k, jobsOf_le_one hp hI k⟩

/-- A request is queued, its hold runs out after a day, and a retry takes the key again. -/
def afterExpiry : List IntakeLabel :=
  .arrive (keyedRequest "a") :: proceeds 0 3 ++ .outside (.tick 86400001) ::
    .arrive (keyedRequest "a") :: proceeds 1 2

theorem once_per_key_after_expiry :
    ∃ p ∈ replay afterExpiry, (rowsOf p (js "k")).length ≤ 1 ∧ (jobsOf p (js "k")).length ≤ 1 := by
  obtain ⟨p, hp⟩ := Option.isSome_iff_exists.1 (show (replay afterExpiry).isSome by decide +kernel)
  exact ⟨p, hp, once_per_key World.unused_blank hp (js "k")⟩

/-! ### Duplicates -/

/-- Where each key is used by one protocol and requests that look up who has their key find an enqueued
notification, every answer that a request is a duplicate is sound. -/
theorem duplicates_sound {owner : JsString → JsString} (hs : s.Unused)
    (hok : (intake env).Keeps (Premises.ownKeys owner).Allow (Pool.empty s) ls)
    (hr : (intake env).run (Pool.empty s) ls = some p) : DuplicatesSound p := by
  obtain ⟨c, hp, hI⟩ := claim_of_run hs hok hr
  intro t ht resp hresp hdup
  obtain ⟨n, q, hq, hreq, hconc⟩ := concludes_of_thread hp ht
  obtain ⟨id, hphase, hid⟩ := (hconc _ (Thread.answer?_eq_some.1 hresp)).1 hdup
  have hown := hI.own n q hq
  obtain ⟨slot, hm, rfl, hqueued, k, hk, hslot⟩ := hown.answer id hphase trivial
  rw [ledger_eq hp] at hqueued
  obtain ⟨j, hj, hjid⟩ := List.mem_map.1 hqueued
  have howner : slot.owner = owner k := hI.common.owned slot hm k hslot
  have hasker : (Premises.ownKeys owner).rules.owner q.request = owner k := hown.owns k hk
  rw [hreq] at hk hasker
  rw [ledger_eq hp] at hm
  obtain ⟨row, hrow, rfl⟩ := List.mem_map.1 hm
  exact ⟨row, hrow, hid, howner.trans hasker.symm, hslot.trans hk.symm, j, hj, hjid⟩

/-- A request is queued and asked again by the same protocol. -/
def askedAgain : List IntakeLabel :=
  .arrive (keyedRequest "a") :: proceeds 0 3 ++ .arrive (keyedRequest "a") :: proceeds 1 2

theorem duplicates_sound_askedAgain : ∃ p ∈ replay askedAgain, DuplicatesSound p := by
  obtain ⟨hsome, hok⟩ : (replay askedAgain).isSome ∧
      (intake Env.transparent).Keeps (Premises.ownKeys fun _ => js "a").Allow
        (Pool.empty World.blank) askedAgain := by decide +kernel
  obtain ⟨p, hp⟩ := Option.isSome_iff_exists.1 hsome
  exact ⟨p, hp, duplicates_sound World.unused_blank hok hp⟩

-- a key says nothing about the protocol that uses it
example : (keyedRequest "a").dto.idempotencyKey = (keyedRequest "b").dto.idempotencyKey := by decide +kernel

/-- Two protocols send under one key, the second after the first was queued. -/
def sharedKey : List IntakeLabel :=
  .arrive (keyedRequest "a") :: proceeds 0 3 ++ .arrive (keyedRequest "b") :: proceeds 1 2

/-- The second protocol is told that its request is a duplicate of the first protocol's. -/
theorem foreign_duplicate : ∃ p ∈ replay sharedKey, ¬ DuplicatesSound p := by decide +kernel

/-! ### Keys of requests that came to nothing -/

/-- A request exempt from the promise: a send within the window had its key when it arrived. -/
def Exempt (r : NotifyRequest × World) : Prop :=
  ∀ k ∈ r.1.dto.idempotencyKey, EnqueuedWithin r.2 k r.1.protocol.environment

theorem clear_of_arrives {r : NotifyRequest × World} (h : Premises.freeKeys.rules.arrives c r) :
    Clear Premises.freeKeys.rules Exempt c r := by
  obtain ⟨p, hfree, hstore, hledger, hparties⟩ := h
  intro k hk
  have same : ∀ k' ∈ r.1.dto.idempotencyKey, k' = k := fun k' hk' =>
    Option.some.inj (hk'.symm.trans hk)
  rcases hfree k hk with hwithin | ⟨hrows, hheld, hthreads⟩
  · rw [hstore] at hwithin
    refine .inl ⟨fun k' hk' => same k' hk' ▸ hwithin, ?_⟩
    obtain ⟨n, hn, hkey, j, hj, hjid, -⟩ := hwithin
    rw [hledger]
    exact ⟨_, List.mem_map_of_mem hn, hkey, List.mem_map.2 ⟨j, hj, hjid⟩⟩
  · rw [hstore] at hrows hheld
    refine .inr ⟨?_, fun hg => hledger ▸ hheld hg, fun q hq hlive => ?_⟩
    · rw [hledger]
      rintro _ hslot
      obtain ⟨n, hn, rfl⟩ := List.mem_map.1 hslot
      exact hrows n hn
    · obtain ⟨t, ht, hreq, hrun⟩ := hparties q hq
      have := hthreads t ht (hrun ▸ hlive)
      rw [hreq]
      exact this

/-- Where requests arrive with a free key, or one that a send within the window has, no key is
burned. -/
theorem keys_not_burned (hs : s.Unused)
    (hok : (intake env).Keeps Premises.freeKeys.Allow (Pool.empty s) ls)
    (hr : (intake env).run (Pool.empty s) ls = some p) : KeysNotBurned p := by
  obtain ⟨c, hc, hp⟩ := Refinement.refines_of_empty (F := intakeRefinement env _) hok hr
  have hI := clear_holds (blank_of_unused hs) clear_of_arrives hc
  intro t ht k hk
  obtain ⟨n, q, hq, hreq, hconc⟩ := concludes_of_thread hp ht
  rcases (hI.own n q hq).2 k (by rw [hreq]; exact hk) with hexempt | hu
  · rw [hreq] at hexempt
    exact .inl (hexempt k hk)
  · refine .inr ⟨fun resp hresp hdup => ?_, fun hviolation => ?_⟩
    · obtain ⟨id, hphase, -⟩ := (hconc _ (Thread.answer?_eq_some.1 hresp)).1 hdup
      exact hu.not_answered id hphase
    · exact hu.not_rejected (hconc _ hviolation rfl)

/-- A call before storing fails, and the client retries when its hold has run out. -/
def retriedAfterExpiry : List IntakeLabel :=
  .arrive (keyedRequest "a") :: proceeds 0 1 ++ meets 0 (.refused ⟨[], none, none, none⟩) ::
    .outside (.tick 86400001) :: .arrive (keyedRequest "a") :: proceeds 1 3

-- The retry is queued.
example : (replay retriedAfterExpiry).map (·.store.notificationQueue.length) = some 1 := by decide +kernel

theorem keys_not_burned_retriedAfterExpiry : ∃ p ∈ replay retriedAfterExpiry, KeysNotBurned p := by
  obtain ⟨hsome, hok⟩ : (replay retriedAfterExpiry).isSome ∧
      (intake Env.transparent).Keeps Premises.freeKeys.Allow (Pool.empty World.blank) retriedAfterExpiry := by
    decide +kernel
  obtain ⟨p, hp⟩ := Option.isSome_iff_exists.1 hsome
  exact ⟨p, hp, keys_not_burned World.unused_blank hok hp⟩

/-- The queue refuses a request, and the client retries it. -/
def retriedAfterFailure : List IntakeLabel :=
  .arrive (keyedRequest "a") :: proceeds 0 2 ++
    [meets 0 (.refused ⟨[], none, none, none⟩), meets 0 .none, meets 0 .none] ++
    .arrive (keyedRequest "a") :: proceeds 1 2

/-- The retry takes the key and is then rejected by the row that the failed request left. -/
theorem retry_rejected : ∃ p ∈ replay retriedAfterFailure, ¬ KeysNotBurned p := by decide +kernel

/-! ### Failures at the queue -/

/-- Where no add that was given up on completes, a request answered as failed has no job, and its key
at most one. -/
theorem failures_final (hs : s.Unused)
    (hok : (intake env).Keeps Premises.noLateAdds.Allow (Pool.empty s) ls)
    (hr : (intake env).run (Pool.empty s) ls = some p) : FailuresFinal p := by
  obtain ⟨c, hp, hI⟩ := claim_of_run hs hok hr
  intro t ht resp hresp hcode
  obtain ⟨n, q, hq, hreq, hconc⟩ := concludes_of_thread hp ht
  obtain ⟨hphase, hid⟩ := (hconc _ (Thread.answer?_eq_some.1 hresp)).2 hcode
  refine ⟨fun j hj hjid => ?_, fun k _ => jobsOf_le_one hp hI k⟩
  have hqueued : Premises.noLateAdds.rules.ident n ∈ c.ledger.queued := by
    rw [ledger_eq hp]
    exact List.mem_map.2 ⟨j, hj, Option.some.inj (hjid.symm.trans hid)⟩
  rcases (hI.own n q hq).queued hqueued with h | h
  · rw [hphase] at h
    cases h
  · exact h

/-- The queue refuses a request. -/
def refusedAtQueue : List IntakeLabel :=
  .arrive (keyedRequest "a") :: proceeds 0 2 ++
    [meets 0 (.refused ⟨[], none, none, none⟩), meets 0 .none, meets 0 .none]

example : (replay refusedAtQueue).map (·.store.notificationQueue.length) = some 0 := by decide +kernel

theorem failures_final_refusedAtQueue : ∃ p ∈ replay refusedAtQueue, FailuresFinal p := by
  obtain ⟨hsome, hok⟩ : (replay refusedAtQueue).isSome ∧
      (intake Env.transparent).Keeps Premises.noLateAdds.Allow (Pool.empty World.blank) refusedAtQueue := by
    decide +kernel
  obtain ⟨p, hp⟩ := Option.isSome_iff_exists.1 hsome
  exact ⟨p, hp, failures_final World.unused_blank hok hp⟩

/-- The add of a request takes longer than the timeout and completes after the request was answered. -/
def completedLate : List IntakeLabel :=
  .arrive (keyedRequest "a") :: proceeds 0 2 ++ [meets 0 .stalled, meets 0 .none, meets 0 .none] ++
    [.outside (.completeAdd 0)]

/-- The request was answered as failed, and its job is on the queue. -/
theorem failed_but_queued : ∃ p ∈ replay completedLate, ¬ FailuresFinal p := by decide +kernel

end HeraldGateway
