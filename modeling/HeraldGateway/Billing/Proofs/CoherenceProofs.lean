import HeraldGateway.Billing.Expiry
import HeraldGateway.Billing.Proofs.ExpiryProofs

/-!
# The cache holds what is stored

Where every change is followed by a removal that takes effect, what is cached is stored, or some task is about
to remove it.
-/

namespace HeraldGateway

open Async

variable {s : SubscriptionStore} {o : SubscriptionOp} {f : Fault} {id : JsString} {v : Subscription}

/-! ### What calls do to a row and its copy -/

/-- The protocol whose row a call changes. -/
def SubscriptionOp.writes (s : SubscriptionStore) : SubscriptionOp → Option JsString
  | updateSubscription id _ | incrementSends id _ | zeroSends id => some id
  | o => o.pays s

/-- The protocol whose copy a call replaces. -/
def SubscriptionOp.caches : SubscriptionOp → Option JsString
  | cacheSetex id .. | cacheDel id => some id
  | _ => none

/-- The rows of other protocols are found as before. -/
theorem find_updated {rows : List Subscription} {u : Subscription → Subscription} {other : JsString}
    (hne : other ≠ id) (hu : ∀ r ∈ rows, r.protocolId = other → (u r).protocolId = other) :
    (updateWhere (·.protocolId == other) u rows).find? (·.protocolId == id) =
    rows.find? (·.protocolId == id) := by
  refine find_updateWhere fun r hr hp => ?_
  have hother := beq_iff_eq.1 hp
  exact ⟨beq_eq_false_iff_ne.2 (hother ▸ hne), beq_eq_false_iff_ne.2 (hu r hr hother ▸ hne)⟩

/-- A call changes no row but the one that it writes. -/
theorem serve_subscription (h : id ∉ o.writes s) : (s.serve o).2.subscription id = s.subscription id := by
  have meter : ∀ other g, other ≠ id → (s.meterSends other g).2.subscription id = s.subscription id := by
    intro other g hne
    rcases (SubscriptionStore.meterSends_cases : (s.meterSends other g).2 = s ∨ _) with hs | hs
    · rw [hs]
    · rw [hs]
      exact find_updated hne fun _ _ hr => hr
  cases o with
  | billing o =>
    rcases serve_billing_cases (s := s.billing) (o := o) with ⟨hsubs, -, -⟩ | ⟨a, rfl, hcommit⟩
    · exact congrArg (List.find? (·.protocolId == id)) hsubs
    · have hne : a.protocolId ≠ id := fun heq => h (by
        simp [SubscriptionOp.writes, SubscriptionOp.pays, hcommit, Except.isOk, Except.toBool, heq])
      obtain ⟨e, tier, _, -, hrows | ⟨-, hrows⟩, -, -⟩ := commit_rows hcommit
      · exact (congrArg (List.find? (·.protocolId == id)) hrows).trans (find_updated hne fun _ _ _ => rfl)
      · refine (congrArg (List.find? (·.protocolId == id)) hrows).trans ?_
        have hrow : ((a.subscription tier e).protocolId == id) = false := beq_eq_false_iff_ne.2 hne
        rw [List.find?_append, List.find?_singleton, hrow]
        exact Option.or_none
  | updateSubscription other u =>
    have hne : other ≠ id := fun heq => h (heq ▸ rfl)
    rw [SubscriptionStore.serve, SubscriptionStore.updateSubscription_store]
    exact find_updated hne fun r _ hr => (u.apply_kept r).1.trans hr
  | deactivateProtocol other =>
    rw [SubscriptionStore.serve, SubscriptionStore.updateProtocols_store]
    rfl
  | incrementSends other count => exact meter other _ fun heq => h (heq ▸ rfl)
  | zeroSends other => exact meter other _ fun heq => h (heq ▸ rfl)
  | _ => rfl

/-- A call replaces no copy but the one that it caches or removes. -/
theorem serve_cached (h : id ∉ o.caches) : (s.serve o).2.cached id = s.cached id := by
  have hcache : (s.serve o).2.cache id = s.cache id := by
    cases o with
    | updateSubscription other u =>
      rw [SubscriptionStore.serve, SubscriptionStore.updateSubscription_store]
      rfl
    | deactivateProtocol other =>
      rw [SubscriptionStore.serve, SubscriptionStore.updateProtocols_store]
      rfl
    | incrementSends other count =>
      rw [SubscriptionStore.serve]
      rcases (SubscriptionStore.meterSends_cases : (s.meterSends other (· + (count : Int))).2 = s ∨ _) with hs | hs
      · rw [hs]
      · rw [hs]
        rfl
    | zeroSends other =>
      rw [SubscriptionStore.serve]
      rcases (SubscriptionStore.meterSends_cases : (s.meterSends other fun _ => 0).2 = s ∨ _) with hs | hs
      · rw [hs]
      · rw [hs]
        rfl
    | cacheSetex other ttl row => exact if_neg fun heq : id = other => h (heq ▸ rfl)
    | cacheDel other => exact if_neg fun heq : id = other => h (heq ▸ rfl)
    | _ => rfl
  unfold SubscriptionStore.cached
  rw [hcache, serve_rows.1]

theorem value_of_live {α : Type} {now : Millis} {t : Timed α} {a : α} (h : Timed.live now (some t) = some a) :
    t.value = a := by
  unfold Timed.live at h
  split at h
  · next heq =>
    obtain rfl := Option.some.inj heq
    split at h
    · exact Option.some.inj h
    · cases h
  · cases h

theorem cached_setCache {c : Option (Timed Subscription)} :
    (s.setCache id c).cached id = Timed.live s.billing.now c := by
  simp [SubscriptionStore.cached, SubscriptionStore.setCache]

/-- What a call does under a fault, by whether it takes effect. -/
theorem handle_of_applies (h : f.applies = true) : (SubscriptionStore.handle f s o).2 = (s.serve o).2 := by
  cases f with
  | none | unheard =>
    cases o with
    | billing o =>
      cases o with
      | now | findByPayloadHash | createEvent | queueAdd | findProtocol | renewSubscription | transaction =>
        rfl
    | _ => rfl
  | refused | stalled => cases h

theorem handle_of_not_applies (h : f.applies = false) : (SubscriptionStore.handle f s o).2 = s := by
  rcases SubscriptionStore.handle_cases (f := f) (s := s) (o := o) with hs | ⟨happlies, -⟩
  · exact hs
  · rw [h] at happlies
    cases happlies

/-! ### What tasks owe -/

theorem owes_append {tr : List SubscriptionEvent} {e : SubscriptionEvent} :
    owes id (tr ++ [e]) = e.op.owing id (owes id tr) e.reply := by
  simp [owes, List.foldl_append]

/-- Only a removal settles what is owed. -/
theorem owing_true {r : Except Err o.Res} (h : o ≠ .cacheDel id) : o.owing id true r = true := by
  cases o with
  | cacheDel other =>
    have hne : other ≠ id := fun heq => h (heq ▸ rfl)
    simpa [SubscriptionOp.owing] using hne
  | updateSubscription other u =>
    cases r with
    | ok | error => simp [SubscriptionOp.owing]
  | _ => rfl

/-- What is cached is what is stored, or about to be removed. -/
def Covered (p : SubscriptionPool) : Prop :=
  ∀ id v, p.store.cached id = some v →
    p.store.subscription id = some v ∨ ∃ t ∈ p.threads, owes id t.trace = true

/-- A careful task that changes a row of which a copy is cached owes the removal of the copy. -/
theorem writes_call {p : SubscriptionPool} {owing : Bool} (hcareful : Careful p f o)
    (happlies : f.applies = true) (hwrites : id ∈ o.writes p.store) (hv : p.store.cached id = some v) :
    o.owing id owing (SubscriptionStore.handle f p.store o).1 = true ∨
      (p.store.serve o).2.subscription id = p.store.subscription id := by
  cases o with
  | updateSubscription other u =>
    obtain rfl : other = id := Option.some.inj hwrites
    rcases hcareful with rfl | hno | hnone
    · change SubscriptionOp.owing other owing (.updateSubscription other u)
          (p.store.updateSubscription other u).1 = true ∨
        (p.store.updateSubscription other u).2.subscription other = _
      unfold SubscriptionStore.updateSubscription
      split
      · exact .inl (by simp [SubscriptionOp.owing])
      · exact .inr rfl
    · rw [happlies] at hno
      cases hno
    · rw [hnone] at hv
      cases hv
  | incrementSends other | zeroSends other =>
    obtain rfl : other = id := Option.some.inj hwrites
    rw [hcareful happlies] at hv
    cases hv
  | billing o =>
    cases o with
    | transaction a =>
      by_cases hcommit : (p.store.billing.commit a).isOk = true
      · obtain rfl : a.protocolId = id := by
          simpa [SubscriptionOp.writes, SubscriptionOp.pays, hcommit] using hwrites
        rw [hcareful happlies hcommit] at hv
        cases hv
      · simp [SubscriptionOp.writes, SubscriptionOp.pays, hcommit] at hwrites
    | _ => cases hwrites
  | _ => cases hwrites

/-- What a call of a careful task leaves in the cache is stored, or it was before and nothing changed, or the
task owes its removal. -/
theorem cached_call {p : SubscriptionPool} {w : Bool} (hcareful : Careful p f o)
    (hv : (SubscriptionStore.handle f p.store o).2.cached id = some v) :
    (SubscriptionStore.handle f p.store o).2.subscription id = some v ∨
      o.owing id w (SubscriptionStore.handle f p.store o).1 = true ∨
        o ≠ .cacheDel id ∧ p.store.cached id = some v ∧
          (SubscriptionStore.handle f p.store o).2.subscription id = p.store.subscription id := by
  cases happlies : f.applies with
  | false =>
    rw [handle_of_not_applies happlies] at hv ⊢
    refine .inr (.inr ⟨?_, hv, rfl⟩)
    rintro rfl
    rcases hcareful with h | h
    · rw [happlies] at h
      cases h
    · rw [h] at hv
      cases hv
  | true =>
    by_cases hcaches : id ∈ o.caches
    · rw [handle_of_applies happlies] at hv ⊢
      cases o with
      | cacheSetex other ttl row =>
        obtain rfl : other = id := Option.some.inj hcaches
        have hstored : p.store.subscription other = some row := hcareful happlies
        obtain rfl : row = v := by
          rw [show (p.store.serve (.cacheSetex other ttl row)).2 = p.store.setCache other _ from rfl,
            cached_setCache] at hv
          exact value_of_live hv
        exact .inl hstored
      | cacheDel other =>
        obtain rfl : other = id := Option.some.inj hcaches
        rw [show (p.store.serve (.cacheDel other)).2 = p.store.setCache other none from rfl,
          cached_setCache] at hv
        cases hv
      | _ => cases hcaches
    · have hdel : o ≠ .cacheDel id := fun heq => hcaches (heq ▸ rfl)
      rw [handle_of_applies happlies, serve_cached hcaches] at hv
      by_cases hwrites : id ∈ o.writes p.store
      · rcases writes_call hcareful happlies hwrites hv with howing | hsame
        · exact .inr (.inl howing)
        · rw [handle_of_applies happlies, hsame]
          exact .inr (.inr ⟨hdel, hv, rfl⟩)
      · rw [handle_of_applies happlies, serve_subscription hwrites]
        exact .inr (.inr ⟨hdel, hv, rfl⟩)

/-! ### Runs -/

variable {p p' : SubscriptionPool} {l : SubscriptionLabel} {ls : List SubscriptionLabel}

/-- Replacing an entry of a list keeps the others. -/
theorem mem_set_or {α : Type} {as : List α} {i : Nat} {a b x : α} (ha : as[i]? = some a) (hx : x ∈ as) :
    x = a ∨ x ∈ as.set i b := by
  obtain ⟨j, hj⟩ := List.mem_iff_getElem?.1 hx
  by_cases hij : i = j
  · subst hij
    exact .inl (Option.some.inj (hj.symm.trans ha))
  · exact .inr (List.mem_of_getElem? ((List.getElem?_set_ne hij).trans hj))

/-- What others cannot see in the cache was not there before. -/
theorem cached_of_later {ms : Nat}
    (h : ({ s with billing := { s.billing with now := s.billing.now + ms } } : SubscriptionStore).cached id = some v) :
    s.cached id = some v := by
  simp only [SubscriptionStore.cached, Timed.live] at h ⊢
  split at h
  · next t heq =>
    split at h
    · next hlt =>
      rw [if_pos (Nat.lt_of_le_of_lt (Nat.le_add_right _ _) hlt)]
      exact h
    · cases h
  · cases h

theorem Covered.step (hp : Covered p) (hok : KeepsCache p l) (h : subscribing.step p l = some p') :
    Covered p' := by
  intro id v hv
  cases l with
  | arrive r =>
    obtain rfl := System.step_arrive h
    rcases hp id v hv with hstored | ⟨t, ht, howes⟩
    · exact .inl hstored
    · exact .inr ⟨t, List.mem_append_left _ ht, howes⟩
  | outside ms =>
    obtain ⟨s, hs, rfl⟩ := System.step_outside h
    obtain rfl := Option.some.inj hs
    exact hp id v (cached_of_later hv)
  | pick i c =>
    obtain ⟨t, ht, ⟨k, -, rfl⟩ | ⟨o, k, hprog, rfl⟩⟩ := System.step_pick h
    · -- the scheduler chose: the thread has made the same calls
      rcases hp id v hv with hstored | ⟨u, hu, howes⟩
      · exact .inl hstored
      · rcases mem_set_or (b := { t with prog := k c.1 }) ht hu with rfl | hu
        · exact .inr ⟨_, List.mem_set (List.getElem?_eq_some_iff.1 ht).1 _, howes⟩
        · exact .inr ⟨u, hu, howes⟩
    · have hlt := (List.getElem?_eq_some_iff.1 ht).1
      have hcareful := hok t ht o (by rw [hprog]; rfl)
      rcases cached_call (w := owes id t.trace) hcareful hv with hstored | howing | ⟨hdel, hbefore, hsame⟩
      · exact .inl hstored
      · refine .inr ⟨_, List.mem_set hlt _, ?_⟩
        rw [owes_append]
        exact howing
      · rcases hp id v hbefore with hstored | ⟨u, hu, howes⟩
        · exact .inl (hsame.trans hstored)
        · rcases mem_set_or (b := { t with
            trace := t.trace ++ [subscribing.handler.event c.2 p.store o]
            prog := k (subscribing.handler c.2 p.store o).1 }) ht hu with rfl | hu
          · refine .inr ⟨_, List.mem_set hlt _, ?_⟩
            rw [owes_append, howes]
            exact owing_true hdel
          · exact .inr ⟨u, hu, howes⟩

/-- A hit is a read of the cache, and finds what is cached. -/
theorem hit_cases {found : JsString × Subscription} (h : found ∈ o.hit (SubscriptionStore.handle f s o).1) :
    o = .cacheGet found.1 ∧ s.cached found.1 = some found.2 := by
  cases o with
  | cacheGet other =>
    cases hreply : (SubscriptionStore.handle f s (.cacheGet other)).1 with
    | error e =>
      rw [hreply] at h
      cases h
    | ok c =>
      have hserve := congrArg Prod.fst (SubscriptionStore.handle_ok hreply)
      rw [hreply] at hserve h
      obtain rfl : c = s.cached other := Except.ok.inj hserve
      cases hcached : s.cached other with
      | none =>
        rw [hcached] at h
        cases h
      | some w =>
        rw [hcached] at h
        obtain rfl := Option.some.inj h
        exact ⟨rfl, hcached⟩
  | _ => cases h

/-- In every run whose calls mind the cache, no guard decides with a row that was not stored any more when a
change was made before. -/
theorem cache_coherent (h0 : Fresh s) (hok : subscribing.Keeps KeepsCache (Pool.empty s) ls) :
    Coherent (subscribing.log (Pool.empty s) ls) := by
  intro n hn m hmn y hy found hfound x _ _
  obtain ⟨hlt, hget⟩ := List.getElem?_eq_some_iff.1 hy
  have hlog : subscribing.log (Pool.empty s) ls = (subscribing.log (Pool.empty s) ls).take n ++
      y :: (subscribing.log (Pool.empty s) ls).drop (n + 1) := by
    rw [← hget, List.cons_getElem_drop_succ, List.take_append_drop]
  obtain ⟨ls₁, l, ls₂, p₁, p₂, hsplit⟩ := System.log_split hlog hok
  have hcovered : Covered p₁ :=
    System.Keeps.induction (fun _ _ _ hl hp hs => Covered.step hp hl hs) hsplit.kept
    hsplit.runs fun id v hv => .inl (h0 id v hv)
  obtain ⟨c, t, o, k, rfl, ht, hprog, hevent, -⟩ := System.step_of_answered hsplit.entry
  refine ⟨n, Nat.lt_succ_self n, hmn, y, hy, ?_⟩
  rw [hevent] at hfound ⊢
  obtain ⟨rfl, hcached⟩ := hit_cases hfound
  rcases hcovered _ _ hcached with hstored | ⟨u, hu, howes⟩
  · exact hstored
  · have hawaited := hsplit.holds t ht (.cacheGet found.1) (by rw [hprog]; rfl)
    rw [hawaited (by rw [hcached]; rfl) u hu] at howes
    cases howes

/-! ### A payment and the guard -/

/-- A guard caches the subscription, which is then cancelled; later guards find the row as it is. -/
def cancelledBetweenGuards : List SubscriptionLabel :=
  .arrive (.guard (js "p") 1) :: answers 0 5 ++ .arrive (.cancel (js "p")) :: answers 1 5 ++
    .arrive (.guard (js "p") 1) :: answers 2 5 ++ .arrive (.guard (js "p") 1) :: answers 3 2

-- A guard caches what it finds.
example : (subscribing.run (Pool.empty (subscribedStore 100)) (.arrive (.guard (js "p") 1) :: answers 0 5)).map
    (fun p => (p.store.cached (js "p")).isSome) = some true := by decide +kernel

theorem cache_coherent_cancelledBetweenGuards :
    Coherent (subscribing.log (Pool.empty (subscribedStore 100)) cancelledBetweenGuards) :=
  cache_coherent (fun _ _ h => nomatch h) (by decide +kernel)

/-- A guard caches the subscription, which runs out and is paid for; another guard refuses a request because
of the row that the payment replaced. -/
theorem paid_subscription_refused :
    ∃ p ∈ subscribing.run (Pool.empty (subscribedStore 100)) (.arrive (.guard (js "p") 1) :: answers 0 5 ++
        .outside 200 :: .arrive (.activate (paymentEvent "1" 1)) :: answers 1 4 ++
          .arrive (.guard (js "p") 1) :: answers 2 2),
      ¬ Coherent (subscribing.log (Pool.empty (subscribedStore 100)) (.arrive (.guard (js "p") 1) :: answers 0 5 ++
        .outside 200 :: .arrive (.activate (paymentEvent "1" 1)) :: answers 1 4 ++
          .arrive (.guard (js "p") 1) :: answers 2 2)) ∧
      p.store.billing.subscriptions.map (·.currentPeriodEnd) = [some (200 + 30 * 86400000)] ∧
      p.threads.map (·.prog.result?) =
        [some (.ok ()), some (.ok ()), some (.error (.http 402 (js "SUBSCRIPTION_EXPIRED")))] := by
  decide +kernel

end HeraldGateway
