import HeraldGateway.Async.Budget
import HeraldGateway.Campaigns.Launching
import HeraldGateway.Gateway.Proofs.FootprintProofs
import HeraldGateway.Gateway.Proofs.WorldProofs

/-!
# Campaigns that are taken up by one request at a time

A request acts only after it took the campaign up, and writes its status last. While no other request does so
meanwhile, the campaign stays open until then.
-/

namespace HeraldGateway

open Async

variable {env : Env} {id : JsString} {c : Choice} {s : World} {o : Op} {r : CampaignRequest}

/-! ### What a request does -/

/-- The campaign is not taken up. -/
def NotTakenUp : Good := fun o r => takesUp o r = false

/-- What a request calls before it takes the campaign up neither adds nor writes. -/
theorem acts_if_takenUp : (r.code env id).Within (fun o => o.acts = false) NotTakenUp := by
  have reject : ∀ {campaign : Campaign}, campaign.status.isOpen = false →
      campaign.status ≠ .draft ∧ campaign.status ≠ .scheduled := by
    intro campaign hclosed
    constructor <;> intro hst <;> rw [hst] at hclosed <;> cases hclosed
  cases r with
  | launch protocol =>
    refine Within.bind (Within.perform_bind rfl fun found hg => ?_) fun _ => .ret _
    cases found with
    | none => trivial
    | some campaign =>
      dsimp only
      rw [if_pos (reject hg)]
      exact .throw _
  | cancel protocol =>
    refine Within.perform_bind rfl fun found hg => ?_
    cases found with
    | none => trivial
    | some campaign =>
      dsimp only
      rw [if_pos (reject hg)]
      exact .throw _
  | enqueue =>
    refine Within.bind (Within.perform_bind rfl fun found hg => ?_) fun _ => .ret _
    cases found with
    | none => trivial
    | some campaign => cases hg

/-- The call writes a campaign. -/
def Op.writesCampaign : Op → Bool
  | .campaignUpdate .. => true
  | _ => false

theorem writesCampaign_acts (h : o.acts = false) : o.writesCampaign = false := by
  cases o with
  | campaignUpdate => cases h
  | _ => rfl

/-- Once a request wrote the campaign, it neither adds nor writes any more. -/
theorem sealed_written : Sealed (S := Calls) (fun o _ => o.writesCampaign = true) (fun _ _ => True)
    (fun o => o.acts = false) (fun _ => True) (r.code env id) := by
  have unmarked : ∀ {α : Type} {Q : Except Err α → Prop} {p : Gateway α},
      p.Within (fun o => o.writesCampaign = false) (fun _ _ => True) →
        Sealed (S := Calls) (fun o _ => o.writesCampaign = true) (fun _ _ => True) (fun o => o.acts = false) Q p :=
    Sealed.of_within fun o ho _ hm => by rw [ho] at hm; cases hm
  have write : ∀ {id : JsString} {u : Campaign → Campaign} {Q : Except Err Unit → Prop}, (∀ r, Q r) →
      Sealed (S := Calls) (fun o _ => o.writesCampaign = true) (fun _ _ => True) (fun o => o.acts = false) Q
        (call (.campaignUpdate id u)) :=
    fun {id u} _ hQ => Sealed.perform (S := Calls) (o := .campaignUpdate id u) fun r _ _ => hQ r
  have enqueue : Sealed (S := Calls) (fun o _ => o.writesCampaign = true) (fun _ _ => True) (fun o => o.acts = false)
      (fun _ => True) (enqueueCampaign env id) := by
    refine Sealed.bind (unmarked (within_call rfl)) fun found => ?_
    cases found with
    | none => exact unmarked (.throw _)
    | some campaign =>
      refine Sealed.bind (unmarked (within_call rfl)) fun now => ?_
      refine Sealed.bind (unmarked (Within.allSettled fun p hp => ?_)) fun rs => ?_
      · obtain ⟨wallet, -, rfl⟩ := List.mem_map.1 hp
        exact Within.bind (within_call rfl) fun id => Within.bind (within_call rfl)
          fun _ => within_enqueue rfl
      · refine Sealed.bind (write fun r => ?_) fun _ => unmarked (.ret _)
        cases r <;> trivial
  have ended : ∀ {α : Type} {p : Gateway α},
    Sealed (S := Calls) (fun o _ => o.writesCampaign = true) (fun _ _ => True)
      (fun o => o.acts = false) (fun _ => True) p → Sealed (S := Calls) (fun o _ => o.writesCampaign = true)
        (fun _ _ => True) (fun o => o.acts = false) (fun _ => True) (p.bind fun _ => (.ret () : Gateway Unit)) :=
    fun hp => Sealed.bind (hp.mono fun r _ => by cases r <;> trivial) fun _ => unmarked (.ret _)
  cases r with
  | launch protocol =>
    refine ended (Sealed.bind (unmarked (within_call rfl)) fun found => ?_)
    cases found with
    | none => exact unmarked (.throw _)
    | some campaign => exact Sealed.ite (fun _ => unmarked (.throw _)) fun _ => enqueue
  | enqueue => exact ended enqueue
  | cancel protocol =>
    refine Sealed.bind (unmarked (within_call rfl)) fun found => ?_
    cases found with
    | none => exact unmarked (.throw _)
    | some campaign => exact Sealed.ite (fun _ => unmarked (.throw _)) fun _ => write fun _ => trivial

/-- A call on the campaign, which keeps what identifies it and its wallets. -/
def OnCampaign (id : JsString) : Op → Prop
  | .campaignFindFirst id' _ | .campaignFindUnique id' => id' = id
  | .campaignUpdate _ u => ∀ campaign, (u campaign).id = campaign.id ∧ (u campaign).wallets = campaign.wallets
  | _ => True

theorem within_onCampaign : (r.code env id).Within (OnCampaign id) fun _ _ => True := by
  have enqueue : (enqueueCampaign env id).Within (OnCampaign id) fun _ _ => True := by
    refine Within.bind (within_call rfl) fun found => ?_
    cases found with
    | none => exact .throw _
    | some campaign =>
      refine Within.bind (within_call trivial) fun now => ?_
      refine Within.bind (Within.allSettled fun p hp => ?_) fun rs => ?_
      · obtain ⟨wallet, -, rfl⟩ := List.mem_map.1 hp
        exact Within.bind (within_call trivial) fun id => Within.bind (within_call trivial) fun _ =>
          within_enqueue trivial
      · exact Within.bind (within_call fun _ => ⟨rfl, rfl⟩) fun _ => .ret _
  cases r with
  | launch protocol =>
    refine Within.bind (Within.bind (within_call rfl) fun found => ?_) fun _ => .ret _
    cases found with
    | none => exact .throw _
    | some campaign => exact Within.ite (fun _ => .throw _) fun _ => enqueue
  | enqueue => exact Within.bind enqueue fun _ => .ret _
  | cancel protocol =>
    refine Within.bind (within_call rfl) fun found => ?_
    cases found with
    | none => exact .throw _
    | some campaign => exact Within.ite (fun _ => .throw _) fun _ => within_call fun _ => ⟨rfl, rfl⟩

/-! ### How often a launch adds -/

/-- What a call costs of the adds for a wallet. -/
def walletCost (wallet : JsString) : Op → Nat
  | .notificationAdd data .. => if data.wallet = wallet then 1 else 0
  | _ => 0

theorem enqueuesFor_le (wallet : JsString) (e : CampaignEvent) :
    (enqueuesFor wallet e).toNat ≤ walletCost wallet e.op := by
  obtain ⟨c, s, o, r, s'⟩ := e
  cases o with
  | notificationAdd data jobId timeout =>
    by_cases hw : data.wallet = wallet
    · rw [walletCost, if_pos hw]
      exact Bool.toNat_le _
    · have hne : (data.wallet == wallet) = false := beq_eq_false_iff_ne.2 hw
      simp [enqueuesFor, hne]
  | _ => exact Nat.le_of_eq (by simp [enqueuesFor, reachesQueue, Op.adds, walletCost])

theorem enqueuesFor_le_traceCost (wallet : JsString) {tr : List CampaignEvent} :
    traceWeight (fun e => (enqueuesFor wallet e).toNat) tr ≤ traceCost (walletCost wallet) tr :=
  show _ ≤ traceWeight (fun e => walletCost wallet e.op) tr from traceWeight_le
    fun e _ => enqueuesFor_le wallet e

/-- The campaign that a launch found before it added anything. -/
def launchedCampaign : (o : Op) → Except Err o.Res → Option Campaign
  | .campaignFindUnique _, .ok found => found
  | _, _ => none

theorem sum_indicator (wallet : JsString) (wallets : List JsString) :
    (wallets.map fun w => if w = wallet then 1 else 0).sum = wallets.count wallet := by
  induction wallets with
  | nil => rfl
  | cons w wallets ih =>
    rw [List.map_cons, List.sum_cons, ih, List.count_cons, Nat.add_comm]
    by_cases h : w = wallet <;> simp [h]

theorem budget_enqueueAudience (wallet : JsString) (campaign : Campaign) :
    Budget (S := Calls) (walletCost wallet) (campaign.wallets.count wallet)
    (enqueueAudience env campaign) := by
  refine Budget.free_bind (within_call rfl) fun now => Budget.bind_free ?_ fun _ => ?_
  · rw [← sum_indicator]
    refine Budget.allSettled ?_
    rw [List.forall₂_map_left_iff, List.forall₂_map_right_iff]
    refine List.forall₂_same.2 fun w _ => ?_
    refine Budget.free_bind (within_call rfl) fun id => Budget.free_bind (within_call rfl) fun _ => ?_
    exact Budget.perform (S := Calls) (ε := Err) (o := .enqueue (campaignJob env campaign id w)) (Nat.le_refl _)
  · exact Within.bind (within_call rfl) fun _ => .ret _

theorem traceCost_cons {wallet : JsString} {e : CampaignEvent} {tr : List CampaignEvent} :
    traceCost (walletCost wallet) (e :: tr) = walletCost wallet e.op + traceCost (walletCost wallet) tr := by
  simp [traceCost]

/-- Enqueueing a campaign adds at most one job for each of the wallets of the campaign that it found. -/
theorem enqueue_cost {wallet : JsString} {tr : List CampaignEvent} {q : Gateway Nat}
    (hr : Runs (World.handle env) (enqueueCampaign env id) tr q) : traceCost (walletCost wallet) tr = 0 ∨
      ∃ e ∈ tr, ∃ campaign ∈ launchedCampaign e.op e.reply,
        traceCost (walletCost wallet) tr ≤ campaign.wallets.count wallet := by
  rcases Runs.perform_bind_cases hr with rfl | ⟨c, s, ⟨e, -, rfl⟩ | ⟨found, tr', hfound, rfl, hr'⟩⟩
  · exact .inl rfl
  · exact .inl rfl
  cases found with
  | none => exact .inl (by rw [(hr'.ended rfl).1]; rfl)
  | some launched =>
    refine .inr ⟨_, List.mem_cons_self, launched, ?_, ?_⟩
    · simp only [Handler.event, hfound]
      rfl
    · have hcost := (Runs.budget hr' (budget_enqueueAudience wallet launched)).1
      rw [traceCost_cons]
      change 0 + _ ≤ _
      omega

theorem launch_cost {wallet : JsString} {protocol : AuthenticatedProtocol} {tr : List CampaignEvent}
    {q : Gateway Nat} (hr : Runs (World.handle env) (launchCampaign env id protocol) tr q) :
    traceCost (walletCost wallet) tr = 0 ∨
      ∃ e ∈ tr, ∃ campaign ∈ launchedCampaign e.op e.reply,
        traceCost (walletCost wallet) tr ≤ campaign.wallets.count wallet := by
  rcases Runs.perform_bind_cases hr with rfl | ⟨c, s, ⟨e, -, rfl⟩ | ⟨found, tr', -, rfl, hr'⟩⟩
  · exact .inl rfl
  · exact .inl rfl
  have hfirst : ∀ tr : List CampaignEvent, traceCost (walletCost wallet)
      ((World.handle env).event c s (.campaignFindFirst id protocol.protocolId) :: tr) =
        traceCost (walletCost wallet) tr := fun tr => by rw [traceCost_cons]; exact Nat.zero_add _
  rw [hfirst]
  cases found with
  | none => exact .inl (by rw [(hr'.ended rfl).1]; rfl)
  | some campaign =>
    dsimp only at hr'
    split at hr'
    · exact .inl (by rw [(hr'.ended rfl).1]; rfl)
    · rcases enqueue_cost hr' with hzero | ⟨e, he, hlaunched⟩
      · exact .inl hzero
      · exact .inr ⟨e, List.mem_cons_of_mem _ he, hlaunched⟩

theorem within_found {wallet : JsString} {wallets : List JsString} {tr : List CampaignEvent}
    (h : traceCost (walletCost wallet) tr = 0 ∨ ∃ e ∈ tr, ∃ campaign ∈ launchedCampaign e.op e.reply,
      traceCost (walletCost wallet) tr ≤ campaign.wallets.count wallet)
    (hfound : ∀ e ∈ tr, ∀ campaign ∈ launchedCampaign e.op e.reply, campaign.wallets = wallets) :
    traceCost (walletCost wallet) tr ≤ wallets.count wallet := by
  rcases h with hzero | ⟨e, he, campaign, hcampaign, hle⟩
  · exact hzero.trans_le (Nat.zero_le _)
  · rwa [hfound e he campaign hcampaign] at hle

/-- No request adds more than that. -/
theorem request_cost {wallet : JsString} {wallets : List JsString} {tr : List CampaignEvent}
    {q : Gateway Unit} (hr : Runs (World.handle env) (r.code env id) tr q)
    (hfound : ∀ e ∈ tr, ∀ campaign ∈ launchedCampaign e.op e.reply, campaign.wallets = wallets) :
    traceCost (walletCost wallet) tr ≤ wallets.count wallet := by
  have launched : ∀ {p : Gateway Nat},
    (∀ {tr : List CampaignEvent} {q : Gateway Nat}, Runs (World.handle env) p tr q →
      traceCost (walletCost wallet) tr = 0 ∨ ∃ e ∈ tr, ∃ campaign ∈ launchedCampaign e.op e.reply,
        traceCost (walletCost wallet) tr ≤ campaign.wallets.count wallet) →
      Runs (World.handle env) (p.bind fun _ => .ret ()) tr q →
        traceCost (walletCost wallet) tr ≤ wallets.count wallet := by
    intro p hcost hr
    rcases hr.andThen_cases with ⟨p', hp', -⟩ | ⟨tr₁, tr₂, p', res, rfl, hp', -, hrest⟩
    · exact within_found (hcost hp') hfound
    · have hnil : tr₂ = [] := by
        cases res with
        | ok n => exact (hrest.ended rfl).1
        | error e => exact (hrest.ended rfl).1
      subst hnil
      rw [List.append_nil] at hfound ⊢
      exact within_found (hcost hp') hfound
  cases r with
  | launch protocol => exact launched launch_cost hr
  | enqueue => exact launched enqueue_cost hr
  | cancel protocol =>
    have hfree : (CampaignRequest.code env id (.cancel protocol)).Within (fun o => walletCost wallet o = 0)
        fun _ _ => True := by
      refine Within.bind (within_call rfl) fun found => ?_
      cases found with
      | none => exact .throw _
      | some campaign => exact Within.ite (fun _ => .throw _) fun _ => within_call rfl
    exact (hr.budget (Budget.of_within (n := 0) hfree)).1.trans (Nat.zero_le _)

/-! ### The campaign in the store -/

/-- Only writes of campaigns change them. -/
theorem handle_campaigns (h : o.writesCampaign = false) :
    (World.handle env c s o).2.campaigns = s.campaigns :=
  handle_untouched.campaigns fun ht => by
    cases o with
    | campaignUpdate => cases h
    | _ => cases ht

theorem handle_campaignRows (h : o.writesCampaign = false) :
    (World.handle env c s o).2.campaignRows id = s.campaignRows id := by
  unfold World.campaignRows
  rw [handle_campaigns h]

/-- The wallets of a campaign stay. -/
theorem campaignRows_wallets (h : OnCampaign id o) :
    ((World.handle env c s o).2.campaignRows id).map (·.wallets) =
    (s.campaignRows id).map (·.wallets) := by
  by_cases hw : o.writesCampaign = false
  · rw [handle_campaignRows hw]
  cases o with
  | campaignUpdate id' u =>
    have hkept : ((updateWhere (·.id == id') u s.campaigns).filter (·.id == id)).map (·.wallets) =
        (s.campaigns.filter (·.id == id)).map (·.wallets) := by
      unfold updateWhere
      rw [List.filter_map, List.map_map]
      have hid : ((fun campaign : Campaign => campaign.id == id) ∘ fun a => if a.id == id' then u a else a) =
          fun campaign => campaign.id == id := by
        funext campaign
        simp only [Function.comp]
        split
        · rw [(h campaign).1]
        · rfl
      rw [hid]
      refine List.map_congr_left fun campaign _ => ?_
      simp only [Function.comp]
      split
      · exact (h campaign).2
      · rfl
    refine handle_rel (R := fun s s' => (s'.campaignRows id).map (·.wallets) = (s.campaignRows id).map (·.wallets))
      rfl ?_ fun _ => rfl
    simp only [World.serve]
    split
    · exact hkept
    · rfl
  | _ => exact absurd rfl hw

theorem campaignWallets_eq {s s' : World}
    (h : (s.campaignRows id).map (·.wallets) = (s'.campaignRows id).map (·.wallets)) :
    s.campaignWallets id = s'.campaignWallets id := by
  have hhead : ∀ rows : List Campaign,
    rows.head?.elim [] (·.wallets) = (rows.map (·.wallets)).head?.getD [] := by
    rintro (_ | ⟨campaign, rows⟩) <;> rfl
  rw [World.campaignWallets, World.campaignWallets, hhead, hhead, h]

/-- A launch finds the wallets of the campaign. -/
theorem wallets_of_launched {campaign : Campaign} (ho : OnCampaign id o)
    (h : campaign ∈ launchedCampaign o (World.handle env c s o).1) :
    campaign.wallets = s.campaignWallets id := by
  cases o with
  | campaignFindUnique id' =>
    obtain rfl : id' = id := ho
    cases hr : (World.handle env c s (.campaignFindUnique id')).1 with
    | error e =>
      rw [hr] at h
      cases h
    | ok found =>
      have hfound := hr
      rw [handle_ok hr] at hfound
      have hfind : s.campaigns.find? (·.id == id') = found := Except.ok.inj hfound
      rw [hr] at h
      obtain rfl : found = some campaign := h
      rw [← List.head?_filter] at hfind
      rw [World.campaignWallets, World.campaignRows, hfind]
      rfl
  | _ => cases h

/-! ### Runs -/

variable {p p' : CampaignPool} {l : CampaignLabel} {ls : List CampaignLabel} {rows : List (List JsString)}

/-- What holds in every pool that a run reaches. -/
structure LaunchInvariant (env : Env) (id : JsString) (rows : List (List JsString))
    (p : CampaignPool) : Prop where
  traced : (campaignRequests env id).Traced p
  kept : System.Always (fun s => (s.campaignRows id).map (·.wallets) = rows) p
  alone : p.Alone takingUp reachesQueue
  /-- Until a request that took the campaign up wrote it, the campaign is open. -/
  stays : ∀ t ∈ p.threads, t.Started takingUp → t.prog.running = true →
    (∀ e ∈ t.trace, e.op.writesCampaign = false) →
    p.store.campaignOpen id = true
  final : ∀ t ∈ p.threads, ∀ e ∈ t.trace, e.before.campaignStatus id = some .cancelled →
    e.op.adds = false ∧ e.after.campaignStatus id = some .cancelled

/-- A request that is about to add or write took the campaign up, and wrote it at no time before. -/
theorem acting_of_next (htr : (campaignRequests env id).Traced p) {t : CampaignThread} {i : Nat}
    (ht : p.threads[i]? = some t) {k : Except Err o.Res → Gateway Unit} (hprog : t.prog = .call o k)
    (hacts : o.acts = true) : t.Started takingUp ∧ ∀ e ∈ t.trace, e.op.writesCampaign = false := by
  have hrun := htr i t ht
  rw [hprog] at hrun
  have hnot : ¬ o.acts = false := by rw [hacts]; decide
  refine ⟨?_, fun e he => Bool.eq_false_iff.2 fun hw => ?_⟩
  · obtain ⟨e, he, hopen⟩ := hrun.exists_reply acts_if_takenUp hnot
    exact ⟨e, he, Bool.not_eq_false _ ▸ hopen⟩
  · exact hnot ((hrun.sealed sealed_written fun _ _ => trivial).2 ⟨e, he, hw⟩).1

theorem reachesQueue_acts {e : CampaignEvent} (h : reachesQueue e = true) : e.op.acts = true := by
  obtain ⟨c, s, o, r, s'⟩ := e
  cases o with
  | notificationAdd => rfl
  | _ => cases h

/-- Whoever is about to add or write is busy, and the campaign is open. -/
theorem engaged_of_acting (hp : LaunchInvariant env id rows p) {i : Nat} {t : CampaignThread}
    {k : Except Err o.Res → Gateway Unit} (ht : p.threads[i]? = some t) (hprog : t.prog = .call o k)
    (hacts : o.acts = true) : t.Engaged takingUp reachesQueue ∧ p.store.campaignOpen id = true := by
  obtain ⟨hopen, hunwritten⟩ := acting_of_next hp.traced ht hprog hacts
  have hrun : t.prog.running = true := by rw [hprog]; rfl
  exact ⟨⟨hopen, .inl hrun⟩, hp.stays t (List.mem_of_getElem? ht) hopen hrun hunwritten⟩

theorem onCampaign_of_next (hp : LaunchInvariant env id rows p) {i : Nat} {t : CampaignThread}
    {k : Except Err o.Res → Gateway Unit} (ht : p.threads[i]? = some t) (hprog : t.prog = .call o k) :
    OnCampaign id o := by
  have hrun := hp.traced i t ht
  rw [hprog] at hrun
  exact (hrun.along within_onCampaign fun _ _ => trivial).1.1

/-- The rows of the campaign change only if it is written. -/
theorem campaignRows_step (h : (campaignRequests env id).step p l = some p') :
    p'.store.campaignRows id = p.store.campaignRows id ∨ ∃ i c t o k, l = .pick i c ∧ p.threads[i]? = some t ∧
      t.prog = .call o k ∧ o.writesCampaign = true ∧ p'.store = (World.handle env c.2 p.store o).2 := by
  rcases System.store_cases h with hs | ⟨i, c, t, o, k, hl, ht, hprog, hs⟩ | ⟨e, -, he⟩
  · exact .inl (by rw [hs])
  · by_cases hw : o.writesCampaign = true
    · exact .inr ⟨i, c, t, o, k, hl, ht, hprog, hw, hs⟩
    · rw [hs]
      exact .inl (handle_campaignRows (Bool.not_eq_true _ ▸ hw))
  · simp only [campaignRequests] at he
    split at he
    · next hkept =>
      obtain rfl := Option.some.inj he
      exact .inl hkept
    · cases he

theorem kept_step (h : (campaignRequests env id).step p l = some p') (hp : LaunchInvariant env id rows p) :
    (p'.store.campaignRows id).map (·.wallets) = rows := by
  rcases campaignRows_step h with hsame | ⟨i, c, t, o, k, -, ht, hprog, -, hs⟩
  · rw [hsame]
    exact hp.kept.1
  · rw [hs]
    exact (campaignRows_wallets (onCampaign_of_next hp ht hprog)).trans hp.kept.1

/-- A write is made by the one that is busy, who has written then. -/
theorem written_of_engaged (hp : LaunchInvariant env id rows p) {i j : Nat} {c : Bool × Choice}
    {t' u : CampaignThread} {k : Except Err o.Res → Gateway Unit}
    (h : (campaignRequests env id).step p (.pick j c) = some p') (hi : p'.threads[i]? = some t')
    (hbusy : t'.Engaged takingUp reachesQueue) (hu : p.threads[j]? = some u) (hprog : u.prog = .call o k)
    (hw : o.writesCampaign = true) : ∃ e ∈ t'.trace, e.op.writesCampaign = true := by
  have hacts : o.acts = true := Bool.not_eq_false _ ▸ fun hno => by
    rw [writesCampaign_acts hno] at hw
    cases hw
  obtain ⟨v, hv, ⟨k', hprog', -⟩ | ⟨o', k', hprog', rfl⟩⟩ := System.step_pick h
  · obtain rfl := Option.some.inj (hv.symm.trans hu)
    rw [hprog] at hprog'
    cases hprog'
  · obtain rfl := Option.some.inj (hv.symm.trans hu)
    rw [hprog] at hprog'
    obtain ⟨rfl, -⟩ := Prog.call.inj hprog'
    rw [List.getElem?_set] at hi
    split at hi
    · split at hi
      · obtain rfl := Option.some.inj hi
        exact ⟨_, List.mem_append_right _ (List.mem_singleton.2 rfl), hw⟩
      · cases hi
    · next hne => exact absurd (hp.alone j i v t' hu hi (engaged_of_acting hp hu hprog hacts).1 hbusy) hne

theorem stays_step (hok : TakesUpAlone env id p l) (h : (campaignRequests env id).step p l = some p')
    (hp : LaunchInvariant env id rows p) : ∀ t ∈ p'.threads, t.Started takingUp → t.prog.running = true →
      (∀ e ∈ t.trace, e.op.writesCampaign = false) → p'.store.campaignOpen id = true := by
  intro t' ht' htook hrun hunwritten
  obtain ⟨i, hi⟩ := List.mem_iff_getElem?.1 ht'
  rcases campaignRows_step h with hsame | ⟨j, c, u, o, k, rfl, hu, hprog, hw, -⟩
  · have hopen : p'.store.campaignOpen id = p.store.campaignOpen id := by
      unfold World.campaignOpen World.campaignStatus
      rw [hsame]
    rw [hopen]
    rcases System.thread_cases h hi with ht | ⟨r, -, -, -, rfl⟩ | ⟨t, c, k, -, ht, hprog, -, rfl⟩ |
      ⟨t, c, o, k, rfl, ht, hprog, -, rfl⟩
    · exact hp.stays t' (List.mem_of_getElem? ht) htook hrun hunwritten
    · obtain ⟨e, he, -⟩ := htook
      cases he
    · exact hp.stays t (List.mem_of_getElem? ht) htook (by rw [hprog]; rfl) hunwritten
    · by_cases hbefore : t.Started takingUp
      · exact hp.stays t (List.mem_of_getElem? ht) hbefore (by rw [hprog]; rfl) fun e he =>
          hunwritten e (List.mem_append_left _ he)
      · exact (hok t ht hbefore o (by rw [hprog]; rfl) ((System.started_append.1 htook).resolve_left hbefore)).1
  · obtain ⟨e, he, hwritten⟩ := written_of_engaged hp h hi ⟨htook, .inl hrun⟩ hu hprog hw
    rw [hunwritten e he] at hwritten
    cases hwritten

/-- Nobody acts on a cancelled campaign. -/
theorem final_event (hp : LaunchInvariant env id rows p) {i : Nat} {t : CampaignThread} {choice : Choice}
    {k : Except Err o.Res → Gateway Unit} (ht : p.threads[i]? = some t) (hprog : t.prog = .call o k)
    (hcancelled : p.store.campaignStatus id = some .cancelled) :
    o.adds = false ∧ (World.handle env choice p.store o).2.campaignStatus id = some .cancelled := by
  have hidle : o.acts = false := Bool.eq_false_iff.2 fun hacts => by
    have hopen := (engaged_of_acting hp ht hprog hacts).2
    rw [World.campaignOpen, hcancelled] at hopen
    cases hopen
  refine ⟨?_, ?_⟩
  · cases o with
    | notificationAdd => cases hidle
    | _ => rfl
  · unfold World.campaignStatus at hcancelled ⊢
    rw [handle_campaignRows (writesCampaign_acts hidle)]
    exact hcancelled

theorem launchInvariant_step (hok : TakesUpAlone env id p l)
    (h : (campaignRequests env id).step p l = some p') (hp : LaunchInvariant env id rows p) :
    LaunchInvariant env id rows p' := by
  have halone : p'.Alone takingUp reachesQueue :=
    System.alone_step h hp.alone fun i c t o k hl ht hnew hprog htakes => by
    subst hl
    exact (hok t ht hnew o (by rw [hprog]; rfl) htakes).2
  refine ⟨hp.traced.step h, hp.kept.step h (kept_step h hp), halone, stays_step hok h hp,
    fun t' ht' e he hcancelled => ?_⟩
  obtain ⟨i, hi⟩ := List.mem_iff_getElem?.1 ht'
  rcases System.thread_cases h hi with ht | ⟨r, -, -, -, rfl⟩ | ⟨t, c, k, -, ht, -, -, rfl⟩ |
    ⟨t, c, o, k, -, ht, hprog, -, rfl⟩
  · exact hp.final t' (List.mem_of_getElem? ht) e he hcancelled
  · cases he
  · exact hp.final t (List.mem_of_getElem? ht) e he hcancelled
  · rcases List.mem_append.1 he with he | he
    · exact hp.final t (List.mem_of_getElem? ht) e he hcancelled
    · rw [List.mem_singleton.1 he] at hcancelled ⊢
      exact final_event hp ht hprog hcancelled

theorem launchInvariant_empty (s : World) :
    LaunchInvariant env id ((s.campaignRows id).map (·.wallets)) (Pool.empty s) :=
  ⟨System.traced_empty s, System.always_empty rfl, System.alone_empty s,
    fun _ ht => absurd ht List.not_mem_nil, fun _ ht => absurd ht List.not_mem_nil⟩

/-- A request that enqueued for a wallet took the campaign up. -/
theorem engaged_of_enqueued (hp : LaunchInvariant env id rows p) {t : CampaignThread} (ht : t ∈ p.threads)
    {e : CampaignEvent} (he : e ∈ t.trace) {wallet : JsString} (hpos : 0 < (enqueuesFor wallet e).toNat) :
    t.Engaged takingUp reachesQueue := by
  have hreach : reachesQueue e = true := by
    unfold enqueuesFor at hpos
    cases hr : reachesQueue e with
    | true => rfl
    | false =>
      rw [hr, Bool.false_and] at hpos
      cases hpos
  have hnot : ¬ e.op.acts = false := by rw [reachesQueue_acts hreach]; decide
  obtain ⟨i, hrun⟩ := hp.traced.of_mem ht
  obtain ⟨e', he', hopen⟩ := hrun.exists_reply_of_mem acts_if_takenUp he hnot
  exact ⟨⟨e', he', Bool.not_eq_false _ ▸ hopen⟩, .inr ⟨e, he, hreach⟩⟩

/-- Where a campaign is taken up only while it is open and once others that took it up came to nothing, it is
launched at most once, and nothing comes of it once it was cancelled. -/
theorem campaigns_launch_once
    (hok : (campaignRequests env id).Keeps (TakesUpAlone env id) (Pool.empty s) ls)
    (hr : (campaignRequests env id).run (Pool.empty s) ls = some p) :
    LaunchedOnce id (s.campaignWallets id) p := by
  have hI : LaunchInvariant env id ((s.campaignRows id).map (·.wallets)) p := System.Keeps.induction
    (fun _ _ _ hl hp h => launchInvariant_step hl h hp) hok hr (launchInvariant_empty s)
  refine ⟨fun wallet => System.weight_le_of_engaged hI.alone (fun t ht => ?_) fun t ht e he hpos =>
    engaged_of_enqueued hI ht he hpos, hI.final⟩
  obtain ⟨i, hrun⟩ := hI.traced.of_mem ht
  refine (enqueuesFor_le_traceCost wallet).trans (request_cost hrun fun e he campaign hcampaign => ?_)
  have hevent := (hrun.along within_onCampaign fun _ _ => trivial).2 e he
  have hkept := (hI.kept.2 t ht e he).1
  obtain ⟨c, s', o, rfl⟩ := hrun.event e he
  rw [wallets_of_launched hevent hcampaign]
  exact campaignWallets_eq hkept

/-! ### Runs that keep and break it -/

/-- An installation with a campaign to one wallet that has not been launched. -/
def drafted : World :=
  { World.blank with campaigns := [⟨js "k", js "p", [js "w"], js "s", js "b", js "defi", none, .draft, none, 0⟩] }

/-- A launch, and a cancellation that comes too late. -/
def launchedThenCancelled : List CampaignLabel :=
  .arrive (.launch (client .production)) :: proceeds 0 7 ++
    .arrive (.cancel (client .production)) :: proceeds 1 1

theorem campaigns_launch_once_launchedThenCancelled :
    ∃ p ∈ (campaignRequests Env.transparent (js "k")).run (Pool.empty drafted) launchedThenCancelled,
      LaunchedOnce (js "k") (drafted.campaignWallets (js "k")) p := by
  obtain ⟨p, hp⟩ := Option.isSome_iff_exists.1 (show ((campaignRequests Env.transparent (js "k")).run
    (Pool.empty drafted) launchedThenCancelled).isSome by decide +kernel)
  exact ⟨p, hp, campaigns_launch_once (by decide +kernel) hp⟩

/-- Two launches that both find the campaign open, so that its target is sent to twice. -/
def launchedByTwo : List CampaignLabel :=
  .arrive (.launch (client .production)) :: .arrive (.launch (client .production)) ::
    proceeds 0 1 ++ proceeds 1 1 ++ proceeds 0 6 ++ proceeds 1 6

/-- A cancellation in the middle of a launch, which then adds a job and marks the campaign as running. -/
def cancelledMeanwhile : List CampaignLabel :=
  .arrive (.launch (client .production)) :: .arrive (.cancel (client .production)) ::
    proceeds 0 2 ++ proceeds 1 2 ++ proceeds 0 5

/-- Two launches at once send twice, and a launch revives a campaign that was cancelled meanwhile. -/
theorem launched_twice_and_revived :
    (∃ p ∈ (campaignRequests Env.transparent (js "k")).run (Pool.empty drafted) launchedByTwo,
      ¬ LaunchedOnce (js "k") (drafted.campaignWallets (js "k")) p) ∧
    ∃ p ∈ (campaignRequests Env.transparent (js "k")).run (Pool.empty drafted) cancelledMeanwhile,
      ¬ LaunchedOnce (js "k") (drafted.campaignWallets (js "k")) p := by
  constructor
  · obtain ⟨p, hp, htwice⟩ := show ∃ p ∈ (campaignRequests Env.transparent (js "k")).run (Pool.empty drafted)
      launchedByTwo, ¬ p.weight (fun e => (enqueuesFor (js "w") e).toNat) ≤
        (drafted.campaignWallets (js "k")).count (js "w")
        by decide +kernel
    exact ⟨p, hp, fun h => htwice (h.once (js "w"))⟩
  · obtain ⟨p, hp, t, ht, e, he, hcancelled, hrevived⟩ :=
      show ∃ p ∈ (campaignRequests Env.transparent (js "k")).run
      (Pool.empty drafted) cancelledMeanwhile, ∃ t ∈ p.threads, ∃ e ∈ t.trace,
        e.before.campaignStatus (js "k") = some .cancelled ∧ e.after.campaignStatus (js "k") = some .running
          by decide +kernel
    refine ⟨p, hp, fun h => ?_⟩
    have hstays := (h.final t ht e he hcancelled).2
    rw [hrevived] at hstays
    cases hstays

end HeraldGateway
