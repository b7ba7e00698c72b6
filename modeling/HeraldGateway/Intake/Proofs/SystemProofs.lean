import HeraldGateway.Intake.System
import HeraldGateway.Intake.Proofs.ClaimProofs
import HeraldGateway.Async.Along

/-!
# Notify requests follow the idempotency protocol

First what each call does to the ledger, once per call; then the functions of the notify path, from the
inside out; at the end the refinement of the idempotency protocol by the system of all requests.
-/

namespace HeraldGateway

open Async Intake

variable {env : Env} {c : Choice} {s : World}

/-! ### Calls -/

theorem ledgerOf_updateNotification (id : NotificationId) (u : NotificationUpdate) :
    ledgerOf (s.updateNotification id u).2 = ledgerOf s := by
  unfold World.updateNotification
  split
  · simp only [ledgerOf, updateWhere, List.map_map]
    congr 1
    refine List.map_congr_left fun n _ => ?_
    simp only [Function.comp_apply]
    split <;> rfl
  · rfl

/-- An error that no unique column caused. -/
def NotUnique {α : Type} (r : Except Err α) : Prop := r ≠ .error .uniqueViolation

theorem serve_ledger {o : Op} (ho : touchesLedger o = false) :
    ledgerOf (s.serve env c o).2 = ledgerOf s ∧ NotUnique (s.serve env c o).1 := by
  cases o with
  | idempotencySetNx | idempotencyDel | notificationCreate | notificationCreateMany | notificationAdd
  | unsubscribeTokenCreate => cases ho
  | notificationUpdate id u =>
    refine ⟨ledgerOf_updateNotification id u, ?_⟩
    simp only [World.serve, World.updateNotification]
    split <;> exact nofun
  | digestAdd data at_ =>
    simp only [World.serve, World.addDigest, World.reply]
    split <;> exact ⟨rfl, nofun⟩
  | scheduledUpdate | campaignUpdate | portalUserUpdate | unsubscribeTokenUpdate
  | channelDeliveryCreateAll =>
    simp only [World.serve]
    split <;> exact ⟨rfl, nofun⟩
  | _ => exact ⟨rfl, nofun⟩

theorem meet_ledger {α : Type} {r : Except Err α × World} (h : ledgerOf r.2 = ledgerOf s)
    (hr : NotUnique r.1) :
    ledgerOf (World.meet c.fault s r).2 = ledgerOf s ∧ NotUnique (World.meet c.fault s r).1 := by
  unfold World.meet
  cases c.fault with
  | none => exact ⟨h, hr⟩
  | refused e => exact ⟨rfl, nofun⟩
  | unheard e => exact ⟨h, nofun⟩
  | stalled => exact ⟨rfl, nofun⟩

/-- A call that is not about keys, rows or jobs leaves the ledger alone, whatever its fate. -/
theorem handle_ledger {o : Op} (ho : touchesLedger o = false) :
    ledgerOf (World.handle env c s o).2 = ledgerOf s ∧ NotUnique (World.handle env c s o).1 := by
  have hs : ledgerOf (s.serve env c o).2 = ledgerOf s ∧ NotUnique (s.serve env c o).1 :=
    serve_ledger ho
  cases o with
  | idempotencySetNx | idempotencyDel | notificationCreate | notificationCreateMany | notificationAdd
  | unsubscribeTokenCreate => cases ho
  | now | uuid => exact hs
  | _ => exact meet_ledger hs.1 hs.2

theorem ledgerOf_setIdempotency (k : JsString) (v : Option (Timed NotificationId)) :
    ledgerOf (s.setIdempotency k v) = (ledgerOf s).setHeld k (Timed.live s.now v) := by
  simp only [ledgerOf, Ledger.setHeld, World.setIdempotency]
  congr 1
  funext k'
  simp only [World.holder]
  split <;> rfl

theorem ledgerOf_addJob {j : QueuedJob} (hj : j.jobId = none) :
    ledgerOf (s.addJob j) = (ledgerOf s).enqueue j.data.notificationId := by
  simp only [World.addJob, hj, Option.any_none, Bool.false_eq_true, if_false, ledgerOf,
    Ledger.enqueue, List.map_append, List.map_cons, List.map_nil]
  rfl

theorem ledgerOf_createNotification {n : NewNotification} (h : s.clashes n = false) :
    s.createNotification n = (.ok (), (s.createNotification n).2) ∧
      ledgerOf (s.createNotification n).2 =
        (ledgerOf s).store ⟨n.id, n.idempotencyKey, n.protocolId⟩ := by
  simp only [World.createNotification, h, Bool.false_eq_true, if_false, ledgerOf, Ledger.store,
    List.map_append, List.map_cons, List.map_nil, true_and]
  rfl

/-- A row breaks no unique column if its key is vacant and its identifier new. -/
theorem vacant_of_not_clashes {n : NewNotification} {k : JsString} (h : s.clashes n = false)
    (hk : n.idempotencyKey = some k) : (ledgerOf s).Vacant k := by
  intro slot hslot
  obtain ⟨row, hrow, rfl⟩ := List.mem_map.1 hslot
  have hne := List.any_eq_false.1 h row hrow
  simp only [hk, Option.isSome_some, Bool.and_true, Bool.or_eq_true, beq_iff_eq, not_or] at hne
  exact hne.2

/-- A row that breaks a unique column has the identifier or the key of a stored one. -/
theorem slot_of_clashes {n : NewNotification} (h : s.clashes n = true) :
    ∃ slot ∈ (ledgerOf s).slots,
      slot.id = n.id ∨ slot.key = n.idempotencyKey ∧ slot.key ≠ none := by
  obtain ⟨row, hrow, hclash⟩ := List.any_eq_true.1 h
  refine ⟨_, List.mem_map_of_mem hrow, ?_⟩
  simp only [Bool.or_eq_true, beq_iff_eq, Bool.and_eq_true] at hclash
  refine hclash.imp_right fun ⟨he, hsome⟩ => ⟨he, ?_⟩
  rw [he]
  exact Option.isSome_iff_ne_none.1 hsome

/-- The value satisfies `P`, or the error is not that of a unique column. -/
def Unless {α : Type} (P : α → Prop) : Except Err α → Prop
  | .ok a => P a
  | .error e => e ≠ .uniqueViolation

/-- A program that makes no call about keys, rows or jobs and ends as `P` says. -/
abbrev Quiet {α : Type} (P : α → Prop) (p : Gateway α) : Prop :=
  Along (fun o => touchesLedger o = false) (fun _ => NotUnique) (Unless P) p

/-! ### Calls as moves -/

section moves

variable (env) (A : Premises) (i : Nat) (r : NotifyRequest) (w : World)

/-- The `i`-th request, which arrived in `w`, runs a program from the phase `x` by moves of the
idempotency protocol and ends as `done` says. -/
abbrev Obeys {α : Type} (done : Phase NotificationId → Except Err α → Prop) (p : Gateway α)
    (x : Phase NotificationId) : Prop :=
  Follows (World.handle env) (fun c s o => A.settled → FindsEnqueued c s o)
    (fun x s y s' => Moves A.rules i (r, w) x (ledgerOf s) y (ledgerOf s')) done p x

variable {env A i r w} {x : Phase NotificationId}

theorem obeys_call (o : Op) {done : Phase NotificationId → Except Err o.Res → Prop}
    (h : ∀ c s, (A.settled → FindsEnqueued c s o) → ∃ y,
      Moves A.rules i (r, w) x (ledgerOf s) y (ledgerOf (World.handle env c s o).2) ∧
        done y (World.handle env c s o).1) :
    Obeys env A i r w done (call o) x :=
  Follows.perform h

/-- A program that makes no call about keys, rows or jobs leaves its request in its phase. -/
theorem obeys_quiet {α : Type} {p : Gateway α} {P : α → Prop} (hp : Quiet P p) :
    Obeys env A i r w (fun y res => y = x ∧ Unless P res) p x := by
  refine Follows.of_along (fun c s o ho => ?_) hp
  obtain ⟨hl, hr⟩ : ledgerOf (World.handle env c s o).2 = ledgerOf s ∧
      NotUnique (World.handle env c s o).1 := handle_ledger ho
  rw [hl]
  exact ⟨.stay x _, hr⟩

theorem obeys_setNx {k : JsString} {ttl : Nat} (hg : r.protocol.environment = .production)
    (hk : r.dto.idempotencyKey = some k) (ht : 0 < ttl) :
    Obeys env A i r w (fun y res => match res with
      | .ok true => y = .claimed
      | .ok false => y = .refused
      | .error _ => y = .lost ∧ NotUnique res) (call (.idempotencySetNx k (.uuid i) ttl)) .arrived := by
  refine obeys_call _ fun c s _ => ?_
  have taken : s.holder k = none → ∀ v, v = ⟨NotificationId.uuid i, s.now + ttl * 1000⟩ →
      ledgerOf (s.setIdempotency k (some v)) = (ledgerOf s).setHeld k (some (.uuid i)) := by
    rintro - v rfl
    rw [ledgerOf_setIdempotency]
    simp [Timed.live, ht]
  simp only [World.handle, World.serve, World.meet, World.reply]
  cases hh : s.holder k with
  | some j =>
    cases c.fault with
    | none => exact ⟨_, .refuse hg hk hh, rfl⟩
    | _ => exact ⟨_, .fail (.inl .arrived), rfl, nofun⟩
  | none =>
    cases c.fault with
    | none =>
      dsimp only
      rw [taken hh _ rfl]
      exact ⟨_, .claim hg hk hh, rfl⟩
    | unheard e =>
      dsimp only
      rw [taken hh _ rfl]
      exact ⟨_, .claimUnheard hg hk hh, rfl, nofun⟩
    | _ => exact ⟨_, .fail (.inl .arrived), rfl, nofun⟩

theorem obeys_get {k : JsString} (hk : r.dto.idempotencyKey = some k) :
    Obeys env A i r w (fun y res => match res with
      | .ok found => y = .answered (found.getD (.uuid i))
      | .error _ => y = .lost ∧ NotUnique res) (call (.idempotencyGet k)) .refused := by
  refine obeys_call _ fun c s hs => ?_
  simp only [World.handle, World.serve, World.meet, World.reply]
  cases hf : c.fault with
  | none =>
    dsimp only
    cases hh : s.holder k with
    | some j =>
      refine ⟨_, .readHolder hk hh fun hset => ?_, rfl⟩
      have hq := hs hset hf
      simp only [holderEnqueued, hh, Option.any_some, List.contains_iff_mem] at hq
      exact hq
    | none =>
      refine ⟨_, .readNobody fun hset => ?_, rfl⟩
      have hq := hs hset hf
      simp [holderEnqueued, hh] at hq
  | _ => exact ⟨_, .fail (.inr rfl), rfl, nofun⟩

theorem obeys_findByKey {k : JsString} {since : Millis} (hk : r.dto.idempotencyKey = some k) :
    Obeys env A i r w (fun y res => match res with
      | .ok (some n) => y = .answered n.id
      | .ok none => y = .arrived
      | .error _ => y = .lost ∧ NotUnique res) (call (.notificationFindByKey k since)) .arrived := by
  refine obeys_call _ fun c s hs => ?_
  simp only [World.handle, World.serve, World.meet, World.reply]
  cases hf : c.fault with
  | none =>
    dsimp only
    cases hn : s.notifications.find? (matchesKey k since) with
    | some n =>
      have hm := List.mem_of_find?_eq_some hn
      have hkey : n.idempotencyKey = some k := by
        have := List.find?_some hn
        simp only [matchesKey, Bool.and_eq_true, beq_iff_eq] at this
        exact this.1
      refine ⟨_, .find hk (List.mem_map_of_mem hm) hkey fun hset => ?_, rfl⟩
      have hq := hs hset hf
      simp only [holderEnqueued, hn, Option.all_some, List.contains_iff_mem] at hq
      exact hq
    | none => exact ⟨_, .stay _ _, rfl⟩
  | _ => exact ⟨_, .fail (.inl .arrived), rfl, nofun⟩

theorem obeys_create {n : NewNotification} (hx : x.Early) (hid : n.id = .uuid i)
    (hk : n.idempotencyKey = r.dto.idempotencyKey) (ho : n.protocolId = r.protocol.protocolId) :
    Obeys env A i r w (fun y res => match res with
      | .ok _ => y = .stored
      | .error e => e = .uniqueViolation → y = .rejected) (call (.notificationCreate n)) x := by
  refine obeys_call _ fun c s _ => ?_
  simp only [World.handle, World.serve, World.meet]
  cases hc : s.clashes n with
  | true =>
    obtain ⟨slot, hm, hslot⟩ := slot_of_clashes hc
    rw [hid, hk] at hslot
    have hcreate : s.createNotification n = (.error .uniqueViolation, s) := by
      simp [World.createNotification, hc]
    cases c.fault with
    | none => exact hcreate ▸ ⟨_, .reject hx hm hslot, fun _ => rfl⟩
    | unheard e => exact hcreate ▸ ⟨_, .fail (.inl hx), nofun⟩
    | _ => exact ⟨_, .fail (.inl hx), nofun⟩
  | false =>
    obtain ⟨hcreate, hl⟩ := ledgerOf_createNotification hc
    have hv : ∀ k, r.dto.idempotencyKey = some k → (ledgerOf s).Vacant k := fun k h =>
      vacant_of_not_clashes hc (hk.trans h)
    rw [hid, hk, ho] at hl
    cases c.fault with
    | none =>
      rw [hcreate]
      dsimp only
      rw [hl]
      exact ⟨_, .store hx hv, rfl⟩
    | unheard e =>
      dsimp only
      rw [hl]
      exact ⟨_, .storeUnheard hx hv, nofun⟩
    | _ => exact ⟨_, .fail (.inl hx), nofun⟩

theorem obeys_add {data : NotificationJobData} (hid : data.notificationId = .uuid i) :
    Obeys env A i r w (fun y res => match res with
      | .ok _ => y = .enqueued
      | .error _ => y = .failing) (enqueueNotification data) .stored := by
  refine obeys_call _ fun c s _ => ?_
  have abandoned : ∀ ps, ps = s.pendingAdds ++ [⟨data, none, s.now⟩] →
      ledgerOf { s with pendingAdds := ps } = (ledgerOf s).abandon (.uuid i) := by
    rintro ps rfl
    simp only [ledgerOf, Ledger.abandon, List.map_append, List.map_cons, List.map_nil, hid]
    rfl
  simp only [World.handle, World.addWithTimeout]
  cases c.fault with
  | none =>
    simp only [World.reply]
    rw [ledgerOf_addJob rfl, hid]
    exact ⟨_, .enqueue, rfl⟩
  | refused e => exact ⟨_, .enqueueFails, rfl⟩
  | _ =>
    dsimp only
    rw [abandoned _ rfl]
    exact ⟨_, .abandon, rfl⟩

theorem obeys_del {k : JsString} (hk : r.dto.idempotencyKey = some k) :
    Obeys env A i r w (fun y _ => y = .failing) (call (.idempotencyDel k)) .failing := by
  refine obeys_call _ fun c s _ => ?_
  simp only [World.handle, World.serve, World.meet, World.reply]
  have released : ledgerOf (s.setIdempotency k none) = (ledgerOf s).setHeld k none :=
    ledgerOf_setIdempotency k none
  cases c.fault with
  | none | unheard =>
    dsimp only
    rw [released]
    exact ⟨_, .release hk, rfl⟩
  | _ => exact ⟨_, .stay _ _, rfl⟩

/-! ### Programs without moves -/

theorem quiet_call {o : Op} (ho : touchesLedger o = false) : Quiet (fun _ => True) (call o) :=
  (Along.perform ho).mono fun r hr => by
    cases r with
    | ok a => exact trivial
    | error e => exact fun h => hr (congrArg Except.error h)

theorem Quiet.bind {α β : Type} {p : Gateway α} {f : α → Gateway β} {P : α → Prop} {R : β → Prop}
    (hp : Quiet P p) (hf : ∀ a, P a → Quiet R (f a)) : Quiet R (p >>= f) :=
  Along.bind hp hf fun _ h => h

theorem quiet_swallow {α : Type} {p : Gateway α} {P : α → Prop} (hp : Quiet P p) :
    Quiet (fun _ => True) (swallow p) :=
  Along.andThen (hp.mono fun _ _ => trivial)

theorem quiet_getTodayCount (apiKeyId : JsString) :
    Quiet (fun _ => True) (getTodayCount apiKeyId) :=
  (quiet_call rfl).bind fun _ _ => trivial

theorem quiet_validateSandboxKey (apiKeyId : JsString) :
    Quiet (fun _ => True) (validateSandboxKey apiKeyId) := by
  refine (quiet_call rfl).bind fun key _ => ?_
  cases key with
  | none => trivial
  | some key =>
    dsimp only
    split
    · trivial
    · refine (quiet_call rfl).bind fun now _ => ?_
      split
      · trivial
      · refine (quiet_getTodayCount apiKeyId).bind fun today _ => ?_
        split <;> trivial

theorem quiet_incrementUsage (apiKeyId : JsString) :
    Quiet (fun _ => True) (incrementUsage apiKeyId) := by
  refine (quiet_call rfl).bind fun key _ => ?_
  split
  · exact (quiet_call rfl).bind fun now _ => (quiet_call rfl).bind fun _ _ => quiet_call rfl
  · trivial

theorem quiet_resolveDevnetWallet (wallet : JsString) :
    Quiet (fun _ => True) (resolveDevnetWallet env wallet) := by
  unfold resolveDevnetWallet
  split
  · refine Along.tryCatch (Q := Unless fun _ => True) ?_ (fun _ _ => trivial) fun _ _ => trivial
    refine (quiet_call rfl).bind fun found _ => ?_
    cases found with
    | none => trivial
    | some identity => exact (quiet_call rfl).bind fun _ _ => trivial
  · trivial

/-- An answer that is neither a duplicate nor about the queue. -/
def Plain (resp : NotifyResponseDto) : Prop :=
  resp.status ≠ .duplicate ∧ resp.errorCode ≠ some (js "ENQUEUE_FAILED")

theorem quiet_acknowledgeSandbox (id : NotificationId) (protocol : AuthenticatedProtocol)
    (devnet : DevnetResolutionResult) (quota : SandboxValidationResult) (note : JsString) :
    Quiet Plain (acknowledgeSandbox id protocol devnet quota note) := by
  refine (quiet_incrementUsage _).bind fun _ _ => ?_
  split
  · exact ⟨nofun, nofun⟩
  · exact (quiet_call rfl).bind fun _ _ => ⟨nofun, nofun⟩

/-! ### Programs with moves -/

/-- A plain answer is one that any phase allows. -/
theorem concludes_of_plain {id : NotificationId} {x : Phase NotificationId}
    {res : Except Err NotifyResponseDto} (h : Unless Plain res) : Concludes id x res := by
  cases res with
  | ok resp => exact ⟨fun hd => absurd hd h.1, fun he => absurd he h.2⟩
  | error e => exact fun he => absurd he h

theorem obeys_swallow {α : Type} {p : Gateway α}
    (hp : Obeys env A i r w (fun y _ => y = .failing) p x) :
    Obeys env A i r w (fun y res => y = .failing ∧ res = .ok ()) (swallow p) x :=
  Follows.andThen (hp.mono fun _ _ hy => ⟨hy, rfl⟩)

theorem obeys_releaseFailed (id : NotificationId) :
    Obeys env A i r w (fun y res => y = .failing ∧ res = .ok ()) (releaseFailed id r.dto)
      .failing := by
  refine Follows.bind (obeys_swallow ((obeys_quiet (quiet_call rfl)).mono fun _ _ h => h.1)) ?_ nofun
  rintro y _ ⟨rfl, -⟩
  split
  · next hk =>
    obtain ⟨k, hk, -⟩ := truthy_eq_true.1 hk
    rw [hk]
    exact obeys_swallow (obeys_del hk)
  · exact ⟨rfl, rfl⟩

theorem obeys_enqueueProduction :
    Obeys env A i r w (Concludes (.uuid i)) (enqueueProduction env (.uuid i) r.dto r.protocol)
      .stored := by
  refine Follows.bind_settle (obeys_add rfl) fun y res hy => ?_
  cases res with
  | ok _ => exact ⟨nofun, nofun⟩
  | error e =>
    subst hy
    refine Follows.bind (obeys_releaseFailed _) ?_ nofun
    rintro y _ ⟨rfl, -⟩
    exact ⟨nofun, fun _ => ⟨rfl, rfl⟩⟩

/-- An answer whose code is another than that of a failed add. -/
theorem plain_of_errorCode {resp : NotifyResponseDto} {code : JsString}
    (hs : resp.status ≠ .duplicate) (hc : resp.errorCode = some code)
    (hne : code ≠ js "ENQUEUE_FAILED") : Plain resp :=
  ⟨hs, fun h => hne (Option.some.inj (hc.symm.trans h))⟩

/-- Any phase allows a plain answer. -/
theorem obeys_answer {resp : NotifyResponseDto} (h : Plain resp) :
    Obeys env A i r w (Concludes (.uuid i)) (.ret resp) x :=
  show Concludes _ _ (.ok resp) from concludes_of_plain h

theorem obeys_admitProduction (hx : x.Early) :
    Obeys env A i r w (Concludes (.uuid i)) (admitProduction env (.uuid i) r.dto r.protocol) x := by
  unfold admitProduction
  dsimp only
  split
  · exact obeys_answer (plain_of_errorCode nofun rfl (by decide))
  · refine Follows.bind (obeys_create hx rfl rfl rfl) ?_ fun y e h => h
    rintro y _ rfl
    split
    · refine Follows.bind (obeys_quiet (quiet_swallow (quiet_call rfl))) ?_ fun y e h =>
        concludes_of_plain h.2
      rintro y _ ⟨rfl, -⟩
      exact obeys_enqueueProduction
    · exact obeys_enqueueProduction

theorem obeys_gateProduction (hx : x.Early) :
    Obeys env A i r w (Concludes (.uuid i)) (gateProduction env (.uuid i) r.dto r.protocol) x := by
  unfold gateProduction
  split
  · refine Follows.bind (obeys_quiet (quiet_call rfl)) ?_ fun y e h => concludes_of_plain h.2
    rintro y found ⟨rfl, -⟩
    cases found with
    | none => exact obeys_admitProduction hx
    | some status =>
      dsimp only
      split
      · exact obeys_answer (plain_of_errorCode nofun rfl (by decide))
      · exact obeys_admitProduction hx
  · exact obeys_admitProduction hx

theorem obeys_queueProductionNotification (hg : r.protocol.environment = .production) :
    Obeys env A i r w (Concludes (.uuid i))
      (queueProductionNotification env (.uuid i) r.dto r.protocol) .arrived := by
  unfold queueProductionNotification
  split
  · next hk =>
    obtain ⟨k, hk, -⟩ := truthy_eq_true.1 hk
    rw [hk]
    refine Follows.bind (obeys_setNx hg hk (by decide)) ?_ fun y e h => concludes_of_plain fun he =>
      h.2 (congrArg _ he)
    intro y taken hy
    cases taken with
    | true =>
      obtain rfl : y = .claimed := hy
      exact obeys_gateProduction .claimed
    | false =>
      obtain rfl : y = .refused := hy
      refine Follows.bind (obeys_get hk) ?_ fun y e h => concludes_of_plain fun he =>
        h.2 (congrArg _ he)
      rintro y found rfl
      exact ⟨fun _ => ⟨_, rfl, rfl⟩, nofun⟩
  · exact obeys_gateProduction .arrived

theorem obeys_shelveSandbox {status : NotificationStatus} {code : Option JsString}
    {scan : Option Scanner.ScanResult} {resp : NotifyResponseDto} (hx : x.Early) (hr : Plain resp) :
    Obeys env A i r w (Concludes (.uuid i))
      (shelveSandbox env (.uuid i) r.dto r.protocol status code scan resp) x :=
  Follows.bind (obeys_create hx rfl rfl rfl) (fun _ _ _ => obeys_answer hr) fun _ _ h => h

theorem obeys_enqueueSandbox {contact : DecryptedChannels} {devnet : DevnetResolutionResult}
    {quota : SandboxValidationResult} {note : JsString} (hx : x.Early) :
    Obeys env A i r w (Concludes (.uuid i))
      (enqueueSandbox env (.uuid i) r.dto r.protocol contact devnet quota note) x := by
  refine Follows.bind (obeys_create hx rfl rfl rfl) ?_ fun _ _ h => h
  rintro y _ rfl
  refine Follows.bind_settle (obeys_add rfl) fun y res hy => ?_
  cases res with
  | ok _ => exact (obeys_quiet (quiet_acknowledgeSandbox _ _ _ _ _)).mono fun _ _ h =>
      concludes_of_plain h.2
  | error e =>
    subst hy
    refine Follows.bind (obeys_releaseFailed _) ?_ nofun
    rintro y _ ⟨rfl, -⟩
    exact ⟨nofun, fun _ => ⟨rfl, rfl⟩⟩

theorem obeys_deliverDevnet {devnet : DevnetResolutionResult} {quota : SandboxValidationResult}
    (hx : x.Early) :
    Obeys env A i r w (Concludes (.uuid i))
      (deliverDevnet env (.uuid i) r.dto r.protocol devnet quota) x := by
  unfold deliverDevnet
  split
  · exact obeys_shelveSandbox hx ⟨nofun, nofun⟩
  · exact obeys_enqueueSandbox hx

theorem obeys_deliverStatic {devnet : DevnetResolutionResult} {quota : SandboxValidationResult}
    (hx : x.Early) :
    Obeys env A i r w (Concludes (.uuid i))
      (deliverStatic env (.uuid i) r.dto r.protocol devnet quota) x := by
  refine Follows.bind (obeys_quiet (quiet_call rfl)) ?_ fun _ _ h => concludes_of_plain h.2
  rintro y settings ⟨rfl, -⟩
  dsimp only
  split
  · exact obeys_shelveSandbox hx (plain_of_errorCode nofun rfl (by decide))
  · exact obeys_enqueueSandbox hx

theorem obeys_routeSandbox {quota : SandboxValidationResult} (hx : x.Early) :
    Obeys env A i r w (Concludes (.uuid i)) (routeSandbox env (.uuid i) r.dto r.protocol quota) x := by
  have deliver : ∀ devnet : DevnetResolutionResult, Obeys env A i r w (Concludes (.uuid i))
      (if devnet.resolved then deliverDevnet env (.uuid i) r.dto r.protocol devnet quota
        else deliverStatic env (.uuid i) r.dto r.protocol devnet quota) x := fun devnet => by
    split
    · exact obeys_deliverDevnet hx
    · exact obeys_deliverStatic hx
  unfold routeSandbox
  split
  · refine Follows.bind (obeys_quiet (quiet_resolveDevnetWallet _)) ?_ fun _ _ h =>
      concludes_of_plain h.2
    rintro y devnet ⟨rfl, -⟩
    exact deliver devnet
  · exact deliver .unresolved

theorem obeys_admitSandbox {quota : SandboxValidationResult} (hx : x.Early) :
    Obeys env A i r w (Concludes (.uuid i)) (admitSandbox env (.uuid i) r.dto r.protocol quota) x := by
  unfold admitSandbox
  dsimp only
  split
  · exact obeys_shelveSandbox hx (plain_of_errorCode nofun rfl (by decide))
  · exact obeys_routeSandbox hx

theorem obeys_gateSandbox {quota : SandboxValidationResult} (hx : x.Early) :
    Obeys env A i r w (Concludes (.uuid i)) (gateSandbox env (.uuid i) r.dto r.protocol quota) x := by
  unfold gateSandbox
  split
  · refine Follows.bind (obeys_quiet (quiet_call rfl)) ?_ fun _ _ h => concludes_of_plain h.2
    rintro y found ⟨rfl, -⟩
    cases found with
    | none => exact obeys_admitSandbox hx
    | some status =>
      dsimp only
      split
      · exact obeys_shelveSandbox hx (plain_of_errorCode nofun rfl (by decide))
      · exact obeys_admitSandbox hx
  · exact obeys_admitSandbox hx

theorem obeys_queueSandboxNotification :
    Obeys env A i r w (Concludes (.uuid i))
      (queueSandboxNotification env (.uuid i) r.dto r.protocol) .arrived := by
  refine Follows.bind (obeys_quiet (quiet_validateSandboxKey _)) ?_ fun _ _ h =>
    concludes_of_plain h.2
  rintro y quota ⟨rfl, -⟩
  split
  · exact concludes_of_plain nofun
  split
  · next hk =>
    obtain ⟨k, hk, -⟩ := truthy_eq_true.1 hk
    rw [hk]
    refine Follows.bind (obeys_quiet (quiet_call rfl)) ?_ fun _ _ h => concludes_of_plain h.2
    rintro y now ⟨rfl, -⟩
    refine Follows.bind (obeys_findByKey hk) ?_ fun y e h => concludes_of_plain fun he =>
      h.2 (congrArg _ he)
    intro y found hy
    cases found with
    | none =>
      obtain rfl : y = .arrived := hy
      exact obeys_gateSandbox .arrived
    | some existing => exact ⟨fun _ => ⟨_, hy, rfl⟩, nofun⟩
  · exact obeys_gateSandbox .arrived

/-- A notify request makes only moves of the idempotency protocol, and its answer says what it did. -/
theorem obeys_queueNotification :
    Obeys env A i r w (Concludes (.uuid i)) (queueNotificationAs env (.uuid i) r.dto r.protocol)
      .arrived := by
  unfold queueNotificationAs
  cases hg : r.protocol.environment with
  | sandbox => exact obeys_queueSandboxNotification
  | production => exact obeys_queueProductionNotification hg

end moves

/-! ### The refinement -/

/-- An abandoned add that completes either reaches the queue or comes to nothing. -/
theorem outside_completeAdd {A : Premises} {n : Nat} {s' : World} (hlate : A.late)
    (h : s.completeAdd n = some s') : Outside A.rules (ledgerOf s) (ledgerOf s') := by
  obtain ⟨j, hj, rfl⟩ := Option.map_eq_some_iff.1 h
  obtain ⟨hn, hget⟩ := List.getElem?_eq_some_iff.1 hj
  have hp : (ledgerOf s).pending = (s.pendingAdds.take n).map (·.data.notificationId) ++
      j.data.notificationId :: (s.pendingAdds.drop (n + 1)).map (·.data.notificationId) := by
    rw [← hget, ← List.map_cons (f := fun j : QueuedJob => j.data.notificationId),
      List.getElem_cons_drop, ← List.map_append, List.take_append_drop]
    rfl
  have hrest : (s.pendingAdds.eraseIdx n).map (·.data.notificationId) =
      (s.pendingAdds.take n).map (·.data.notificationId) ++
        (s.pendingAdds.drop (n + 1)).map (·.data.notificationId) := by
    rw [List.eraseIdx_eq_take_drop_succ, List.map_append]
  unfold World.addJob
  split
  · have hl : ledgerOf { s with pendingAdds := s.pendingAdds.eraseIdx n } =
        { ledgerOf s with pending := (s.pendingAdds.eraseIdx n).map (·.data.notificationId) } := rfl
    rw [hl, hrest]
    exact .drop hp
  · have hl : ledgerOf { s with
          notificationQueue := s.notificationQueue ++ [{ j with addedAt := s.now }]
          takenJobIds := s.takenJobIds ++ j.jobId.toList
          pendingAdds := s.pendingAdds.eraseIdx n } =
        { ledgerOf s with
          queued := (ledgerOf s).queued ++ [j.data.notificationId]
          pending := (s.pendingAdds.eraseIdx n).map (·.data.notificationId) } := by
      simp only [ledgerOf, List.map_append, List.map_cons, List.map_nil]
      rfl
    rw [hl, hrest]
    exact .complete hlate hp

/-- A value lasts or expires. -/
theorem Timed.live_later {α : Type} {now ms : Millis} {t : Option (Timed α)} :
    live (now + ms) t = live now t ∨ live (now + ms) t = none := by
  cases t with
  | none => exact .inl rfl
  | some v =>
    simp only [live]
    by_cases hlt : now + ms < v.expiresAt
    · have hlt' : now < v.expiresAt := Nat.lt_of_le_of_lt (Nat.le_add_right now ms) hlt
      exact .inl ((if_pos hlt).trans (if_pos hlt').symm)
    · exact .inr (if_neg hlt)

/-- Others change the stores only as the idempotency protocol allows. -/
theorem outside_apply {A : Premises} {p : IntakePool} {e : IntakeEvent} {s' : World}
    (hok : A.Allow p (.outside e)) (h : e.apply p.store = some s') :
    Outside A.rules (ledgerOf p.store) (ledgerOf s') := by
  have same : ∀ l : Ledger NotificationId JsString JsString, Outside A.rules l l := fun l =>
    .expire l.held fun _ => .inl rfl
  cases e with
  | tick ms =>
    obtain rfl := Option.some.inj h
    refine .expire (World.holder { p.store with now := p.store.now + ms }) fun k =>
      Timed.live_later
  | completeAdd n => exact outside_completeAdd hok h
  | update id u =>
    obtain rfl := Option.some.inj h
    rw [ledgerOf_updateNotification]
    exact same _
  | configure =>
    obtain rfl := Option.some.inj h
    exact same _

/-- The system of all notify requests refines the idempotency protocol. -/
def intakeRefinement (env : Env) (A : Premises) : Refinement (intake env) (protocol A.rules) where
  view := ledgerOf
  ok := A.Allow
  allows _ c s o := A.settled → FindsEnqueued c s o
  done i _ := Concludes (.uuid i)
  follows _ _ _ := obeys_queueNotification
  arrives p r h ps hps := ⟨p, h, rfl, rfl, hps⟩
  picks p i c t o k h ht hp hset := h hset t ht o (by rw [hp]; rfl)
  outside _ _ _ := outside_apply

end HeraldGateway
