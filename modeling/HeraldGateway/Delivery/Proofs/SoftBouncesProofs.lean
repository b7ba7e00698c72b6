import HeraldGateway.Delivery.Bounces
import HeraldGateway.Gateway.Proofs.WorldProofs

/-!
# When soft bounces suppress

Rows are recorded in the order of their times. So the soft bounces after the latest other bounce and the
latest delivery, which the code looks up, are those after all of them, and the one that is handled is the
last.
-/

namespace HeraldGateway

open Async

variable {env : Env} {s s' : World} {walletHash : JsString}

/-! ### Times -/

/-- Something is later than the latest of a list if it is later than all of it. -/
theorem latest_lt_iff {α : Type} {f : α → Nat} {as : List α} {t : Nat} (ht : 0 < t) :
    ((latest f as).map f).getD 0 < t ↔ ∀ a ∈ as, f a < t := by
  induction as with
  | nil => simpa [latest] using ht
  | cons a as ih =>
    rw [List.forall_mem_cons, ← ih, latest]
    cases hlatest : latest f as with
    | none => simpa using fun _ => ht
    | some b =>
      by_cases hab : f a < f b
      · simp only [hab, if_true, Option.map_some, Option.getD_some]
        omega
      · simp only [hab, if_false, Option.map_some, Option.getD_some]
        omega

/-- Rows that are new since a state were recorded at its time. -/
structure Dated (s s' : World) : Prop where
  now : s'.now = s.now
  bounces : ∀ b ∈ s'.bounces, b ∈ s.bounces ∨ b.bouncedAt = s.now
  deliveries : ∀ d ∈ s'.deliveries, d ∈ s.deliveries ∨ d.deliveredAt = s.now
  suppressions : ∀ r ∈ s'.suppressions, r ∈ s.suppressions ∨ r.suppressedAt = s.now

theorem Dated.refl (s : World) : Dated s s := ⟨rfl, fun _ => .inl, fun _ => .inl, fun _ => .inl⟩

theorem Dated.trans {s'' : World} (h : Dated s s') (h' : Dated s' s'') : Dated s s'' := by
  refine ⟨h'.now.trans h.now, fun b hb => ?_, fun d hd => ?_, fun r hr => ?_⟩
  · rcases h'.bounces b hb with hb | hb
    · exact h.bounces b hb
    · exact .inr (hb.trans h.now)
  · rcases h'.deliveries d hd with hd | hd
    · exact h.deliveries d hd
    · exact .inr (hd.trans h.now)
  · rcases h'.suppressions r hr with hr | hr
    · exact h.suppressions r hr
    · exact .inr (hr.trans h.now)

theorem mem_upsertSuppression {new r : EmailSuppression} {rows : List EmailSuppression}
    (h : r ∈ upsertSuppression new rows) : r ∈ rows ∨ r.suppressedAt = new.suppressedAt := by
  unfold upsertSuppression updateWhere at h
  split at h
  · obtain ⟨r', hr', rfl⟩ := List.mem_map.1 h
    split
    · exact .inr rfl
    · exact .inl hr'
  · rcases List.mem_append.1 h with h | h
    · exact .inl h
    · exact .inr (congrArg EmailSuppression.suppressedAt (List.mem_singleton.1 h))

theorem Dated.of_eq (hnow : s'.now = s.now) (hb : s'.bounces = s.bounces) (hd : s'.deliveries = s.deliveries)
    (hr : s'.suppressions = s.suppressions) : Dated s s' :=
  ⟨hnow, fun _ h => .inl (hb ▸ h), fun _ h => .inl (hd ▸ h), fun _ h => .inl (hr ▸ h)⟩

theorem dated_serve {c : Choice} {o : Op} : Dated s (s.serve env c o).2 := by
  cases o with
  | bounceCreate id walletHash kind messageId code =>
    refine ⟨rfl, fun b hb => ?_, fun _ => .inl, fun _ => .inl⟩
    rcases List.mem_append.1 hb with hb | hb
    · exact .inl hb
    · exact .inr (congrArg EmailBounce.bouncedAt (List.mem_singleton.1 hb))
  | deliveryCreate id messageId smtp time =>
    refine ⟨rfl, fun _ => .inl, fun d hd => ?_, fun _ => .inl⟩
    rcases List.mem_append.1 hd with hd | hd
    · exact .inl hd
    · exact .inr (congrArg EmailDelivery.deliveredAt (List.mem_singleton.1 hd))
  | suppressionUpsert walletHash reason id =>
    exact ⟨rfl, fun _ => .inl, fun _ => .inl, fun _ => mem_upsertSuppression⟩
  | suppressionDeleteMany walletHash =>
    exact ⟨rfl, fun _ => .inl, fun _ => .inl, fun _ hr => .inl (List.mem_filter.1 hr).1⟩
  | notificationCreateMany ns =>
    obtain ⟨rows, hrows⟩ := createNotifications_eq ns s
    simp only [World.serve, hrows]
    exact .of_eq rfl rfl rfl rfl
  | notificationCreate | notificationUpdate | scheduledUpdate | idempotencySetNx | campaignUpdate
  | portalUserUpdate | unsubscribeTokenCreate | unsubscribeTokenUpdate | channelDeliveryCreateAll
  | notificationAdd | digestAdd =>
    simp only [World.serve, World.createNotification, World.updateNotification, World.addJob,
      World.addDigest, World.reply]
    split <;> exact .of_eq rfl rfl rfl rfl
  | _ => exact .of_eq rfl rfl rfl rfl

theorem dated_exec {α : Type} (p : Gateway α) (c : Choice) (s : World) :
    Dated s ((World.handle env).exec c p s).2 :=
  exec_rel (R := Dated) .refl (fun _ _ _ => .trans)
    (fun _ _ => handle_rel (.refl _) dated_serve fun _ => .of_eq rfl rfl rfl rfl) p s

/-- Rows were recorded after the beginning of time and until now. -/
structure Past (s : World) : Prop where
  bounces : ∀ b ∈ s.bounces, 0 < b.bouncedAt ∧ b.bouncedAt ≤ s.now
  deliveries : ∀ d ∈ s.deliveries, d.deliveredAt ≤ s.now
  suppressions : ∀ r ∈ s.suppressions, r.suppressedAt ≤ s.now

theorem le_later {t now : Nat} (h : t ≤ now) (elapsed : Nat) : t ≤ now + elapsed + 1 := by omega

theorem Past.finds (h : Past s) (a : SesArrival) : Past (a.finds s) where
  bounces b hb := ⟨(h.bounces b hb).1, le_later (h.bounces b hb).2 a.elapsed⟩
  deliveries d hd := le_later (h.deliveries d hd) a.elapsed
  suppressions r hr := le_later (h.suppressions r hr) a.elapsed

theorem Past.of_dated (h : Past s) (hpos : 0 < s.now) (hd : Dated s s') : Past s' := by
  refine ⟨fun b hb => ?_, fun d hd' => ?_, fun r hr => ?_⟩
  · rw [hd.now]
    rcases hd.bounces b hb with hb | hb
    · exact h.bounces b hb
    · rw [hb]
      exact ⟨hpos, Nat.le_refl _⟩
  · rw [hd.now]
    rcases hd.deliveries d hd' with hd' | hd'
    · exact h.deliveries d hd'
    · exact hd'.le
  · rw [hd.now]
    rcases hd.suppressions r hr with hr | hr
    · exact h.suppressions r hr
    · exact hr.le

theorem past_handleSes (h : Past s) (a : SesArrival) : Past (handleSes env s a) :=
  (h.finds a).of_dated (Nat.succ_pos _) (dated_exec _ _ _)

theorem past_afterSes (env : Env) (start : Millis) (events : List SesArrival) :
    Past (afterSes env start events) := by
  induction events using List.reverseRecOn with
  | nil => exact ⟨nofun, nofun, nofun⟩
  | append_singleton events a ih =>
    rw [afterSes, List.foldl_append]
    exact past_handleSes ih a

/-! ### Handling a soft bounce -/

section soft

variable {m : SesMessage} {n : Notification}

/-- Count the soft bounces after the latest other row, and suppress the wallet from three on. -/
theorem exec_suppressAfterSoft (hpos : ∀ b ∈ s.bounces, 0 < b.bouncedAt) :
    ((World.handle env).exec {} (suppressAfterSoft n) s).2 =
      if 3 ≤ (s.softRow n.walletHash).length then
        { s with suppressions := upsertSuppression ⟨n.walletHash, .softBounce, s.now, some n.id⟩ s.suppressions }
      else s := by
  let cutoff : Millis := max (((latest (·.bouncedAt) (s.bounces.filter fun b =>
      b.walletHash == n.walletHash && b.bounceType != .soft)).map (·.bouncedAt)).getD 0)
    (((latest (·.deliveredAt) (s.deliveries.filter (s.deliveredTo n.walletHash))).map (·.deliveredAt)).getD 0)
  have hrow : (s.bounces.filter fun b =>
      b.walletHash == n.walletHash && b.bounceType == .soft && decide (cutoff < b.bouncedAt)) =
        s.softRow n.walletHash := by
    refine List.filter_congr fun b hb => ?_
    have hlater : cutoff < b.bouncedAt ↔
        (s.resetTimes n.walletHash).all (fun t => decide (t < b.bouncedAt)) = true := by
      rw [Nat.max_lt, latest_lt_iff (hpos b hb), latest_lt_iff (hpos b hb), World.resetTimes,
        List.all_eq_true]
      simp only [List.forall_mem_append, List.forall_mem_map, decide_eq_true_eq]
    rw [Bool.eq_iff_iff, Bool.and_eq_true, Bool.and_eq_true (_ && _), decide_eq_true_eq, hlater]
  show ((World.handle env).exec {} (if (s.bounces.filter fun b => b.walletHash == n.walletHash &&
    b.bounceType == .soft && decide (cutoff < b.bouncedAt)).length ≥ 3 then
      call (.suppressionUpsert n.walletHash .softBounce n.id) else return ()) s).2 = _
  rw [hrow]
  split
  · rfl
  · rfl

/-- The stores once a soft bounce is recorded. -/
def softRecorded (s : World) (m : SesMessage) (n : Notification) : World :=
  (({ s with bounces := s.bounces ++
      [⟨n.id, n.walletHash, .soft, m.messageId.getD [], m.diagnosticCode, s.now⟩] } :
    World).updateNotification n.id { bounce := some true, bounceType := some BounceType.soft.text }).2

theorem exec_call_bind {α : Type} {o : Op} {a : o.Res} {c : Choice} (h : World.handle env c s o = (.ok a, s'))
    (f : o.Res → Gateway α) :
    (World.handle env).exec c ((call o).bind f) s = (World.handle env).exec c (f a) s' :=
  exec_bind ((exec_perform (S := Calls) o).trans h) f

/-- A first soft bounce is recorded, and then counted. -/
theorem exec_processSesBounce (h : NewSoftBounce s m n) :
    ((World.handle env).exec {} (processSesBounce m) s).2 =
      ((World.handle env).exec {} (suppressAfterSoft n) (softRecorded s m n)).2 := by
  have hmem := List.mem_of_find?_eq_some h.found
  have hexists : s.notifications.any (·.id == n.id) = true := List.any_eq_true.2 ⟨n, hmem, beq_self_eq_true _⟩
  have hfind : World.handle env {} s (.notificationFindBySesMessageId (m.messageId.getD [])) =
      (.ok (some n), s) := congrArg (fun found => (Except.ok found, s)) h.found
  have hfirst : World.handle env {} s (.bounceFindFirst (m.messageId.getD []) none) = (.ok false, s) := by
    show (Except.ok (s.bounces.any fun b => b.sesMessageId == m.messageId.getD [] && true), s) = _
    simp only [Bool.and_true, h.first]
  have hupdate : World.handle env {} { s with bounces := s.bounces ++
        [⟨n.id, n.walletHash, .soft, m.messageId.getD [], m.diagnosticCode, s.now⟩] }
      (.notificationUpdate n.id { bounce := some true, bounceType := some BounceType.soft.text }) =
        (.ok (), softRecorded s m n) := by
    show World.updateNotification _ n.id _ = _
    unfold softRecorded World.updateNotification
    rw [if_pos hexists]
  unfold processSesBounce
  rw [if_pos h.message]
  refine congrArg Prod.snd ((exec_call_bind hfind _).trans ?_)
  dsimp only
  unfold applySesMessage
  rw [if_pos h.bounce, if_neg h.soft]
  refine (exec_call_bind hfirst _).trans ?_
  refine (exec_call_bind (o := .bounceCreate _ _ _ _ _) (a := ()) rfl _).trans ?_
  exact exec_call_bind hupdate _

theorem softRecorded_now : (softRecorded s m n).now = s.now := by
  unfold softRecorded World.updateNotification
  split <;> rfl

theorem softRecorded_bounces : (softRecorded s m n).bounces = s.bounces ++
    [⟨n.id, n.walletHash, .soft, m.messageId.getD [], m.diagnosticCode, s.now⟩] := by
  unfold softRecorded World.updateNotification
  split <;> rfl

theorem softRecorded_deliveries : (softRecorded s m n).deliveries = s.deliveries := by
  unfold softRecorded World.updateNotification
  split <;> rfl

theorem softRecorded_suppressions : (softRecorded s m n).suppressions = s.suppressions := by
  unfold softRecorded World.updateNotification
  split <;> rfl

/-- The bounce is one of those it is counted with. -/
theorem softRecorded_mem (hbounces : ∀ b ∈ s.bounces, b.bouncedAt < s.now)
    (hdeliveries : ∀ d ∈ s.deliveries, d.deliveredAt < s.now) :
    ⟨n.id, n.walletHash, .soft, m.messageId.getD [], m.diagnosticCode, s.now⟩ ∈
      (softRecorded s m n).softRow n.walletHash := by
  have hlater : ∀ t ∈ (softRecorded s m n).resetTimes n.walletHash, t < s.now := by
    intro t ht
    rcases List.mem_append.1 ht with ht | ht
    · obtain ⟨b, hb, rfl⟩ := List.mem_map.1 ht
      obtain ⟨hmem, hkind⟩ := List.mem_filter.1 hb
      rw [softRecorded_bounces] at hmem
      rcases List.mem_append.1 hmem with hmem | hmem
      · exact hbounces b hmem
      · rw [List.mem_singleton.1 hmem] at hkind
        simp at hkind
    · obtain ⟨d, hd, rfl⟩ := List.mem_map.1 ht
      have hmem := (List.mem_filter.1 hd).1
      rw [softRecorded_deliveries] at hmem
      exact hdeliveries d hmem
  refine List.mem_filter.2 ⟨?_, ?_⟩
  · rw [softRecorded_bounces]
    exact List.mem_append_right _ List.mem_cons_self
  · have hall : ((softRecorded s m n).resetTimes n.walletHash).all (fun t => decide (t < s.now)) = true :=
      List.all_eq_true.2 fun t ht => decide_eq_true (hlater t ht)
    simp only [beq_self_eq_true, Bool.true_and, hall]

theorem softSuppressed_upsert {rows : List EmailSuppression} {new : EmailSuppression} :
    (upsertSuppression new rows).any (fun r => r.walletHash == new.walletHash && r.reason == new.reason &&
      r.suppressedAt == new.suppressedAt) = true := by
  unfold upsertSuppression updateWhere
  by_cases hany : rows.any (·.walletHash == new.walletHash) = true
  · obtain ⟨r, hr, hw⟩ := List.any_eq_true.1 hany
    rw [if_pos hany]
    refine List.any_eq_true.2 ⟨_, List.mem_map_of_mem hr, ?_⟩
    rw [if_pos hw]
    simpa using hw
  · rw [if_neg hany, List.any_append]
    simp

theorem not_softSuppressed (h : ∀ r ∈ s.suppressions, r.suppressedAt < s.now) :
    s.softSuppressed walletHash = false := by
  refine List.any_eq_false.2 fun r hr => ?_
  simp [Nat.ne_of_lt (h r hr)]

end soft

/-- After any events, a first soft bounce of a message suppresses its wallet exactly if there are at least
three soft bounces of the wallet, with this one, after all its other bounces and its deliveries. -/
theorem soft_bounces_exact (env : Env) (start : Millis) (before : List SesArrival) (a : SesArrival)
    {n : Notification} (h : NewSoftBounce (a.finds (afterSes env start before)) a.message n) :
    let s := afterSes env start (before ++ [a])
    (s.softSuppressed n.walletHash = true ↔ 3 ≤ (s.softRow n.walletHash).length) ∧
      ∃ b ∈ s.softRow n.walletHash, b.sesMessageId = a.message.messageId.getD [] ∧ b.bouncedAt = s.now := by
  have hpast := past_afterSes env start before
  have hlt : ∀ t ≤ (afterSes env start before).now, t < (a.finds (afterSes env start before)).now :=
    fun t ht => Nat.lt_succ_of_le (Nat.le_add_right_of_le ht)
  have hafter : afterSes env start (before ++ [a]) = ((World.handle env).exec {} (suppressAfterSoft n)
      (softRecorded (a.finds (afterSes env start before)) a.message n)).2 := by
    rw [afterSes, List.foldl_append]
    exact exec_processSesBounce h
  generalize hs : a.finds (afterSes env start before) = s at *
  have hmem : _ ∈ (softRecorded s a.message n).softRow n.walletHash := softRecorded_mem
    (fun b hb => hlt _ (by rw [← hs] at hb; exact (hpast.bounces b hb).2))
    (fun d hd => hlt _ (by rw [← hs] at hd; exact hpast.deliveries d hd))
  have hpos : ∀ b ∈ (softRecorded s a.message n).bounces, 0 < b.bouncedAt := by
    intro b hb
    rw [softRecorded_bounces] at hb
    rcases List.mem_append.1 hb with hb | hb
    · rw [← hs] at hb
      exact (hpast.bounces b hb).1
    · rw [List.mem_singleton.1 hb, ← hs]
      exact Nat.succ_pos _
  rw [exec_suppressAfterSoft hpos] at hafter
  dsimp only
  rw [hafter]
  by_cases hthree : 3 ≤ ((softRecorded s a.message n).softRow n.walletHash).length
  · rw [if_pos hthree]
    refine ⟨iff_of_true softSuppressed_upsert hthree, _, hmem, rfl, ?_⟩
    exact softRecorded_now.symm
  · rw [if_neg hthree]
    refine ⟨iff_of_false ?_ hthree, _, hmem, rfl, softRecorded_now.symm⟩
    rw [Bool.not_eq_true]
    refine not_softSuppressed fun r hr => ?_
    rw [softRecorded_suppressions, ← hs] at hr
    rw [softRecorded_now]
    exact hlt _ (hpast.suppressions r hr)

/-- A notification to a wallet whose message has an identifier. -/
def messaged (k : Nat) (messageId : JsString) : Notification where
  id := .uuid k
  protocolId := [112]
  walletHash := [119]
  subjectHash := []
  status := .delivered
  category := []
  idempotencyKey := none
  writeReceipt := false
  queuedAt := 0
  sesMessageId := some messageId

/-- A message that is returned for the time being. -/
def returned (messageId : JsString) : SesArrival where
  elapsed := 0
  others := { World.blank with notifications := [messaged 0 [97], messaged 1 [98], messaged 2 [99]] }
  message :=
    { notificationType := js "Bounce", messageId := some messageId, bounceType := some (js "Transient") }

/-- The third soft bounce in a row suppresses the wallet, the second one does not. -/
theorem soft_bounces_exact_three :
    (afterSes Env.transparent 0 ([returned [97]] ++ [returned [98]])).softSuppressed [119] = false ∧
      (afterSes Env.transparent 0 ([returned [97], returned [98]] ++ [returned [99]])).softSuppressed [119] =
        true := by
  have hsecond := soft_bounces_exact Env.transparent 0 [returned [97]] (returned [98]) (n := messaged 1 [98])
    (by decide +kernel)
  have hthird := soft_bounces_exact Env.transparent 0 [returned [97], returned [98]] (returned [99])
    (n := messaged 2 [99]) (by decide +kernel)
  refine ⟨?_, hthird.1.2 (by decide +kernel)⟩
  have htwo : ¬3 ≤ ((afterSes Env.transparent 0 ([returned [97]] ++ [returned [98]])).softRow [119]).length := by
    decide +kernel
  exact Bool.eq_false_of_not_eq_true fun h => htwo (hsecond.1.1 h)

end HeraldGateway
