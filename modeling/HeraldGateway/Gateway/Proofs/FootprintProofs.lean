import HeraldGateway.Gateway.Footprint

/-!
# The footprints of the gateway's functions

For each function, which calls it makes: any plain ones, and of the others those it is about, under the
conditions that it checks. What is allowed is a parameter, so that each property of runs instantiates it.
-/

namespace HeraldGateway

open Async

section footprints

variable {env : Env} {A : Allowed} {G : Good} {α : Type}

/-! ### Single calls -/

theorem within_call {o : Op} (ho : A o) : Within (S := Calls) A G (call o) := Within.perform ho

theorem within_swallow {p : Gateway α} (h : p.Within A G) : (swallow p).Within A G :=
  Within.andThen h fun _ => .ret ()

theorem within_orNull {p : Gateway (Option α)} (h : p.Within A G) : (orNull p).Within A G :=
  Within.tryCatch h fun _ => .ret none

/-- A read whose failure counts as nothing found. -/
theorem within_redisGet_bind {key : RedisKey} {f : Option JsString → Gateway α} (ho : A (.redisGet key))
    (hf : ∀ r, G (.redisGet key) r → (f (heard r)).Within A G) :
    Gateway.Within A G ((orNull (call (.redisGet key))).bind f) := by
  have hread : Along (S := Calls) A G (fun r : Except Err (Option JsString) =>
      ∃ reply, G (.redisGet key) reply ∧ r = .ok (heard reply)) (orNull (call (.redisGet key))) :=
    Along.tryCatch (Along.perform ho) (fun v hv => ⟨.ok v, hv, rfl⟩) fun e he => ⟨.error e, he, rfl⟩
  refine Along.bind hread ?_ fun _ _ => trivial
  rintro _ ⟨reply, hg, heq⟩
  cases heq
  exact hf reply hg

theorem within_enqueue {data : NotificationJobData}
    (h : A (.notificationAdd data none (some ENQUEUE_TIMEOUT_MS))) :
    (enqueueNotification data).Within A G := within_call h

/-! ### Identities -/

/-- What allows routine calls allows those that tell no webhooks. -/
theorem of_untold (hp : ∀ o : Op, o.routine = true → A o) : ∀ o : Op, o.untold = true → A o := by
  intro o ho
  cases o with
  | webhookDispatch e => cases ho
  | _ => exact hp _ ho

theorem relays_untold {o : Op} (h : o.relays = true) : o.untold = true := by
  cases o with
  | webhookDispatch e => cases h
  | _ => exact relays_routine h

section untold

variable (hp : ∀ o : Op, o.untold = true → A o)

include hp

theorem within_fetchIdentity (wallet : JsString) : (fetchIdentity wallet).Within A G := by
  refine Within.bind (within_call (hp _ rfl)) fun identity => ?_
  cases identity with
  | none => exact Within.bind (within_swallow (within_call (hp _ rfl))) fun _ => .ret _
  | some i => exact Within.bind (within_swallow (within_call (hp _ rfl))) fun _ => .ret _

theorem within_resolveIdentity (wallet : JsString) : (resolveIdentity wallet).Within A G := by
  refine Within.bind (within_orNull (within_call (hp _ rfl))) fun cached => ?_
  match cached with
  | some .notRegistered | some (.identity _) => trivial
  | none => exact within_fetchIdentity hp wallet

/-! ### Telegram -/

variable {channels : DecryptedChannels} {job : NotificationJobData}

omit hp in
theorem within_sendNotification {p : TelegramParams} (hr : ∀ o : Op, o.relays = true → A o)
    (ht : ∀ template, A (.sendTelegram { p with customTemplate := template })) :
    (sendNotification env p).Within A G := by
  refine Within.bind (within_orNull (within_call (hr _ rfl))) fun isBlocked => ?_
  refine Within.ite (fun _ => .throw _) fun _ => Within.ite (fun _ => .throw _) fun _ => ?_
  refine Within.bind (Within.ite (fun _ => within_call (hr _ rfl)) fun _ => .ret _) fun template => ?_
  refine Within.tryCatch (within_call (ht _)) fun e => Within.ite (fun _ => ?_) fun _ => .throw _
  exact Within.bind (within_swallow (within_call (hr _ rfl))) fun _ => .throw _

omit hp in
theorem within_deliverGroup {chatId : JsString} {settings : Option ProtocolSettings} {base : TelegramParams}
    {groupChatId : JsString} {token : Option JsString} (hr : ∀ o : Op, o.relays = true → A o)
    (hb : Conveys G chatId job base) (ht : ∀ p, Conveys G chatId job p → A (.sendTelegram p)) :
    (deliverGroup env job settings base groupChatId token).Within A G := by
  refine within_redisGet_bind (hr _ rfl) fun alreadySent hg => ?_
  refine Within.ite (fun _ => .ret _) fun hunsent => ?_
  have hgroup : ∀ p : TelegramParams, p.target = .group → p.chatId = groupChatId →
    p.protocolId = base.protocolId →
      p.category = base.category → A (.sendTelegram p) := by
    intro p htarget hchat hprotocol hcategory
    refine ht p ⟨hprotocol.trans hb.protocolId, hcategory.trans hb.category, fun hsub => ?_, hb.protocolMute,
      hb.categoryMute, fun _ => ⟨alreadySent, by rwa [hchat], Bool.eq_false_iff.2 hunsent⟩⟩
    rw [htarget] at hsub
    cases hsub
  refine Within.bind (Within.settle (within_sendNotification hr fun _ => hgroup _ rfl rfl rfl rfl))
    fun sent => ?_
  cases sent with
  | error e => trivial
  | ok messageId =>
    refine Within.bind (within_call (hr _ rfl)) fun _ => ?_
    refine Within.bind (within_swallow (within_call (hr _ rfl))) fun _ => ?_
    exact Within.ite (fun _ => within_swallow (within_call (hr _ rfl))) fun _ => .ret _

omit hp in
theorem within_deliverSubscriber {settings : Option ProtocolSettings} {base : TelegramParams}
    {token : Option JsString} (hr : ∀ o : Op, o.relays = true → A o)
    (ht : ∀ token template, A (.sendTelegram { base with customBotToken := token, customTemplate := template })) :
    (deliverSubscriber env job settings base token).Within A G := by
  have hown : (sendNotification env base).Within A G := within_sendNotification hr fun _ => ht _ _
  refine Within.ite (fun _ => ?_) fun _ => hown
  refine Within.bind (within_call (hr _ rfl)) fun migrated => ?_
  refine Within.ite (fun _ => within_sendNotification hr fun _ => ht _ _) fun _ => ?_
  exact Within.bind hown fun _ => Within.bind (within_swallow (within_call (hr _ rfl))) fun _ => .ret _

omit hp in
/-- A delivery sends what conveys its job. -/
theorem within_deliverTelegram {chatId : JsString} {assets : List ProtocolAsset}
    (hr : ∀ o : Op, o.relays = true → A o) (ht : ∀ p, Conveys G chatId job p → A (.sendTelegram p)) :
    (deliverTelegram env chatId job assets).Within A G := by
  refine Within.tryCatch (Within.bind (Within.ite (fun _ => .ret _) fun _ => within_call (hr _ rfl))
    fun settings => ?_) fun _ => .ret _
  cases customBotToken env job settings with
  | error e => trivial
  | ok token =>
    refine within_redisGet_bind (hr _ rfl) fun protocolMuted hprotocol => ?_
    refine Within.ite (fun _ => .ret _) fun hunmuted => ?_
    refine within_redisGet_bind (hr _ rfl) fun categoryMuted hcategory => ?_
    refine Within.ite (fun _ => .ret _) fun hunmuted' => ?_
    have conveys : ∀ token template, Conveys G chatId job
        { baseParams chatId job assets settings with customBotToken := token, customTemplate := template } :=
      fun token template => ⟨rfl, rfl, fun _ => rfl, ⟨protocolMuted, hprotocol, Bool.eq_false_iff.2 hunmuted⟩,
        ⟨categoryMuted, hcategory, Bool.eq_false_iff.2 hunmuted'⟩, nofun⟩
    refine Within.bind (within_deliverSubscriber hr fun _ _ => ht _ (conveys _ _)) fun messageId => ?_
    exact Within.ite (fun _ => Within.bind (within_deliverGroup hr (conveys _ _) ht) fun _ => .ret _)
      fun _ => .ret _

/-! ### Dispatch -/

omit hp in
theorem within_deliverSms {phone : JsString} (hs : ∀ p, A (.sendSms p)) :
    (deliverSms env phone job).Within A G :=
  Within.tryCatch (Within.bind (Within.ite (fun _ => within_call (hs _)) fun _ => .throw _)
    fun _ => .ret _) fun _ => .ret _

theorem along_unsubscribeUrl (walletHash : JsString) (category : Option JsString) :
    Along (S := Calls) A G (fun r => ∀ link, r = .ok link → link.walletHash = walletHash ∧
      link.category = if truthy category then category else none)
      (generateSignedUnsubscribeUrl walletHash category) := by
  refine Along.bind (Along.perform (hp _ rfl)) (fun now _ => ?_) fun _ _ => nofun
  rintro _ ⟨⟩
  exact ⟨rfl, rfl⟩

theorem within_sendRendered {email : JsString} {domain : Option JsString} {rendered : Rendered}
    {tracked : Bool} (hm : ∀ m : EmailMessage, m.listUnsubscribe.Names job → A (.sendEmail m)) :
    (sendRendered env email job domain rendered tracked).Within A G := by
  refine Within.bind (within_swallow (within_call (hp _ rfl))) fun _ => ?_
  refine Within.bind (within_call (hp _ rfl)) fun now => ?_
  refine Along.bind (along_unsubscribeUrl hp _ _) (fun link hlink => ?_) fun _ _ => trivial
  exact Within.bind (within_call (hm _ (hlink link rfl))) fun _ => .ret _

theorem within_sendEmailMessage {email : JsString} {assets : List ProtocolAsset}
    (hr : ∀ r : RenderRequest, r.unsubscribeUrl.Names job → A (.render r))
    (hm : ∀ m : EmailMessage, m.listUnsubscribe.Names job → A (.sendEmail m)) :
    (sendEmailMessage env email job assets).Within A G := by
  refine Within.bind (within_call (hp _ rfl)) fun domain => ?_
  refine Within.bind (within_call (hp _ rfl)) fun settings => ?_
  refine Along.bind (along_unsubscribeUrl hp _ _) (fun link hlink => ?_) fun _ _ => trivial
  refine Within.bind (within_call (hr _ (hlink link rfl)))
    fun rendered => Within.ite (fun _ => ?_) fun _ => ?_
  · exact Within.bind (within_swallow (within_call (hp _ rfl))) fun _ => within_sendRendered hp hm
  · exact within_sendRendered hp hm

theorem within_deliverEmail {email : JsString} {assets : List ProtocolAsset}
    (hr : ∀ r : RenderRequest, r.unsubscribeUrl.Names job → A (.render r))
    (hm : truthy job.walletHash = false ∨
      G (.suppressionFindUnique (job.walletHash.getD [])) (.ok none) →
        ∀ m : EmailMessage, m.listUnsubscribe.Names job → A (.sendEmail m)) :
    (deliverEmail env email job assets).Within A G := by
  have go : (∀ m : EmailMessage, m.listUnsubscribe.Names job → A (.sendEmail m)) →
      Gateway.Within A G ((sendEmailMessage env email job assets).tryCatch
        fun e => .ret (failedOutcome .email e.message)) := fun h =>
    Within.tryCatch (within_sendEmailMessage hp hr h) fun _ => .ret _
  unfold deliverEmail findSuppression
  split
  · refine Within.perform_bind (hp _ rfl) fun found hg => ?_
    cases found with
    | some suppressed => trivial
    | none => exact go (hm (.inr hg))
  · next h => exact go (hm (.inl (Bool.eq_false_iff.2 h)))

theorem within_dispatch (hd : Dispatches A G channels job) : (dispatch env channels job).Within A G := by
  refine Within.bind (Within.tryCatch (within_call hd.assets) fun _ => .ret _) fun assets => ?_
  refine Within.ite (fun _ => .ret _) fun _ => ?_
  refine Within.bind (Within.allSettled fun p hmem => ?_) fun settled =>
    Within.bind (within_swallow (within_call (hp _ rfl))) fun _ => .ret _
  rcases List.mem_append.1 hmem with h | h
  · rcases List.mem_append.1 h with h | h
    · split at h
      · next hc =>
        rw [List.mem_singleton.1 h]
        exact within_deliverEmail hp hd.render (hd.email (Bool.and_eq_true_iff.1 hc).2)
      · cases h
    · split at h
      · rw [List.mem_singleton.1 h]
        exact within_deliverTelegram (fun o ho => hp o (relays_untold ho))
          fun p h => hd.telegram p h.unmarked
      · cases h
  · split at h
    · rw [List.mem_singleton.1 h]
      exact within_deliverSms hd.sms
    · cases h

/-! ### The mail worker -/

theorem within_storeOnArweave : (storeOnArweave job channels).Within A G :=
  Within.tryCatch (Within.bind (within_call (hp _ rfl)) fun _ => .ret _) fun _ => .ret _

end untold

section attempts

variable {job : NotificationJobData} {channels : DecryptedChannels} (hp : ∀ o : Op, o.routine = true → A o)

include hp

theorem within_processSandbox (ha : Attempts A G job) (hs : job.production = false) :
    (processSandbox env job).Within A G := by
  unfold processSandbox
  dsimp only
  split
  · exact within_call (ha.status _)
  · refine Within.tryCatch (Within.bind (within_dispatch (of_untold hp) (ha.sandbox hs)) fun result => ?_)
      fun _ => within_call (ha.status _)
    refine Within.ite (fun _ => ?_) fun _ => within_call (ha.status _)
    exact Within.bind (within_call (hp _ rfl)) fun _ => within_call (ha.status _)

theorem within_bufferJob (hs : ∀ u : NotificationUpdate, u.recordsSent = false →
      A (.notificationUpdate job.notificationId u))
    (hb : ∀ time, A (.digestCreate (job.walletHash.getD []) job.protocolId job.subject job.category
      time)) : (bufferJob job).Within A G :=
  Within.bind (Within.bind (within_call (hp _ rfl)) fun _ => within_call (hb _))
    fun _ => within_call (hs _ rfl)

theorem within_recordUnregistered (hs : ∀ u : NotificationUpdate, u.recordsSent = false →
      A (.notificationUpdate job.notificationId u)) :
    (recordUnregistered job).Within A G :=
  Within.ite (fun _ => Within.bind (within_call (hp _ rfl)) fun _ => within_call (hs _ rfl))
    fun _ => within_call (hs _ rfl)

omit hp in
theorem within_clearSuppression (hc : A (.suppressionDeleteMany (job.walletHash.getD [])))
    (identity : IdentityAccount) : (clearSuppression job identity channels).Within A G :=
  Within.ite (fun _ => within_swallow (within_call hc)) fun _ => .ret _

theorem within_recordDelivery (hs : ∀ u, A (.notificationUpdate job.notificationId u))
    (identity : IdentityAccount) (arweaveId : Option JsString) (result : ChannelDispatchResult) :
    (recordDelivery env job identity arweaveId result).Within A G :=
  Within.bind (within_call (hp _ rfl)) fun _ =>
    Within.bind (within_call (hs _)) fun _ =>
      Within.bind (within_swallow (within_call (hp _ rfl))) fun _ =>
        Within.bind (within_call (hp _ rfl)) fun _ => within_swallow (within_call (hp _ rfl))

omit hp in
theorem within_recordAllFailed (hs : ∀ u : NotificationUpdate, u.recordsSent = false →
      A (.notificationUpdate job.notificationId u))
    (result : ChannelDispatchResult) : (recordAllFailed job result).Within A G :=
  Within.bind (within_call (hs _ rfl)) fun _ => .throw _

theorem within_deliverDecrypted (hs : ∀ u, A (.notificationUpdate job.notificationId u))
    (hc : A (.suppressionDeleteMany (job.walletHash.getD []))) (identity : IdentityAccount)
    (hd : Dispatches A G channels job) : (deliverDecrypted env job identity channels).Within A G := by
  refine Within.bind (within_clearSuppression hc identity) fun _ => ?_
  refine Within.bind (within_storeOnArweave (of_untold hp)) fun arweaveId => ?_
  refine Within.bind (within_dispatch (of_untold hp) hd) fun result => Within.ite (fun _ => ?_) fun _ => ?_
  · exact within_recordDelivery hp hs identity arweaveId result
  · exact within_recordAllFailed (fun u _ => hs u) result

theorem within_resolveAndDeliver (ha : Attempts A G job) (hj : job.production = true) :
    (resolveAndDeliver env job).Within A G := by
  refine Within.bind (within_resolveIdentity (of_untold hp) _) fun identity => ?_
  cases identity with
  | none => exact within_recordUnregistered hp fun u _ => ha.status u
  | some identity =>
    refine Within.perform_bind (ha.decrypt _) fun channels hg => ?_
    refine Within.ite (fun _ => within_call (ha.status _)) fun hany => ?_
    exact within_deliverDecrypted hp ha.status ha.clear identity
      (ha.production hj identity channels hg (by simpa using hany))

theorem within_recordError (hs : ∀ u : NotificationUpdate, u.recordsSent = false →
      A (.notificationUpdate job.notificationId u)) (e : Err) :
    (recordError job e).Within A G :=
  Within.ite (fun _ => .throw _) fun _ =>
    Within.bind (within_call (hs _ rfl)) fun _ =>
      Within.bind (within_swallow (within_call (hp _ rfl))) fun _ => .throw _

theorem within_processNotification (ha : Attempts A G job) :
    (processNotification env job).Within A G := by
  refine Within.bind (within_call (hp _ rfl)) fun now => ?_
  refine Within.bind (within_call (ha.status _)) fun _ => ?_
  refine Within.ite (fun hj => ?_) fun hj => within_processSandbox hp ha (by simpa using hj)
  refine Within.tryCatch (Within.ite (fun hd => ?_) fun _ => ?_) fun e =>
    within_recordError hp (fun u _ => ha.status u) e
  · exact within_bufferJob hp (fun u _ => ha.status u) (ha.buffer hd)
  · exact within_resolveAndDeliver hp ha hj

end attempts

/-! ### Digests -/

theorem plain_of_routine {o : Op} (h : o.routine = true) : o.plain = true := by
  cases o with
  | notificationCreate | notificationCreateMany | decryptAllChannels => cases h
  | _ => exact h

variable (hp : ∀ o : Op, o.plain = true → A o)

include hp

/-- What holds of plain calls holds of routine ones. -/
theorem allowed_of_plain : ∀ o : Op, o.routine = true → A o := fun o ho => hp o (plain_of_routine ho)

theorem within_markAsSent (entries : List DigestEntry) : (markAsSent entries).Within A G :=
  Within.bind (within_call (hp _ rfl)) fun _ => within_call (hp _ rfl)

theorem within_flushDueDigests : (flushDueDigests).Within A G :=
  Within.bind (within_call (hp _ rfl)) fun _ =>
    Within.bind (within_call (hp _ rfl)) fun _ =>
      Within.forEach fun _ _ => Within.bind (within_call (hp _ rfl)) fun _ => within_call (hp _ rfl)

/-- A digest is dispatched under a job that names no wallet, to the contacts that were decrypted. -/
theorem within_processDigest {data : DigestJobData}
    (hd : ∀ identity channels job, G (.decryptAllChannels identity) (.ok channels) →
      job.walletHash = none → job.category = js "system" → Dispatches A G channels job) :
    (processDigest env data).Within A G := by
  have hr := allowed_of_plain hp
  unfold processDigest
  split
  · trivial
  · refine Within.bind (within_call (hp _ rfl)) fun known => ?_
    refine Within.ite (fun _ => ?_) fun _ => within_markAsSent hp _
    refine Within.bind (within_call (hp _ rfl)) fun protocol => ?_
    refine Within.bind (within_call (hp _ rfl)) fun now => ?_
    refine Within.bind (within_call (hp _ rfl)) fun wallet => ?_
    refine Within.ite (fun _ => ?_) fun _ => within_markAsSent hp _
    refine Within.bind (within_resolveIdentity (of_untold hr) _) fun identity => ?_
    cases identity with
    | none => exact within_markAsSent hp _
    | some identity =>
      refine Within.perform_bind (hp _ rfl) fun channels hg => ?_
      exact Within.bind (within_dispatch (of_untold hr) (hd identity channels _ hg rfl rfl)) fun _ =>
        within_markAsSent hp _

/-! ### Bounces and unsubscribing -/

theorem within_recordBounce {n : Notification} {bounceType : BounceType} {messageId : JsString}
    {code : Option JsString} {suppress : Gateway Unit} (hs : suppress.Within A G) :
    (recordBounce n bounceType messageId code suppress).Within A G :=
  Within.bind (within_call (hp _ rfl)) fun _ => Within.ite (fun _ => .ret _) fun _ =>
    Within.bind (within_call (hp _ rfl)) fun _ => Within.bind (within_call (hp _ rfl)) fun _ => hs

theorem within_recordComplaint (n : Notification) (messageId : JsString) :
    (recordComplaint n messageId).Within A G :=
  Within.bind (within_call (hp _ rfl)) fun _ => Within.ite (fun _ => within_call (hp _ rfl)) fun _ =>
    Within.bind (within_call (hp _ rfl)) fun _ => within_call (hp _ rfl)

theorem within_suppressAfterSoft (n : Notification) : (suppressAfterSoft n).Within A G :=
  Within.bind (within_call (hp _ rfl)) fun _ =>
    Within.bind (within_call (hp _ rfl)) fun _ =>
      Within.bind (within_call (hp _ rfl)) fun _ =>
        Within.ite (fun _ => within_call (hp _ rfl)) fun _ => .ret _

theorem within_processResendEvent (e : ResendEvent) : (processResendEvent e).Within A G := by
  refine Within.ite (fun _ => Within.bind (within_call (hp _ rfl)) fun found => ?_) fun _ => .ret _
  cases found with
  | none => trivial
  | some n =>
    refine Within.ite (fun _ => within_recordBounce hp (within_call (hp _ rfl))) fun _ => ?_
    refine Within.ite (fun _ => within_recordComplaint hp _ _) fun _ => ?_
    exact Within.ite (fun _ => within_call (hp _ rfl)) fun _ => .ret _

theorem within_processSesBounce (m : SesMessage) : (processSesBounce m).Within A G := by
  refine Within.ite (fun _ => Within.bind (within_call (hp _ rfl)) fun found => ?_) fun _ => .ret _
  cases found with
  | none => trivial
  | some n =>
    refine Within.ite (fun _ => Within.ite (fun _ => ?_) fun _ => ?_) fun _ => ?_
    · exact within_recordBounce hp (within_call (hp _ rfl))
    · exact within_recordBounce hp (within_suppressAfterSoft hp _)
    · refine Within.ite (fun _ => within_recordComplaint hp _ _) fun _ => ?_
      exact Within.ite (fun _ => within_call (hp _ rfl)) fun _ => .ret _

theorem within_optOut (walletHash : JsString) (clear : PortalUser → PortalUser) :
    (optOut walletHash clear).Within A G :=
  Within.bind (within_call (hp _ rfl)) fun _ => within_call (hp _ rfl)

theorem within_unsubscribeWallet (walletHash : JsString) (category : JsValue) :
    (unsubscribeWallet walletHash category).Within A G := by
  refine Within.bind (within_call (hp _ rfl)) fun user => ?_
  cases user with
  | none => trivial
  | some _ =>
    refine Within.ite (fun _ => within_optOut hp _ _) fun _ => ?_
    refine Within.ite (fun _ => within_optOut hp _ _) fun _ => ?_
    refine Within.ite (fun _ => within_optOut hp _ _) fun _ => ?_
    exact Within.ite (fun _ => within_optOut hp _ _) fun _ => .ret _

theorem within_executeUnsubscribe (payload : JsonPayload) : (executeUnsubscribe payload).Within A G := by
  unfold executeUnsubscribe
  split
  · exact within_unsubscribeWallet hp _ _
  · trivial

theorem within_executeToken (token : JsString) (payload : JsonPayload) :
    (executeToken env token payload).Within A G := by
  refine Within.bind (within_call (hp _ rfl)) fun existing => Within.ite (fun _ => .ret _) fun _ => ?_
  refine Within.bind (within_executeUnsubscribe hp _) fun _ => ?_
  refine Within.bind (Within.ite (fun _ => ?_) fun _ => .ret _) fun _ => .ret _
  exact Within.bind (within_call (hp _ rfl)) fun _ => within_call (hp _ rfl)

theorem within_validateAndExecute (token : JsString) : (validateAndExecute env token).Within A G := by
  unfold validateAndExecute
  split
  · refine Within.ite (fun _ => ?_) fun _ => .ret _
    split
    · trivial
    · next payload _ =>
      refine Within.bind (within_call (hp _ rfl)) fun now => ?_
      split
      · trivial
      · exact within_executeToken hp token payload
      · trivial
  · trivial

/-! ### Sandbox keys -/

theorem within_validateSandboxKey (apiKeyId : JsString) : (validateSandboxKey apiKeyId).Within A G := by
  refine Within.bind (within_call (hp _ rfl)) fun key => ?_
  cases key with
  | none => trivial
  | some key =>
    refine Within.ite (fun _ => .ret _) fun _ => Within.bind (within_call (hp _ rfl)) fun now => ?_
    refine Within.ite (fun _ => .ret _) fun _ => ?_
    refine Within.bind (Within.bind (within_call (hp _ rfl)) fun _ => .ret _) fun today => ?_
    exact Within.ite (fun _ => .ret _) fun _ => .ret _

theorem within_incrementUsage (apiKeyId : JsString) : (incrementUsage apiKeyId).Within A G := by
  refine Within.bind (within_call (hp _ rfl)) fun key => Within.ite (fun _ => ?_) fun _ => .ret ()
  exact Within.bind (within_call (hp _ rfl)) fun now =>
    Within.bind (within_call (hp _ rfl)) fun _ => within_call (hp _ rfl)

theorem within_resolveDevnetWallet (wallet : JsString) :
    (resolveDevnetWallet env wallet).Within A G := by
  refine Within.ite (fun _ => ?_) fun _ => .ret _
  refine Within.tryCatch (Within.bind (within_call (hp _ rfl)) fun identity => ?_) fun _ => .ret _
  cases identity with
  | none => trivial
  | some i => exact Within.bind (within_call (hp _ rfl)) fun _ => .ret _

/-! ### Notify requests -/

variable {dto : NotifyDto} {protocol : AuthenticatedProtocol}

theorem within_releaseFailed (id : NotificationId) (hs : ∀ id u, A (.notificationUpdate id u)) :
    (releaseFailed id dto).Within A G :=
  Within.bind (within_swallow (within_call (hs _ _))) fun _ =>
    Within.ite (fun _ => within_swallow (within_call (hp _ rfl))) fun _ => .ret _

theorem within_admitProduction (id : NotificationId) (hs : ∀ id u, A (.notificationUpdate id u))
    (ha : (Scanner.scan dto.subject dto.body).verdict ≠ .block →
      A (.enqueue (productionJob env id dto protocol))) :
    (admitProduction env id dto protocol).Within A G := by
  have enqueue : (Scanner.scan dto.subject dto.body).verdict ≠ .block →
      (enqueueProduction env id dto protocol).Within A G := by
    intro hv
    refine Within.bind (Within.settle (within_enqueue (ha hv))) fun added => ?_
    cases added with
    | ok _ => trivial
    | error e => exact Within.bind (within_releaseFailed hp id hs) fun _ => .ret _
  refine Within.ite (fun _ => .ret _) fun hv => Within.bind (within_call (hp _ rfl)) fun _ => ?_
  refine Within.ite (fun _ => ?_) fun _ => enqueue hv
  exact Within.bind (within_swallow (within_call (hp _ rfl))) fun _ => enqueue hv

theorem within_queueProductionNotification (id : NotificationId) (hn : NotifyAdds env A G dto protocol)
    (he : protocol.environment = .production) :
    (queueProductionNotification env id dto protocol).Within A G := by
  have gate : (gateProduction env id dto protocol).Within A G := by
    refine Within.ite (fun ht => ?_) fun ht => within_admitProduction hp id hn.status fun hv =>
      hn.untemplated he (by simpa using ht) hv id
    refine Within.perform_bind (hp _ rfl) fun found hg => ?_
    have admitted : (∀ status ∈ found, status = .approved) →
        (admitProduction env id dto protocol).Within A G := fun happ =>
      within_admitProduction hp id hn.status fun hv => hn.templated he ht found hg happ hv id
    cases found with
    | none => exact admitted nofun
    | some status =>
      refine Within.ite (fun _ => .ret _) fun hst => admitted fun s hs => ?_
      obtain rfl := Option.some.inj hs
      exact not_not.1 hst
  refine Within.ite (fun _ => Within.bind (within_call (hp _ rfl)) fun held => ?_) fun _ => gate
  refine Within.ite (fun _ => gate) fun _ => ?_
  exact Within.bind (within_call (hp _ rfl)) fun _ => .ret _

theorem within_enqueueSandbox (id : NotificationId) (hs : ∀ id u, A (.notificationUpdate id u))
    (ha : ∀ contact, A (.enqueue (sandboxJob env id dto protocol contact))) (contact : DecryptedChannels)
    (devnet : DevnetResolutionResult) (quota : SandboxValidationResult) (note : JsString) :
    (enqueueSandbox env id dto protocol contact devnet quota note).Within A G := by
  refine Within.bind (within_call (hp _ rfl)) fun _ => ?_
  refine Within.bind (Within.settle (within_enqueue (ha contact))) fun added => ?_
  cases added with
  | error e => exact Within.bind (within_releaseFailed hp id hs) fun _ => .ret _
  | ok _ =>
    refine Within.bind (within_incrementUsage hp _) fun _ => Within.ite (fun _ => .ret _) fun _ => ?_
    exact Within.bind (within_call (hp _ rfl)) fun _ => .ret _

theorem within_shelveSandbox (id : NotificationId) {status : NotificationStatus}
    {code : Option JsString} {scan : Option Scanner.ScanResult} {answer : NotifyResponseDto} :
    (shelveSandbox env id dto protocol status code scan answer).Within A G :=
  Within.bind (within_call (hp _ rfl)) fun _ => .ret _

theorem within_queueSandboxNotification (id : NotificationId) (hs : ∀ id u, A (.notificationUpdate id u))
    (ha : ∀ contact, A (.enqueue (sandboxJob env id dto protocol contact))) :
    (queueSandboxNotification env id dto protocol).Within A G := by
  have deliver : ∀ quota (devnet : DevnetResolutionResult), Gateway.Within A G
      (if devnet.resolved then deliverDevnet env id dto protocol devnet quota
        else deliverStatic env id dto protocol devnet quota) := by
    intro quota devnet
    refine Within.ite (fun _ => ?_) fun _ => ?_
    · unfold deliverDevnet
      split
      · exact within_shelveSandbox hp id
      · exact within_enqueueSandbox hp id hs ha _ _ _ _
    · refine Within.bind (within_call (hp _ rfl)) fun settings => ?_
      exact Within.ite (fun _ => within_shelveSandbox hp id) fun _ =>
        within_enqueueSandbox hp id hs ha _ _ _ _
  have route : ∀ quota, (routeSandbox env id dto protocol quota).Within A G := fun quota =>
    Within.ite (fun _ => Within.bind (within_resolveDevnetWallet hp _) (deliver quota))
      fun _ => Within.bind (.ret _) (deliver quota)
  have gate : ∀ quota, (gateSandbox env id dto protocol quota).Within A G := by
    intro quota
    have admitted : (admitSandbox env id dto protocol quota).Within A G :=
      Within.ite (fun _ => within_shelveSandbox hp id) fun _ => route quota
    refine Within.ite (fun _ => Within.bind (within_call (hp _ rfl)) fun found => ?_) fun _ => admitted
    cases found with
    | none => exact admitted
    | some status => exact Within.ite (fun _ => within_shelveSandbox hp id) fun _ => admitted
  refine Within.bind (within_validateSandboxKey hp _) fun quota => Within.ite (fun _ => .throw _) fun _ => ?_
  refine Within.ite (fun _ => Within.bind (within_call (hp _ rfl)) fun now => ?_) fun _ => gate quota
  refine Within.bind (within_call (hp _ rfl)) fun existing => ?_
  cases existing with
  | none => exact gate quota
  | some _ => trivial

theorem within_queueNotification (hn : NotifyAdds env A G dto protocol) :
    (queueNotification env dto protocol).Within A G := by
  refine Within.bind (within_call (hp _ rfl)) fun id => ?_
  unfold queueNotificationAs
  split
  · next he => exact within_queueSandboxNotification hp id hn.status (hn.sandbox he id)
  · next he => exact within_queueProductionNotification hp id hn he

theorem within_notifyBatch {batch : NotifyBatchDto}
    (hn : ∀ n ∈ batch.notifications, NotifyAdds env A G (batch.merged n) protocol) :
    (notifyBatch env batch protocol).Within A G := by
  refine Within.ite (fun _ => .throw _) fun _ => Within.bind (Within.allSettled ?_) fun _ => .ret _
  rintro _ hmem
  obtain ⟨n, hmem', rfl⟩ := List.mem_map.1 hmem
  exact within_queueNotification hp (hn n hmem')

theorem within_systemBroadcast {dto : SystemBroadcastDto}
    (hn : ∀ wallet, NotifyAdds env A G
      { wallet := wallet, category := some dto.category, subject := dto.subject, body := dto.body }
      protocol) : (systemBroadcast env dto protocol).Within A G := by
  refine Within.bind (within_call (hp _ rfl)) fun wallets => ?_
  refine Within.bind (Within.allSettled ?_) fun _ => .ret _
  rintro _ hmem
  obtain ⟨wallet, -, rfl⟩ := List.mem_map.1 hmem
  exact within_queueNotification hp (hn wallet)

/-! ### Broadcasts, campaigns and schedules -/

/-- A broadcast adds jobs for the subscribers that it found. -/
theorem within_queueBroadcast {dto : BroadcastDto}
    (ha : ∀ targets, G (.subscriptionFindMany protocol.protocolId) (.ok targets) →
      ∀ target ∈ targets, ∀ id, A (.enqueue (broadcastJob dto protocol id target))) :
    (queueBroadcast env dto protocol).Within A G := by
  refine Within.bind (within_call (hp _ rfl)) fun broadcastId => ?_
  refine Within.perform_bind (hp _ rfl) fun targets hg => ?_
  refine Within.bind (within_call (hp _ rfl)) fun total => Within.ite (fun _ => .ret _) fun _ => ?_
  have drawn : Along (S := Calls) A G (fun r => ∀ rows : List (NotificationId × ProtocolSubscription),
      r = .ok rows → ∀ row ∈ rows, row.2 ∈ targets)
      (Prog.mapEach drawId targets) := by
    refine Along.mapEach fun target ht => ?_
    refine Along.bind (Along.perform (hp _ rfl)) (fun id _ => ?_) fun _ _ => nofun
    rintro _ ⟨⟩
    exact ht
  refine Within.bind (Along.bind drawn (fun rows hrows => ?_) fun _ _ => trivial) fun _ => .ret _
  refine Within.bind (within_call (hp _ rfl)) fun _ => ?_
  refine Within.bind (Within.allSettled ?_) fun _ => .ret _
  rintro _ hmem
  obtain ⟨row, hrow, rfl⟩ := List.mem_map.1 hmem
  exact within_enqueue (ha targets hg _ (hrows rows rfl row hrow) _)

/-- A campaign adds jobs for the wallets of the campaign that it found. -/
theorem within_enqueueCampaign {campaignId : JsString}
    (ha : CampaignAdds env A G campaignId) :
    (enqueueCampaign env campaignId).Within A G := by
  refine Within.perform_bind (hp _ rfl) fun found hg => ?_
  cases found with
  | none => trivial
  | some campaign =>
    refine Within.bind (within_call (hp _ rfl)) fun now => ?_
    refine Within.bind (Within.allSettled ?_) fun _ => Within.bind (within_call (hp _ rfl)) fun _ => .ret _
    rintro _ hmem
    obtain ⟨wallet, hw, rfl⟩ := List.mem_map.1 hmem
    refine Within.bind (within_call (hp _ rfl)) fun id => Within.bind (within_call (hp _ rfl)) fun _ => ?_
    exact within_enqueue (ha campaign hg wallet hw id)

theorem within_launchCampaign {campaignId : JsString}
    (ha : CampaignAdds env A G campaignId) :
    (launchCampaign env campaignId protocol).Within A G := by
  refine Within.bind (within_call (hp _ rfl)) fun found => ?_
  cases found with
  | none => trivial
  | some campaign => exact Within.ite (fun _ => .throw _) fun _ => within_enqueueCampaign hp ha

omit hp in
theorem within_createSchedule {protocolId : JsString} {dto : ScheduleOnceDto} {cron : Option JsString}
    {date : Option Int} (ha : ∀ date, A (.scheduledCreate (scheduledRow protocolId dto cron date))) :
    (createSchedule protocolId dto cron date).Within A G := by
  cases date with
  | none => trivial
  | some date => exact within_call (ha date)

theorem within_reconcilePendingJobs (hr : Reconciles env A G) :
    (reconcilePendingJobs env).Within A G := by
  refine Within.bind (within_call (hp _ rfl)) fun now => ?_
  refine Within.perform_bind (hp _ rfl) fun overdue hg => Within.forEach fun job hj => ?_
  have update : ∀ u, Rearms u → (call (.scheduledUpdate job.id u)).Within A G := fun u hu =>
    within_call (hr.update now overdue hg job hj u hu)
  refine Within.tryCatch (Within.bind (update _ fun _ => rfl) fun _ => ?_)
    fun _ => within_swallow (update _ fun _ => rfl)
  refine Within.bind (Within.ite (fun hw => ?_) fun _ => .ret _) fun _ => ?_
  · refine Within.bind (within_call (hp _ rfl)) fun id => Within.bind (within_call (hp _ rfl)) fun _ => ?_
    exact within_call (hr.add now overdue hg job hj hw id)
  · refine Within.ite (fun _ => ?_) fun _ => update _ fun _ => rfl
    refine Within.bind (Within.bind (within_call (hp _ rfl)) fun _ => .ret _) fun date => ?_
    cases date with
    | none => trivial
    | some date => exact update _ fun _ => rfl

/-! ### Tasks -/

theorem within_code {task : Task} (h : task.Allows env A G) : (task.code env).Within A G := by
  cases task with
  | notify dto protocol => exact Within.bind (within_queueNotification hp h) fun _ => .ret _
  | notifyBatch dto protocol => exact Within.bind (within_notifyBatch hp h) fun _ => .ret _
  | systemBroadcast dto protocol => exact Within.bind (within_systemBroadcast hp h) fun _ => .ret _
  | broadcast dto protocol => exact Within.bind (within_queueBroadcast hp h) fun _ => .ret _
  | scheduleOnce dto protocol => exact Within.bind (within_createSchedule (h none)) fun _ => .ret _
  | scheduleRecurring dto protocol =>
    refine Within.bind (Within.bind (Within.bind (within_call (hp _ rfl)) fun _ => .ret _) fun date => ?_)
      fun _ => .ret _
    exact within_createSchedule fun date => h _ _ date rfl
  | cancelScheduled id protocol => exact Within.bind (within_call (hp _ rfl)) fun _ => .ret _
  | launchCampaign id protocol => exact Within.bind (within_launchCampaign hp h) fun _ => .ret _
  | enqueueCampaign id => exact Within.bind (within_enqueueCampaign hp h) fun _ => .ret _
  | reconcile => exact Within.bind (within_reconcilePendingJobs hp h) fun _ => .ret _
  | flushDigests => exact Within.bind (within_flushDueDigests hp) fun _ => .ret _
  | deliver job =>
    exact Within.bind (within_processNotification (allowed_of_plain hp) h) fun _ => .ret _
  | deliverDigest data => exact Within.bind (within_processDigest hp h) fun _ => .ret _
  | resendEvent e => exact Within.bind (within_processResendEvent hp e) fun _ => .ret _
  | sesMessage m => exact Within.bind (within_processSesBounce hp m) fun _ => .ret _
  | unsubscribe token => exact Within.bind (within_validateAndExecute hp token) fun _ => .ret _

end footprints

/-! ### Calls that produce no job -/

section quiet

variable {A : Allowed} {G : Good} {channels : DecryptedChannels} {job : NotificationJobData}

theorem added_of_quiet {o : Op} (h : o.quiet = true) : o.added? = none := by
  cases o with
  | notificationAdd => cases h
  | _ => rfl

theorem quiet_of_plain {o : Op} (h : o.plain = true) : o.quiet = true := by
  cases o with
  | notificationAdd | scheduledCreate | scheduledUpdate => cases h
  | _ => rfl

/-- Where calls that produce no job are allowed, so are dispatches and attempts. -/
theorem dispatches_of_quiet (hq : ∀ o : Op, o.quiet = true → A o) : Dispatches A G channels job :=
  ⟨hq _ rfl, fun _ _ => hq _ rfl, fun _ _ _ _ => hq _ rfl, fun _ _ => hq _ rfl, fun _ => hq _ rfl⟩

theorem attempts_of_quiet (hq : ∀ o : Op, o.quiet = true → A o) : Attempts A G job :=
  ⟨fun _ => hq _ rfl, hq _ rfl, fun _ => hq _ rfl, fun _ _ => hq _ rfl, fun _ => dispatches_of_quiet hq,
    fun _ _ _ _ _ => dispatches_of_quiet hq⟩

variable {task : Task}

/-- Where quiet calls, adds without an identifier and new schedules are allowed, only a pass of the
scheduler needs more. -/
theorem within_code_of_quiet (hq : ∀ o : Op, o.quiet = true → A o) (ha : ∀ data, A (.enqueue data))
    (hc : ∀ data, A (.scheduledCreate data)) (hr : task = .reconcile → Reconciles env A G) :
    (task.code env).Within A G := by
  have notify : ∀ dto protocol, NotifyAdds env A G dto protocol := fun _ _ =>
    ⟨fun _ _ => hq _ rfl, fun _ _ _ _ => ha _, fun _ _ _ _ _ _ _ => ha _, fun _ _ _ => ha _⟩
  refine within_code (fun o ho => hq o (quiet_of_plain ho)) ?_
  cases task with
  | notify dto protocol => exact notify dto protocol
  | notifyBatch dto protocol => exact fun _ _ => notify _ protocol
  | systemBroadcast dto protocol => exact fun _ => notify _ protocol
  | broadcast => exact fun _ _ _ _ _ => ha _
  | scheduleOnce => exact fun _ _ => hc _
  | scheduleRecurring => exact fun _ _ _ _ => hc _
  | launchCampaign | enqueueCampaign => exact fun _ _ _ _ _ => ha _
  | reconcile => exact hr rfl
  | deliver => exact attempts_of_quiet hq
  | deliverDigest => exact fun _ _ _ _ _ _ => dispatches_of_quiet hq
  | _ => trivial

end quiet

end HeraldGateway
