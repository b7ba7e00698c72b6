import HeraldGateway.Async.History
import HeraldGateway.Delivery.Digests
import HeraldGateway.Delivery.Proofs.DigestsProofs
import HeraldGateway.Gateway.Proofs.CostsProofs
import HeraldGateway.Gateway.Proofs.GatingProofs

/-!
# Posts to groups, proved
-/

namespace HeraldGateway

open Async

/-!
## Broadcasts of which one attempt at a time posts

An attempt posts to a group at most once, and only after it found no mark there.
-/

section

variable {env : Env} {dto : BroadcastDto} {protocol : AuthenticatedProtocol} {job : NotificationJobData}
  {chatId : JsString}

/-- What a call costs of the posts to a group. -/
def postCost (chatId : JsString) (o : Op) : Nat := if o.postsTo? = some chatId then 1 else 0

theorem costs_post : Costs (postCost chatId) 0 0 1 0 0 where
  free o h := by
    cases o with
    | sendTelegram => cases h
    | _ => rfl
  email _ := Nat.le_refl 0
  subscriber p h := by
    simp [postCost, Op.postsTo?, h]
  group p _ := by
    unfold postCost
    split <;> omega
  sms _ := Nat.le_refl 0
  buffer _ _ _ _ _ := Nat.le_refl 0

/-- No mark is missing. -/
def MarkFound (chatId : JsString) : Good := fun o r => findsNoMark chatId o r = false

/-- What an attempt calls before it finds no mark does not post to the group. -/
theorem posts_if_unmarked (hj : job.production = true) :
    (processNotification env job).Within (fun o => o.postsTo? ≠ some chatId) (MarkFound chatId) := by
  have hplain : ∀ o : Op, o.handsOver = false → o.postsTo? ≠ some chatId := by
    intro o ho
    cases o with
    | sendTelegram => cases ho
    | _ => exact nofun
  have dispatches : ∀ channels,
    Dispatches (fun o => o.postsTo? ≠ some chatId) (MarkFound chatId) channels job := by
    refine fun channels => ⟨hplain _ rfl, fun _ _ => hplain _ rfl, fun _ _ _ _ => nofun,
      fun p hp hpost => ?_, fun _ => nofun⟩
    rw [Op.postsTo?] at hpost
    split at hpost
    · next hgroup =>
      obtain ⟨r, hgood, hmark⟩ := hp hgroup
      have hno : findsNoMark chatId (.redisGet (.groupSent job.notificationId p.chatId)) r = true := by
        rw [findsNoMark, hmark, Option.some.inj hpost]
        simp
      rw [show findsNoMark chatId _ r = false from hgood] at hno
      cases hno
    · cases hpost
  refine within_processNotification (fun o ho => hplain o (handsOver_routine ho)) ⟨fun _ => nofun, nofun,
    fun _ => nofun, fun _ _ => nofun, fun hno => ?_, fun _ _ channels _ _ => dispatches channels⟩
  rw [hj] at hno
  cases hno

theorem postedTo_le (e : Event Calls Err World Choice) :
    (postedTo chatId e).toNat ≤ postCost chatId e.op := by
  unfold postedTo postCost
  by_cases h : e.op.postsTo? = some chatId
  · rw [if_pos h]
    exact Bool.toNat_le _
  · rw [if_neg h, beq_eq_false_iff_ne.2 h]
    exact Nat.le_refl 0

/-- An attempt posts to a group at most once. -/
theorem post_cost {tr : List (Event Calls Err World Choice)} {q : Gateway Unit} (hj : job.production = true)
    (hr : Runs (World.handle env) (processNotification env job) tr q) :
    traceWeight (fun e => (postedTo chatId e).toNat) tr ≤ 1 := by
  have hle : traceWeight (fun e => (postedTo chatId e).toNat) tr ≤
    traceWeight (fun e => postCost chatId e.op) tr :=
    traceWeight_le fun e _ => postedTo_le e
  exact hle.trans (hr.budget (budget_processNotification costs_post hj (Nat.le_refl 1) (Nat.zero_le 1))).1

/-! ### Runs -/

variable {s : World} {p p' : BroadcastAttemptPool} {l : BroadcastAttemptLabel}
  {ls : List BroadcastAttemptLabel}

/-- Who finds no mark for a group asked for it. -/
theorem asks_of_goesOn {c : Choice} {o : Op} (h : goesOnTo chatId ((World.handle env).event c s o) = true) :
    chatId ∈ o.asksMarkOf? := by
  unfold goesOnTo Handler.event at h
  cases o with
  | redisGet key =>
    cases key with
    | groupSent id chatId' =>
      rw [findsNoMark, Bool.and_eq_true] at h
      rw [LawfulBEq.eq_of_beq h.1]
      rfl
    | _ => cases h
  | _ => cases h

theorem goesOn_step (hok : PostsAlone env p l) (h : (broadcastAttempts env dto protocol).step p l = some p')
    (hp : p.Alone (goesOnTo chatId) (postedTo chatId)) : p'.Alone (goesOnTo chatId) (postedTo chatId) :=
  System.alone_step h hp fun i c t o k hl ht _ hprog hgoes => by
    subst hl
    exact hok t ht o (by rw [hprog]; rfl) chatId (asks_of_goesOn hgoes) hgoes

/-- A subscriber of a protocol. -/
def subscriber (wallet : JsString) : ProtocolSubscription := ⟨some wallet, wallet, js "p", [], true, 0⟩

/-- An installation with two notifications of a broadcast, for recipients who have a Telegram chat, of a
protocol that has a group. -/
def groupedWorld : World :=
  { World.blank with
    notifications := [0, 1].map fun n =>
      (broadcastRow Env.transparent templatedBroadcast (client .production) (.uuid n) (subscriber (js "v"))).row 0
    protocolSettings := fun _ => some { telegramGroupChatId := some (js "g") }
    chain := fun _ => some { recipient with
      channelEmail := false
      channelTelegram := true
      encryptedTelegramId := (js "c").map UInt16.toUInt8 } }

/-- An attempt of the job of one subscriber. -/
def postedByOne : List BroadcastAttemptLabel := .arrive (.uuid 0, subscriber (js "v")) :: proceeds 0 24

-- The subscriber's chat and the group.
example : ((broadcastAttempts Env.transparent templatedBroadcast (client .production)).run (Pool.empty groupedWorld)
    postedByOne).map (·.store.sent.length) = some 2 := by decide +kernel

/-- The attempts of the jobs of two subscribers, one after the other. -/
def postedByTwo : List BroadcastAttemptLabel :=
  postedByOne ++ .arrive (.uuid 1, subscriber (js "w")) :: proceeds 1 24

end

/-!
## Digests that avoid groups

A dispatch sends to the contacts that it is given, and posts to a group once it found no mark there. So the
messages of a digest go to the contacts that were decrypted for it, unless it comes to a group.
-/

section

variable {env : Env} {channels : DecryptedChannels} {job : NotificationJobData} {tr : List GatewayEvent}

/-! ### A dispatch -/

/-- A call of a dispatch sends to a contact of the recipient, if it sends. -/
def SendsOwn (channels : DecryptedChannels) (o : Op) : Prop :=
  (∀ d ∈ o.destination?, channels.contact d.1 = some d.2) ∧ ∀ r, decrypted? o r = none

/-- No mark is missing but that of the recipient's own chat. -/
def OwnGroups (channels : DecryptedChannels) : Good := fun o r =>
  ∀ chatId, findsNoMark chatId o r = true → channels.telegramChatId = some chatId

/-- A routine call sends nothing and decrypts nothing. -/
theorem silent_routine {o : Op} (h : o.routine = true) :
    o.destination? = none ∧ ∀ r, decrypted? o r = none := by
  cases o with
  | sendEmail | sendTelegram | sendSms | decryptAllChannels => cases h
  | _ => exact ⟨rfl, fun _ => rfl⟩

theorem sendsOwn_routine {o : Op} (h : o.routine = true) : SendsOwn channels o := by
  obtain ⟨hnone, hdecrypts⟩ := silent_routine h
  refine ⟨fun d hd => ?_, hdecrypts⟩
  rw [hnone] at hd
  cases hd

theorem getD_of_truthy {s : Option JsString} (h : truthy s = true) : s = some (s.getD []) := by
  obtain ⟨k, rfl, -⟩ := truthy_eq_true.1 h
  rfl

section deliveries

variable {assets : List ProtocolAsset}

theorem sendsOwn_deliverTelegram (h : truthy channels.telegramChatId = true) :
    (deliverTelegram env (channels.telegramChatId.getD []) job assets).Within (SendsOwn channels)
      (OwnGroups channels) := by
  refine within_deliverTelegram (fun o ho => sendsOwn_routine (relays_routine ho))
    fun p hp => ⟨?_, fun _ => rfl⟩
  rintro d ⟨⟩
  cases htarget : p.target with
  | subscriber => exact (getD_of_truthy h).trans (congrArg some (hp.subscriber htarget).symm)
  | group =>
    obtain ⟨r, hgood, hmark⟩ := hp.unmarked htarget
    refine hgood p.chatId ?_
    rw [findsNoMark, hmark]
    simp

theorem sendsOwn_deliverEmail (h : truthy channels.email = true) :
    (deliverEmail env (channels.email.getD []) job assets).Within (SendsOwn channels)
    (OwnGroups channels) := by
  have routine : ∀ o : Op, o.routine = true → SendsOwn channels o := fun o => sendsOwn_routine
  have hlink : ∀ walletHash category, (generateSignedUnsubscribeUrl walletHash category).Within
      (SendsOwn channels) (OwnGroups channels) :=
    fun _ _ => Within.bind (within_call (routine _ rfl)) fun _ => .ret _
  have hsend : ∀ domain rendered tracked, (sendRendered env (channels.email.getD []) job domain rendered
      tracked).Within (SendsOwn channels) (OwnGroups channels) := by
    intro domain rendered tracked
    refine Within.bind (within_swallow (within_call (routine _ rfl))) fun _ => ?_
    refine Within.bind (within_call (routine _ rfl)) fun now => Within.bind (hlink _ _) fun link => ?_
    refine Within.bind (within_call ⟨?_, fun _ => rfl⟩) fun _ => .ret _
    rintro d ⟨⟩
    exact getD_of_truthy h
  refine Within.bind (Within.ite (fun _ => within_call (routine _ rfl)) fun _ => .ret _) fun found => ?_
  cases found with
  | some suppressed => trivial
  | none =>
    refine Within.tryCatch (Within.bind (within_call (routine _ rfl)) fun domain => ?_) fun _ => .ret _
    refine Within.bind (within_call (routine _ rfl)) fun settings => Within.bind (hlink _ _) fun link => ?_
    refine Within.bind (within_call ⟨nofun, fun _ => rfl⟩)
      fun rendered => Within.ite (fun _ => ?_) fun _ => hsend _ _ _
    exact Within.bind (within_swallow (within_call (routine _ rfl))) fun _ => hsend _ _ _

theorem sendsOwn_deliverSms (h : truthy channels.phone = true) :
    (deliverSms env (channels.phone.getD []) job).Within (SendsOwn channels) (OwnGroups channels) := by
  refine Within.tryCatch (Within.bind (Within.ite (fun _ => within_call ⟨?_, fun _ => rfl⟩) fun _ => .throw _)
    fun _ => .ret _) fun _ => .ret _
  rintro d ⟨⟩
  exact getD_of_truthy h

end deliveries

/-- A dispatch sends to the contacts it is given, unless it comes to another group. -/
theorem sendsOwn_dispatch :
    (dispatch env channels job).Within (SendsOwn channels) (OwnGroups channels) := by
  have routine : ∀ o : Op, o.routine = true → SendsOwn channels o := fun o => sendsOwn_routine
  refine Within.bind (Within.tryCatch (within_call ⟨nofun, fun _ => rfl⟩) fun _ => .ret _) fun assets => ?_
  refine Within.ite (fun _ => .ret _) fun _ => ?_
  refine Within.bind (Within.allSettled fun p hmem => ?_) fun settled =>
    Within.bind (within_swallow (within_call (routine _ rfl))) fun _ => .ret _
  rcases List.mem_append.1 hmem with h | h
  · rcases List.mem_append.1 h with h | h
    · split at h
      · next hc =>
        rw [List.mem_singleton.1 h]
        exact sendsOwn_deliverEmail (Bool.and_eq_true_iff.1 hc).2
      · cases h
    · split at h
      · next hc =>
        rw [List.mem_singleton.1 h]
        exact sendsOwn_deliverTelegram (Bool.and_eq_true_iff.1 hc).2
      · cases h
  · split at h
    · next hc =>
      rw [List.mem_singleton.1 h]
      exact sendsOwn_deliverSms (Bool.and_eq_true_iff.1 hc).2
    · cases h

/-! ### An attempt at a digest -/

/-- A digest that comes to a group has it for its own chat. -/
def GroupsOwned (tr : List GatewayEvent) (e : GatewayEvent) : Prop :=
  ∀ chatId, goesOnTo chatId e = true → ∃ channels ∈ ownContacts tr, channels.telegramChatId = some chatId

theorem ownContacts_concat (tr : List GatewayEvent) (e : GatewayEvent) :
    ownContacts (tr ++ [e]) = ownContacts tr ++ (decrypted? e.op e.reply).toList := by
  rw [ownContacts, List.filterMap_append, List.filterMap_cons, List.filterMap_nil]
  cases decrypted? e.op e.reply with
  | none => rfl
  | some channels => rfl

/-- A call that decrypts nothing and sends, if it does, to contacts that were decrypted. -/
theorem keepsToOwner_concat {e : GatewayEvent} (htr : KeepsToOwner tr)
    (he : ∀ d ∈ e.op.destination?, ∃ channels ∈ ownContacts tr, channels.contact d.1 = some d.2) :
    KeepsToOwner (tr ++ [e]) := by
  have hsub : ∀ channels ∈ ownContacts tr, channels ∈ ownContacts (tr ++ [e]) := by
    intro channels h
    rw [ownContacts_concat]
    exact List.mem_append_left _ h
  intro e' he' d hd
  rcases List.mem_append.1 he' with he' | he'
  · obtain ⟨channels, hown, hcontact⟩ := htr e' he' d hd
    exact ⟨channels, hsub channels hown, hcontact⟩
  · rw [List.mem_singleton.1 he'] at hd
    obtain ⟨channels, hown, hcontact⟩ := he d hd
    exact ⟨channels, hsub channels hown, hcontact⟩

/-- The attempt's own way of following its history. -/
abbrev LogsPrivate {α : Type} (env : Env) (p : Gateway α) (tr : List GatewayEvent) : Prop :=
  Logs (World.handle env) GroupsOwned KeepsToOwner (fun _ _ => True) p tr

/-- What is known of a history between two parts of an attempt. -/
structure PrivateSoFar (own : List DecryptedChannels) (tr : List GatewayEvent) : Prop where
  keeps : KeepsToOwner tr
  contacts : ownContacts tr = own

/-- A part of an attempt that decrypts nothing and sends nothing, or to what was decrypted. -/
theorem logs_part {α β : Type} {own : List DecryptedChannels} {allowed : Op → Prop} {good : Good}
    {p : Gateway α} {f : α → Gateway β} (htr : PrivateSoFar own tr) (hp : p.Within allowed good)
    (hallowed : ∀ o, allowed o → (∀ d ∈ o.destination?, ∃ channels ∈ own, channels.contact d.1 = some d.2) ∧
      ∀ r, decrypted? o r = none)
    (hgood : ∀ tr c s o, ownContacts tr = own → GroupsOwned tr ((World.handle env).event c s o) →
      good o (World.handle env c s o).1)
    (hf : ∀ tr a, PrivateSoFar own tr → LogsPrivate env (f a) tr) : LogsPrivate env (p.bind f) tr := by
  refine (Logs.of_along (M := PrivateSoFar own) ?_ hp htr).bind (fun tr a h => hf tr a h.1)
    fun _ _ _ => trivial
  intro tr c s o ho hM hl
  obtain ⟨hsends, hnone⟩ := hallowed o ho
  have hcontacts : ownContacts (tr ++ [(World.handle env).event c s o]) = own := by
    have hreply : decrypted? ((World.handle env).event c s o).op ((World.handle env).event c s o).reply = none :=
      hnone _
    rw [ownContacts_concat, hM.contacts, hreply]
    exact List.append_nil own
  have hkeeps : KeepsToOwner (tr ++ [(World.handle env).event c s o]) :=
    keepsToOwner_concat hM.keeps fun d hd => hM.contacts.symm ▸ hsends d hd
  exact ⟨hgood tr c s o hM.contacts hl, hkeeps, hkeeps, hcontacts⟩

/-- A part that is routine. -/
theorem logs_routine {α β : Type} {own : List DecryptedChannels} {p : Gateway α} {f : α → Gateway β}
    (htr : PrivateSoFar own tr) (hp : p.Within (fun o => o.routine = true) fun _ _ => True)
    (hf : ∀ tr a, PrivateSoFar own tr → LogsPrivate env (f a) tr) : LogsPrivate env (p.bind f) tr := by
  refine logs_part htr hp (fun o ho => ?_) (fun _ _ _ _ _ _ => trivial) hf
  obtain ⟨hnone, hdecrypts⟩ := silent_routine ho
  refine ⟨fun d hd => ?_, hdecrypts⟩
  rw [hnone] at hd
  cases hd

variable {data : DigestJobData} {wallet : JsString}

theorem logs_private_markAsSent {own : List DecryptedChannels} (htr : PrivateSoFar own tr)
    (entries : List DigestEntry) : LogsPrivate env (markAsSent entries) tr := by
  refine logs_routine htr (within_call rfl) fun tr now htr => ?_
  refine Logs.perform (S := Calls) (I := KeepsToOwner) (Q := fun _ _ => True) fun c s _ => ⟨?_, trivial⟩
  exact keepsToOwner_concat htr.keeps nofun

theorem logs_private_sendDigest (htr : PrivateSoFar [] tr) :
    LogsPrivate env (sendDigest env data job wallet) tr := by
  refine logs_routine htr (within_resolveIdentity (of_untold fun o ho => ho) wallet) fun tr identity htr => ?_
  cases identity with
  | none => exact logs_private_markAsSent htr _
  | some identity =>
    refine Logs.bind (Q := fun tr r => ∀ channels, r = .ok channels → PrivateSoFar [channels] tr)
      (Logs.perform (S := Calls) (o := Op.decryptAllChannels identity) fun c s _ => ?_) (fun tr channels h => ?_)
      fun _ _ _ => trivial
    · have hkeeps := keepsToOwner_concat (e := (World.handle env).event c s (.decryptAllChannels identity))
        htr.keeps nofun
      refine ⟨hkeeps, fun channels hr => ⟨hkeeps, ?_⟩⟩
      rw [ownContacts_concat, htr.contacts]
      change (decrypted? (.decryptAllChannels identity) (World.handle env c s (.decryptAllChannels identity)).1).toList
        = _
      rw [hr]
      rfl
    · have hallowed : ∀ o, SendsOwn channels o →
          (∀ d ∈ o.destination?, ∃ own ∈ [channels], own.contact d.1 = some d.2) ∧
            ∀ r, decrypted? o r = none :=
        fun o ho => ⟨fun d hd => ⟨channels, List.mem_singleton.2 rfl, ho.1 d hd⟩, ho.2⟩
      have hgood : ∀ tr c s o, ownContacts tr = [channels] →
          GroupsOwned tr ((World.handle env).event c s o) →
            OwnGroups channels o (World.handle env c s o).1 := by
        intro tr c s o hown hl chatId hno
        obtain ⟨channels', hmem, hchat⟩ := hl chatId hno
        rw [hown, List.mem_singleton] at hmem
        exact hmem ▸ hchat
      exact logs_part (h channels rfl) sendsOwn_dispatch hallowed hgood
        fun tr _ htr => logs_private_markAsSent htr _

theorem keepsToOwner_nil : KeepsToOwner [] := fun _ he => absurd he List.not_mem_nil

theorem logs_private_processDigest : LogsPrivate env (processDigest env data) [] := by
  have htr : PrivateSoFar [] [] := ⟨keepsToOwner_nil, rfl⟩
  unfold processDigest
  split
  · trivial
  · refine logs_routine htr (within_call rfl) fun tr found htr => ?_
    split
    · refine logs_routine htr (within_call rfl) fun tr protocol htr => ?_
      refine logs_routine htr (within_call rfl) fun tr now htr => ?_
      refine logs_routine htr (within_call rfl) fun tr wallet htr => ?_
      split
      · exact logs_private_sendDigest htr
      · exact logs_private_markAsSent htr _
    · exact logs_private_markAsSent htr _

/-! ### Runs -/

variable {s : World} {p : GatewayPool} {ls : List GatewayLabel}

/-- The law of a digest's history. -/
def DigestLaw (task : Task) (tr : List GatewayEvent) (e : GatewayEvent) : Prop :=
  task.sendsDigest = true → GroupsOwned tr e

/-- Where digests do not come to groups, their messages reach nobody but the owner of the wallet. -/
theorem digests_private (hok : (gateway env).Keeps (GroupsAvoided env) (Pool.empty s) ls)
    (hr : (gateway env).run (Pool.empty s) ls = some p) : DigestsPrivate p := by
  have hlaw : System.Histories DigestLaw p := by
    refine System.Keeps.induction (I := System.Histories DigestLaw) (fun p l p' hok hp h => ?_) hok hr
      (System.histories_empty s)
    refine hp.step h fun i c t o k hl ht hprog => ?_
    subst hl
    have hasked := hok t ht
    intro hdigest chatId hgoes
    exact hasked hdigest o (by rw [hprog]; rfl) chatId (asks_of_goesOn hgoes) hgoes
  intro t ht hdigest
  obtain ⟨i, hruns⟩ := (System.traced_of_run hr).of_mem ht
  have hobeys : Async.Obeys GroupsOwned t.trace := fun pre e post heq => hlaw t ht pre e post heq hdigest
  cases hreq : t.request with
  | deliverDigest data =>
    rw [hreq] at hruns
    have hlogs : LogsPrivate env ((Task.deliverDigest data).code env) [] :=
      logs_private_processDigest.bind (fun _ _ _ => trivial) fun _ _ _ => trivial
    exact (hruns.logs hlogs keepsToOwner_nil hobeys).1
  | _ =>
    rw [hreq] at hdigest
    cases hdigest

/-- The digest of a wallet whose protocol has no group. -/
theorem digests_private_bufferedDigest :
    ∃ p ∈ replayFrom bufferedWorld (digestAttempt 0 20), DigestsPrivate p ∧
      p.threads.countP (fun t => dispatched t.trace) = 1 := by
  obtain ⟨p, hp, hsent⟩ : ∃ p ∈ replayFrom bufferedWorld (digestAttempt 0 20),
      p.threads.countP (fun t => dispatched t.trace) = 1 := by decide +kernel
  exact ⟨p, hp, digests_private (by decide +kernel) hp, hsent⟩

/-- An installation in which the wallet has a Telegram chat, and the protocol a group. -/
def groupWorld : World :=
  { bufferedWorld with
    protocols := fun _ => some ⟨js "p", 1, 0⟩
    protocolSettings := fun _ => some { telegramGroupChatId := some (js "g") }
    chain := fun _ => some { recipient with
      channelEmail := false
      channelTelegram := true
      encryptedTelegramId := (js "c").map UInt16.toUInt8 } }

/-- A digest of two protocols. -/
def mixedDigest : DigestJobData :=
  ⟨js "w", [bufferedRow.entry, { bufferedRow.entry with id := 1, protocolId := js "q", subject := js "Vote" }]⟩

/-- A message to the group of the first protocol that has a text in its body. -/
def postsToGroup (text : JsString) (e : GatewayEvent) : Bool :=
  match e.op with
  | .sendTelegram p => p.chatId == js "g" && includes text p.body
  | _ => false

/-- What another protocol wrote to the wallet is posted to the group of the first one. -/
theorem digest_posted_to_group :
    ∃ p ∈ replayFrom groupWorld (.arrive (.deliverDigest mixedDigest) :: proceeds 0 20), ¬ DigestsPrivate p ∧
      p.threads.any (fun t => t.trace.any (postsToGroup (js "Vote"))) = true := by
  decide +kernel

end

end HeraldGateway
