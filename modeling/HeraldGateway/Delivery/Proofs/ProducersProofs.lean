import HeraldGateway.Delivery.Fanout
import HeraldGateway.Gateway.Proofs.GatingProofs

/-!
# What jobs leave out

The scheduler and campaigns write of a protocol only its identifier into their jobs, and no producer but the
direct request writes channels. What dispatch then allows follows from the tier alone.
-/

namespace HeraldGateway

open Async

variable {env : Env} {job : NotificationJobData} {contacts : DecryptedChannels}

/-! ### What dispatch allows -/

/-- A job that leaves the choice of channels to dispatch, and is not urgent. -/
structure NotificationJobData.Open (job : NotificationJobData) : Prop where
  preferredChannel : job.preferredChannel = none
  channels : job.channels = none
  excludedChannels : job.excludedChannels = none
  calm : job.priority ≠ some .important ∧ job.priority ≠ some .critical

/-- Channels are registered in the order in which dispatch sorts them. -/
theorem registeredChannels_sorted {tier : Nat} :
    (registeredChannels contacts tier).Pairwise fun a b => channelIndex a ≤ channelIndex b := by
  unfold registeredChannels
  repeat' split
  all_goals simp [channelIndex]

/-- An open job may use every channel that is registered and that its tier permits. -/
theorem resolveAllowedChannels_open (h : job.Open) :
    resolveAllowedChannels contacts job = registeredChannels contacts (job.tier.getD 0) := by
  have hexplicit : explicitChannels job = none := by
    unfold explicitChannels
    rw [h.preferredChannel, h.channels]
  have hurgent : (job.priority == some .important || job.priority == some .critical) = false := by
    rw [Bool.or_eq_false_iff, beq_eq_false_iff_ne, beq_eq_false_iff_ne]
    exact h.calm
  have hkept : ∀ l : List Channel, (l.filter fun c => !([] : List Channel).contains c) = l := fun l =>
    List.filter_eq_self.2 fun _ _ => rfl
  unfold resolveAllowedChannels
  simp only [hexplicit, hurgent, h.excludedChannels, Option.getD_none, hkept, Bool.and_false, Bool.false_and,
    Bool.false_eq_true, if_false]
  split
  · next hempty => exact (List.isEmpty_iff.1 hempty).symm
  · exact registeredChannels_sorted.insertionSort_eq

/-- A direct request that names no channel makes an open job. -/
theorem open_directRequest (id : NotificationId) (templateId : Option JsString)
    (protocol : AuthenticatedProtocol) :
    (productionJob env id (job.directRequest templateId) protocol).Open :=
  ⟨rfl, rfl, rfl, by constructor <;> nofun⟩

/-! ### What producers write -/

/-- A job that says of its protocol no more than the identifier. -/
structure NotificationJobData.Bare (job : NotificationJobData) : Prop extends job.Open where
  tier : job.tier = none
  protocolName : job.protocolName = []
  protocolPubkey : job.protocolPubkey = []

theorem bare_reconciledJob (id : NotificationId) (row : ScheduledNotification) (wallet : JsString) :
    (reconciledJob env id row wallet).Bare where
  preferredChannel := rfl
  channels := rfl
  excludedChannels := rfl
  calm := by constructor <;> nofun
  tier := rfl
  protocolName := rfl
  protocolPubkey := rfl

theorem bare_campaignJob (campaign : Campaign) (id : NotificationId) (wallet : JsString) :
    (campaignJob env campaign id wallet).Bare where
  preferredChannel := rfl
  channels := rfl
  excludedChannels := rfl
  calm := by constructor <;> nofun
  tier := rfl
  protocolName := rfl
  protocolPubkey := rfl

theorem open_broadcastJob (dto : BroadcastDto) (protocol : AuthenticatedProtocol) (id : NotificationId)
    (target : ProtocolSubscription) : (broadcastJob dto protocol id target).Open :=
  ⟨rfl, rfl, rfl, by constructor <;> nofun⟩

/-- What a task may have read and written for a job that it adds. -/
def Task.Wrote (env : Env) (rows : List ScheduledNotification) (targets : List ProtocolSubscription)
    (a : NotificationJobData × Option Nat) : Task → Prop
  | broadcast dto protocol => ∃ target ∈ targets, ∃ id, a.1 = broadcastJob dto protocol id target
  | reconcile => ∃ row ∈ rows, ∃ id, a = (reconciledJob env id row (row.wallet.getD []), some row.id)
  | launchCampaign .. | enqueueCampaign _ => a.1.Bare
  | _ => True

/-- What was read is among given rows. -/
def ReadsAmong (rows : List ScheduledNotification) (targets : List ProtocolSubscription) : Good := fun o r =>
  dueRows o r ⊆ rows ∧ targetRows o r ⊆ targets

/-- A task writes its jobs from what it read. -/
theorem adds_written (task : Task) (rows : List ScheduledNotification) (targets : List ProtocolSubscription) :
    (task.code env).Within (fun o => ∀ a ∈ o.added?, task.Wrote env rows targets a)
    (ReadsAmong rows targets) := by
  have silent : ∀ o : Op, o.added? = none → ∀ a ∈ o.added?, task.Wrote env rows targets a :=
    fun o ho a ha => by
    rw [ho] at ha
    cases ha
  have hq : ∀ o : Op, o.quiet = true → ∀ a ∈ o.added?, task.Wrote env rows targets a := fun o ho =>
    silent o (added_of_quiet ho)
  have enqueue : ∀ {data : NotificationJobData}, task.Wrote env rows targets (data, none) →
      ∀ a ∈ (Op.enqueue data).added?, task.Wrote env rows targets a := by
    rintro data h a ha
    obtain rfl := Option.some.inj ha
    exact h
  have notify : (∀ a, task.Wrote env rows targets a) → ∀ dto protocol,
      NotifyAdds env (fun o => ∀ a ∈ o.added?, task.Wrote env rows targets a) (ReadsAmong rows targets) dto protocol :=
    fun h _ _ => ⟨fun _ _ => hq _ rfl, fun _ _ _ _ => enqueue (h _), fun _ _ _ _ _ _ _ => enqueue (h _),
      fun _ _ _ => enqueue (h _)⟩
  refine within_code (fun o ho => hq o (quiet_of_plain ho)) ?_
  cases task with
  | notify dto protocol => exact notify (fun _ => trivial) dto protocol
  | notifyBatch dto protocol => exact fun _ _ => notify (fun _ => trivial) _ protocol
  | systemBroadcast dto protocol => exact fun _ => notify (fun _ => trivial) _ protocol
  | broadcast dto protocol =>
    exact fun found hg target ht id => enqueue ⟨target, hg.2 ht, id, rfl⟩
  | scheduleOnce => exact fun _ _ => silent _ rfl
  | scheduleRecurring => exact fun _ _ _ _ => silent _ rfl
  | launchCampaign | enqueueCampaign =>
    exact fun campaign _ wallet _ id => enqueue (bare_campaignJob campaign id wallet)
  | reconcile =>
    refine ⟨fun _ _ _ _ _ _ _ => silent _ rfl, fun now overdue hg row hrow _ id a ha => ?_⟩
    obtain rfl := Option.some.inj ha
    exact ⟨row, hg.1 hrow, id, rfl⟩
  | deliver => exact attempts_of_quiet hq
  | deliverDigest => exact fun _ _ _ _ _ _ => dispatches_of_quiet hq
  | _ => trivial

variable {s : World} {p : GatewayPool} {ls : List GatewayLabel} {t : GatewayThread} {e : GatewayEvent}
  {a : NotificationJobData × Option Nat}

/-- A job that a task of a run added was written from what the task found. -/
theorem wrote_of_run (hr : (gateway env).run (Pool.empty s) ls = some p) (ht : t ∈ p.threads)
    (he : e ∈ t.trace) (ha : a ∈ e.op.added?) :
    t.request.Wrote env (foundDue t.trace) (foundTargets t.trace) a := by
  obtain ⟨i, hrun⟩ := (System.traced_of_run hr).of_mem ht
  have hreads : ∀ e ∈ t.trace, ReadsAmong (foundDue t.trace) (foundTargets t.trace) e.op e.reply :=
    fun e he =>
    ⟨fun _ hrow => List.mem_flatMap.2 ⟨e, he, hrow⟩, fun _ htarget => List.mem_flatMap.2 ⟨e, he, htarget⟩⟩
  exact (hrun.along (adds_written t.request _ _) hreads).2 e he a ha

/-! ### Producers beside direct requests -/

variable {protocol : AuthenticatedProtocol} {id : NotificationId} {templateId : Option JsString}

/-- A bare job is treated like one of a protocol about which there is nothing to say. -/
theorem treatedAlike_bare_iff (h : job.Bare) :
    TreatedAlike job (productionJob env id (job.directRequest templateId) protocol) ↔ protocol.IsBlank := by
  have hallowed : ∀ contacts, resolveAllowedChannels contacts job = registeredChannels contacts 0 :=
    fun contacts => by
    rw [resolveAllowedChannels_open h.toOpen, h.tier, Option.getD_none]
  have hdirect : ∀ contacts, resolveAllowedChannels contacts
      (productionJob env id (job.directRequest templateId) protocol) =
        registeredChannels contacts protocol.tier := fun contacts =>
    resolveAllowedChannels_open (open_directRequest id templateId protocol)
  refine ⟨fun halike => ⟨?_, ?_, ?_⟩, fun hblank => ⟨fun contacts => ?_, ?_, ?_, ?_⟩⟩
  · -- a Telegram chat alone is reached from tier 1 on
    have hchat := halike.channels { telegramChatId := some (js "c") }
    rw [hallowed, hdirect] at hchat
    by_contra htier
    have hpos : 1 ≤ protocol.tier := Nat.one_le_iff_ne_zero.2 htier
    have htruthy : truthy (some (js "c")) = true := by decide
    simp [registeredChannels, htruthy, hpos, show truthy none = false from rfl] at hchat
  · have hname := halike.sender
    rw [h.protocolName] at hname
    change [] = protocol.name.getD (js "Unknown Protocol") at hname
    cases hp : protocol.name with
    | none =>
      rw [hp] at hname
      exact absurd hname (by decide)
    | some name =>
      rw [hp] at hname
      rw [← show [] = name from hname]
  · exact halike.owner.symm.trans h.protocolPubkey
  · rw [hallowed, hdirect, hblank.tier]
  · rw [h.protocolName]
    change [] = protocol.name.getD (js "Unknown Protocol")
    rw [hblank.name, Option.getD_some]
  · intro email domain rendered tracked now link
    change _ ++ job.protocolName ++ _ ++ job.subject =
      _ ++ protocol.name.getD (js "Unknown Protocol") ++ _ ++ job.subject
    rw [h.protocolName, hblank.name, Option.getD_some]
  · exact h.protocolPubkey.trans hblank.pubkey.symm

/-- A job of a broadcast says of its protocol what a direct request does. -/
theorem treatedAlike_broadcastJob {dto : BroadcastDto} {id' : NotificationId}
    {target : ProtocolSubscription} :
    TreatedAlike (broadcastJob dto protocol id' target) (productionJob env id
      ((broadcastJob dto protocol id' target).directRequest templateId) protocol) where
  channels contacts := by
    rw [resolveAllowedChannels_open (open_broadcastJob dto protocol id' target),
      resolveAllowedChannels_open (open_directRequest id templateId protocol)]
    rfl
  sender := rfl
  subjectLine _ _ _ _ _ _ := rfl
  owner := rfl

/-- Broadcasts agree with direct requests. The scheduler and campaigns do so only for a protocol about which
there is nothing to say. -/
theorem producers_agree (hr : (gateway env).run (Pool.empty s) ls = some p) :
    AgreeWhen env (fun task protocol => task.broadcasts = true ∨ protocol.IsBlank) p := by
  intro t ht e he a ha protocol hfor id templateId
  have hwrote := wrote_of_run hr ht he ha
  cases hreq : t.request with
  | broadcast dto caller =>
    rw [hreq] at hwrote hfor
    obtain ⟨target, -, id', hjob⟩ := hwrote
    obtain rfl : caller = protocol := hfor
    rw [hjob]
    exact iff_of_true treatedAlike_broadcastJob (.inl rfl)
  | reconcile =>
    rw [hreq] at hwrote
    obtain ⟨row, -, id', rfl⟩ := hwrote
    rw [treatedAlike_bare_iff (bare_reconciledJob id' row _)]
    exact ⟨.inr, fun h => h.resolve_left nofun⟩
  | launchCampaign | enqueueCampaign =>
    rw [hreq] at hwrote
    rw [treatedAlike_bare_iff hwrote]
    exact ⟨.inr, fun h => h.resolve_left nofun⟩
  | _ =>
    rw [hreq] at hfor
    exact hfor.elim

/-- A protocol broadcasts to its subscriber. -/
def broadcastOnce : List GatewayLabel :=
  .arrive (.broadcast templatedBroadcast (client .production)) :: proceeds 0 6

theorem producers_agree_broadcastOnce : ∃ p ∈ replayFrom gatedWorld broadcastOnce,
    AgreeWhen Env.transparent (fun task protocol => task.broadcasts = true ∨ protocol.IsBlank) p := by
  obtain ⟨p, hp⟩ := Option.isSome_iff_exists.1
    (show (replayFrom gatedWorld broadcastOnce).isSome by decide +kernel)
  exact ⟨p, hp, producers_agree hp⟩

/-- A protocol stores a schedule for a wallet, which is reconciled. -/
def scheduledOnce : List GatewayLabel :=
  .arrive (.scheduleOnce (schedule (some (js "w"))) (client .production)) :: proceeds 0 1 ++
    .arrive .reconcile :: proceeds 1 6

/-- The scheduled job of a protocol of tier 1 reaches no Telegram chat and names no sender, unlike the job of
a direct request. -/
theorem scheduled_disagrees :
    ∃ p ∈ replayFrom World.blank scheduledOnce, ¬ AgreeWhen Env.transparent (fun _ _ => True) p := by
  have hrun : ∃ p ∈ replayFrom World.blank scheduledOnce, ∃ t ∈ p.threads, t.request = .reconcile ∧
    ∃ e ∈ t.trace,
      ∃ a ∈ e.op.added?, a.1.protocolId = (client .production).protocolId ∧
        resolveAllowedChannels { telegramChatId := some (js "c") } a.1 ≠
          resolveAllowedChannels { telegramChatId := some (js "c") }
            (productionJob Env.transparent (.uuid 0) (a.1.directRequest none) (client .production)) := by
    decide +kernel
  obtain ⟨p, hp, t, ht, hreq, e, he, a, ha, hpid, hne⟩ := hrun
  refine ⟨p, hp, fun hagree => hne ?_⟩
  have hfor : t.request.AddsFor a.1 (client .production) := by
    rw [hreq]
    exact hpid
  exact ((hagree t ht e he a ha _ hfor (.uuid 0) none).2 trivial).channels _

/-! ### Stored channels -/

/-- An open job keeps to the stored channels if every registered channel that its tier permits is among
them. -/
theorem keepsTo_open_iff (h : job.Open) {stored : List JsString} : KeepsTo stored contacts job ↔
    stored = [] ∨ ∀ c ∈ registeredChannels contacts (job.tier.getD 0), c.name ∈ stored := by
  unfold KeepsTo
  rw [resolveAllowedChannels_open h, or_iff_not_imp_left]

/-- The channel that a call sends on. -/
def Op.channel? : Op → Option Channel
  | .sendEmail _ => some .email
  | .sendTelegram _ => some .telegram
  | .sendSms _ => some .sms
  | _ => none

/-- A dispatch of a job that keeps to the stored channels sends on no others. -/
theorem within_dispatch_kept {stored : List JsString} (hstored : stored ≠ [])
    (h : KeepsTo stored contacts job) :
    (dispatch env contacts job).Within (fun o => ∀ c ∈ o.channel?, c.name ∈ stored) fun _ _ => True := by
  have hroutine : ∀ o : Op, o.routine = true → ∀ c ∈ o.channel?, c.name ∈ stored := fun o ho c hc => by
    cases o with
    | sendEmail | sendTelegram | sendSms => cases ho
    | _ => cases hc
  have sends : ∀ {c : Channel} {o : Op}, o.channel? = some c →
      (resolveAllowedChannels contacts job).contains c = true → ∀ c ∈ o.channel?, c.name ∈ stored := by
    intro c o ho hc c' hc'
    rw [ho] at hc'
    obtain rfl := Option.some.inj hc'
    exact h hstored c (List.contains_iff_mem.1 hc)
  have silent : ∀ {o : Op}, o.channel? = none → ∀ c ∈ o.channel?, c.name ∈ stored := fun ho c hc => by
    rw [ho] at hc
    cases hc
  refine Within.bind (Within.tryCatch (within_call (silent rfl)) fun _ => .ret _) fun assets => ?_
  refine Within.ite (fun _ => .ret _) fun _ => ?_
  refine Within.bind (Within.allSettled fun p hmem => ?_) fun settled =>
    Within.bind (within_swallow (within_call (hroutine _ rfl))) fun _ => .ret _
  rcases List.mem_append.1 hmem with hmem | hmem
  · rcases List.mem_append.1 hmem with hmem | hmem
    · split at hmem
      · next hc =>
        rw [List.mem_singleton.1 hmem]
        exact within_deliverEmail (of_untold hroutine) (fun _ _ => silent rfl) fun _ _ _ =>
          sends rfl (Bool.and_eq_true_iff.1 hc).1
      · cases hmem
    · split at hmem
      · next hc =>
        rw [List.mem_singleton.1 hmem]
        exact within_deliverTelegram (fun o ho => hroutine o (relays_routine ho))
          fun _ _ => sends rfl (Bool.and_eq_true_iff.1 hc).1
      · cases hmem
  · split at hmem
    · next hc =>
      rw [List.mem_singleton.1 hmem]
      exact within_deliverSms fun _ => sends rfl (Bool.and_eq_true_iff.1 hc).1
    · cases hmem

/-- Without a tier, only email is permitted. -/
theorem registeredChannels_zero {c : Channel} :
    c ∈ registeredChannels contacts 0 ↔ truthy contacts.email = true ∧ c = .email := by
  cases h : truthy contacts.email <;> simp [registeredChannels, h]

/-- Stored channels are carried through only where dispatch, which does not know them, would have chosen among
them anyway. -/
theorem stored_channels_carried (hr : (gateway env).run (Pool.empty s) ls = some p) : ∀ t ∈ p.threads,
    ChannelsCarried (fun stored contacts => stored = [] ∨ truthy contacts.email = false ∨ js "email" ∈ stored)
      (fun protocol stored contacts => stored = [] ∨
        ∀ c ∈ registeredChannels contacts protocol.tier, c.name ∈ stored) t := by
  refine fun t ht => ⟨fun hreq e he a ha => ?_, fun dto protocol hreq e he a ha => ?_⟩
  · have hwrote := wrote_of_run hr ht he ha
    rw [hreq] at hwrote
    obtain ⟨row, hrow, id, rfl⟩ := hwrote
    refine ⟨row, hrow, rfl, fun contacts => ?_⟩
    rw [keepsTo_open_iff (bare_reconciledJob id row _).toOpen, (bare_reconciledJob id row _).tier,
      Option.getD_none]
    refine or_congr_right ⟨fun h => ?_, fun h c hc => ?_⟩
    · cases hemail : truthy contacts.email with
      | false => exact .inl rfl
      | true => exact .inr (h .email (registeredChannels_zero.2 ⟨hemail, rfl⟩))
    · obtain ⟨hemail, rfl⟩ := registeredChannels_zero.1 hc
      rw [hemail] at h
      exact h.resolve_left nofun
  · have hwrote := wrote_of_run hr ht he ha
    rw [hreq] at hwrote
    obtain ⟨target, htarget, id, hjob⟩ := hwrote
    refine ⟨target, htarget, by rw [hjob]; rfl, fun contacts => ?_⟩
    rw [hjob, keepsTo_open_iff (open_broadcastJob dto protocol id target)]
    rfl

example : (replayFrom gatedWorld broadcastOnce).map (·.store.notificationQueue.length) = some 1 := by decide +kernel

theorem stored_channels_carried_broadcastOnce : ∃ p ∈ replayFrom gatedWorld broadcastOnce, ∀ t ∈ p.threads,
    ChannelsCarried (fun stored contacts => stored = [] ∨ truthy contacts.email = false ∨ js "email" ∈ stored)
      (fun protocol stored contacts => stored = [] ∨
        ∀ c ∈ registeredChannels contacts protocol.tier, c.name ∈ stored) t := by
  obtain ⟨p, hp⟩ := Option.isSome_iff_exists.1
    (show (replayFrom gatedWorld broadcastOnce).isSome by decide +kernel)
  exact ⟨p, hp, stored_channels_carried hp⟩

/-- A protocol stores a schedule for Telegram only, which is reconciled. -/
def scheduledForTelegram : List GatewayLabel :=
  .arrive (.scheduleOnce { schedule (some (js "w")) with channels := some [js "telegram"] } (client .production)) ::
    proceeds 0 1 ++ .arrive .reconcile :: proceeds 1 6

/-- The job of a schedule for Telegram only may use email and nothing else, and that of a subscriber who chose
email may use Telegram. -/
theorem stored_channels_lost :
    (∃ p ∈ replayFrom World.blank scheduledForTelegram, ∃ t ∈ p.threads,
      ¬ ChannelsCarried (fun _ _ => True) (fun _ _ _ => True) t) ∧
    ∃ p ∈ replayFrom gatedWorld broadcastOnce, ∃ t ∈ p.threads,
      ¬ ChannelsCarried (fun _ _ => True) (fun _ _ _ => True) t := by
  have hschedule : ∃ p ∈ replayFrom World.blank scheduledForTelegram, ∃ t ∈ p.threads,
    t.request = .reconcile ∧
      ∃ e ∈ t.trace, ∃ a ∈ e.op.added?, ∀ row ∈ foundDue t.trace,
        ¬ KeepsTo row.channels { email := some (js "e") } a.1 := by decide +kernel
  have hbroadcast : ∃ p ∈ replayFrom gatedWorld broadcastOnce, ∃ t ∈ p.threads,
      t.request = .broadcast templatedBroadcast (client .production) ∧ ∃ e ∈ t.trace, ∃ a ∈ e.op.added?,
        ∀ target ∈ foundTargets t.trace,
          ¬ KeepsTo target.channels { telegramChatId := some (js "c") } a.1 := by
    decide +kernel
  constructor
  · obtain ⟨p, hp, t, ht, hreq, e, he, a, ha, hlost⟩ := hschedule
    refine ⟨p, hp, t, ht, fun hcarried => ?_⟩
    obtain ⟨row, hrow, -, hkeeps⟩ := hcarried.schedules hreq e he a ha
    exact hlost row hrow ((hkeeps _).2 trivial)
  · obtain ⟨p, hp, t, ht, hreq, e, he, a, ha, hlost⟩ := hbroadcast
    refine ⟨p, hp, t, ht, fun hcarried => ?_⟩
    obtain ⟨target, htarget, -, hkeeps⟩ := hcarried.broadcasts _ _ hreq e he a ha
    exact hlost target htarget ((hkeeps _).2 trivial)

end HeraldGateway
