import HeraldGateway.Gateway.Gating
import HeraldGateway.Gateway.Proofs.FootprintProofs
import HeraldGateway.Gateway.Proofs.WorldProofs

/-!
# Schedules and isolation
-/

namespace HeraldGateway

open Async

/-!
## Schedules over runs

Every schedule keeps its number, which is its place in the table, and its wallet, whatever the gateway
does.
-/

section

variable {env : Env} {c : Choice} {s s' : World} {o : Op}

/-! ### What tasks call -/

/-- Schedules are stored under their places, for the wallet that the task names, and are updated only in
the other columns. -/
def Orderly (task : Task) : Allowed
  | .scheduledCreate data => ∀ n, (data n).id = n ∧ (data n).wallet = task.scheduledWallet
  | .scheduledUpdate _ u => Rearms u
  | _ => True

theorem schedules_orderly (task : Task) :
    (task.code env).Within (Orderly task) (fun _ _ => True) := by
  have hq : ∀ o : Op, o.quiet = true → Orderly task o := fun o ho => by
    cases o with
    | scheduledCreate | scheduledUpdate => cases ho
    | _ => trivial
  have notify : ∀ dto protocol, NotifyAdds env (Orderly task) (fun _ _ => True) dto protocol :=
    fun _ _ => ⟨fun _ _ => hq _ rfl, fun _ _ _ _ => trivial, fun _ _ _ _ _ _ _ => trivial,
      fun _ _ _ => trivial⟩
  refine within_code (fun o ho => hq o (quiet_of_plain ho)) ?_
  cases task with
  | notify dto protocol => exact notify dto protocol
  | notifyBatch dto protocol => exact fun _ _ => notify _ protocol
  | systemBroadcast dto protocol => exact fun _ => notify _ protocol
  | broadcast => exact fun _ _ _ _ _ => trivial
  | scheduleOnce => exact fun _ _ _ => ⟨rfl, rfl⟩
  | scheduleRecurring => exact fun _ _ _ hw _ => ⟨rfl, hw⟩
  | launchCampaign | enqueueCampaign => exact fun _ _ _ _ _ => trivial
  | reconcile => exact ⟨fun _ _ _ _ _ _ hu => hu, fun _ _ _ _ _ _ _ => trivial⟩
  | deliver => exact attempts_of_quiet hq
  | deliverDigest => exact fun _ _ _ _ _ _ => dispatches_of_quiet hq
  | _ => trivial

/-! ### What happens to schedules -/

/-- Schedules stay, with their wallets, and their numbers remain their places. -/
structure KeepsSchedules (s s' : World) : Prop where
  wallet : ∀ (n : Nat) r, s.scheduled[n]? = some r →
    ∃ r', s'.scheduled[n]? = some r' ∧ r'.wallet = r.wallet
  numbered : s.Numbered → s'.Numbered

theorem KeepsSchedules.of_eq (h : s'.scheduled = s.scheduled) : KeepsSchedules s s' where
  wallet _ r hr := ⟨r, h ▸ hr, rfl⟩
  numbered hn _ r hr := hn _ r (h ▸ hr)

theorem KeepsSchedules.trans {s₁ s₂ s₃ : World} (h₁ : KeepsSchedules s₁ s₂)
    (h₂ : KeepsSchedules s₂ s₃) : KeepsSchedules s₁ s₃ where
  wallet n r hr := by
    obtain ⟨r', hr', hw⟩ := h₁.wallet n r hr
    obtain ⟨r'', hr'', hw'⟩ := h₂.wallet n r' hr'
    exact ⟨r'', hr'', hw'.trans hw⟩
  numbered hn := h₂.numbered (h₁.numbered hn)

/-- Updating some rows without touching identifiers and wallets. -/
theorem keepsSchedules_update {f : ScheduledNotification → Bool}
    {u : ScheduledNotification → ScheduledNotification} (hu : Rearms u)
    (h : s'.scheduled = updateWhere f u s.scheduled) : KeepsSchedules s s' := by
  have row : ∀ (n : Nat) r, s'.scheduled[n]? = some r →
      ∃ r₀, s.scheduled[n]? = some r₀ ∧ r.id = r₀.id := by
    intro n r hr
    rw [h, updateWhere, List.getElem?_map, Option.map_eq_some_iff] at hr
    obtain ⟨r₀, hr₀, rfl⟩ := hr
    refine ⟨r₀, hr₀, ?_⟩
    split
    · exact (Prod.mk.inj (hu r₀)).1
    · rfl
  refine ⟨fun n r hr => ⟨if f r then u r else r, by simp [h, updateWhere, hr], ?_⟩, fun hn n r hr => ?_⟩
  · split
    · exact (Prod.mk.inj (hu r)).2
    · rfl
  · obtain ⟨r₀, hr₀, hid⟩ := row n r hr
    exact hid.trans (hn n r₀ hr₀)

/-- Storing a schedule under its place. -/
theorem keepsSchedules_create {row : ScheduledNotification} (hid : row.id = s.scheduled.length)
    (h : s'.scheduled = s.scheduled ++ [row]) : KeepsSchedules s s' where
  wallet n r hr := ⟨r, by
    rw [h, List.getElem?_append_left (List.getElem?_eq_some_iff.1 hr).1, hr], rfl⟩
  numbered hn n r hr := by
    rw [h, List.getElem?_append] at hr
    split at hr
    · exact hn n r hr
    · next hlt =>
      have hn' : n = s.scheduled.length := by
        have := (List.getElem?_eq_some_iff.1 hr).1
        simp only [List.length_singleton] at this
        omega
      subst hn'
      simp only [Nat.sub_self, List.getElem?_cons_zero, Option.some.injEq] at hr
      rw [← hr, hid]

theorem keepsSchedules_handle {task : Task} (ho : Orderly task o) :
    KeepsSchedules s (World.handle env c s o).2 := by
  by_cases ht : o.table = .scheduled
  · refine handle_rel (.of_eq rfl) ?_ fun _ => .of_eq rfl
    cases o with
    | scheduledCreate data => exact keepsSchedules_create (ho _).1 rfl
    | scheduledUpdate id u =>
      simp only [World.serve]
      split
      · exact keepsSchedules_update ho rfl
      · exact .of_eq rfl
    | scheduledCancel id protocolId =>
      exact keepsSchedules_update (u := fun r => { r with status := .cancelled }) (fun _ => rfl) rfl
    | _ => cases ht
  · exact .of_eq (handle_untouched.scheduled ht)

theorem keepsSchedules_change {e : Change} (h : e.apply s = some s') : KeepsSchedules s s' :=
  .of_eq (change_ownTables h).scheduled

theorem numbered_blank : World.blank.Numbered := fun _ _ hr => by cases hr

/-! ### Runs -/

variable {p p' : GatewayPool}

theorem keepsSchedules_step {l : GatewayLabel} (hp : (gateway env).Traced p)
    (h : (gateway env).step p l = some p') : KeepsSchedules p.store p'.store := by
  rcases System.store_cases h with hstore | ⟨i, c, t, o, k, -, ht, hprog, hstore⟩ | ⟨e, -, he⟩
  · exact .of_eq (congrArg World.scheduled hstore)
  · rw [hstore]
    have hrun := hp i t ht
    rw [hprog] at hrun
    exact keepsSchedules_handle (hrun.along (schedules_orderly t.request) fun _ _ => trivial).1.1
  · exact keepsSchedules_change he

end

/-!
## Sandbox isolation where sandbox callers reach nobody

Sandbox requests put only sandbox jobs on the queue. What breaks isolation are broadcasts, campaigns and
schedules, which forget who asked for them. A schedule keeps its wallet and its place in the table, so
one without a wallet never leads to a job.
-/

section

variable {env : Env} {c : Choice} {s s' : World} {o : Op}

/-! ### What tasks call -/

/-- Only sandbox jobs are added. -/
def AddsSandboxOnly : Allowed := fun o => ∀ a ∈ o.added?, a.1.production = false

/-- A sandbox caller without an audience adds only sandbox jobs. -/
theorem adds_sandbox_only {task : Task} (hs : task.sandboxed = true) :
    (task.code env).Within AddsSandboxOnly (NoAudience task) := by
  have hq : ∀ o : Op, o.quiet = true → AddsSandboxOnly o := fun o ho => by
    simp [AddsSandboxOnly, added_of_quiet ho]
  have create : ∀ data, AddsSandboxOnly (.scheduledCreate data) := fun data => by
    simp [AddsSandboxOnly, Op.added?]
  have notify : ∀ dto (protocol : AuthenticatedProtocol), (protocol.environment == .sandbox) = true →
      NotifyAdds env AddsSandboxOnly (NoAudience task) dto protocol := fun dto protocol he => by
    have he : protocol.environment = .sandbox := eq_of_beq he
    refine ⟨fun _ _ => hq _ rfl, fun hp => ?_, fun hp => ?_, fun _ _ _ _ hadd => ?_⟩
    · cases he.symm.trans hp
    · cases he.symm.trans hp
    · obtain rfl := Option.some.inj hadd
      rfl
  have campaign : ∀ id, CampaignAdds env AddsSandboxOnly (NoAudience task) id :=
    fun id campaign hg wallet hw => by
      rw [hg hs campaign rfl] at hw
      cases hw
  refine within_code (fun o ho => hq o (quiet_of_plain ho)) ?_
  cases task with
  | notify dto protocol => exact notify dto protocol hs
  | notifyBatch dto protocol => exact fun _ _ => notify _ protocol hs
  | systemBroadcast dto protocol => exact fun _ => notify _ protocol hs
  | broadcast dto protocol => exact fun targets hg target ht => absurd (hg hs) (List.ne_nil_of_mem ht)
  | scheduleOnce => exact fun _ _ => create _
  | scheduleRecurring => exact fun _ _ _ _ => create _
  | launchCampaign id protocol => exact campaign id
  | cancelScheduled => trivial
  | _ => cases hs

/-- No overdue schedule of that number names a wallet. -/
def NotOverdue (n : Nat) : Good
  | .scheduledFindOverdue _, .ok rows => ∀ r ∈ rows, r.id = n → truthy r.wallet = false
  | _, _ => True

/-- A job is added under the number of a schedule only if the schedule was found overdue with a
wallet. -/
theorem adds_scheduled_if_overdue (task : Task) (job : NotificationJobData) (n : Nat) :
    (task.code env).Within (fun o => o.added? ≠ some (job, some n)) (NotOverdue n) := by
  refine within_code_of_quiet (fun o ho => by simp [added_of_quiet ho]) (fun _ h => by cases h)
    (fun _ => nofun) fun _ => ⟨fun _ _ _ _ _ _ _ => nofun, fun now overdue hg row hrow hw id hadd => ?_⟩
  have hn : row.id = n := Option.some.inj (Prod.mk.inj (Option.some.inj hadd)).2
  rw [hg row hrow hn] at hw
  cases hw

/-! ### Runs -/

variable {p p' : GatewayPool} {ls : List GatewayLabel}

/-- What holds in every pool that a run reaches. -/
structure IsolationInvariant (env : Env) (p : GatewayPool) : Prop where
  traced : (gateway env).Traced p
  answers : System.Events (fun task e => NoAudience task e.op e.reply) p
  requests : System.Requests
    (fun task => task.sandboxed = true → truthy task.scheduledWallet = false) p
  numbered : System.Always World.Numbered p
  since : System.Since KeepsSchedules p

theorem isolationInvariant_empty (hs : s.Numbered) : IsolationInvariant env (Pool.empty s) :=
  ⟨System.traced_empty s, System.events_empty s, System.requests_empty s, System.always_empty hs,
    System.since_empty s⟩

theorem isolationInvariant_step {l : GatewayLabel} (hok : ReachesNobody env p l)
    (h : (gateway env).step p l = some p') (hp : IsolationInvariant env p) :
    IsolationInvariant env p' := by
  have hkeeps := keepsSchedules_step hp.traced h
  refine ⟨hp.traced.step h, ?_, ?_, ?_, ?_⟩
  · have hanswers : (gateway env).Answers (fun task _ => NoAudience task) p l := by
      cases l with
      | arrive => trivial
      | pick | outside => exact hok
    exact System.Events.answers hanswers h hp.answers
  · refine hp.requests.step h fun task hl => ?_
    subst hl
    exact hok
  · exact hp.numbered.step h (hkeeps.numbered hp.numbered.1)
  · exact hp.since.step h (fun _ => .of_eq rfl) (fun _ _ _ => .trans) hkeeps

/-- A call that stored a schedule stored one for the wallet that its task names. -/
theorem wallet_of_created {e : GatewayEvent} {task : Task} {n : Nat}
    (he : ∃ c s o, e = (gateway env).handler.event c s o) (ho : Orderly task e.op)
    (hn : n ∈ createdSchedule e) :
    ∃ r, e.after.scheduled[n]? = some r ∧ r.wallet = task.scheduledWallet := by
  obtain ⟨c, s, o, rfl⟩ := he
  cases o with
  | scheduledCreate data =>
    have hafter : (World.handle env c s (.scheduledCreate data)).2.scheduled = s.scheduled ∨
        (World.handle env c s (.scheduledCreate data)).2.scheduled =
          s.scheduled ++ [data s.scheduled.length] :=
      handle_rel (R := fun s s' => s'.scheduled = s.scheduled ∨
        s'.scheduled = s.scheduled ++ [data s.scheduled.length]) (.inl rfl) (.inr rfl) fun _ => .inl rfl
    have hn : (if s.scheduled.length < (World.handle env c s (.scheduledCreate data)).2.scheduled.length
        then some s.scheduled.length else none) = some n := hn
    change ∃ r, (World.handle env c s (.scheduledCreate data)).2.scheduled[n]? = some r ∧ _
    rcases hafter with h | h
    · simp [h] at hn
    · simp only [h, List.length_append, List.length_singleton, Nat.lt_add_one, if_true,
        Option.some.injEq] at hn
      subst hn
      exact ⟨_, by rw [h, List.getElem?_concat_length], (ho _).2⟩
  | _ => cases hn

/-- A schedule that was found overdue with a wallet was stored with it. -/
theorem stored_of_overdue {e : GatewayEvent} {n : Nat}
    (he : ∃ c s o, e = (gateway env).handler.event c s o) (h : ¬ NotOverdue n e.op e.reply) :
    ∃ r ∈ e.before.scheduled, r.id = n ∧ truthy r.wallet = true := by
  obtain ⟨c, s, o, rfl⟩ := he
  cases o with
  | scheduledFindOverdue now =>
    simp only [Handler.event, gateway] at h ⊢
    cases hrep : (World.handle env c s (.scheduledFindOverdue now)).1 with
    | error e =>
      rw [hrep] at h
      exact absurd trivial h
    | ok rows =>
      rw [hrep] at h
      simp only [NotOverdue, not_forall, Bool.not_eq_false] at h
      obtain ⟨r, hr, hid, hw⟩ := h
      exact ⟨r, overdue_stored hrep r hr, hid, hw⟩
  | _ => exact absurd trivial h

/-- Where sandbox callers reach nobody by schedules, broadcasts and campaigns, what they start stays in
the sandbox. -/
theorem sandbox_isolated (hs : s.Numbered)
    (hok : (gateway env).Keeps (ReachesNobody env) (Pool.empty s) ls)
    (hr : (gateway env).run (Pool.empty s) ls = some p) : SandboxIsolated p := by
  have hI : IsolationInvariant env p := System.Keeps.induction
    (fun p l p' hok hp h => isolationInvariant_step hok h hp) hok hr (isolationInvariant_empty hs)
  intro t ht hsand u hu job hjob hprod
  obtain ⟨i, hrun⟩ := hI.traced.of_mem ht
  refine ⟨?_, ?_⟩
  · rintro ⟨e, he, hadd⟩
    obtain ⟨a, ha, rfl⟩ := Option.map_eq_some_iff.1 hadd
    have hsandbox := (hrun.along (adds_sandbox_only hsand) (hI.answers t ht)).2 e he a ha
    rw [hsandbox] at hprod
    cases hprod
  · rintro ⟨e, he, n, hn, v, hv, e', he', hadd⟩
    obtain ⟨r₁, hr₁, hw₁⟩ := wallet_of_created (hrun.event e he)
      ((hrun.along (schedules_orderly t.request) fun _ _ => trivial).2 e he) hn
    obtain ⟨r₁', hr₁', hw₁'⟩ := (hI.since t ht e he).2.wallet n r₁ hr₁
    obtain ⟨j, hrun'⟩ := hI.traced.of_mem hv
    obtain ⟨e'', he'', hover⟩ := hrun'.exists_reply_of_mem
      (adds_scheduled_if_overdue v.request job n) he' (not_not.2 hadd)
    obtain ⟨r₂, hr₂, hid, hw₂⟩ := stored_of_overdue (hrun'.event e'' he'') hover
    obtain ⟨k, hk⟩ := List.mem_iff_getElem?.1 hr₂
    obtain rfl : k = n := ((hI.numbered.2 v hv e'' he'').1 k r₂ hk).symm.trans hid
    obtain ⟨r₂', hr₂', hw₂'⟩ := (hI.since v hv e'' he'').1.wallet k r₂ hk
    obtain rfl : r₁' = r₂' := Option.some.inj (hr₁'.symm.trans hr₂')
    rw [← hw₂', hw₁', hw₁, hI.requests t ht hsand] at hw₂
    cases hw₂

/-! ### Runs that keep and break it -/

/-- An installation with a sandbox key and a test contact. -/
def sandboxWorld : World :=
  { World.blank with
    apiKeys := fun _ => some { isTestKey := true, testDailyLimit := 10 }
    protocolSettings := fun _ => some { testEmail := some (js "dev@useherald.xyz") } }

theorem numbered_sandboxWorld : sandboxWorld.Numbered := fun n r hr => by
  simp [sandboxWorld, World.blank] at hr

/-- The job of a sandbox request to a wallet. -/
def sandboxDelivery : NotificationJobData :=
  sandboxJob Env.transparent (.uuid 0)
    { wallet := js "w", subject := js "Margin", body := js "Add collateral." } (client .sandbox)
    { email := some (js "dev@useherald.xyz") }

/-- A sandbox caller sends a notification, which a worker delivers, and stores a schedule without a
wallet, which is reconciled. -/
def sandboxOnly : List GatewayLabel :=
  .arrive (.notify { wallet := js "w", subject := js "Margin", body := js "Add collateral." }
      (client .sandbox)) :: proceeds 0 7 ++
    .arrive (.deliver sandboxDelivery) :: proceeds 1 4 ++
    .arrive (.scheduleOnce (schedule none) (client .sandbox)) :: proceeds 2 1 ++
    .arrive .reconcile :: proceeds 3 4

theorem sandbox_isolated_sandboxOnly :
    ∃ p ∈ replayFrom sandboxWorld sandboxOnly, SandboxIsolated p := by
  obtain ⟨hsome, hok⟩ : (replayFrom sandboxWorld sandboxOnly).isSome ∧
      (gateway Env.transparent).Keeps (ReachesNobody Env.transparent) (Pool.empty sandboxWorld) sandboxOnly := by
    decide +kernel
  obtain ⟨p, hp⟩ := Option.isSome_iff_exists.1 hsome
  exact ⟨p, hp, sandbox_isolated numbered_sandboxWorld hok hp⟩

/-- The job that reconciling a schedule for a wallet adds. -/
def scheduledDelivery : NotificationJobData :=
  reconciledJob Env.transparent (.uuid 0)
    (scheduledRow (js "p") (schedule (some (js "w"))) none 0 0) (js "w")

/-- A sandbox caller stores a schedule for a wallet, which is reconciled, and a worker attempts its
job. -/
def sandboxSchedule : List GatewayLabel :=
  .arrive (.scheduleOnce (schedule (some (js "w"))) (client .sandbox)) :: proceeds 0 1 ++
    .arrive .reconcile :: proceeds 1 6 ++ [.arrive (.deliver scheduledDelivery)]

/-- The job of the sandbox caller's schedule is attempted in production. -/
theorem sandbox_schedule_delivered :
    (gateway Env.transparent).Keeps Legal (Pool.empty sandboxWorld) sandboxSchedule ∧
      ∃ p ∈ replayFrom sandboxWorld sandboxSchedule, ¬ SandboxIsolated p := by decide +kernel

end

end HeraldGateway
