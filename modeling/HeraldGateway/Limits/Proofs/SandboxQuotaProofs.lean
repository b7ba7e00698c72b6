import HeraldGateway.Async.Credit
import HeraldGateway.Gateway.Proofs.CostsProofs
import HeraldGateway.Limits.SandboxQuota

/-!
# Quotas hold where checks leave quota

A request adds a job only for a check that let it through, and only under an identifier that it drew. So jobs
of a day and those under way grow only where a check lets a request through.
-/

namespace HeraldGateway

open Async

variable {env : Env} {limits : JsString → Nat} {c : Choice} {s s' : World} {o : Op} {k : RedisKey} {L : Nat}

/-! ### What requests add -/

theorem addsSandbox_plain (o : Op) (h : o.plain = true) : o.addsSandbox = 0 := by
  cases o with
  | notificationAdd => cases h
  | _ => rfl

/-- A found key has its daily limit. -/
def FindsLimit (limits : JsString → Nat) : Good
  | .apiKeyFindUnique id, .ok found => ∀ key ∈ found, key.testDailyLimit = limits id
  | _, _ => True

section programs

variable {protocol : AuthenticatedProtocol} {id : NotificationId} {dto : NotifyDto} {α : Type}

/-- A program that adds sandbox jobs only for what it was let through for. -/
abbrev Pays (limits : JsString → Nat) (k : RedisKey) (L n : Nat) (p : Gateway α) : Prop :=
  Solvent (S := Calls) (FindsLimit limits) (Op.lets k L) Op.addsSandbox n p

/-- A key is allowed only if the counter that was read leaves something of its limit. -/
theorem backed_validateSandboxKey (apiKeyId : JsString) :
    Backed (S := Calls) (FindsLimit limits)
    (Op.lets (.sandboxDaily apiKeyId) (limits apiKeyId)) Op.addsSandbox
      (fun n r => ∀ quota, r = .ok quota → quota.allowed = true → 1 ≤ n) 0 (validateSandboxKey apiKeyId) := by
  refine ⟨Nat.le_refl 0, fun r hr => ?_⟩
  cases r with
  | error e => exact nofun
  | ok found =>
    cases found with
    | none =>
      rintro _ ⟨⟩ hallowed
      cases hallowed
    | some key =>
      have hlimit : key.testDailyLimit = limits apiKeyId := hr key rfl
      change Backed _ _ _ _ _ (if key.isRevoked then _ else _)
      split
      · rintro _ ⟨⟩ hallowed
        cases hallowed
      · refine ⟨Nat.zero_le _, fun r _ => ?_⟩
        cases r with
        | error e => exact nofun
        | ok now =>
          change Backed _ _ _ _ _ (if key.expiresAt.any (· < now) then _ else _)
          split
          · rintro _ ⟨⟩ hallowed
            cases hallowed
          · refine ⟨Nat.zero_le _, fun r _ => ?_⟩
            cases r with
            | error e => exact nofun
            | ok count =>
              change Backed _ _ _ _ _ (if key.testDailyLimit - countOf count = 0 then _ else _)
              split
              · rintro _ ⟨⟩ hallowed
                cases hallowed
              · next hleft =>
                have hlets : (Op.redisGet (.sandboxDaily apiKeyId)).lets (.sandboxDaily apiKeyId) (limits apiKeyId)
                    (.ok count) = 1 := if_pos ⟨rfl, by omega⟩
                rintro _ - -
                rw [hlets]
                omega

/-- What adds at most `n` sandbox jobs. -/
abbrev AddsAtMost (n : Nat) (p : Gateway α) : Prop := Budget (S := Calls) Op.addsSandbox n p

/-- What adds no sandbox job. -/
abbrev AddsNoSandbox (p : Gateway α) : Prop := p.Within (fun o => o.addsSandbox = 0) fun _ _ => True

theorem addsNoSandbox_call (h : o.addsSandbox = 0) : AddsNoSandbox (call o) := within_call h

theorem enqueueSandbox_adds (contact : DecryptedChannels) (devnet : DevnetResolutionResult)
    (quota : SandboxValidationResult) (note : JsString) :
    AddsAtMost 1 (enqueueSandbox env id dto protocol contact devnet quota note) := by
  refine Budget.free_bind (addsNoSandbox_call rfl) fun _ => ?_
  refine Budget.bind_free (Budget.settle (Budget.perform (Nat.le_refl 1))) fun added => ?_
  cases added with
  | error e => exact Within.bind (within_releaseFailed addsSandbox_plain id fun _ _ => rfl) fun _ => .ret _
  | ok _ =>
    refine Within.bind (within_incrementUsage addsSandbox_plain _)
      fun _ => Within.ite (fun _ => .ret _) fun _ => ?_
    exact Within.bind (addsNoSandbox_call rfl) fun _ => .ret _

theorem shelveSandbox_adds {status : NotificationStatus} {code : Option JsString}
    {scan : Option Scanner.ScanResult} {answer : NotifyResponseDto} :
    AddsAtMost 1 (shelveSandbox env id dto protocol status code scan answer) :=
  Budget.of_within (Within.bind (addsNoSandbox_call rfl) fun _ => .ret _)

theorem routeSandbox_adds (quota : SandboxValidationResult) :
    AddsAtMost 1 (routeSandbox env id dto protocol quota) := by
  have deliver : ∀ devnet : DevnetResolutionResult, AddsAtMost 1
      (if devnet.resolved then deliverDevnet env id dto protocol devnet quota
        else deliverStatic env id dto protocol devnet quota) := by
    intro devnet
    refine Budget.ite (fun _ => ?_) fun _ => ?_
    · exact Budget.ite (fun _ => shelveSandbox_adds) fun _ => enqueueSandbox_adds _ _ _ _
    · refine Budget.free_bind (addsNoSandbox_call rfl) fun settings => ?_
      exact Budget.ite (fun _ => shelveSandbox_adds) fun _ => enqueueSandbox_adds _ _ _ _
  refine Budget.ite (fun _ => ?_) fun _ => deliver .unresolved
  exact Budget.free_bind (within_resolveDevnetWallet addsSandbox_plain _) deliver

theorem gateSandbox_adds (quota : SandboxValidationResult) :
    AddsAtMost 1 (gateSandbox env id dto protocol quota) := by
  have admitted : AddsAtMost 1 (admitSandbox env id dto protocol quota) :=
    Budget.ite (fun _ => shelveSandbox_adds) fun _ => routeSandbox_adds quota
  refine Budget.ite (fun _ => ?_) fun _ => admitted
  refine Budget.free_bind (addsNoSandbox_call rfl) fun found => ?_
  cases found with
  | none => exact admitted
  | some status => exact Budget.ite (fun _ => shelveSandbox_adds) fun _ => admitted

theorem pays_queueSandboxNotification :
    Pays limits (.sandboxDaily protocol.apiKeyId) (limits protocol.apiKeyId) 0
    (queueSandboxNotification env id dto protocol) := by
  refine Backed.bind (backed_validateSandboxKey protocol.apiKeyId) (fun n quota hquota => ?_)
    fun _ _ _ => trivial
  refine Backed.ite (fun _ => trivial) fun hallowed => ?_
  refine (Backed.of_budget (n := 1) ?_).solvent (hquota quota rfl (by simpa using hallowed))
  refine Budget.ite (fun _ => ?_) fun _ => gateSandbox_adds quota
  refine Budget.free_bind (addsNoSandbox_call rfl) fun now => Budget.free_bind (addsNoSandbox_call rfl)
    fun existing => ?_
  cases existing with
  | none => exact gateSandbox_adds quota
  | some existing => trivial

/-- A production request adds no sandbox job. -/
theorem addsNoSandbox_queueProductionNotification (he : protocol.environment = .production) :
    AddsNoSandbox (queueProductionNotification env id dto protocol) := by
  refine within_queueProductionNotification addsSandbox_plain id ⟨fun _ _ => rfl, ?_, ?_, ?_⟩ he
  · exact fun _ _ _ _ => rfl
  · exact fun _ _ _ _ _ _ _ => rfl
  · intro hsandbox
    rw [he] at hsandbox
    cases hsandbox

theorem pays_queueNotification : Pays limits (.sandboxDaily protocol.apiKeyId) (limits protocol.apiKeyId) 0
    (queueNotification env dto protocol) := by
  refine Backed.free_bind (within_call rfl) fun id => ?_
  unfold queueNotificationAs
  cases he : protocol.environment with
  | sandbox => exact pays_queueSandboxNotification
  | production => exact Backed.of_budget (Budget.of_within (addsNoSandbox_queueProductionNotification he))

theorem pays_sendTest {dto : SandboxSendDto} :
    Pays limits (.sandboxPlayground protocol.apiKeyId) PLAYGROUND_DAILY_LIMIT 0
    (sendTest env dto protocol) := by
  have passed : ∀ id limit, AddsAtMost 1 (loadTestContacts env id dto protocol limit) := by
    intro id limit
    refine Budget.free_bind (addsNoSandbox_call rfl) fun settings => Budget.ite (fun _ => trivial) fun _ => ?_
    refine Budget.free_bind (addsNoSandbox_call rfl) fun _ => ?_
    refine Budget.bind_free (Budget.settle (Budget.perform (Nat.le_refl 1))) fun added => ?_
    cases added with
    | error e => exact Within.bind (within_swallow (addsNoSandbox_call rfl)) fun _ => .ret _
    | ok _ =>
      have hrecord : ∀ params, AddsNoSandbox (recordSandboxReceipt params) := fun _ =>
        Within.bind (addsNoSandbox_call rfl) fun _ => addsNoSandbox_call rfl
      refine Within.bind (within_swallow (hrecord _)) fun _ => Within.bind ?_ fun _ => .ret _
      exact Within.bind (addsNoSandbox_call rfl) fun _ => Within.bind (addsNoSandbox_call rfl)
        fun _ => addsNoSandbox_call rfl
  refine Backed.free_bind (within_call rfl) fun id => Backed.ite (fun _ => trivial) fun _ => ?_
  -- a send is allowed only if the counter that was read leaves something of the limit
  refine ⟨Nat.le_refl 0, fun r _ => ?_⟩
  cases r with
  | error e => trivial
  | ok count =>
    change Backed _ _ _ _ _ (if !decide (0 < PLAYGROUND_DAILY_LIMIT - countOf count) then _ else _)
    refine Backed.ite (fun _ => trivial) fun hallowed => (Backed.of_budget (passed _ _)).solvent ?_
    have hleft : 0 < PLAYGROUND_DAILY_LIMIT - countOf count := by simpa using hallowed
    have hlets : (Op.redisGet (.sandboxPlayground protocol.apiKeyId)).lets (.sandboxPlayground protocol.apiKeyId)
        PLAYGROUND_DAILY_LIMIT (.ok count) = 1 := if_pos ⟨rfl, by omega⟩
    rw [hlets]
    omega

/-- A request adds sandbox jobs only for checks of its counter that let it through. -/
theorem pays_code (r : SandboxRequest) :
    Pays limits r.counter (counterLimit limits r.counter) 0 (r.code env) := by
  cases r with
  | notify dto protocol => exact Backed.bind_free pays_queueNotification fun _ => .ret _
  | send dto protocol => exact Backed.bind_free pays_sendTest fun _ => .ret _
  | batch dto protocol =>
    refine Backed.bind_free (Backed.ite (fun _ => trivial) fun _ =>
      Backed.bind_free (Backed.allSettled ?_) fun _ => .ret _) fun _ => .ret _
    intro p hp
    obtain ⟨n, -, rfl⟩ := List.mem_map.1 hp
    exact pays_queueNotification

/-! ### Under which identifiers they add -/

/-- The call adds no sandbox job under an identifier. -/
def AddsElse (id : NotificationId) : Allowed
  | .notificationAdd data _ _ => data.isSandbox = some true → data.notificationId ≠ id
  | _ => True

/-- The reply is not a given identifier. -/
def NotDrawn (id : NotificationId) : Good := fun o r => o.draws r ≠ some id

theorem addsElse_plain (id : NotificationId) (o : Op) (h : o.plain = true) : AddsElse id o := by
  cases o with
  | notificationAdd => cases h
  | _ => trivial

theorem within_queueNotification_drawn (id : NotificationId) :
    (queueNotification env dto protocol).Within (AddsElse id) (NotDrawn id) := by
  refine Within.perform_bind trivial fun drawn hdrawn => ?_
  have hne : drawn ≠ id := fun heq => hdrawn (congrArg some heq)
  unfold queueNotificationAs
  cases he : protocol.environment with
  | sandbox =>
    exact within_queueSandboxNotification (addsElse_plain id) drawn (fun _ _ => trivial) fun _ _ => hne
  | production =>
    refine within_queueProductionNotification (addsElse_plain id) drawn ⟨fun _ _ => trivial, ?_, ?_, ?_⟩ he
    · exact fun _ _ _ _ => nofun
    · exact fun _ _ _ _ _ _ _ => nofun
    · intro hsandbox
      rw [he] at hsandbox
      cases hsandbox

/-- A request adds a sandbox job only under an identifier that it drew. -/
theorem within_code_drawn (r : SandboxRequest) (id : NotificationId) :
    (r.code env).Within (AddsElse id) (NotDrawn id) := by
  cases r with
  | notify dto protocol => exact Within.bind (within_queueNotification_drawn id) fun _ => .ret _
  | batch dto protocol =>
    refine Within.bind (Within.ite (fun _ => .throw _) fun _ => Within.bind (Within.allSettled ?_) fun _ => .ret _)
      fun _ => .ret _
    intro p hp
    obtain ⟨n, -, rfl⟩ := List.mem_map.1 hp
    exact within_queueNotification_drawn id
  | send dto protocol =>
    have hfree := addsElse_plain id
    refine Within.bind (Within.perform_bind trivial fun drawn hdrawn => ?_) fun _ => .ret _
    have hne : drawn ≠ id := fun heq => hdrawn (congrArg some heq)
    refine Within.ite (fun _ => .throw _) fun _ => ?_
    refine Within.bind (Within.bind (Within.bind (within_call trivial) fun _ => .ret _) fun _ => .ret _)
      fun limit => ?_
    refine Within.ite (fun _ => .throw _) fun _ => Within.bind (within_call trivial) fun settings => ?_
    refine Within.ite (fun _ => .throw _) fun _ => Within.bind (within_call trivial) fun _ => ?_
    refine Within.bind (Within.settle (within_enqueue fun _ => hne)) fun added => ?_
    cases added with
    | error e => exact Within.bind (within_swallow (within_call trivial)) fun _ => .ret _
    | ok _ =>
      have hrecord : ∀ params, (recordSandboxReceipt params).Within (AddsElse id) (NotDrawn id) := fun _ =>
        Within.bind (within_call trivial) fun _ => within_call trivial
      refine Within.bind (within_swallow (hrecord _)) fun _ => Within.bind ?_ fun _ => .ret _
      exact Within.bind (within_call trivial) fun _ => Within.bind (within_call trivial)
        fun _ => within_call trivial

end programs

/-! ### What calls do -/

/-- Only drawing an identifier counts the identifiers drawn. -/
theorem handle_draws :
    (o.draws (World.handle env c s o).1 = none ∧ (World.handle env c s o).2.nextUuid = s.nextUuid) ∨
      o.draws (World.handle env c s o).1 = some (.uuid s.nextUuid) ∧
        (World.handle env c s o).2.nextUuid = s.nextUuid + 1 := by
  have same : (s.serve env c o).2.nextUuid = s.nextUuid → (World.handle env c s o).2.nextUuid = s.nextUuid :=
    fun h =>
    handle_rel (R := fun s s' => s'.nextUuid = s.nextUuid) rfl h fun _ => rfl
  cases o with
  | uuid => exact .inr ⟨rfl, rfl⟩
  | notificationCreateMany ns =>
    refine .inl ⟨rfl, same ?_⟩
    obtain ⟨rows, hrows⟩ := createNotifications_eq ns s
    rw [World.serve, hrows]
  | notificationCreate | notificationUpdate | scheduledUpdate | idempotencySetNx | campaignUpdate
  | portalUserUpdate | unsubscribeTokenCreate | unsubscribeTokenUpdate | channelDeliveryCreateAll
  | notificationAdd | digestAdd =>
    refine .inl ⟨rfl, same ?_⟩
    simp only [World.serve, World.createNotification, World.updateNotification, World.addJob,
      World.addDigest, World.reply]
    split <;> rfl
  | _ => exact .inl ⟨rfl, same rfl⟩

/-- A job is put on the queue, or one under its identifier was. -/
theorem addJob_queue (j : QueuedJob) : (s.addJob j).pendingAdds = s.pendingAdds ∧ (s.addJob j).now = s.now ∧
    (s.addJob j).nextUuid = s.nextUuid ∧ (s.addJob j).apiKeys = s.apiKeys ∧
      ((s.addJob j).notificationQueue = s.notificationQueue ∨
        (s.addJob j).notificationQueue = s.notificationQueue ++ [j]) := by
  unfold World.addJob
  split
  · exact ⟨rfl, rfl, rfl, rfl, .inl rfl⟩
  · exact ⟨rfl, rfl, rfl, rfl, .inr rfl⟩

/-- A call leaves the jobs alone, or adds one to the queue or to the adds that may complete. -/
theorem handle_jobs :
    ((World.handle env c s o).2.notificationQueue = s.notificationQueue ∧
      (World.handle env c s o).2.pendingAdds = s.pendingAdds) ∨
    ∃ data jobId ms, o = .notificationAdd data jobId ms ∧
      (((World.handle env c s o).2.notificationQueue = s.notificationQueue ++ [⟨data, jobId, s.now⟩] ∧
          (World.handle env c s o).2.pendingAdds = s.pendingAdds) ∨
        ((World.handle env c s o).2.notificationQueue = s.notificationQueue ∧
          (World.handle env c s o).2.pendingAdds = s.pendingAdds ++ [⟨data, jobId, s.now⟩])) := by
  by_cases ht : o.table = .queue
  · cases o with
    | notificationAdd data jobId timeout =>
      rcases @handle_cases env c s (.notificationAdd data jobId timeout) with
        h | h | ⟨_, _, _, ho, h⟩ <;> rw [h]
      · exact .inl ⟨rfl, rfl⟩
      · obtain ⟨hpending, -, -, -, hqueue | hqueue⟩ := addJob_queue (s := s) ⟨data, jobId, s.now⟩
        · exact .inl ⟨hqueue, hpending⟩
        · exact .inr ⟨data, jobId, timeout, rfl, .inl ⟨hqueue, hpending⟩⟩
      · cases ho
        exact .inr ⟨data, jobId, _, rfl, .inr ⟨rfl, rfl⟩⟩
    | _ => cases ht
  · exact .inl ⟨handle_untouched.queue ht, handle_untouched.pending ht⟩

/-- A key that is found has its limit. -/
theorem handle_finds (hs : s.Limited limits) : FindsLimit limits o (World.handle env c s o).1 := by
  cases o with
  | apiKeyFindUnique id =>
    cases hreply : (World.handle env c s (.apiKeyFindUnique id)).1 with
    | error e => trivial
    | ok found =>
      have hserve := congrArg Prod.fst (handle_ok hreply)
      rw [hreply] at hserve
      obtain rfl : found = s.apiKeys id := Except.ok.inj hserve
      exact hs id
  | _ => trivial

/-! ### Identifiers -/

variable {p p' : SandboxPool} {l : SandboxLabel} {ls : List SandboxLabel} {t : SandboxThread} {day : Nat}

/-- A request drew an identifier. -/
def Drew (t : SandboxThread) (id : NotificationId) : Prop := ∃ e ∈ t.trace, e.op.draws e.reply = some id

theorem drewFor_iff {job : NotificationJobData} : drewFor p k job = true ↔
    job.isSandbox = some true ∧ ∃ t ∈ p.threads, t.request.counter = k ∧ Drew t job.notificationId := by
  simp [drewFor, Drew]

/-- What holds in every pool that a run reaches, as to who drew which identifier. -/
structure SandboxInvariant (env : Env) (limits : JsString → Nat) (p : SandboxPool) : Prop where
  traced : (sandboxRequests env limits).Traced p
  finds : System.Events (fun _ (e : GatewayEvent) => FindsLimit limits e.op e.reply) p
  limited : p.store.Limited limits
  settled : p.store.Settled
  /-- Identifiers that were drawn are counted. -/
  counted : ∀ t ∈ p.threads, ∀ id, Drew t id → ∃ n < p.store.nextUuid, id = .uuid n
  /-- No two requests drew one. -/
  apart : ∀ (i j : Nat) t u id, p.threads[i]? = some t → p.threads[j]? = some u → Drew t id →
    Drew u id → i = j

/-- A request that is about to add a sandbox job drew its identifier. -/
theorem SandboxInvariant.drew_of_add (hp : SandboxInvariant env limits p) (ht : t ∈ p.threads)
    {data : NotificationJobData} {jobId ms : Option Nat} {q : Except Err Unit → Gateway SandboxAnswer}
    (hprog : t.prog = .call (.notificationAdd data jobId ms) q) (hsandbox : data.isSandbox = some true) :
    Drew t data.notificationId := by
  obtain ⟨i, hrun⟩ := hp.traced.of_mem ht
  rw [hprog] at hrun
  have hwithin := @within_code_drawn env t.request data.notificationId
  obtain ⟨e, he, hdrawn⟩ := hrun.exists_reply hwithin fun hother => hother hsandbox rfl
  exact ⟨e, he, not_not.1 hdrawn⟩

/-- A request that is about to add a sandbox job was let through more often than it has added one. -/
theorem SandboxInvariant.adds_lt_lets (hp : SandboxInvariant env limits p) (ht : t ∈ p.threads) {o : Op}
    {q : Except Err o.Res → Gateway SandboxAnswer} (hprog : t.prog = .call o q) :
    traceWeight (fun e : GatewayEvent => e.op.addsSandbox) t.trace + o.addsSandbox ≤
      traceWeight (fun e : GatewayEvent => e.op.lets t.request.counter (counterLimit limits t.request.counter) e.reply)
        t.trace := by
  obtain ⟨i, hrun⟩ := hp.traced.of_mem ht
  obtain ⟨n, hn, hrest⟩ := hrun.backed (@pays_code env limits t.request) (hp.finds t ht)
  rw [hprog] at hrest
  have hle : o.addsSandbox ≤ n := hrest.1
  have hn : n + traceWeight (fun e : GatewayEvent => e.op.addsSandbox) t.trace =
    0 + traceWeight (fun e : GatewayEvent =>
    e.op.lets t.request.counter (counterLimit limits t.request.counter) e.reply) t.trace := hn
  omega

/-- Who drew an identifier that is counted is known before a step. -/
theorem drewFor_step (h : (sandboxRequests env limits).step p l = some p') {job : NotificationJobData}
    (hold : job.isSandbox = some true → ∀ n, job.notificationId = .uuid n → n < p.store.nextUuid) :
    drewFor p' k job = drewFor p k job := by
  rw [Bool.eq_iff_iff, drewFor_iff, drewFor_iff]
  refine and_congr_right fun hsandbox => ⟨?_, ?_⟩
  · rintro ⟨t', ht', hk, e, he, hdraws⟩
    obtain ⟨i, hi⟩ := List.mem_iff_getElem?.1 ht'
    rcases System.thread_cases h hi with hi' | ⟨r, -, -, -, rfl⟩ | ⟨t, c, q, -, hi', -, -, rfl⟩ |
      ⟨t, c, o, q, -, hi', -, -, rfl⟩
    · exact ⟨t', List.mem_of_getElem? hi', hk, e, he, hdraws⟩
    · cases he
    · exact ⟨t, List.mem_of_getElem? hi', hk, e, he, hdraws⟩
    · rcases List.mem_append.1 he with he | he
      · exact ⟨t, List.mem_of_getElem? hi', hk, e, he, hdraws⟩
      · -- the identifier that this call draws is not counted yet
        rw [List.mem_singleton.1 he] at hdraws
        rcases @handle_draws env c.2 p.store o with ⟨hnone, -⟩ | ⟨hnew, -⟩
        · cases hnone.symm.trans hdraws
        · obtain hid := Option.some.inj (hnew.symm.trans hdraws)
          exact absurd (hold hsandbox _ hid.symm) (Nat.lt_irrefl _)
  · rintro ⟨t, ht, hk, e, he, hdraws⟩
    obtain ⟨t', ht', hreq, hpre⟩ := System.thread_kept h ht
    exact ⟨t', ht', by rw [hreq, hk], e, hpre.subset he, hdraws⟩

theorem nextUuid_step (h : (sandboxRequests env limits).step p l = some p') :
    p.store.nextUuid ≤ p'.store.nextUuid := by
  refine System.store_rel (R := fun s s' => s.nextUuid ≤ s'.nextUuid) h (fun _ => Nat.le_refl _) (fun c s o => ?_) ?_
  · rcases @handle_draws env c s o with ⟨-, hsame⟩ | ⟨-, hnew⟩
    · exact hsame.ge
    · exact (Nat.le_succ _).trans hnew.ge
  · intro e s s' he
    cases e with
    | completeAdd i =>
      obtain ⟨j, -, rfl⟩ := Option.map_eq_some_iff.1 he
      exact (addJob_queue _).2.2.1.ge
    | tick | configure =>
      obtain rfl := Option.some.inj he
      exact Nat.le_refl _

/-- What a request drew after a step it drew before, or draws in it. -/
theorem drew_step (h : (sandboxRequests env limits).step p l = some p') {i : Nat} {t' : SandboxThread}
    (ht' : p'.threads[i]? = some t') {id : NotificationId} (hdrew : Drew t' id) :
    (∃ t, p.threads[i]? = some t ∧ Drew t id) ∨
      id = .uuid p.store.nextUuid ∧ p'.store.nextUuid = p.store.nextUuid + 1 ∧ ∃ c, l = .pick i c := by
  obtain ⟨e, he, hdraws⟩ := hdrew
  rcases System.thread_cases h ht' with hi | ⟨r, -, -, -, rfl⟩ | ⟨t, c, q, -, hi, -, -, rfl⟩ |
    ⟨t, c, o, q, hl, hi, -, hstore, rfl⟩
  · exact .inl ⟨t', hi, e, he, hdraws⟩
  · cases he
  · exact .inl ⟨t, hi, e, he, hdraws⟩
  · rcases List.mem_append.1 he with he | he
    · exact .inl ⟨t, hi, e, he, hdraws⟩
    · rw [List.mem_singleton.1 he] at hdraws
      rcases @handle_draws env c.2 p.store o with ⟨hnone, -⟩ | ⟨hnew, hcount⟩
      · cases hnone.symm.trans hdraws
      · exact .inr ⟨(Option.some.inj (hnew.symm.trans hdraws)).symm, by rw [hstore]; exact hcount, c, hl⟩

/-- A pending add that completes leaves the others, and may put its job on the queue. -/
theorem completeAdd_jobs {i : Nat} (h : s.completeAdd i = some s') :
    ∃ j, s.pendingAdds[i]? = some j ∧ s'.pendingAdds = s.pendingAdds.eraseIdx i ∧ s'.now = s.now ∧
      s'.nextUuid = s.nextUuid ∧ (s'.notificationQueue = s.notificationQueue ∨
        s'.notificationQueue = s.notificationQueue ++ [{ j with addedAt := s.now }]) := by
  obtain ⟨j, hj, rfl⟩ := Option.map_eq_some_iff.1 h
  obtain ⟨-, hnow, hcount, -, hqueue⟩ := addJob_queue (s := s) { j with addedAt := s.now }
  exact ⟨j, hj, rfl, hnow, hcount, hqueue⟩

theorem SandboxInvariant.settled_step (h : (sandboxRequests env limits).step p l = some p')
    (hp : SandboxInvariant env limits p) : p'.store.Settled := by
  have hmono := nextUuid_step h
  rcases System.store_cases h with hs | ⟨i, c, t, o, q, -, ht, hprog, hs⟩ | ⟨e, -, he⟩
  · rw [hs]
    exact hp.settled
  · have hs : p'.store = (World.handle env c.2 p.store o).2 := hs
    rw [hs] at hmono ⊢
    have hclock : (World.handle env c.2 p.store o).2.now = p.store.now := handle_untouched.clock
    -- what was there is as settled as it was
    have kept : ∀ j ∈ p.store.notificationQueue ++ p.store.pendingAdds, j.data.isSandbox = some true →
        ∀ n, j.data.notificationId = .uuid n → n < (World.handle env c.2 p.store o).2.nextUuid :=
      fun j hj hsandbox n hn => Nat.lt_of_lt_of_le (hp.settled.drawn j hj hsandbox n hn) hmono
    rcases @handle_jobs env c.2 p.store o with ⟨hqueue, hpending⟩ | ⟨data, jobId, ms, rfl, hadd⟩
    · refine ⟨by rwa [hqueue, hpending], ?_⟩
      rw [hqueue, hclock]
      exact hp.settled.past
    · have added : data.isSandbox = some true → ∀ n, data.notificationId = .uuid n →
          n < (World.handle env c.2 p.store (.notificationAdd data jobId ms)).2.nextUuid :=
            fun hsandbox n hn => by
        obtain ⟨m, hm, heq⟩ := hp.counted t (List.mem_of_getElem? ht) _
          (hp.drew_of_add (List.mem_of_getElem? ht) hprog hsandbox)
        obtain rfl := NotificationId.uuid.inj (hn.symm.trans heq)
        exact Nat.lt_of_lt_of_le hm hmono
      rcases hadd with ⟨hqueue, hpending⟩ | ⟨hqueue, hpending⟩
      · refine ⟨?_, ?_⟩
        · rw [hqueue, hpending]
          intro j hj
          rcases List.mem_append.1 hj with hj | hj
          · rcases List.mem_append.1 hj with hj | hj
            · exact kept j (List.mem_append_left _ hj)
            · rw [List.mem_singleton.1 hj]
              exact added
          · exact kept j (List.mem_append_right _ hj)
        · rw [hqueue, hclock]
          intro j hj
          rcases List.mem_append.1 hj with hj | hj
          · exact hp.settled.past j hj
          · rw [List.mem_singleton.1 hj]
      · refine ⟨?_, ?_⟩
        · rw [hqueue, hpending, ← List.append_assoc]
          intro j hj
          rcases List.mem_append.1 hj with hj | hj
          · exact kept j hj
          · rw [List.mem_singleton.1 hj]
            exact added
        · rw [hqueue, hclock]
          exact hp.settled.past
  · cases e with
    | completeAdd i =>
      obtain ⟨j, hj, hpending, hnow, hcount, hqueue⟩ := completeAdd_jobs he
      have hjob := hp.settled.drawn j (List.mem_append_right _ (List.mem_of_getElem? hj))
      have kept : ∀ q ∈ p.store.notificationQueue ++ p.store.pendingAdds.eraseIdx i,
        q.data.isSandbox = some true →
          ∀ n, q.data.notificationId = .uuid n → n < p'.store.nextUuid := by
        rw [hcount]
        intro q hq
        rcases List.mem_append.1 hq with hq | hq
        · exact hp.settled.drawn q (List.mem_append_left _ hq)
        · exact hp.settled.drawn q (List.mem_append_right _ (List.mem_of_mem_eraseIdx hq))
      rcases hqueue with hqueue | hqueue
      · exact ⟨by rwa [hqueue, hpending], by rw [hqueue, hnow]; exact hp.settled.past⟩
      · refine ⟨?_, ?_⟩
        · rw [hqueue, hpending]
          intro q hq
          rcases List.mem_append.1 hq with hq | hq
          · rcases List.mem_append.1 hq with hq | hq
            · exact kept q (List.mem_append_left _ hq)
            · rw [List.mem_singleton.1 hq, hcount]
              exact hjob
          · exact kept q (List.mem_append_right _ hq)
        · rw [hqueue, hnow]
          intro q hq
          rcases List.mem_append.1 hq with hq | hq
          · exact hp.settled.past q hq
          · rw [List.mem_singleton.1 hq]
    | tick ms =>
      obtain heq := Option.some.inj he
      rw [← heq]
      exact ⟨hp.settled.drawn, fun j hj => (hp.settled.past j hj).trans (Nat.le_add_right _ _)⟩
    | configure w =>
      obtain heq := Option.some.inj he
      rw [← heq]
      exact ⟨hp.settled.drawn, hp.settled.past⟩

theorem SandboxInvariant.step (h : (sandboxRequests env limits).step p l = some p')
    (hp : SandboxInvariant env limits p) : SandboxInvariant env limits p' := by
  have hlimited : p'.store.Limited limits := by
    refine System.store_rel (R := fun s s' => s.Limited limits → s'.Limited limits) h (fun _ hs => hs)
      (fun c s o hs => ?_) (fun e s s' he hs => ?_) hp.limited
    · exact fun id => (congrFun handle_untouched.apiKeys id : (World.handle env c s o).2.apiKeys id = _) ▸ hs id
    · cases e with
      | completeAdd i =>
        obtain ⟨j, -, rfl⟩ := Option.map_eq_some_iff.1 he
        intro id
        change ∀ key ∈ (s.addJob _).apiKeys id, _
        rw [(addJob_queue _).2.2.2.1]
        exact hs id
      | tick ms =>
        obtain rfl := Option.some.inj he
        exact hs
      | configure w =>
        obtain rfl := Option.some.inj he
        intro id key hkey
        obtain ⟨key', -, rfl⟩ := Option.mem_map.1 hkey
        rfl
  refine ⟨hp.traced.step h, ?_, hlimited, ?_, ?_, ?_⟩
  · exact System.Events.step (P := fun _ (e : GatewayEvent) => FindsLimit limits e.op e.reply) h hp.finds
      fun i c t o q _ _ _ => handle_finds hp.limited
  · exact hp.settled_step h
  · intro t' ht' id hdrew
    obtain ⟨i, hi⟩ := List.mem_iff_getElem?.1 ht'
    rcases drew_step h hi hdrew with ⟨t, ht, hbefore⟩ | ⟨rfl, hcount, -⟩
    · obtain ⟨n, hn, rfl⟩ := hp.counted t (List.mem_of_getElem? ht) id hbefore
      exact ⟨n, Nat.lt_of_lt_of_le hn (nextUuid_step h), rfl⟩
    · exact ⟨p.store.nextUuid, by omega, rfl⟩
  · intro i j t' u' id ht' hu' hdrewt hdrewu
    have fresh : ∀ {t n}, p.threads[n]? = some t → ¬ Drew t (.uuid p.store.nextUuid) := fun ht hdrew => by
      obtain ⟨n, hn, heq⟩ := hp.counted _ (List.mem_of_getElem? ht) _ hdrew
      cases heq
      exact absurd hn (Nat.lt_irrefl _)
    rcases drew_step h ht' hdrewt with ⟨t, ht, hbefore⟩ | ⟨rfl, -, c, rfl⟩
    · rcases drew_step h hu' hdrewu with ⟨u, hu, hbefore'⟩ | ⟨rfl, -, -⟩
      · exact hp.apart i j t u id ht hu hbefore hbefore'
      · exact absurd hbefore (fresh ht)
    · rcases drew_step h hu' hdrewu with ⟨u, hu, hbefore'⟩ | ⟨-, -, c', hl⟩
      · exact absurd hbefore' (fresh hu)
      · cases hl
        rfl

/-! ### Jobs -/

/-- The adds that may put a job of a counter on the queue. -/
def pendingOf (p : SandboxPool) (k : RedisKey) : Nat := p.store.pendingAdds.countP fun j => drewFor p k j.data

/-- A step does not change how many of the jobs there were are of a counter. -/
theorem countP_step (h : (sandboxRequests env limits).step p l = some p') {js : List QueuedJob}
    {f : QueuedJob → Bool}
    (hold : ∀ j ∈ js, j.data.isSandbox = some true → ∀ n, j.data.notificationId = .uuid n → n < p.store.nextUuid) :
    js.countP (fun j => drewFor p' k j.data && f j) = js.countP (fun j => drewFor p k j.data && f j) :=
  List.countP_congr fun j hj => by rw [drewFor_step h (hold j hj)]

/-- A job that is added is of the counter of the request that adds it. -/
theorem SandboxInvariant.drewFor_added (hp : SandboxInvariant env limits p)
    (hp' : SandboxInvariant env limits p') (h : (sandboxRequests env limits).step p l = some p') {i : Nat}
    (ht : p.threads[i]? = some t) {data : NotificationJobData} {jobId ms : Option Nat}
    {q : Except Err Unit → Gateway SandboxAnswer}
    (hprog : t.prog = .call (.notificationAdd data jobId ms) q) (hdrew : drewFor p' k data = true) :
    t.request.counter = k ∧ data.isSandbox = some true := by
  obtain ⟨hsandbox, u', hu', hk, hdrewu⟩ := drewFor_iff.1 hdrew
  have hdrewt := hp.drew_of_add (List.mem_of_getElem? ht) hprog hsandbox
  obtain ⟨t', ht', hreq, hpre⟩ := System.trace_step h ht
  obtain ⟨j, hj⟩ := List.mem_iff_getElem?.1 hu'
  have hdrewt' : Drew t' data.notificationId := hdrewt.imp fun e he => ⟨hpre.subset he.1, he.2⟩
  obtain rfl := hp'.apart i j t' u' _ ht' hj hdrewt' hdrewu
  obtain rfl := Option.some.inj (ht'.symm.trans hj)
  exact ⟨hreq ▸ hk, hsandbox⟩

/-- A call adds to the jobs of the counter of its request, on the day on which it is made or under way. -/
theorem SandboxInvariant.jobs_call (hp : SandboxInvariant env limits p)
    (hp' : SandboxInvariant env limits p') {i : Nat} {c : Bool × Choice}
    (h : (sandboxRequests env limits).step p (.pick i c) = some p') (ht : p.threads[i]? = some t)
    {q : Except Err o.Res → Gateway SandboxAnswer} (hprog : t.prog = .call o q)
    (hstore : p'.store = (World.handle env c.2 p.store o).2) :
    (∀ day, jobsOn p' k day + pendingOf p' k ≤
      jobsOn p k day + pendingOf p k + if t.request.counter = k then o.addsSandbox else 0) ∧
    ∀ day, day ≠ utcDay p.store.now → jobsOn p' k day = jobsOn p k day := by
  have hqueued : ∀ day, p.store.notificationQueue.countP (fun j => drewFor p' k j.data && utcDay j.addedAt == day) =
      jobsOn p k day := fun day =>
    countP_step h fun j hj => hp.settled.drawn j (List.mem_append_left _ hj)
  have hpending : p.store.pendingAdds.countP (fun j => drewFor p' k j.data) = pendingOf p k := by
    have hcount :=
      countP_step (k := k) (f := fun _ => true) h fun j hj => hp.settled.drawn j (List.mem_append_right _ hj)
    simpa only [Bool.and_true, pendingOf] using hcount
  rcases @handle_jobs env c.2 p.store o with ⟨hqueue, hadds⟩ | ⟨data, jobId, ms, rfl, hadd⟩
  · have hjobs : ∀ day, jobsOn p' k day = jobsOn p k day := fun day => by
      rw [jobsOn, hstore, hqueue, hqueued]
    have hpend : pendingOf p' k = pendingOf p k := by rw [pendingOf, hstore, hadds, hpending]
    exact ⟨fun day => by rw [hjobs, hpend]; exact Nat.le_add_right _ _, fun day _ => hjobs day⟩
  · -- at most one job more, and only for the counter of the request
    have hone : (if drewFor p' k data = true then 1 else 0) ≤
        if t.request.counter = k then (Op.notificationAdd data jobId ms).addsSandbox else 0 := by
      by_cases hdrew : drewFor p' k data = true
      · obtain ⟨hk, hsandbox⟩ := hp.drewFor_added hp' h ht hprog hdrew
        rw [if_pos hdrew, if_pos hk, Op.addsSandbox, if_pos hsandbox]
      · rw [if_neg hdrew]
        exact Nat.zero_le _
    rcases hadd with ⟨hqueue, hadds⟩ | ⟨hqueue, hadds⟩
    · have hjobs : ∀ day, jobsOn p' k day = jobsOn p k day +
          if (drewFor p' k data && utcDay p.store.now == day) = true then 1 else 0 := fun day => by
        rw [jobsOn, hstore, hqueue, List.countP_append, hqueued, List.countP_singleton]
      have hpend : pendingOf p' k = pendingOf p k := by rw [pendingOf, hstore, hadds, hpending]
      refine ⟨fun day => ?_, fun day hday => ?_⟩
      · rw [hjobs, hpend]
        have hle : (if (drewFor p' k data && utcDay p.store.now == day) = true then 1 else 0) ≤
            if drewFor p' k data = true then 1 else 0 := by
          cases drewFor p' k data <;> simp
          split <;> omega
        omega
      · rw [hjobs, if_neg (by simp [hday.symm]), Nat.add_zero]
    · have hjobs : ∀ day, jobsOn p' k day = jobsOn p k day := fun day => by
        rw [jobsOn, hstore, hqueue, hqueued]
      have hpend : pendingOf p' k = pendingOf p k + if drewFor p' k data = true then 1 else 0 := by
        rw [pendingOf, hstore, hadds, List.countP_append, hpending, List.countP_singleton]
      exact ⟨fun day => by rw [hjobs, hpend]; omega, fun day _ => hjobs day⟩

/-- A step that leaves the store alone leaves the jobs of every counter alone. -/
theorem SandboxInvariant.jobs_same (hp : SandboxInvariant env limits p)
    (h : (sandboxRequests env limits).step p l = some p') (hstore : p'.store = p.store) :
    (∀ day, jobsOn p' k day = jobsOn p k day) ∧ pendingOf p' k = pendingOf p k := by
  refine ⟨fun day => ?_, ?_⟩
  · rw [jobsOn, hstore]
    exact countP_step h fun j hj => hp.settled.drawn j (List.mem_append_left _ hj)
  · have hcount :=
      countP_step (k := k) (f := fun _ => true) h fun j hj => hp.settled.drawn j (List.mem_append_right _ hj)
    rw [pendingOf, hstore]
    simpa only [Bool.and_true, pendingOf] using hcount

/-- A change from outside leaves every day but the present one as it was, and adds to that only what was under
way. -/
theorem jobs_outside (hp : SandboxInvariant env limits p) {e : SandboxChange}
    (h : (sandboxRequests env limits).step p (.outside e) = some p') :
    jobsOn p' k (utcDay p'.store.now) + pendingOf p' k ≤ jobsOn p k (utcDay p.store.now) + pendingOf p k ∧
    ∀ day, day ≠ utcDay p'.store.now → jobsOn p' k day = jobsOn p k day := by
  obtain ⟨w, he, rfl⟩ := System.step_outside h
  cases e with
  | completeAdd i =>
    obtain ⟨j, hj, hpending, hnow, -, hqueue⟩ := completeAdd_jobs he
    obtain ⟨hi, rfl⟩ := List.getElem?_eq_some_iff.1 hj
    have hpend : pendingOf p k = pendingOf ⟨w, p.threads⟩ k +
        if drewFor p k p.store.pendingAdds[i].data = true then 1 else 0 := by
      rw [pendingOf, ← (List.getElem_cons_eraseIdx_perm hi).countP_eq, List.countP_cons, pendingOf, hpending]
      rfl
    have hjobs : ∀ day, jobsOn ⟨w, p.threads⟩ k day = jobsOn p k day ∨
      jobsOn ⟨w, p.threads⟩ k day = jobsOn p k day +
        if (drewFor p k p.store.pendingAdds[i].data && utcDay p.store.now == day) = true then 1 else 0 := by
      intro day
      have hcount : jobsOn ⟨w, p.threads⟩ k day =
          w.notificationQueue.countP fun j => drewFor p k j.data && utcDay j.addedAt == day := rfl
      rcases hqueue with hqueue | hqueue
      · rw [hcount, hqueue]
        exact .inl rfl
      · rw [hcount, hqueue, List.countP_append, List.countP_singleton]
        exact .inr rfl
    refine ⟨?_, fun day hday => ?_⟩
    · change jobsOn ⟨w, p.threads⟩ k (utcDay w.now) + _ ≤ _
      rw [hnow]
      rcases hjobs (utcDay p.store.now) with hsame | hmore
      · omega
      · rw [beq_self_eq_true, Bool.and_true] at hmore
        omega
    · have hne : utcDay p.store.now ≠ day := fun heq => hday (by rw [← heq, ← hnow])
      rcases hjobs day with hsame | hmore
      · exact hsame
      · rw [hmore, if_neg (by simp [hne]), Nat.add_zero]
  | tick ms =>
    obtain rfl := Option.some.inj he
    refine ⟨Nat.add_le_add_right ?_ _, fun _ _ => rfl⟩
    by_cases hday : utcDay (p.store.now + ms) = utcDay p.store.now
    · change jobsOn p k (utcDay (p.store.now + ms)) ≤ _
      rw [hday]
    · -- on a new day there are no jobs yet
      refine (List.countP_eq_zero.2 fun j hj => ?_).le.trans (Nat.zero_le _)
      have hpast : utcDay j.addedAt ≤ utcDay p.store.now := Nat.div_le_div_right (hp.settled.past j hj)
      have hlater : utcDay p.store.now ≤ utcDay (p.store.now + ms) :=
        Nat.div_le_div_right (Nat.le_add_right _ _)
      have hne : utcDay j.addedAt ≠ utcDay (p.store.now + ms) := by omega
      simp [hne]
  | configure w' =>
    obtain rfl := Option.some.inj he
    exact ⟨Nat.le_refl _, fun _ _ => rfl⟩

/-! ### Runs -/

theorem lets_le_one {r : Except Err o.Res} : o.lets k L r ≤ 1 := by
  unfold Op.lets
  split
  · split
    · exact Nat.le_refl 1
    · exact Nat.zero_le 1
  · exact Nat.zero_le 1

/-- A call of a request spends what it was let through for, or is let through once more. -/
theorem mayAdd_call {e : GatewayEvent} {q : Gateway SandboxAnswer} (hrunning : t.prog.running = true)
    (hbacked : t.request.counter = k → traceWeight (fun e : GatewayEvent => e.op.addsSandbox) t.trace + e.op.addsSandbox ≤
      traceWeight (fun e : GatewayEvent => e.op.lets k L e.reply) t.trace) :
    mayAdd k L { t with trace := t.trace ++ [e], prog := q } + (if t.request.counter = k then e.op.addsSandbox else 0) ≤
      mayAdd k L t + if t.request.counter = k then e.op.lets k L e.reply else 0 := by
  unfold mayAdd
  by_cases hk : t.request.counter = k
  · have hle := hbacked hk
    simp only [hk, hrunning, and_self, if_true, true_and, traceWeight_append, traceWeight_cons,
      traceWeight_nil]
    split
    · omega
    · omega
  · simp [hk]

/-- The jobs of a day, and of the present one with what is under way, are within the limit. -/
structure WithinLimit (limits : JsString → Nat) (k : RedisKey) (p : SandboxPool) : Prop where
  days : ∀ day, jobsOn p k day ≤ counterLimit limits k
  today : jobsOn p k (utcDay p.store.now) + underWay limits p k ≤ counterLimit limits k

theorem withinLimit_step (hok : LeavesQuota env limits p l)
    (h : (sandboxRequests env limits).step p l = some p') (hp : SandboxInvariant env limits p)
    (hw : WithinLimit limits k p) : WithinLimit limits k p' := by
  have hp' := hp.step h
  -- it is enough that the present day keeps within the limit and that the others stay as they are
  have enough : jobsOn p' k (utcDay p'.store.now) + underWay limits p' k ≤ counterLimit limits k →
      (∀ day, day ≠ utcDay p'.store.now → jobsOn p' k day = jobsOn p k day) → WithinLimit limits k p' := by
    intro htoday hothers
    refine ⟨fun day => ?_, htoday⟩
    by_cases hday : day = utcDay p'.store.now
    · rw [hday]
      omega
    · rw [hothers day hday]
      exact hw.days day
  have htoday : jobsOn p k (utcDay p.store.now) + (p.sum (mayAdd k (counterLimit limits k)) + pendingOf p k) ≤
    counterLimit limits k := hw.today
  have hsplit : underWay limits p' k = p'.sum (mayAdd k (counterLimit limits k)) + pendingOf p' k := rfl
  rcases System.sum_step (g := mayAdd k (counterLimit limits k)) h with
    ⟨r, -, hstore, hsum⟩ | ⟨e, rfl, -, hsum⟩ |
    ⟨i, c, t, q, -, ht, hprog, hstore, hsum⟩ | ⟨i, c, t, o, q, rfl, ht, hprog, hstore, hsum⟩
  · obtain ⟨hjobs, hpend⟩ := hp.jobs_same (k := k) h hstore
    have hnew : mayAdd k (counterLimit limits k)
        ⟨r, p.store, [], (sandboxRequests env limits).code r p.threads.length⟩ = 0 := by
      unfold mayAdd
      split
      · rfl
      · rfl
    refine enough ?_ fun day _ => hjobs day
    rw [hsplit, hjobs, hpend, hsum, hnew, hstore]
    exact htoday
  · obtain ⟨hjobs, hothers⟩ := jobs_outside (k := k) hp h
    refine enough ?_ hothers
    rw [hsplit, hsum]
    omega
  · obtain ⟨hjobs, hpend⟩ := hp.jobs_same (k := k) h hstore
    have hrunning : t.prog.running = true := by rw [hprog]; rfl
    have hle : mayAdd k (counterLimit limits k) { t with prog := q c.1 } ≤
      mayAdd k (counterLimit limits k) t := by
      unfold mayAdd
      simp only [hrunning, and_true]
      split
      · next hk => rw [if_pos hk.1]
      · exact Nat.zero_le _
    refine enough ?_ fun day _ => hjobs day
    rw [hsplit, hjobs, hpend, hstore]
    omega
  · have hstore : p'.store = (World.handle env c.2 p.store o).2 := hstore
    have hclock : p'.store.now = p.store.now := by rw [hstore]; exact handle_untouched.clock
    obtain ⟨hjobs, hothers⟩ := hp.jobs_call (k := k) hp' h ht hprog hstore
    have hrunning : t.prog.running = true := by rw [hprog]; rfl
    have hspent :=
      mayAdd_call (k := k) (L := counterLimit limits k) (e := (World.handle env).event c.2 p.store o)
      (q := q (World.handle env c.2 p.store o).1) hrunning fun hk => by
        obtain rfl := hk
        exact hp.adds_lt_lets (List.mem_of_getElem? ht) hprog
    have hjobs := hjobs (utcDay p.store.now)
    have hspent : mayAdd k (counterLimit limits k) { t with
        trace := t.trace ++ [(World.handle env).event c.2 p.store o]
        prog :=
          q (World.handle env c.2 p.store o).1 } + (if t.request.counter = k then o.addsSandbox else 0) ≤
      mayAdd k (counterLimit limits k) t +
        if t.request.counter =
          k then o.lets k (counterLimit limits k) (World.handle env c.2 p.store o).1 else 0 := hspent
    have hsum : p'.sum (mayAdd k (counterLimit limits k)) + mayAdd k (counterLimit limits k) t =
      p.sum (mayAdd k (counterLimit limits k)) + mayAdd k (counterLimit limits k) { t with
        trace := t.trace ++ [(World.handle env).event c.2 p.store o]
        prog := q (World.handle env c.2 p.store o).1 } := hsum
    refine enough ?_ fun day hday => hothers day (by rwa [hclock] at hday)
    rw [hsplit, hclock]
    by_cases hlets : t.request.counter = k ∧
      0 < o.lets k (counterLimit limits k) (World.handle env c.2 p.store o).1
    · obtain ⟨rfl, hpos⟩ := hlets
      have hleft : jobsOn p t.request.counter (utcDay p.store.now) + (p.sum (mayAdd t.request.counter
          (counterLimit limits t.request.counter)) + pendingOf p t.request.counter)
            < counterLimit limits t.request.counter :=
        hok t ht o (by rw [hprog]; rfl) hpos
      have hone := lets_le_one (o := o) (k := t.request.counter) (L := counterLimit limits t.request.counter)
        (r := (World.handle env c.2 p.store o).1)
      rw [if_pos rfl] at hspent hjobs
      rw [if_pos rfl] at hspent
      omega
    · have hgain : (if t.request.counter = k then o.lets k (counterLimit limits k) (World.handle env c.2 p.store o).1
          else 0) = 0 := by
        split
        · next hk => exact Nat.eq_zero_of_not_pos fun hpos => hlets ⟨hk, hpos⟩
        · rfl
      rw [hgain] at hspent
      omega

/-- An installation whose sandbox key has one notification a day. -/
def oneADay : World :=
  { World.blank with
    apiKeys := fun _ => some { isTestKey := true, testDailyLimit := 1 }
    protocolSettings := fun _ => some { testEmail := some (js "a@b") } }

theorem limited_oneADay : oneADay.Limited fun _ => 1 := fun _ key hkey => by
  obtain rfl := Option.some.inj hkey
  rfl

theorem settled_oneADay : oneADay.Settled :=
  ⟨fun _ hj => absurd hj List.not_mem_nil, fun _ hj => absurd hj List.not_mem_nil⟩

/-- A notification of the sandbox key. -/
def sandboxPing : SandboxRequest :=
  .notify { wallet := js "w", subject := js "s", body := js "b" } (client .sandbox)

/-- Two requests one after the other, of which the second is refused. -/
def oneAfterOther : List SandboxLabel :=
  .arrive sandboxPing :: proceeds 0 12 ++ .arrive sandboxPing :: proceeds 1 4

/-- Two requests of which both read the counter before either is counted. -/
def sideBySide : List SandboxLabel :=
  [.arrive sandboxPing, .arrive sandboxPing] ++ proceeds 0 4 ++ proceeds 1 7 ++ proceeds 0 3

end HeraldGateway
