import HeraldGateway.Async.Budget
import HeraldGateway.Delivery.Attempts
import HeraldGateway.Gateway.Proofs.CostsProofs
import HeraldGateway.Gateway.Proofs.WorldProofs

/-!
# Attempts that hand a notification over at most once

One attempt hands the notification over at most once by each way, and once it heard that its delivery was
recorded it only counts and reports. What an attempt does not do is look at what earlier attempts did, so
it must not be made once something was handed over.
-/

namespace HeraldGateway

open Async

variable {env : Env} {job : NotificationJobData} {x : Outlet}

/-! ### One attempt hands over once -/

/-- What a call costs of the handovers by one way. -/
def Outlet.cost (x : Outlet) (o : Op) : Nat := if o.handsTo x then 1 else 0

/-- The handovers that a delivery to a channel may make. -/
def Outlet.share (x : Outlet) (c : Channel) : Nat := if x = .channel c then 1 else 0

example {id : JsString} : x.cost (.notificationFindUnique id) = 0 := by
  simp [Outlet.cost, Op.handsTo]

theorem cost_le_one {o : Op} : x.cost o ≤ 1 := by
  unfold Outlet.cost
  split <;> omega

theorem cost_sendEmail {m : EmailMessage} : x.cost (.sendEmail m) = x.share .email := by
  simp [Outlet.cost, Outlet.share, Op.handsTo]

theorem cost_sendSms {p : SmsParams} : x.cost (.sendSms p) = x.share .sms := by
  simp [Outlet.cost, Outlet.share, Op.handsTo]

theorem cost_sendTelegram_le {p : TelegramParams} : x.cost (.sendTelegram p) ≤ x.share .telegram := by
  by_cases h : x = .channel .telegram
  · rw [Outlet.share, if_pos h]
    exact cost_le_one
  · simp [Outlet.cost, Op.handsTo, h]

theorem cost_sendTelegram_group {p : TelegramParams} (h : p.target = .group) :
    x.cost (.sendTelegram p) = 0 := by
  simp [Outlet.cost, Op.handsTo, h]

/-- A way is the share of at most one channel. -/
theorem share_sum_le : x.share .email + x.share .telegram + x.share .sms ≤ 1 := by
  unfold Outlet.share
  by_cases he : x = .channel .email
  · simp [he]
  · by_cases ht : x = .channel .telegram
    · simp [ht]
    · simp only [he, ht, if_false]
      split <;> omega

theorem costs_handover : Costs x.cost (x.share .email) (x.share .telegram) 0 (x.share .sms) 1 where
  free o h := by
    cases o with
    | sendEmail | sendTelegram | sendSms | digestCreate => cases h
    | _ => rfl
  email _ := cost_sendEmail.le
  subscriber _ _ := cost_sendTelegram_le
  group _ h := (cost_sendTelegram_group h).le
  sms _ := cost_sendSms.le
  buffer _ _ _ _ _ := cost_le_one

/-- An attempt of a production job hands the notification over at most once by each way. -/
theorem budget_handover (hj : job.production = true) :
    Budget (S := Calls) x.cost 1 (processNotification env job) :=
  budget_processNotification costs_handover hj (Nat.add_zero _ ▸ share_sum_le) (Nat.le_refl 1)

/-- What was handed over was called for. -/
theorem handedOver_le_traceCost (tr : List AttemptEvent) :
    tr.countP (handedOver x) ≤ traceCost x.cost tr := by
  induction tr with
  | nil => exact le_rfl
  | cons e tr ih =>
    have he : (if handedOver x e = true then 1 else 0) ≤ x.cost e.op := by
      unfold handedOver Outlet.cost
      cases e.op.handsTo x <;> cases e.choice.fault.applies <;> decide
    rw [List.countP_cons]
    have hc : traceCost x.cost (e :: tr) = x.cost e.op + traceCost x.cost tr := by simp [traceCost]
    omega

/-! ### An attempt does not reopen what it recorded -/

/-- An attempt heard that it recorded the notification as sent. -/
def Heard (o : Op) (r : Except Err o.Res) : Prop := o.recordsSent = true ∧ ∃ a, r = .ok a

/-- The call sets the status of a notification. -/
def Op.setsStatus : Op → Bool
  | .notificationUpdate _ u => u.status.isSome
  | _ => false

theorem recordsSent_routine {o : Op} (h : o.routine = true) : o.recordsSent = false := by
  cases o with
  | notificationUpdate id u =>
    have hnone : u.status = none := Option.isNone_iff_eq_none.1 h
    rw [Op.recordsSent, NotificationUpdate.recordsSent, hnone]
    rfl
  | _ => rfl

/-- Reading the clock does not fail. -/
def ClockWorks : Good
  | .now, .error _ => False
  | _, _ => True

theorem clockWorks_handle {c : Choice} {s : World} {o : Op} :
    ClockWorks o (World.handle env c s o).1 := by
  cases o with
  | now => trivial
  | _ => unfold ClockWorks; split <;> trivial

theorem along_swallow {α : Type} {A : Allowed} {G : Good} {p : Gateway α} (h : p.Within A G) :
    Along (S := Calls) A G (fun r => ∃ a, r = .ok a) (swallow p) :=
  Along.andThen (h.mono fun _ _ => ⟨(), rfl⟩)

/-- Once an attempt heard that it recorded the notification as sent, it sets no status any more. -/
theorem sealed_processNotification (hj : job.production = true) :
    Sealed (S := Calls) Heard ClockWorks (fun o => o.setsStatus = false) (fun _ => True)
      (processNotification env job) := by
  have hp : ∀ o : Op, o.routine = true → o.recordsSent = false := fun _ => recordsSent_routine
  have hs : ∀ u : NotificationUpdate, u.recordsSent = false →
      Op.recordsSent (.notificationUpdate job.notificationId u) = false := fun _ => id
  have hclear : Op.recordsSent (.suppressionDeleteMany (job.walletHash.getD [])) = false := rfl
  have buffer : Gateway.Within (fun o => o.recordsSent = false) ClockWorks (bufferJob job) :=
    within_bufferJob hp hs fun _ => rfl
  have hd : ∀ channels, Dispatches (fun o => o.recordsSent = false) ClockWorks channels job :=
    fun _ => ⟨rfl, fun _ _ => rfl, fun _ _ _ _ => rfl, fun _ _ => rfl, fun _ => rfl⟩
  have unmarked : ∀ {α : Type} {Q : Except Err α → Prop} {p : Gateway α},
      p.Within (fun o => o.recordsSent = false) ClockWorks →
        Sealed (S := Calls) Heard ClockWorks (fun o => o.setsStatus = false) Q p := by
    refine Sealed.of_within fun o ho r hr => ?_
    rw [hr.1] at ho
    cases ho
  -- after the record there is only the metering and the webhook, whose failures are ignored
  have record : ∀ identity arweaveId result,
    Sealed (S := Calls) Heard ClockWorks (fun o => o.setsStatus = false)
      (fun r => ∃ a, r = .ok a) (recordDelivery env job identity arweaveId result) := by
    intro identity arweaveId result
    refine Sealed.bind (unmarked (within_call (hp _ rfl))) fun now => ?_
    refine Sealed.bind (Sealed.perform ?_) fun _ => unmarked ?_
    · rintro _ - ⟨-, a, rfl⟩
      refine Along.bind (along_swallow (within_call rfl)) (fun _ _ => ?_) fun _ h => h
      refine Along.bind (Along.perform rfl) (fun _ _ => along_swallow (within_call rfl)) fun _ h => ?_
      exact h.elim
    · refine Within.bind (within_swallow (within_call (hp _ rfl))) fun _ => ?_
      exact Within.bind (within_call (hp _ rfl)) fun _ => within_swallow (within_call (hp _ rfl))
  have deliver : ∀ identity channels, Sealed (S := Calls) Heard ClockWorks (fun o => o.setsStatus = false)
      (fun r => ∃ a, r = .ok a) (deliverDecrypted env job identity channels) := by
    intro identity channels
    refine Sealed.bind (unmarked (within_clearSuppression hclear identity)) fun _ => ?_
    refine Sealed.bind (unmarked (within_storeOnArweave (of_untold hp))) fun arweaveId => ?_
    refine Sealed.bind (unmarked (within_dispatch (of_untold hp) (hd channels))) fun result => ?_
    exact Sealed.ite (fun _ => record _ _ _) fun _ => unmarked (within_recordAllFailed hs result)
  have resolve : Sealed (S := Calls) Heard ClockWorks (fun o => o.setsStatus = false)
      (fun r => ∃ a, r = .ok a) (resolveAndDeliver env job) := by
    refine Sealed.bind (unmarked (within_resolveIdentity (of_untold hp) _)) fun identity => ?_
    cases identity with
    | none => exact unmarked (within_recordUnregistered hp hs)
    | some identity =>
      refine Sealed.bind (unmarked (within_call rfl)) fun channels => ?_
      exact Sealed.ite (fun _ => unmarked (within_call (hs _ rfl))) fun _ => deliver _ _
  refine Sealed.bind (unmarked (within_call (hp _ rfl))) fun now => ?_
  refine Sealed.bind (unmarked (within_call (hs _ rfl))) fun _ => ?_
  rw [if_pos hj]
  refine Sealed.tryCatch (Sealed.ite (fun _ => unmarked buffer) fun _ => ?_) fun e =>
    unmarked (within_recordError hp hs e)
  refine resolve.mono ?_
  rintro _ ⟨a, rfl⟩
  trivial

/-! ### What is recorded -/

section world

variable {c : Choice} {s : World} {o : Op} {id : NotificationId}

/-- An update that records nothing as sent leaves nothing recorded that was not before. -/
theorem recordedSent_update {id' : NotificationId} {u : NotificationUpdate} (hu : u.recordsSent = false)
    (h : (s.updateNotification id' u).2.recordedSent id = true) : s.recordedSent id = true := by
  unfold World.updateNotification at h
  split at h
  · obtain ⟨r', hr', hsent⟩ := List.any_eq_true.1 h
    obtain ⟨r, hr, rfl⟩ := List.mem_map.1 hr'
    refine List.any_eq_true.2 ⟨r, hr, ?_⟩
    split at hsent
    · simp only [NotificationUpdate.apply, Bool.and_eq_true] at hsent ⊢
      refine ⟨hsent.1, ?_⟩
      cases hst : u.status with
      | none => simpa [hst] using hsent.2
      | some st =>
        simp only [NotificationUpdate.recordsSent, hst, Option.any_some] at hu
        rw [hst, Option.getD_some, hu] at hsent
        exact absurd hsent.2 Bool.false_ne_true
    · exact hsent
  · exact h

/-- What an attempt calls changes notifications only by updates. -/
theorem updates_only (hj : job.production = true) :
    (processNotification env job).Within
      (fun o => o.table = .notifications → ∃ id u, o = .notificationUpdate id u) (fun _ _ => True) := by
  have hp : ∀ o : Op, o.routine = true → o.table = .notifications → ∃ id u, o = .notificationUpdate id u := by
    intro o ho ht
    cases o with
    | notificationCreate | notificationCreateMany => cases ho
    | notificationUpdate id u => exact ⟨id, u, rfl⟩
    | _ => cases ht
  refine within_processNotification hp ⟨fun u _ => ⟨_, u, rfl⟩, nofun, fun _ => nofun, fun _ _ => nofun,
    fun hs => ?_, fun _ _ _ _ _ => ⟨nofun, fun _ _ => nofun, fun _ _ _ _ => nofun, fun _ => nofun, fun _ => nofun⟩⟩
  rw [hj] at hs
  cases hs

/-- A notification is recorded as sent only by a call that says so, and hears of it if it does not miss
that. -/
theorem recordedSent_handle (ht : o.table = .notifications → ∃ id u, o = .notificationUpdate id u)
    (hf : o.recordsSent = true → c.fault.applies = true → c.fault = .none)
    (h : (World.handle env c s o).2.recordedSent id = true) :
    s.recordedSent id = true ∨ Heard o (World.handle env c s o).1 := by
  by_cases htab : o.table = .notifications
  · obtain ⟨id', u, rfl⟩ := ht htab
    by_cases hu : u.recordsSent = true
    · have hf := hf hu
      simp only [World.handle, World.meet] at h ⊢
      cases hc : c.fault with
      | none =>
        simp only [hc, World.serve, World.updateNotification] at h ⊢
        split
        · exact .inr ⟨hu, (), rfl⟩
        · next hnone =>
          rw [if_neg hnone] at h
          exact .inl h
      | unheard e =>
        rw [hc] at hf
        cases hf rfl
      | refused | stalled =>
        rw [hc] at h
        exact .inl h
    · have hu : u.recordsSent = false := Bool.eq_false_iff.2 hu
      exact .inl (handle_rel (o := .notificationUpdate id' u)
        (R := fun s s' => s'.recordedSent id = true → s.recordedSent id = true)
        (fun h => h) (recordedSent_update hu) (fun _ h => h) h)
  · left
    unfold World.recordedSent at h ⊢
    rwa [handle_untouched.notifications htab] at h

end world

/-! ### Runs -/

variable {p p' : AttemptPool} {l : AttemptLabel} {ls : List AttemptLabel} {s : World}

/-- What holds in every pool that a run reaches. -/
structure AttemptsInvariant (env : Env) (job : NotificationJobData) (p : AttemptPool) : Prop where
  traced : (attempts env job).Traced p
  /-- Only the latest attempt handed anything over. -/
  latest : ∀ (i : Nat) t, p.threads[i]? = some t → i + 1 < p.threads.length →
    ∀ e ∈ t.trace, ∀ x, handedOver x e = false
  /-- What is recorded as sent was recorded by the latest attempt, which heard of it. -/
  recorded : p.store.recordedSent job.notificationId = true →
    ∃ (i : Nat) (t : _), p.threads[i]? = some t ∧ i + 1 = p.threads.length ∧
      ∃ e ∈ t.trace, Heard e.op e.reply
  final : ∀ t ∈ p.threads, ∀ e ∈ t.trace, reopened job.notificationId e = false

theorem handedOver_other {n : JsString} {e : AttemptEvent} : handedOver (.channel (.other n)) e = false := by
  unfold handedOver Op.handsTo
  split <;> rfl

theorem handedOver_of_all {e : AttemptEvent} (h : ∀ x ∈ Outlet.all, handedOver x e = false) (x : Outlet) :
    handedOver x e = false := by
  match x with
  | .channel .email | .channel .telegram | .channel .sms | .buffer => exact h _ (by decide)
  | .channel (.other n) => exact handedOver_other

theorem clockWorks_runs {q : Gateway Unit} {tr : List AttemptEvent}
    (hr : Runs (attempts env job).handler (processNotification env job) tr q) :
    ∀ e ∈ tr, ClockWorks e.op e.reply := by
  intro e he
  obtain ⟨c, s, o, rfl⟩ := hr.event e he
  exact clockWorks_handle

/-- The latest attempt, if it heard that the notification is recorded as sent, does not reopen it. -/
theorem reopened_next (hj : job.production = true) (hp : AttemptsInvariant env job p) {i : Nat}
    {c : Choice} {t : Thread Calls Err Unit Unit World Choice} {o : Op}
    {k : Except Err o.Res → Gateway Unit} (hi : i + 1 = p.threads.length) (ht : p.threads[i]? = some t)
    (hprog : t.prog = .call o k) :
    reopened job.notificationId ((attempts env job).handler.event c p.store o) = false := by
  by_contra hno
  have hre := Bool.eq_true_of_not_eq_false hno
  change reopened job.notificationId ⟨c, p.store, o, _, _⟩ = true at hre
  cases o with
  | notificationUpdate id u =>
    simp only [reopened, Bool.and_eq_true] at hre
    obtain ⟨⟨⟨-, hopen⟩, -⟩, hsent⟩ := hre
    obtain ⟨j, t', ht', hj', e, he, hheard⟩ := hp.recorded hsent
    obtain rfl : j = i := by omega
    obtain rfl : t' = t := Option.some.inj (ht'.symm.trans ht)
    have hrun := hp.traced j t' ht'
    rw [hprog] at hrun
    have hnext : Op.setsStatus (.notificationUpdate id u) = false :=
      ((hrun.sealed (sealed_processNotification hj) (clockWorks_runs hrun)).2 ⟨e, he, hheard⟩).1
    have hnone : u.status = none := by simpa [Op.setsStatus] using hnext
    rw [NotificationUpdate.reopens, hnone] at hopen
    cases hopen
  | _ => cases hre

theorem latest_step (hok : RetriedUnsent job p l) (h : (attempts env job).step p l = some p')
    (hp : AttemptsInvariant env job p) (i : Nat) (t : Thread Calls Err Unit Unit World Choice)
    (ht : p'.threads[i]? = some t) (hi : i + 1 < p'.threads.length) :
    ∀ e ∈ t.trace, ∀ x, handedOver x e = false := by
  rcases System.length_step h with ⟨r, rfl, hlen⟩ | hlen
  · -- all attempts before one that arrives handed nothing over
    rcases System.thread_cases h ht with ht | ⟨-, -, hnew, -, -⟩ | ⟨_, _, _, hl, -⟩ | ⟨_, _, _, _, hl, -⟩
    · exact fun e he => handedOver_of_all (hok.2 t (List.mem_of_getElem? ht) e he)
    · omega
    · cases hl
    · cases hl
  · rw [hlen] at hi
    rcases System.thread_cases h ht with ht | ⟨r, rfl, -, -, -⟩ | ⟨_, _, _, rfl, -⟩ | ⟨_, _, _, _, rfl, -⟩
    · exact hp.latest i t ht hi
    · obtain rfl := System.step_arrive h
      simp at hlen
    · exact absurd hok.1 (Nat.ne_of_lt hi)
    · exact absurd hok.1 (Nat.ne_of_lt hi)

theorem recorded_step (hj : job.production = true) (hok : RetriedUnsent job p l)
    (h : (attempts env job).step p l = some p') (hp : AttemptsInvariant env job p)
    (hsent : p'.store.recordedSent job.notificationId = true) :
    ∃ (i : Nat) (t : _), p'.threads[i]? = some t ∧ i + 1 = p'.threads.length ∧
      ∃ e ∈ t.trace, Heard e.op e.reply := by
  cases l with
  | arrive r =>
    obtain rfl := System.step_arrive h
    have hnone : p.store.recordedSent job.notificationId = false := hok.1
    rw [show p.store.recordedSent job.notificationId = true from hsent] at hnone
    cases hnone
  | outside w =>
    obtain ⟨s, hs, rfl⟩ := System.step_outside h
    have hs : (if w.recordedSent job.notificationId = p.store.recordedSent job.notificationId then some w
      else none) = some s := hs
    split at hs
    · next heq =>
      obtain rfl := Option.some.inj hs
      exact hp.recorded (heq ▸ hsent)
    · cases hs
  | pick i c =>
    obtain ⟨hi, hheard⟩ := hok
    obtain ⟨t, ht, ⟨k, hprog, rfl⟩ | ⟨o, k, hprog, rfl⟩⟩ := System.step_pick h
    · obtain ⟨j, t', ht', hj', htr⟩ := hp.recorded hsent
      obtain rfl : j = i := by omega
      obtain rfl : t' = t := Option.some.inj (ht'.symm.trans ht)
      refine ⟨j, _, List.getElem?_set_self (by omega), by simpa using hi, htr⟩
    · have hrun := hp.traced i t ht
      rw [hprog] at hrun
      refine ⟨i, _, List.getElem?_set_self (by omega), by simpa using hi, ?_⟩
      have hupd := (hrun.along (updates_only hj) fun _ _ => trivial).1.1
      rcases recordedSent_handle hupd (hheard t ht o (by rw [hprog]; rfl)) hsent with hb | hb
      · obtain ⟨j, t', ht', hj', e, he, hm⟩ := hp.recorded hb
        obtain rfl : j = i := by omega
        obtain rfl : t' = t := Option.some.inj (ht'.symm.trans ht)
        exact ⟨e, List.mem_append_left _ he, hm⟩
      · exact ⟨_, List.mem_append_right _ (List.mem_singleton.2 rfl), hb⟩

theorem attemptsInvariant_step (hj : job.production = true) (hok : RetriedUnsent job p l)
    (h : (attempts env job).step p l = some p') (hp : AttemptsInvariant env job p) :
    AttemptsInvariant env job p' := by
  refine ⟨hp.traced.step h, latest_step hok h hp, recorded_step hj hok h hp, ?_⟩
  refine System.Events.step (P := fun _ e => reopened job.notificationId e = false) h hp.final ?_
  rintro i c t o k rfl ht hprog
  exact reopened_next hj hp hok.1 ht hprog

/-- The latest attempt handed over at most once, and the others never. -/
theorem handovers_le (hj : job.production = true) (hp : AttemptsInvariant env job p) :
    handovers x p ≤ 1 := by
  unfold handovers
  rcases List.eq_nil_or_concat p.threads with hnil | ⟨ts, t, hts⟩
  · rw [hnil]
    exact Nat.zero_le 1
  · have hlen : p.threads.length = ts.length + 1 := by rw [hts]; simp
    have hlast : p.threads[ts.length]? = some t := by rw [hts]; simp
    have hzero : (ts.map fun t => t.trace.countP (handedOver x)).sum = 0 := by
      refine List.sum_eq_zero fun n hn => ?_
      obtain ⟨u, hu, rfl⟩ := List.mem_map.1 hn
      obtain ⟨j, hj⟩ := List.mem_iff_getElem?.1 hu
      have hjlt := (List.getElem?_eq_some_iff.1 hj).1
      have hju : p.threads[j]? = some u := by
        rw [hts, List.concat_eq_append, List.getElem?_append_left hjlt]
        exact hj
      refine List.countP_eq_zero.2 fun e he => ?_
      rw [hp.latest j u hju (by omega) e he x]
      exact Bool.false_ne_true
    have hone := (handedOver_le_traceCost (x := x) t.trace).trans
      ((hp.traced _ t hlast).budget (budget_handover hj)).1
    rw [hts, List.concat_eq_append, List.map_append, List.sum_append, hzero]
    simpa using hone

theorem attemptsInvariant_empty (hs : s.recordedSent job.notificationId = false) :
    AttemptsInvariant env job (Pool.empty s) := by
  refine ⟨System.traced_empty s, fun _ _ ht => absurd ht nofun, fun hsent => ?_,
    fun _ ht => absurd ht List.not_mem_nil⟩
  rw [show s.recordedSent job.notificationId = true from hsent] at hs
  cases hs

/-- Where a job is attempted again only if nothing was handed over before, its notification is handed
over at most once by each way, and stays recorded as sent. -/
theorem attempts_at_most_once (hj : job.production = true)
    (hs : s.recordedSent job.notificationId = false)
    (hok : (attempts env job).Keeps (RetriedUnsent job) (Pool.empty s) ls)
    (hr : (attempts env job).run (Pool.empty s) ls = some p) : AtMostOnce job p := by
  have hI : AttemptsInvariant env job p := System.Keeps.induction
    (fun p l p' hok hp h => attemptsInvariant_step hj hok h hp) hok hr (attemptsInvariant_empty hs)
  exact ⟨fun x => handovers_le hj hI, hI.final⟩

/-! ### Runs that keep and break it -/

/-- A notification that is queued. -/
def queuedRow : Notification where
  id := .uuid 0
  protocolId := js "p"
  walletHash := js "w"
  subjectHash := []
  status := .queued
  category := js "defi"
  idempotencyKey := none
  writeReceipt := true
  queuedAt := 0

/-- Its job. -/
def queuedRowJob : NotificationJobData where
  notificationId := .uuid 0
  protocolId := js "p"
  protocolPubkey := js "p"
  protocolName := js "Protocol"
  wallet := js "w"
  walletHash := some (js "w")
  subject := js "Margin"
  body := js "Add collateral."
  category := js "defi"
  writeReceipt := true
  digestMode := false

/-- An installation in which it is queued. -/
def queuedWorld : World :=
  { World.blank with
    notifications := [queuedRow]
    chain := fun _ => some recipient }

/-- A replay of the attempts of the job. -/
def replayAttempts (ls : List AttemptLabel) : Option AttemptPool :=
  (attempts Env.transparent queuedRowJob).run (Pool.empty queuedWorld) ls

/-- A call that a service did not take on. -/
def timeout : Fault := .refused ⟨js "timeout", none, none, none⟩

/-- The mail provider refuses the email of the first attempt, and takes that of the second. -/
def resentAfterRefusal : List AttemptLabel :=
  .arrive () :: proceeds 0 17 ++ [meets 0 timeout] ++ proceeds 0 2 ++ .arrive () :: proceeds 1 22

theorem attempts_at_most_once_resentAfterRefusal :
    ∃ p ∈ replayAttempts resentAfterRefusal, AtMostOnce queuedRowJob p ∧
      handovers (.channel .email) p = 1 := by
  obtain ⟨⟨p, hp, hsent⟩, hok⟩ :
      (∃ p ∈ replayAttempts resentAfterRefusal, handovers (.channel .email) p = 1) ∧
      (attempts Env.transparent queuedRowJob).Keeps (RetriedUnsent queuedRowJob)
        (Pool.empty queuedWorld) resentAfterRefusal := by decide +kernel
  exact ⟨p, hp, attempts_at_most_once rfl (by decide) hok hp, hsent⟩

/-- The email of the first attempt is sent, but the database does not take the record of it. -/
def resentAfterSend : List AttemptLabel :=
  .arrive () :: proceeds 0 20 ++ [meets 0 timeout] ++ proceeds 0 2 ++ .arrive () :: proceeds 1 22

/-- The attempt throws, so BullMQ makes another one, which sends the email again. -/
theorem email_resent :
    (attempts Env.transparent queuedRowJob).Keeps RetriedAfterThrow (Pool.empty queuedWorld)
        resentAfterSend ∧
      ∃ p ∈ replayAttempts resentAfterSend, ¬ AtMostOnce queuedRowJob p := by
  refine ⟨by decide +kernel, ?_⟩
  obtain ⟨p, hp, hsent⟩ : ∃ p ∈ replayAttempts resentAfterSend, handovers (.channel .email) p = 2 := by
    decide +kernel
  refine ⟨p, hp, fun h => ?_⟩
  have hle := h.once (.channel .email)
  omega

end HeraldGateway
