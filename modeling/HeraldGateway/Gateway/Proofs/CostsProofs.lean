import HeraldGateway.Async.Budget
import HeraldGateway.Gateway.Proofs.FootprintProofs
import HeraldGateway.Gateway.Proofs.WorldProofs

/-!
# Jobs and what attempts cost
-/

namespace HeraldGateway

open Async

/-!
## Jobs on the notification queue

A job is on the queue, or in an add that was given up on, because it was there at first or because a task
added it. So what holds of every job that a task adds holds of every job that a worker attempts.
-/

section

variable {env : Env} {c : Choice} {s s' : World} {o : Op} {P : NotificationJobData → Prop}

/-- Every job on the queue or in an abandoned add has a property. -/
def World.Jobs (P : NotificationJobData → Prop) (s : World) : Prop :=
  ∀ j ∈ s.notificationQueue ++ s.pendingAdds, P j.data

theorem jobs_addJob {j : QueuedJob} (hs : s.Jobs P) (hj : P j.data) : (s.addJob j).Jobs P := by
  unfold World.addJob
  split
  · exact hs
  · intro q hq
    rcases List.mem_append.1 hq with hq | hq
    · rcases List.mem_append.1 hq with hq | hq
      · exact hs q (List.mem_append_left _ hq)
      · rw [List.mem_singleton.1 hq]
        exact hj
    · exact hs q (List.mem_append_right _ hq)

theorem jobs_handle (hs : s.Jobs P) (ho : ∀ a ∈ o.added?, P a.1) : (World.handle env c s o).2.Jobs P := by
  by_cases ht : o.table = .queue
  · cases o with
    | notificationAdd data jobId timeout =>
      have hdata : P data := ho _ rfl
      rcases @handle_cases env c s (.notificationAdd data jobId timeout) with
        h | h | ⟨_, _, _, ho, h⟩ <;> rw [h]
      · exact hs
      · exact jobs_addJob hs hdata
      · cases ho
        intro q hq
        rw [← List.append_assoc] at hq
        rcases List.mem_append.1 hq with hq | hq
        · exact hs q hq
        · rw [List.mem_singleton.1 hq]
          exact hdata
    | _ => cases ht
  · have hu := @handle_untouched env c s o
    unfold World.Jobs
    rw [hu.queue ht, hu.pending ht]
    exact hs

theorem jobs_change {e : Change} (h : e.apply s = some s') (hs : s.Jobs P) : s'.Jobs P := by
  cases e with
  | completeAdd i =>
    obtain ⟨j, hj, rfl⟩ := Option.map_eq_some_iff.1 h
    have hadded : (s.addJob { j with addedAt := s.now }).Jobs P :=
      jobs_addJob hs (hs j (List.mem_append_right _ (List.mem_of_getElem? hj)))
    intro q hq
    refine hadded q ?_
    rcases List.mem_append.1 hq with hq | hq
    · exact List.mem_append_left _ hq
    · refine List.mem_append_right _ ?_
      have hpending : (s.addJob { j with addedAt := s.now }).pendingAdds = s.pendingAdds := by
        unfold World.addJob
        split <;> rfl
      rw [hpending]
      exact List.mem_of_mem_eraseIdx hq
  | tick | removeJob | configure =>
    obtain rfl := Option.some.inj h
    exact hs

/-! ### Runs -/

variable {p p' : GatewayPool} {l : GatewayLabel} {ls : List GatewayLabel}

/-- Every job that a worker attempts has a property. -/
def Attempted (P : NotificationJobData → Prop) (p : GatewayPool) : Prop :=
  ∀ t ∈ p.threads, ∀ job ∈ t.request.job?, P job

/-- What holds of the jobs there were and of every job that is added holds of the jobs there are, and of those
that are attempted. -/
theorem jobs_of_run (hs : s.Jobs P)
    (hadd : ∀ task : Task, (task.code env).Within (fun o => ∀ a ∈ o.added?, P a.1) fun _ _ => True)
    (hok : (gateway env).Keeps Legal (Pool.empty s) ls)
    (hr : (gateway env).run (Pool.empty s) ls = some p) :
    (gateway env).Traced p ∧ p.store.Jobs P ∧ Attempted P p := by
  refine System.Keeps.induction
    (I := fun p => (gateway env).Traced p ∧ p.store.Jobs P ∧ Attempted P p) ?_ hok hr
    ⟨System.traced_empty s, hs, fun _ ht => absurd ht List.not_mem_nil⟩
  rintro p l p' hl ⟨htr, hjobs, hatt⟩ h
  refine ⟨htr.step h, ?_, ?_⟩
  · rcases System.store_cases h with hstore | ⟨i, c, t, o, k, -, ht, hprog, hstore⟩ | ⟨e, -, he⟩
    · rw [hstore]
      exact hjobs
    · rw [hstore]
      have hrun := htr i t ht
      rw [hprog] at hrun
      exact jobs_handle hjobs (hrun.along (hadd t.request) fun _ _ => trivial).1.1
    · exact jobs_change he hjobs
  · intro t' ht' job hjob
    obtain ⟨i, hi⟩ := List.mem_iff_getElem?.1 ht'
    rcases System.request_cases h hi with ⟨t, ht, hreq⟩ | ⟨task, rfl, -, rfl⟩
    · exact hatt t (List.mem_of_getElem? ht) job (hreq ▸ hjob)
    · cases task with
      | deliver job' =>
        obtain rfl := Option.some.inj hjob
        obtain ⟨j, hj, rfl⟩ := hl
        exact hjobs j (List.mem_append_left _ hj)
      | _ => cases hjob

end

/-!
## What an attempt costs

A dispatch makes at most one delivery by each channel, and one post to a group. Whatever the calls of these
cost bounds what the calls of an attempt cost.
-/

section

/-- A call that hands something to a provider or to the digest buffer. -/
def Op.handsOver : Op → Bool
  | .sendEmail _ | .sendTelegram _ | .sendSms _ | .digestCreate .. => true
  | _ => false

/-- What the calls that hand something over cost at most, and others not at all. -/
structure Costs (cost : Op → Nat) (email subscriber group sms buffer : Nat) : Prop where
  free : ∀ o, o.handsOver = false → cost o = 0
  email : ∀ m, cost (.sendEmail m) ≤ email
  subscriber : ∀ p : TelegramParams, p.target = .subscriber → cost (.sendTelegram p) ≤ subscriber
  group : ∀ p : TelegramParams, p.target = .group → cost (.sendTelegram p) ≤ group
  sms : ∀ p, cost (.sendSms p) ≤ sms
  buffer : ∀ walletHash protocolId subject category time,
    cost (.digestCreate walletHash protocolId subject category time) ≤ buffer

theorem handsOver_routine {o : Op} (h : o.routine = true) : o.handsOver = false := by
  cases o with
  | sendEmail | sendTelegram | sendSms | digestCreate => cases h
  | _ => rfl

variable {env : Env} {job : NotificationJobData} {assets : List ProtocolAsset} {channels : DecryptedChannels}
  {cost : Op → Nat} {email subscriber group sms buffer n : Nat} (hc : Costs cost email subscriber group sms buffer)
include hc

theorem Costs.routine : ∀ o : Op, o.routine = true → cost o = 0 :=
  fun o ho => hc.free o (handsOver_routine ho)

theorem budget_deliverEmail {address : JsString} :
    Budget (S := Calls) cost email (deliverEmail env address job assets) := by
  have hp := hc.routine
  have send : ∀ domain rendered tracked, Budget (S := Calls) cost email
      (sendRendered env address job domain rendered tracked) := by
    intro domain rendered tracked
    refine Budget.free_bind (within_swallow (within_call (hp _ rfl))) fun _ => ?_
    refine Budget.free_bind (within_call (hp _ rfl)) fun now => ?_
    refine Budget.free_bind (Within.of_along (along_unsubscribeUrl (of_untold hp) _ _)) fun link => ?_
    exact Budget.bind_free (Budget.perform (hc.email _)) fun _ => .ret _
  refine Budget.free_bind (Within.ite (fun _ => within_call (hp _ rfl)) fun _ => .ret _) fun found => ?_
  cases found with
  | some suppressed => trivial
  | none =>
    refine Budget.tryCatch_free ?_ fun _ => .ret _
    refine Budget.free_bind (within_call (hp _ rfl)) fun domain => ?_
    refine Budget.free_bind (within_call (hp _ rfl)) fun settings => ?_
    refine Budget.free_bind (Within.of_along (along_unsubscribeUrl (of_untold hp) _ _)) fun link => ?_
    refine Budget.free_bind (within_call (hc.free _ rfl)) fun rendered => Budget.ite (fun _ => ?_) fun _ => ?_
    · exact Budget.free_bind (within_swallow (within_call (hp _ rfl))) fun _ => send _ _ _
    · exact send _ _ _

theorem budget_sendNotification {p : TelegramParams}
    (hs : ∀ template, cost (.sendTelegram { p with customTemplate := template }) ≤ n) :
    Budget (S := Calls) cost n (sendNotification env p) := by
  have hp := hc.routine
  refine Budget.free_bind (within_orNull (within_call (hp _ rfl))) fun isBlocked => ?_
  refine Budget.ite (fun _ => trivial) fun _ => Budget.ite (fun _ => trivial) fun _ => ?_
  refine Budget.free_bind (Within.ite (fun _ => within_call (hp _ rfl)) fun _ => .ret _) fun template => ?_
  refine Budget.tryCatch_free (Budget.perform (hs _)) fun e => Within.ite (fun _ => ?_) fun _ => .throw _
  exact Within.bind (within_swallow (within_call (hp _ rfl))) fun _ => .throw _

theorem budget_deliverSubscriber {settings : Option ProtocolSettings} {base : TelegramParams}
    {token : Option JsString} (htarget : base.target = .subscriber) :
    Budget (S := Calls) cost subscriber (deliverSubscriber env job settings base token) := by
  have hp := hc.routine
  have send : ∀ token, Budget (S := Calls) cost subscriber (sendNotification env { base with customBotToken := token }) :=
    fun _ => budget_sendNotification hc fun _ => hc.subscriber _ htarget
  refine Budget.ite (fun _ => ?_) fun _ => send _
  refine Budget.free_bind (within_call (hp _ rfl)) fun migrated => Budget.ite (fun _ => send _) fun _ => ?_
  exact Budget.bind_free (send _) fun _ => Within.bind (within_swallow (within_call (hp _ rfl)))
    fun _ => .ret _

theorem budget_deliverGroup {settings : Option ProtocolSettings} {base : TelegramParams}
    {groupChatId : JsString} {token : Option JsString} :
    Budget (S := Calls) cost group (deliverGroup env job settings base groupChatId token) := by
  have hp := hc.routine
  refine Budget.free_bind (within_orNull (within_call (hp _ rfl))) fun alreadySent => ?_
  refine Budget.ite (fun _ => trivial) fun _ => ?_
  refine Budget.bind_free (Budget.settle (budget_sendNotification hc fun _ => hc.group _ rfl)) fun sent => ?_
  cases sent with
  | error e => exact .ret _
  | ok messageId =>
    refine Within.bind (within_call (hp _ rfl)) fun _ => ?_
    refine Within.bind (within_swallow (within_call (hp _ rfl))) fun _ => ?_
    exact Within.ite (fun _ => within_swallow (within_call (hp _ rfl))) fun _ => .ret _

theorem budget_deliverTelegram {chatId : JsString} :
    Budget (S := Calls) cost (subscriber + group) (deliverTelegram env chatId job assets) := by
  have hp := hc.routine
  refine Budget.tryCatch_free ?_ fun _ => .ret _
  refine Budget.free_bind (Within.ite (fun _ => .ret _) fun _ => within_call (hp _ rfl)) fun settings => ?_
  cases customBotToken env job settings with
  | error e => trivial
  | ok token =>
    refine Budget.free_bind (within_orNull (within_call (hp _ rfl))) fun protocolMuted => ?_
    refine Budget.ite (fun _ => trivial) fun _ => ?_
    refine Budget.free_bind (within_orNull (within_call (hp _ rfl))) fun categoryMuted => ?_
    refine Budget.ite (fun _ => trivial) fun _ => ?_
    refine Budget.bind (budget_deliverSubscriber hc rfl) fun messageId => Budget.ite (fun _ => ?_)
      fun _ => trivial
    exact Budget.bind_free (budget_deliverGroup hc) fun _ => .ret _

theorem budget_deliverSms {phone : JsString} : Budget (S := Calls) cost sms (deliverSms env phone job) := by
  refine Budget.tryCatch_free (Budget.bind_free ?_ fun _ => .ret _) fun _ => .ret _
  exact Budget.ite (fun _ => Budget.perform (hc.sms _)) fun _ => trivial

omit hc in
/-- What is started only under a condition is within its budget. -/
theorem budget_optional (c : Bool) {p : Gateway ChannelDeliveryOutcome} (h : Budget (S := Calls) cost n p) :
    ∃ ns, List.Forall₂ (Budget (S := Calls) cost) ns (if c then [p] else []) ∧ ns.sum ≤ n := by
  cases c with
  | true => exact ⟨[n], .cons h .nil, by simp⟩
  | false => exact ⟨[], .nil, Nat.zero_le n⟩

theorem budget_dispatch (hn : email + (subscriber + group) + sms ≤ n) :
    Budget (S := Calls) cost n (dispatch env channels job) := by
  have hp := hc.routine
  have started : ∀ assets,
    Budget (S := Calls) cost n (Prog.allSettled (deliveries env channels job assets)) := by
    intro assets
    have email : Budget (S := Calls) cost _ (deliverEmail env (channels.email.getD []) job assets) :=
      budget_deliverEmail hc
    have telegram : Budget (S := Calls) cost _ (deliverTelegram env (channels.telegramChatId.getD []) job assets) :=
      budget_deliverTelegram hc
    have sms : Budget (S := Calls) cost _ (deliverSms env (channels.phone.getD []) job) :=
      budget_deliverSms hc
    obtain ⟨ns₁, h₁, hn₁⟩ := budget_optional
      ((resolveAllowedChannels channels job).contains .email && truthy channels.email) email
    obtain ⟨ns₂, h₂, hn₂⟩ := budget_optional
      ((resolveAllowedChannels channels job).contains .telegram && truthy channels.telegramChatId) telegram
    obtain ⟨ns₃, h₃, hn₃⟩ := budget_optional
      ((resolveAllowedChannels channels job).contains .sms && truthy channels.phone) sms
    refine (Budget.allSettled (List.rel_append (List.rel_append h₁ h₂) h₃)).mono ?_
    simp only [List.sum_append]
    omega
  refine Budget.free_bind (Within.tryCatch (within_call (hc.free _ rfl)) fun _ => .ret _) fun assets => ?_
  refine Budget.ite (fun _ => trivial) fun _ => ?_
  refine Budget.bind_free (started assets) fun settled => ?_
  exact Within.bind (within_swallow (within_call (hp _ rfl))) fun _ => .ret _

/-- An attempt of a production job buffers its notification or dispatches it. -/
theorem budget_processNotification (hj : job.production = true) (hn : email + (subscriber + group) + sms ≤ n)
    (hb : buffer ≤ n) : Budget (S := Calls) cost n (processNotification env job) := by
  have hp := hc.routine
  have hs : ∀ u, cost (.notificationUpdate job.notificationId u) = 0 := fun _ => hc.free _ rfl
  have deliver : ∀ identity channels,
    Budget (S := Calls) cost n (deliverDecrypted env job identity channels) := by
    intro identity channels
    refine Budget.free_bind (within_clearSuppression (hc.free _ rfl) identity) fun _ => ?_
    refine Budget.free_bind (within_storeOnArweave (of_untold hp)) fun arweaveId => ?_
    refine Budget.bind_free (budget_dispatch hc hn) fun result => Within.ite (fun _ => ?_) fun _ => ?_
    · exact within_recordDelivery hp hs identity arweaveId result
    · exact within_recordAllFailed (fun u _ => hs u) result
  have resolve : Budget (S := Calls) cost n (resolveAndDeliver env job) := by
    refine Budget.free_bind (within_resolveIdentity (of_untold hp) _) fun identity => ?_
    cases identity with
    | none => exact Budget.of_within (within_recordUnregistered hp fun u _ => hs u)
    | some identity =>
      refine Budget.free_bind (within_call (hc.free _ rfl))
        fun channels => Budget.ite (fun _ => ?_) fun _ => ?_
      · exact Budget.of_within (within_call (hs _))
      · exact deliver identity channels
  refine Budget.free_bind (within_call (hp _ rfl)) fun now => ?_
  refine Budget.free_bind (within_call (hs _)) fun _ => ?_
  rw [if_pos hj]
  refine Budget.tryCatch_free (Budget.ite (fun _ => ?_) fun _ => resolve) fun e =>
    within_recordError hp (fun u _ => hs u) e
  refine Budget.bind_free ?_ fun _ => within_call (hs _)
  exact Budget.free_bind (within_call (hp _ rfl)) fun _ => Budget.perform ((hc.buffer _ _ _ _ _).trans hb)

end

end HeraldGateway
