import HeraldGateway.Scheduling.Firing
import HeraldGateway.Gateway.Proofs.IsolationProofs

/-!
# Cancelled schedules stay cancelled if no pass still has them in hand

A pass reads the due schedules first and writes them later without looking at their status again. One
that had read a schedule when it was cancelled sets it running and enqueues it. Passes that read later do
not find it.
-/

namespace HeraldGateway

open Async

variable {env : Env} {c : Choice} {s s' : World} {o : Op} {id : Nat}

/-! ### What tasks call -/

/-- A task concerns a schedule only if it finds it due. -/
theorem doneWith_code (task : Task) : DoneWith id (task.code env) := by
  refine within_code_of_quiet (fun o ho => ?_) (fun _ => rfl) (fun _ => rfl) fun _ => ⟨?_, ?_⟩
  · cases o with
    | notificationAdd | scheduledUpdate => cases ho
    | _ => rfl
  · exact fun _ overdue hg row hrow _ _ => beq_false_of_ne (hg row hrow)
  · exact fun _ overdue hg row hrow _ _ => beq_false_of_ne fun h => hg row hrow (Option.some.inj h)

/-- No task gives up on an add with an identifier of its own. -/
def Op.untimed : Op → Prop
  | .notificationAdd _ jobId (some _) => jobId = none
  | _ => True

theorem untimed_code (task : Task) : (task.code env).Within Op.untimed fun _ _ => True := by
  refine within_code_of_quiet (fun o ho => ?_) (fun _ => rfl) (fun _ => trivial) fun _ =>
    ⟨fun _ _ _ _ _ _ _ => trivial, fun _ _ _ _ _ _ _ => trivial⟩
  cases o with
  | notificationAdd => cases ho
  | _ => trivial

/-! ### What happens to a cancelled schedule -/

/-- A cancelled schedule stays so, and nothing is enqueued for it. -/
structure KeepsCancelled (id : Nat) (s s' : World) : Prop where
  status : s.scheduleStatus id = some .cancelled → s'.scheduleStatus id = some .cancelled
  enqueued : s'.enqueuedFor id = s.enqueuedFor id

theorem KeepsCancelled.of_eq (hs : s'.scheduled = s.scheduled)
    (hq : s'.notificationQueue = s.notificationQueue) : KeepsCancelled id s s' where
  status h := by rwa [World.scheduleStatus, hs]
  enqueued := by rw [World.enqueuedFor, World.enqueuedFor, hq]

/-- An update that spares cancelled rows of the number spares the schedule. -/
theorem keepsCancelled_update {f : ScheduledNotification → Bool}
    {u : ScheduledNotification → ScheduledNotification}
    (hf : ∀ r, s.scheduled[id]? = some r → r.status = .cancelled → f r = false)
    (hs : s'.scheduled = updateWhere f u s.scheduled) (hq : s'.notificationQueue = s.notificationQueue) :
    KeepsCancelled id s s' where
  status h := by
    obtain ⟨r, hr, hstatus⟩ := Option.map_eq_some_iff.1 h
    simp [World.scheduleStatus, hs, updateWhere, hr, hf r hr hstatus, hstatus]
  enqueued := by rw [World.enqueuedFor, World.enqueuedFor, hq]

theorem keepsCancelled_addJob {j : QueuedJob} (hj : j.jobId ≠ some id) :
    KeepsCancelled id s (s.addJob j) := by
  unfold World.addJob
  split
  · exact .of_eq rfl rfl
  · refine ⟨fun h => h, ?_⟩
    simp [World.enqueuedFor, hj]

/-- A call that does not concern the schedule keeps it cancelled. -/
theorem keepsCancelled_handle (hn : s.Numbered) (ho : o.concerns id = false) :
    KeepsCancelled id s (World.handle env c s o).2 := by
  by_cases hs : o.table = .scheduled
  · refine handle_rel (.of_eq rfl rfl) ?_ fun _ => .of_eq rfl rfl
    cases o with
    | scheduledCreate data =>
      refine ⟨fun h => ?_, rfl⟩
      obtain ⟨r, hr, hstatus⟩ := Option.map_eq_some_iff.1 h
      have hlt := (List.getElem?_eq_some_iff.1 hr).1
      simp [World.scheduleStatus, World.serve, World.reply, List.getElem?_append_left hlt, hr, hstatus]
    | scheduledUpdate id' u =>
      simp only [World.serve]
      split
      · refine keepsCancelled_update (f := (·.id == id')) (u := u) (fun r hr _ => ?_) rfl rfl
        rw [hn id r hr]
        exact beq_false_of_ne fun h => beq_eq_false_iff_ne.1 ho h.symm
      · exact .of_eq rfl rfl
    | scheduledCancel id' protocolId =>
      refine keepsCancelled_update
        (f := fun r => r.id == id' && r.protocolId == protocolId && r.status == .pending)
        (u := fun r => { r with status := .cancelled }) (fun r _ hstatus => ?_) rfl rfl
      simp [hstatus]
    | _ => cases hs
  · by_cases hq : o.table = .queue
    · refine handle_rel (.of_eq rfl rfl) ?_ fun _ => .of_eq rfl rfl
      cases o with
      | notificationAdd data jobId timeout => exact keepsCancelled_addJob (beq_eq_false_iff_ne.1 ho)
      | _ => cases hq
    · exact .of_eq (handle_untouched.scheduled hs) (handle_untouched.queue hq)

theorem keepsCancelled_change {e : Change} (ha : s.Anonymous) (h : e.apply s = some s') :
    KeepsCancelled id s s' := by
  cases e with
  | completeAdd i =>
    obtain ⟨j, hj, rfl⟩ := Option.map_eq_some_iff.1 h
    have hnone := ha j (List.mem_of_getElem? hj)
    have hkeeps : KeepsCancelled id s (s.addJob { j with addedAt := s.now }) :=
      keepsCancelled_addJob (by rw [hnone]; nofun)
    exact ⟨hkeeps.status, hkeeps.enqueued⟩
  | tick | removeJob | configure =>
    obtain rfl := Option.some.inj h
    exact .of_eq rfl rfl

/-! ### What is given up on -/

theorem anonymous_handle (ha : s.Anonymous) (ho : o.untimed) :
    (World.handle env c s o).2.Anonymous := by
  by_cases hq : o.table = .queue
  · cases o with
    | notificationAdd data jobId timeout =>
      rcases @handle_cases env c s (.notificationAdd data jobId timeout) with
        h | h | ⟨data', jobId', ms, heq, h⟩ <;> rw [h]
      · exact ha
      · simp only [World.serve, World.addJob, World.reply]
        split <;> exact ha
      · cases heq
        exact List.forall_mem_append.2 ⟨ha, List.forall_mem_singleton.2 ho⟩
    | _ => cases hq
  · exact fun j hj => ha j (handle_untouched.pending hq ▸ hj)

theorem anonymous_change {e : Change} (ha : s.Anonymous) (h : e.apply s = some s') : s'.Anonymous := by
  cases e with
  | completeAdd i =>
    obtain ⟨j, -, rfl⟩ := Option.map_eq_some_iff.1 h
    exact fun j' hj' => ha j' (List.mem_of_mem_eraseIdx hj')
  | tick | removeJob | configure =>
    obtain rfl := Option.some.inj h
    exact ha

/-! ### Runs -/

variable {p₁ p p' p₂ : GatewayPool} {l : GatewayLabel} {ls₁ ls₂ : List GatewayLabel}

/-- What every pool satisfies that is reached from a store whose schedules are numbered. -/
structure SchedulesInOrder (env : Env) (p : GatewayPool) : Prop where
  traced : (gateway env).Traced p
  numbered : p.store.Numbered
  anonymous : p.store.Anonymous

theorem schedulesInOrder_step (h : (gateway env).step p l = some p') (hp : SchedulesInOrder env p) :
    SchedulesInOrder env p' := by
  refine ⟨hp.traced.step h, (keepsSchedules_step hp.traced h).numbered hp.numbered, ?_⟩
  rcases System.store_cases h with hstore | ⟨i, c, t, o, k, -, ht, hprog, hstore⟩ | ⟨e, -, he⟩
  · rw [hstore]
    exact hp.anonymous
  · rw [hstore]
    have hrun := hp.traced i t ht
    rw [hprog] at hrun
    exact anonymous_handle hp.anonymous (hrun.along (untimed_code t.request) fun _ _ => trivial).1.1
  · exact anonymous_change hp.anonymous he

theorem schedulesInOrder_of_run (hn : s.Numbered) (ha : s.Anonymous)
    (hr : (gateway env).run (Pool.empty s) ls₁ = some p) : SchedulesInOrder env p :=
  System.run_induction (fun _ _ _ hp h => schedulesInOrder_step h hp) hr ⟨System.traced_empty s, hn, ha⟩

/-- What holds since the schedule was cancelled in `p₁`. -/
structure CancellationInvariant (env : Env) (id : Nat) (p₁ p : GatewayPool) : Prop where
  order : SchedulesInOrder env p
  stays : StaysCancelled id p₁ p
  later : ∀ i t, p₁.threads.length ≤ i → p.threads[i]? = some t → DoneWith id t.prog

/-- A read does not find a cancelled schedule due. -/
theorem notDue_of_cancelled (hn : s.Numbered) (hs : s.scheduleStatus id = some .cancelled) :
    NotDue id o (World.handle env c s o).1 := by
  cases o with
  | scheduledFindOverdue now =>
    cases hrep : (World.handle env c s (.scheduledFindOverdue now)).1 with
    | error e => trivial
    | ok rows =>
      rintro r hr rfl
      rw [handle_ok hrep] at hrep
      obtain rfl := Except.ok.inj hrep
      obtain ⟨hmem, hpending⟩ := List.mem_filter.1 (List.mem_of_mem_take hr)
      obtain ⟨n, hrow⟩ := List.mem_iff_getElem?.1 hmem
      obtain rfl := hn n r hrow
      simp_all [World.scheduleStatus]
  | _ => trivial

theorem cancellationInvariant_step (hok : ResumesDone id p₁ p l)
    (h : (gateway env).step p l = some p') (hp : CancellationInvariant env id p₁ p) :
    CancellationInvariant env id p₁ p' := by
  have hdone : ∀ i c t, l = .pick i c → p.threads[i]? = some t → DoneWith id t.prog := by
    rintro i c t rfl ht
    rcases Nat.lt_or_ge i p₁.threads.length with hi | hi
    · exact hok hi t ht
    · exact hp.later i t hi ht
  have hkeeps : KeepsCancelled id p.store p'.store := by
    rcases System.store_cases h with hstore | ⟨i, c, t, o, k, hl, ht, hprog, hstore⟩ | ⟨e, -, he⟩
    · rw [hstore]
      exact .of_eq rfl rfl
    · have hd := hdone i c t hl ht
      rw [hprog] at hd
      rw [hstore]
      exact keepsCancelled_handle hp.order.numbered hd.1
    · exact keepsCancelled_change hp.order.anonymous he
  refine ⟨schedulesInOrder_step h hp.order, ⟨hkeeps.status hp.stays.status,
    hkeeps.enqueued.trans hp.stays.enqueued⟩, fun i t' hi ht' => ?_⟩
  rcases System.thread_cases h ht' with ht | ⟨r, -, -, -, rfl⟩ | ⟨t, c, k, -, ht, hprog, -, rfl⟩ |
    ⟨t, c, o, k, -, ht, hprog, -, rfl⟩
  · exact hp.later i t' hi ht
  · exact doneWith_code r
  · have hd := hp.later i t hi ht
    rw [hprog] at hd
    exact hd c.1
  · have hd := hp.later i t hi ht
    rw [hprog] at hd
    exact hd.2 _ (notDue_of_cancelled hp.order.numbered hp.stays.status)

/-- Where no pass goes on that still has the schedule in hand, a cancelled schedule stays cancelled, and
nothing is enqueued for it any more. -/
theorem cancelled_stays (hn : s.Numbered) (ha : s.Anonymous)
    (hr₁ : (gateway env).run (Pool.empty s) ls₁ = some p₁)
    (hc : p₁.store.scheduleStatus id = some .cancelled)
    (hok : (gateway env).Keeps (ResumesDone id p₁) p₁ ls₂)
    (hr₂ : (gateway env).run p₁ ls₂ = some p₂) : StaysCancelled id p₁ p₂ :=
  (System.Keeps.induction (I := CancellationInvariant env id p₁)
    (fun _ _ _ hok hp h => cancellationInvariant_step hok h hp) hok hr₂
    ⟨schedulesInOrder_of_run hn ha hr₁, ⟨hc, rfl⟩,
      fun _ _ hi ht => absurd (List.getElem?_eq_some_iff.1 ht).1 (Nat.not_lt.2 hi)⟩).stays

/-! ### Runs that keep and break it -/

theorem anonymous_blank : World.blank.Anonymous := fun _ hj => absurd hj List.not_mem_nil

/-- A client stores a schedule that is due, and cancels it. -/
def storedAndCancelled : List GatewayLabel :=
  .arrive (.scheduleOnce (schedule (some (js "w"))) (client .production)) :: proceeds 0 1 ++
    .arrive (.cancelScheduled 0 (client .production)) :: proceeds 1 1

/-- A pass of the scheduler. -/
def laterPass : List GatewayLabel := .arrive .reconcile :: proceeds 2 2

theorem cancelled_stays_laterPass :
    ∃ p₁ ∈ replayFrom World.blank storedAndCancelled,
      ∃ p₂ ∈ (gateway Env.transparent).run p₁ laterPass, StaysCancelled 0 p₁ p₂ := by
  obtain ⟨p₁, h₁, hlen, hc, hsome⟩ : ∃ p ∈ replayFrom World.blank storedAndCancelled,
      p.threads.length = 2 ∧ p.store.scheduleStatus 0 = some .cancelled ∧
        ((gateway Env.transparent).run p laterPass).isSome := by decide +kernel
  obtain ⟨p₂, h₂⟩ := Option.isSome_iff_exists.1 hsome
  have hok : (gateway Env.transparent).Keeps (ResumesDone 0 p₁) p₁ laterPass := by
    refine System.Keeps.of_labels _ fun l hl p => ?_
    rcases List.mem_cons.1 hl with rfl | hl
    · trivial
    · obtain rfl := List.eq_of_mem_replicate hl
      exact fun hi => absurd hi (by omega)
  exact ⟨p₁, h₁, p₂, h₂, cancelled_stays numbered_blank anonymous_blank h₁ hc hok h₂⟩

/-- A pass of the scheduler has read the schedule when it is cancelled. -/
def cancelledInHand : List GatewayLabel :=
  .arrive (.scheduleOnce (schedule (some (js "w"))) (client .production)) :: proceeds 0 1 ++
    .arrive .reconcile :: proceeds 1 2 ++
    .arrive (.cancelScheduled 0 (client .production)) :: proceeds 2 1

/-- The pass goes on, enqueues the cancelled schedule and completes it. -/
theorem cancelled_enqueued :
    ∃ p₁ ∈ replayFrom World.blank cancelledInHand, p₁.store.scheduleStatus 0 = some .cancelled ∧
      ∃ p₂ ∈ (gateway Env.transparent).run p₁ (proceeds 1 5), ¬ StaysCancelled 0 p₁ p₂ := by
  have hrun : ∃ p₁ ∈ replayFrom World.blank cancelledInHand,
      p₁.store.scheduleStatus 0 = some .cancelled ∧
        ∃ p₂ ∈ (gateway Env.transparent).run p₁ (proceeds 1 5),
          p₂.store.scheduleStatus 0 = some .completed := by decide +kernel
  obtain ⟨p₁, h₁, hc, p₂, h₂, hcompleted⟩ := hrun
  refine ⟨p₁, h₁, hc, p₂, h₂, fun h => ?_⟩
  rw [h.status] at hcompleted
  cases hcompleted

end HeraldGateway
