import HeraldGateway.Scheduling.Firing
import HeraldGateway.Gateway.Proofs.IsolationProofs
import HeraldGateway.Async.History
import Mathlib.Data.List.Nodup

/-!
# One undisturbed pass

As long as its calls succeed, a pass takes up the schedules it found one after another: it sets each
running, stores one notification and enqueues its job if there is a wallet, and completes it or sets its
next run.
-/

namespace HeraldGateway

open Async

variable {env : Env} {c : Choice} {s : World} {tr : List GatewayEvent} {e : GatewayEvent}

/-! ### Calls that succeed -/

theorem ok_of_isOk {r : Except Err Unit} (h : r.isOk = true) : r = .ok () := by
  cases r with
  | ok => rfl
  | error e => cases h

theorem row_of_update {id : Nat} {u : ScheduledNotification → ScheduledNotification} (hn : s.Numbered)
    (h : (World.handle env c s (.scheduledUpdate id u)).1.isOk = true) :
    ∃ r, (World.handle env c s (.scheduledUpdate id u)).2.scheduled[id]? = some (u r) := by
  cases hrep : (World.handle env c s (.scheduledUpdate id u)).1 with
  | error e =>
    rw [hrep] at h
    cases h
  | ok a =>
    have hserve := handle_ok hrep
    rw [hserve] at hrep ⊢
    by_cases hany : s.scheduled.any (·.id == id) = true
    · simp only [World.serve, hany, if_true, World.reply]
      obtain ⟨r, hr, hid⟩ := List.any_eq_true.1 hany
      obtain ⟨n, hrow⟩ := List.mem_iff_getElem?.1 hr
      obtain rfl : n = id := (hn n r hrow).symm.trans (eq_of_beq hid)
      exact ⟨r, by simp [updateWhere, hrow, hn n r hrow]⟩
    · simp only [World.serve, hany] at hrep
      cases hrep

theorem storedRow_of_create {n : NewNotification}
    (h : (World.handle env c s (.notificationCreate n)).1.isOk = true) :
    storedRow ((gateway env).handler.event c s (.notificationCreate n)) = some n.id := by
  cases hrep : (World.handle env c s (.notificationCreate n)).1 with
  | error e =>
    rw [hrep] at h
    cases h
  | ok a =>
    have hserve := handle_ok hrep
    simp only [storedRow, Handler.event, gateway, hserve]
    rw [hserve] at hrep
    by_cases hc : s.clashes n = true
    · simp only [World.serve, World.createNotification, hc, if_true] at hrep
      cases hrep
    · simp [World.serve, World.createNotification, hc]

theorem enqueuedJob_of_add {data : NotificationJobData} {id : Nat}
    (h : (World.handle env c s (.notificationAdd data (some id) none)).1.isOk = true)
    (hfree : id ∉ s.takenJobIds) :
    enqueuedJob ((gateway env).handler.event c s (.notificationAdd data (some id) none)) =
      some (data.notificationId, id) := by
  cases hrep : (World.handle env c s (.notificationAdd data (some id) none)).1 with
  | error e =>
    rw [hrep] at h
    cases h
  | ok a =>
    simp [enqueuedJob, Handler.event, gateway, handle_ok hrep, World.serve, World.addJob, World.reply,
      hfree]

/-! ### Histories that grow -/

/-- A call that neither finds schedules nor writes or enqueues anything. -/
def Op.passive : Op → Bool
  | .scheduledFindOverdue _ | .scheduledUpdate .. | .notificationCreate _ | .notificationAdd .. => false
  | _ => true

@[simp] theorem updates_scheduledUpdate {id id' : Nat} {u : ScheduledNotification → ScheduledNotification} :
    (Op.scheduledUpdate id u).updates id' = (id == id') := rfl

@[simp] theorem updates_scheduledFindOverdue {id : Nat} {now : Millis} :
    (Op.scheduledFindOverdue now).updates id = false := rfl

@[simp] theorem updates_notificationCreate {id : Nat} {n : NewNotification} :
    (Op.notificationCreate n).updates id = false := rfl

@[simp] theorem updates_notificationAdd {id : Nat} {data : NotificationJobData} {jobId timeout : Option Nat} :
    (Op.notificationAdd data jobId timeout).updates id = false := rfl

/-- The call finds due schedules. -/
def Op.findsDue : Op → Bool
  | .scheduledFindOverdue _ => true
  | _ => false

@[simp] theorem findsDue_scheduledUpdate {id : Nat} {u : ScheduledNotification → ScheduledNotification} :
    (Op.scheduledUpdate id u).findsDue = false := rfl

@[simp] theorem findsDue_notificationCreate {n : NewNotification} :
    (Op.notificationCreate n).findsDue = false := rfl

@[simp] theorem findsDue_notificationAdd {data : NotificationJobData} {jobId timeout : Option Nat} :
    (Op.notificationAdd data jobId timeout).findsDue = false := rfl

@[simp] theorem foundDue_append : foundDue (tr ++ [e]) = foundDue tr ++ dueRows e.op e.reply := by
  simp [foundDue]

@[simp] theorem storedRows_append : storedRows (tr ++ [e]) = storedRows tr ++ (storedRow e).toList := by
  cases h : storedRow e <;> simp [storedRows, h]

@[simp] theorem enqueuedJobs_append :
    enqueuedJobs (tr ++ [e]) = enqueuedJobs tr ++ (enqueuedJob e).toList := by
  cases h : enqueuedJob e <;> simp [enqueuedJobs, h]

theorem leftIn_append (id : Nat) : leftIn (tr ++ [e]) id =
    if e.op.updates id = true then e.after.scheduleStatus id else leftIn tr id := by
  unfold leftIn
  split
  · next h => simp [h]
  · next h => simp [h]

/-! ### The progress of a pass -/

/-- What every pass keeps: it enqueues the schedules it found in their order, each once and for the
notification it stored, and writes only these, each at most twice. -/
structure PassInvariant (tr : List GatewayEvent) : Prop where
  jobs : (enqueuedJobs tr).map (·.2) <+: (dueSends tr).map (·.id)
  rows : (enqueuedJobs tr).map (·.1) <+: storedRows tr
  open_ : (storedRows tr).length ≤ (enqueuedJobs tr).length + 1
  twice : ∀ id, tr.countP (·.op.updates id) ≤ 2
  found : ∀ id, id ∉ (foundDue tr).map (·.id) → tr.countP (·.op.updates id) = 0
  reads : tr.countP (·.op.findsDue) ≤ 1

/-- Where a pass is: it found `rows`, is through with `done`, has written those in `cur` once, and has
enqueued jobs for `jobs`, but for the notifications `left`. -/
structure PassAt (rows done : List ScheduledNotification) (cur jobs : List Nat)
    (left : List NotificationId) (tr : List GatewayEvent) : Prop where
  found : foundDue tr = rows
  reads : tr.countP (·.op.findsDue) ≤ 1
  stored : storedRows tr = (enqueuedJobs tr).map (·.1) ++ left
  jobs : (enqueuedJobs tr).map (·.2) = jobs
  updates : ∀ id, tr.countP (·.op.updates id) = 2 * (done.map (·.id)).count id + cur.count id
  rearmed : ∀ r ∈ done, r.recurs = true → leftIn tr r.id = some .pending

/-- The identifiers of the schedules among some that name a wallet. -/
def sendIds (rows : List ScheduledNotification) : List Nat :=
  (rows.filter fun r => truthy r.wallet).map (·.id)

section progress

variable {rows done : List ScheduledNotification} {cur jobs : List Nat} {left : List NotificationId}

theorem PassAt.invariant (hp : PassAt rows done cur jobs left tr) (hjobs : jobs <+: sendIds rows)
    (hleft : left.length ≤ 1) (hnodup : (done.map (·.id) ++ cur).Nodup)
    (hsub : ∀ id ∈ done.map (·.id) ++ cur, id ∈ rows.map (·.id)) : PassInvariant tr := by
  have hlen := congrArg List.length hp.stored
  simp only [List.length_append, List.length_map] at hlen
  refine ⟨?_, ⟨left, hp.stored.symm⟩, by omega, fun id => ?_, fun id hid => ?_, hp.reads⟩
  · rw [hp.jobs, dueSends, hp.found]
    exact hjobs
  · have hcount := List.nodup_iff_count_le_one.1 hnodup id
    rw [List.count_append] at hcount
    rw [hp.updates id]
    omega
  · have hcount : (done.map (·.id) ++ cur).count id = 0 :=
      List.count_eq_zero.2 fun hmem => hid (hp.found ▸ hsub id hmem)
    rw [List.count_append] at hcount
    rw [hp.updates id]
    omega

/-- A passive call changes nothing of it. -/
theorem PassAt.passive (hp : PassAt rows done cur jobs left tr) (he : e.op.passive = true) :
    PassAt rows done cur jobs left (tr ++ [e]) := by
  obtain ⟨choice, before, o, reply, after⟩ := e
  have hdue : dueRows o reply = [] := by cases o <;> first | rfl | cases he
  have hstored : storedRow ⟨choice, before, o, reply, after⟩ = none := by
    cases o <;> first | rfl | cases he
  have hjob : enqueuedJob ⟨choice, before, o, reply, after⟩ = none := by
    cases o <;> first | rfl | cases he
  have hreads : o.findsDue = false := by cases o <;> first | rfl | cases he
  have hupdates : ∀ id, o.updates id = false := fun id => by cases o <;> first | rfl | cases he
  refine ⟨?_, ?_, ?_, ?_, fun id => ?_, fun r hr hrec => ?_⟩
  · simp [hdue, hp.found]
  · simp [hreads, hp.reads]
  · simp [hstored, hjob, hp.stored]
  · simp [hjob, hp.jobs]
  · simp [hupdates, hp.updates]
  · rw [leftIn_append, if_neg (by simp [hupdates])]
    exact hp.rearmed r hr hrec

/-- Writing a schedule that it is not through with counts for that schedule. -/
theorem PassAt.update {id : Nat} {u : ScheduledNotification → ScheduledNotification}
    (hp : PassAt rows done cur jobs left tr) (he : e.op = .scheduledUpdate id u)
    (hid : id ∉ done.map (·.id)) : PassAt rows done (id :: cur) jobs left (tr ++ [e]) := by
  obtain ⟨choice, before, o, reply, after⟩ := e
  obtain rfl : o = .scheduledUpdate id u := he
  refine ⟨?_, ?_, ?_, ?_, fun id' => ?_, fun r hr hrec => ?_⟩
  · simp [dueRows, hp.found]
  · simp [hp.reads]
  · simp [storedRow, enqueuedJob, hp.stored]
  · simp [enqueuedJob, hp.jobs]
  · simp [hp.updates id', List.count_cons, Nat.add_assoc]
  · have hne : id ≠ r.id := fun h => hid (h ▸ List.mem_map_of_mem hr)
    rw [leftIn_append, if_neg (by simp [hne])]
    exact hp.rearmed r hr hrec

/-- Storing a notification leaves it to be enqueued. -/
theorem PassAt.store {n : NewNotification} (hp : PassAt rows done cur jobs [] tr)
    (he : e.op = .notificationCreate n) (hrow : storedRow e = some n.id) :
    PassAt rows done cur jobs [n.id] (tr ++ [e]) := by
  obtain ⟨choice, before, o, reply, after⟩ := e
  obtain rfl : o = .notificationCreate n := he
  refine ⟨?_, ?_, ?_, ?_, fun id => ?_, fun r hr hrec => ?_⟩
  · simp [dueRows, hp.found]
  · simp [hp.reads]
  · simp [hrow, enqueuedJob, hp.stored]
  · simp [enqueuedJob, hp.jobs]
  · simp [hp.updates]
  · rw [leftIn_append, if_neg (by simp)]
    exact hp.rearmed r hr hrec

/-- Enqueueing its job settles it. -/
theorem PassAt.enqueue {data : NotificationJobData} {id : Nat} {timeout : Option Nat}
    (hp : PassAt rows done cur jobs [data.notificationId] tr)
    (he : e.op = .notificationAdd data (some id) timeout)
    (hjob : enqueuedJob e = some (data.notificationId, id)) :
    PassAt rows done cur (jobs ++ [id]) [] (tr ++ [e]) := by
  obtain ⟨choice, before, o, reply, after⟩ := e
  obtain rfl : o = .notificationAdd data (some id) timeout := he
  refine ⟨?_, ?_, ?_, ?_, fun id' => ?_, fun r hr hrec => ?_⟩
  · simp [dueRows, hp.found]
  · simp [hp.reads]
  · simp [storedRow, hjob, hp.stored]
  · simp [hjob, hp.jobs]
  · simp [hp.updates]
  · rw [leftIn_append, if_neg (by simp)]
    exact hp.rearmed r hr hrec

/-- A schedule that was written twice, the second time for its next run if there is one, is done with. -/
theorem PassAt.through {r : ScheduledNotification} (hp : PassAt rows done [r.id, r.id] jobs left tr)
    (hr : r.recurs = true → leftIn tr r.id = some .pending) :
    PassAt rows (done ++ [r]) [] jobs left tr := by
  refine ⟨hp.found, hp.reads, hp.stored, hp.jobs, fun id => ?_, fun r' hr' hrec => ?_⟩
  · simp only [hp.updates id, List.map_append, List.map_cons, List.map_nil, List.count_append,
      List.count_cons, List.count_nil]
    omega
  · rcases List.mem_append.1 hr' with hr' | hr'
    · exact hp.rearmed r' hr' hrec
    · obtain rfl := List.mem_singleton.1 hr'
      exact hr hrec

end progress

/-! ### The program of a pass -/

/-- The calls of an undisturbed pass, over stores whose schedules are numbered by their places. -/
def PassLaw (tr : List GatewayEvent) (e : GatewayEvent) : Prop := CallSucceeds tr e ∧ e.before.Numbered

/-- After a history, an undisturbed program keeps what every pass keeps, and ends in `Q`. -/
abbrev Gateway.Logs {α : Type} (env : Env) (Q : List GatewayEvent → Except Err α → Prop) (p : Gateway α)
    (tr : List GatewayEvent) : Prop :=
  Async.Logs (S := Calls) (World.handle env) PassLaw PassInvariant Q p tr

theorem sendIds_append (rows rows' : List ScheduledNotification) :
    sendIds (rows ++ rows') = sendIds rows ++ sendIds rows' := by
  simp [sendIds]

section program

variable {rows done rest : List ScheduledNotification} {r : ScheduledNotification} {cur jobs : List Nat}
  {left : List NotificationId} (hrows : rows = done ++ r :: rest) (hnodup : (rows.map (·.id)).Nodup)

include hrows hnodup

theorem not_mem_done : r.id ∉ done.map (·.id) := by
  rw [hrows, List.map_append, List.map_cons] at hnodup
  exact fun h => (List.nodup_append.1 hnodup).2.2 _ h _ List.mem_cons_self rfl

/-- Handling `r` keeps what every pass keeps. -/
theorem PassAt.during {done' : List ScheduledNotification} (hp : PassAt rows done' cur jobs left tr)
    (hsub : (done'.map (·.id) ++ cur).Sublist ((done ++ [r]).map (·.id)))
    (hjobs : jobs = sendIds done ∨ jobs = sendIds (done ++ [r])) (hleft : left.length ≤ 1) :
    PassInvariant tr := by
  have hprefix : (done ++ [r]).map (·.id) <+: rows.map (·.id) :=
    ⟨rest.map (·.id), by simp [hrows]⟩
  refine hp.invariant ?_ hleft ((hsub.trans hprefix.sublist).nodup hnodup) fun id hid =>
    hprefix.subset (hsub.subset hid)
  rcases hjobs with rfl | rfl
  · exact ⟨sendIds (r :: rest), by rw [hrows, sendIds_append]⟩
  · exact ⟨sendIds rest, by rw [hrows, ← sendIds_append, List.append_assoc, List.singleton_append]⟩

/-- A passive call changes nothing. -/
theorem logs_passive {o : Op} (ho : o.passive = true) (hp : PassAt rows done [r.id] jobs left tr)
    (hjobs : jobs = sendIds done ∨ jobs = sendIds (done ++ [r])) (hleft : left.length ≤ 1) :
    (call o).Logs env (fun tr' res => PassAt rows done [r.id] jobs left tr' ∧
      ∃ c s, res = (World.handle env c s o).1 ∧ PassLaw tr ((gateway env).handler.event c s o)) tr := by
  refine Logs.perform fun c s hl => ?_
  have hp' := hp.passive (e := (World.handle env).event c s o) ho
  exact ⟨hp'.during hrows hnodup (by simp) hjobs hleft, hp', c, s, rfl, hl⟩

/-- The schedule is set running. -/
theorem logs_claim {u : ScheduledNotification → ScheduledNotification}
    (hp : PassAt rows done [] (sendIds done) [] tr) :
    (call (.scheduledUpdate r.id u)).Logs env (fun tr' res => res = .ok () ∧
      PassAt rows done [r.id] (sendIds done) [] tr') tr := by
  refine Logs.perform fun c s hl => ?_
  have hp' := hp.update (e := (World.handle env).event c s (.scheduledUpdate r.id u)) rfl
    (not_mem_done hrows hnodup)
  exact ⟨hp'.during hrows hnodup (by simp) (.inl rfl) (Nat.zero_le 1), ok_of_isOk hl.1, hp'⟩

/-- The notification of a schedule is stored and its job enqueued, if it names a wallet. -/
theorem logs_enqueueScheduled {now : Millis} (hp : PassAt rows done [r.id] (sendIds done) [] tr) :
    (enqueueScheduled env now r).Logs env (fun tr' res => res = .ok () ∧
      PassAt rows done [r.id] (sendIds (done ++ [r])) [] tr') tr := by
  unfold enqueueScheduled
  split
  · next hw =>
    have hjobs : sendIds done ++ [r.id] = sendIds (done ++ [r]) := by simp [sendIds, hw]
    refine (logs_passive hrows hnodup (o := .uuid) rfl hp (.inl rfl) (Nat.zero_le 1)).bind
      (fun tr₁ id h₁ => ?_) fun _ _ h => ?_
    · refine Logs.bind (Q := fun tr' res => res = .ok () ∧ PassAt rows done [r.id] (sendIds done) [id] tr')
        (Logs.perform fun c s hl => ?_) (fun tr₂ _ h₂ => ?_) fun _ _ h => nomatch h.1
      · have hp₂ := h₁.1.store (e := (World.handle env).event c s _) rfl (storedRow_of_create hl.1)
        exact ⟨hp₂.during hrows hnodup (by simp) (.inl rfl) le_rfl, ok_of_isOk hl.1, hp₂⟩
      · refine Logs.perform fun c s hl => ?_
        have hfree : r.id ∉ s.takenJobIds := hl.1.2 _ rfl
        have hp₃ := h₂.2.enqueue (e := (World.handle env).event c s _) rfl
          (enqueuedJob_of_add hl.1.1 hfree)
        rw [hjobs] at hp₃
        exact ⟨hp₃.during hrows hnodup (by simp) (.inr rfl) (Nat.zero_le 1), ok_of_isOk hl.1.1, hp₃⟩
    · obtain ⟨-, c, s, hres, -⟩ := h
      cases hres
  · next hw =>
    have hjobs : sendIds (done ++ [r]) = sendIds done := by simp [sendIds, hw]
    exact ⟨rfl, hjobs ▸ hp⟩

/-- A schedule is completed, or its next run is set. -/
theorem logs_rearm (hp : PassAt rows done [r.id] (sendIds (done ++ [r])) [] tr) :
    (rearm r).Logs env (fun tr' res => res = .ok () ∧
      PassAt rows (done ++ [r]) [] (sendIds (done ++ [r])) [] tr') tr := by
  have hid := not_mem_done hrows hnodup
  -- the second write of the schedule
  have write : ∀ (u : ScheduledNotification → ScheduledNotification) tr₁,
      PassAt rows done [r.id] (sendIds (done ++ [r])) [] tr₁ →
      (r.recurs = true → ∀ row, (u row).status = .pending) →
      (call (.scheduledUpdate r.id u)).Logs env (fun tr' res => res = .ok () ∧
        PassAt rows (done ++ [r]) [] (sendIds (done ++ [r])) [] tr') tr₁ := by
    intro u tr₁ hp₁ hu
    refine Logs.perform fun c s hl => ?_
    have hp₂ : PassAt rows (done ++ [r]) [] (sendIds (done ++ [r])) [] (tr₁ ++ [_]) :=
      (hp₁.update (e := (World.handle env).event c s (.scheduledUpdate r.id u)) rfl hid).through
        fun hrec => by
          obtain ⟨row, hrow⟩ := row_of_update hl.2 hl.1
          refine (leftIn_append r.id).trans ((if_pos (beq_self_eq_true r.id)).trans ?_)
          exact (congrArg (Option.map (·.status)) hrow).trans (congrArg some (hu hrec row))
    exact ⟨hp₂.during hrows hnodup (by simp) (.inr rfl) (Nat.zero_le 1), ok_of_isOk hl.1, hp₂⟩
  unfold rearm
  split
  · next hrec =>
    have date : (getNextCronRun (r.cronExpr.getD [])).Logs env (fun tr' res =>
        ∃ date, res = .ok (some date) ∧ PassAt rows done [r.id] (sendIds (done ++ [r])) [] tr') tr := by
      refine (logs_passive hrows hnodup (o := .now) rfl hp (.inr rfl) (Nat.zero_le 1)).bind
        (fun tr₁ now h₁ => ?_) fun _ _ h => ?_
      · obtain ⟨hp₁, c, s, hnow, hl⟩ := h₁
        obtain rfl := Except.ok.inj hnow
        have hsome := hl.1 r (by rw [hp.found, hrows]; simp) hrec
        obtain ⟨date, hdate⟩ := Option.isSome_iff_exists.1 hsome
        exact ⟨date, congrArg Except.ok hdate, hp₁⟩
      · obtain ⟨-, c, s, hres, -⟩ := h
        cases hres
    refine date.bind (fun tr₁ found h₁ => ?_) fun _ _ h => ?_
    · obtain ⟨date, hdate, hp₁⟩ := h₁
      obtain rfl := Except.ok.inj hdate
      exact write _ tr₁ hp₁ fun _ _ => rfl
    · obtain ⟨_, hdate, -⟩ := h
      cases hdate
  · next hrec => exact write _ tr hp fun h => absurd h hrec

/-- A due schedule is handled. -/
theorem logs_reconcileJob {now : Millis} (hp : PassAt rows done [] (sendIds done) [] tr) :
    (reconcileJob env now r).Logs env (fun tr' res => res = .ok () ∧
      PassAt rows (done ++ [r]) [] (sendIds (done ++ [r])) [] tr') tr := by
  refine Logs.tryCatch (Q := fun tr' res => res = .ok () ∧
    PassAt rows (done ++ [r]) [] (sendIds (done ++ [r])) [] tr') ?_ (fun _ _ h => h)
    fun _ _ h => nomatch h.1
  refine (logs_claim hrows hnodup hp).bind (fun tr₁ _ h₁ => ?_) fun _ _ h => nomatch h.1
  refine (logs_enqueueScheduled hrows hnodup h₁.2).bind (fun tr₂ _ h₂ => ?_) fun _ _ h => nomatch h.1
  exact logs_rearm hrows hnodup h₂.2

end program

/-- What an undisturbed pass has done in the end. -/
def PassEnded (tr : List GatewayEvent) : Prop :=
  (enqueuedJobs tr).map (·.2) = (dueSends tr).map (·.id) ∧
    storedRows tr = (enqueuedJobs tr).map (·.1) ∧
      ∀ r ∈ foundDue tr, r.recurs = true → leftIn tr r.id = some .pending

theorem PassAt.ended {rows : List ScheduledNotification} (hp : PassAt rows rows [] (sendIds rows) [] tr) :
    PassEnded tr := by
  refine ⟨?_, ?_, ?_⟩
  · rw [hp.jobs, dueSends, hp.found, sendIds]
  · rw [hp.stored, List.append_nil]
  · rw [hp.found]
    exact hp.rearmed

/-- The read of a pass. -/
theorem PassAt.read {now : Millis} (hp : PassAt [] [] [] [] [] tr) (hreads : tr.countP (·.op.findsDue) = 0)
    (he : e.op = .scheduledFindOverdue now) : PassAt (dueRows e.op e.reply) [] [] [] [] (tr ++ [e]) := by
  obtain ⟨choice, before, o, reply, after⟩ := e
  obtain rfl : o = .scheduledFindOverdue now := he
  refine ⟨?_, ?_, ?_, ?_, fun id => ?_, nofun⟩
  · simp [hp.found]
  · rw [List.countP_append, hreads, Nat.zero_add]
    exact List.countP_le_length
  · simp [storedRow, enqueuedJob, hp.stored]
  · simp [enqueuedJob, hp.jobs]
  · simp [hp.updates]

theorem passAt_nil : PassAt [] [] [] [] [] [] := ⟨rfl, Nat.zero_le 1, rfl, rfl, fun _ => rfl, nofun⟩

/-- What is found due has distinct identifiers. -/
theorem nodup_dueRows (hn : s.Numbered) {o : Op} :
    ((dueRows o (World.handle env c s o).1).map (·.id)).Nodup := by
  have hids : (s.scheduled.map (·.id)).Nodup := by
    refine List.pairwise_iff_getElem.2 fun i j hi hj hij => ?_
    simp only [List.length_map] at hi hj
    simp only [List.getElem_map, hn i _ (List.getElem?_eq_getElem hi), hn j _ (List.getElem?_eq_getElem hj)]
    omega
  cases o with
  | scheduledFindOverdue now =>
    cases hrep : (World.handle env c s (.scheduledFindOverdue now)).1 with
    | error e => exact List.nodup_nil
    | ok rows =>
      rw [handle_ok hrep] at hrep
      obtain rfl := Except.ok.inj hrep
      exact (((List.take_sublist _ _).trans List.filter_sublist).map _).nodup hids
  | _ => exact List.nodup_nil

/-- An undisturbed pass keeps the invariant, and has handled all it found in the end. -/
theorem logs_reconcile : (Task.code env .reconcile).Logs env (fun tr _ => PassEnded tr) [] := by
  have start : ∀ {rows tr}, PassAt rows [] [] [] [] tr → PassInvariant tr := fun hp =>
    hp.invariant (List.nil_prefix) (Nat.zero_le 1) List.nodup_nil nofun
  refine Logs.bind (Q := fun tr _ => PassEnded tr) ?_ (fun _ _ h => h) fun _ _ h => h
  refine Logs.bind (Q := fun tr _ => PassAt [] [] [] [] [] tr ∧ tr.countP (·.op.findsDue) = 0)
    (Logs.perform fun c s _ => ?_) (fun tr₁ now h₁ => ?_) fun _ _ h => h.1.ended
  · have hp := passAt_nil.passive (e := (World.handle env).event c s .now) rfl
    exact ⟨start hp, hp, rfl⟩
  · refine Logs.bind (Q := fun tr' res => ∃ rows, PassAt rows [] [] [] [] tr' ∧
      (∀ overdue, res = .ok overdue → rows = overdue ∧ (rows.map (·.id)).Nodup) ∧
        (∀ e, res = .error e → rows = [])) (Logs.perform fun c s hl => ?_) (fun tr₂ overdue h₂ => ?_)
      fun _ _ h => ?_
    · have hp := h₁.1.read h₁.2 (e := (World.handle env).event c s (.scheduledFindOverdue now)) rfl
      refine ⟨start hp, _, hp, fun overdue hres => ⟨?_, nodup_dueRows hl.2⟩, fun e hres => ?_⟩
      · simp only [Handler.event, hres, dueRows]
      · simp only [Handler.event, hres, dueRows]
    · obtain ⟨rows, hp, hok, -⟩ := h₂
      obtain ⟨rfl, hnodup⟩ := hok overdue rfl
      refine (Logs.forEach (M := fun done tr => PassAt rows done [] (sendIds done) [] tr)
        (fun done r rest hrows tr hM => logs_reconcileJob hrows hnodup hM) hp).mono fun tr res h => ?_
      exact h.2.ended
    · obtain ⟨rows, hp, -, herr⟩ := h
      obtain rfl := herr _ rfl
      exact hp.ended

end HeraldGateway
