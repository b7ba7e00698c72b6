import HeraldGateway.Async.Budget
import HeraldGateway.Delivery.Digests
import HeraldGateway.Gateway.Proofs.ConsentProofs
import HeraldGateway.Gateway.Proofs.CostsProofs

/-!
# Digest mode where nobody asked for it

No producer sets the digest mode of a job, so no attempt of a production job buffers its notification. Whoever
is not in digest mode is served as they wish.
-/

namespace HeraldGateway

open Async

variable {env : Env} {job : NotificationJobData} {s : World} {o : Op}

/-! ### Producers -/

/-- A job is not for the digest buffer. -/
def Undigested (job : NotificationJobData) : Prop := job.digestMode = false

theorem undigested_enqueue {data : NotificationJobData} (h : data.digestMode = false) :
    ∀ a ∈ (Op.enqueue data).added?, Undigested a.1 := by
  rintro a ha
  obtain rfl := Option.some.inj ha
  exact h

/-- No task adds a job for the digest buffer. -/
theorem adds_undigested (task : Task) :
    (task.code env).Within (fun o => ∀ a ∈ o.added?, Undigested a.1) fun _ _ => True := by
  have silent : ∀ o : Op, o.added? = none → ∀ a ∈ o.added?, Undigested a.1 := fun o ho a ha => by
    rw [ho] at ha
    cases ha
  have hq : ∀ o : Op, o.quiet = true → ∀ a ∈ o.added?, Undigested a.1 :=
    fun o ho => silent o (added_of_quiet ho)
  have notify : ∀ dto protocol, NotifyAdds env (fun o => ∀ a ∈ o.added?, Undigested a.1)
      (fun _ _ => True) dto protocol := fun _ _ =>
    ⟨fun _ _ => hq _ rfl, fun _ _ _ _ => undigested_enqueue rfl, fun _ _ _ _ _ _ _ => undigested_enqueue rfl,
      fun _ _ _ => undigested_enqueue rfl⟩
  refine within_code (fun o ho => hq o (quiet_of_plain ho)) ?_
  cases task with
  | notify dto protocol => exact notify dto protocol
  | notifyBatch dto protocol => exact fun _ _ => notify _ protocol
  | systemBroadcast dto protocol => exact fun _ => notify _ protocol
  | broadcast => exact fun _ _ _ _ _ => undigested_enqueue rfl
  | scheduleOnce => exact fun _ _ => silent _ rfl
  | scheduleRecurring => exact fun _ _ _ _ => silent _ rfl
  | launchCampaign | enqueueCampaign => exact fun _ _ _ _ _ => undigested_enqueue rfl
  | reconcile =>
    refine ⟨fun _ _ _ _ _ _ _ => silent _ rfl, fun _ _ _ _ _ _ _ a ha => ?_⟩
    obtain rfl := Option.some.inj ha
    exact rfl
  | deliver => exact attempts_of_quiet hq
  | deliverDigest => exact fun _ _ _ _ _ _ => dispatches_of_quiet hq
  | _ => trivial

/-! ### Attempts -/

theorem buffers_plain (h : o.plain = true) : o.buffers = false := by
  cases o with
  | digestCreate => cases h
  | _ => rfl

/-- An attempt of a job that is not for the digest buffer does not put it there. -/
theorem within_unbuffered (hd : Undigested job) :
    ((Task.deliver job).code env).Within (fun o => o.buffers = false) fun _ _ => True := by
  have dispatches : ∀ channels, Dispatches (fun o => o.buffers = false) (fun _ _ => True) channels job :=
    fun _ => ⟨rfl, fun _ _ => rfl, fun _ _ _ _ => rfl, fun _ _ => rfl, fun _ => rfl⟩
  refine within_code (fun _ => buffers_plain) ⟨fun _ => rfl, rfl, fun _ => rfl, fun h => ?_,
    fun _ => dispatches _, fun _ _ channels _ _ => dispatches channels⟩
  rw [show job.digestMode = false from hd] at h
  cases h

/-- A contact was decrypted. -/
def Contact : Good
  | .decryptAllChannels _, .ok channels => channels.hasAny = true
  | _, _ => False

/-- No dispatch begins. -/
def NoDispatch : Good := fun o _ => o.dispatches = false

/-- A program that does not return. -/
abbrev NeverReturns {α : Type} (p : Gateway α) : Prop :=
  Along (S := Calls) (fun _ => True) NoDispatch (fun r => ∀ a, r ≠ .ok a) p

/-- What comes before may throw. -/
theorem neverReturns_bind {α β : Type} {p : Gateway α} {f : α → Gateway β} (hf : ∀ a, NeverReturns (f a)) :
    NeverReturns (p.bind f) :=
  (Along.of_forall (fun _ => trivial) p).bind (fun a _ => hf a) fun _ _ _ => nofun

/-- A dispatch begins with a call for the assets of the protocol. -/
theorem neverReturns_dispatch {channels : DecryptedChannels} : NeverReturns (dispatch env channels job) := by
  have unanswered : Along (S := Calls) (fun _ => True) NoDispatch (fun _ => False)
      (fetchProtocolAssets job.protocolId) := by
    have asked : Along (S := Calls) (fun _ => True) NoDispatch (fun _ => False)
        (call (.protocolAssetFindMany job.protocolId)) := ⟨trivial, fun _ (h : true = false) => by cases h⟩
    exact Along.tryCatch asked (fun _ h => h.elim) fun _ h => h.elim
  exact unanswered.bind (fun _ h => h.elim) fun _ h => h.elim

theorem neverReturns_recordError (e : Err) : NeverReturns (recordError job e) := by
  have hthrow : NeverReturns (Prog.throw e : Gateway Unit) := fun _ => nofun
  unfold recordError
  split
  · exact hthrow
  · exact neverReturns_bind fun _ => neverReturns_bind fun _ => hthrow

/-- An attempt that decrypted a contact does not return before a dispatch begins. -/
theorem sealed_undispatched (hj : job.production = true) (hd : Undigested job) :
    Sealed (S := Calls) Contact NoDispatch (fun _ => True) (fun r => ∀ a, r ≠ .ok a)
      ((Task.deliver job).code env) := by
  have hp : ∀ o : Op, o.routine = true → o.resolved? = none := fun o ho => by
    cases o with
    | decryptAllChannels => cases ho
    | _ => rfl
  have hs : ∀ u, Op.resolved? (.notificationUpdate job.notificationId u) = none := fun _ => rfl
  have unmarked : ∀ {α : Type} {Q : Except Err α → Prop} {p : Gateway α},
      p.Within (fun o => o.resolved? = none) NoDispatch →
        Sealed (S := Calls) Contact NoDispatch (fun _ => True) Q p := by
    refine Sealed.of_within fun o ho r hr => ?_
    cases o with
    | decryptAllChannels => cases ho
    | _ => exact hr
  have dispatches : ∀ channels, Dispatches (fun o => o.resolved? = none) NoDispatch channels job :=
    fun _ => ⟨rfl, fun _ _ => rfl, fun _ _ _ _ => rfl, fun _ _ => rfl, fun _ => rfl⟩
  have deliver : ∀ identity channels, NeverReturns (deliverDecrypted env job identity channels) :=
    fun _ _ => neverReturns_bind fun _ => neverReturns_bind fun _ =>
      neverReturns_dispatch.bind (fun _ h => absurd rfl (h _)) fun _ _ _ => nofun
  have resolve : Sealed (S := Calls) Contact NoDispatch (fun _ => True) (fun r => ∀ a, r ≠ .ok a)
      (resolveAndDeliver env job) := by
    refine Sealed.bind (unmarked (within_resolveIdentity (of_untold hp) _)) fun identity => ?_
    cases identity with
    | none => exact unmarked (within_recordUnregistered hp fun u _ => hs u)
    | some identity =>
      refine Sealed.bind (Sealed.perform fun r _ hr => ?_)
        fun channels => Sealed.ite (fun _ => ?_) fun _ => ?_
      · cases r with
        | error e => exact hr.elim
        | ok channels =>
          have hany : channels.hasAny = true := hr
          simp only [hany, Bool.not_true, Bool.false_eq_true, if_false]
          exact deliver identity channels
      · exact unmarked (within_call (hs _))
      · exact unmarked (within_deliverDecrypted hp hs rfl identity (dispatches channels))
  refine Sealed.bind (Sealed.bind (unmarked (within_call (hp _ rfl))) fun now => ?_)
    fun _ => unmarked (.ret _)
  refine Sealed.bind (unmarked (within_call (hs _))) fun _ => ?_
  rw [if_pos hj]
  refine Sealed.tryCatch (Sealed.ite (fun h => ?_) fun _ => resolve.mono ?_) fun e =>
    unmarked (within_recordError hp (fun u _ => hs u) e)
  · rw [show job.digestMode = false from hd] at h
    cases h
  · rintro (e | a) hr
    · exact (neverReturns_recordError e).mono fun r hr => by
        cases r with
        | ok a => exact absurd rfl (hr a)
        | error e => exact fun _ => nofun
    · exact absurd rfl (hr a)

/-- An attempt of a job that is not for the digest buffer lets the notification go out at once. -/
theorem goesOutAtOnce_of_runs {t : GatewayThread} (hj : job.production = true) (hd : Undigested job)
    (hr : Runs (gateway env).handler ((Task.deliver job).code env) t.trace t.prog) : GoesOutAtOnce t := by
  refine ⟨fun hdone ⟨e, he, hcontact⟩ => ?_, (hr.along (within_unbuffered hd) fun _ _ => trivial).2⟩
  by_contra hno
  push Not at hno
  have hmark : Contact e.op e.reply := by
    obtain ⟨c, s, o, rep, s'⟩ := e
    cases o with
    | decryptAllChannels =>
      cases rep with
      | ok channels => exact hcontact
      | error err => cases hcontact
    | _ => cases hcontact
  have hprog := (hr.sealed (sealed_undispatched hj hd) fun e he => Bool.eq_false_iff.2 (hno e he)).2
    ⟨e, he, hmark⟩
  rw [Thread.answer?_eq_some] at hdone
  cases hp : t.prog with
  | ret a =>
    rw [hp] at hprog
    exact hprog a rfl
  | throw e =>
    rw [hp] at hdone
    cases hdone
  | choose k =>
    rw [hp] at hdone
    cases hdone
  | call o k =>
    rw [hp] at hdone
    cases hdone

/-! ### Runs -/

variable {p p' : GatewayPool} {l : GatewayLabel} {ls : List GatewayLabel}

/-- No attempt of a production job resolved an identity that is in digest mode. -/
def UndigestedIdentity (task : Task) (e : GatewayEvent) : Prop :=
  ∀ job ∈ task.job?, job.production = true → ∀ identity ∈ e.op.resolved?, identity.digestMode = false

theorem undigestedIdentity_step (hok : ResolvesUndigested p l) (h : (gateway env).step p l = some p')
    (hp : System.Events UndigestedIdentity p) : System.Events UndigestedIdentity p' := by
  refine hp.step h ?_
  rintro i c t o k rfl ht hprog job hjob hj identity hid
  exact hok t ht job hjob hj o (by rw [hprog]; rfl) identity hid

/-- Where nobody is in digest mode, the digest mode is honoured. -/
theorem digest_mode_honoured (hs : s.Jobs Undigested)
    (hok : (gateway env).Keeps (fun p l => Legal p l ∧ ResolvesUndigested p l) (Pool.empty s) ls)
    (hr : (gateway env).run (Pool.empty s) ls = some p) : DigestModeHonoured p := by
  obtain ⟨htr, -, hatt⟩ := jobs_of_run hs adds_undigested (hok.mono fun _ _ h => h.1) hr
  have hids : System.Events UndigestedIdentity p :=
    System.Keeps.induction (fun _ _ _ hl hp h => undigestedIdentity_step hl.2 h hp) hok hr
      (System.events_empty s)
  intro t ht job hjob hj e he identity hid
  have hoff := hids t ht e he job hjob hj identity hid
  refine ⟨fun hon => ?_, fun _ => ?_⟩
  · rw [hoff] at hon
    cases hon
  · obtain ⟨i, hrun⟩ := htr.of_mem ht
    have htask : t.request = .deliver job := by
      cases hreq : t.request with
      | deliver job' =>
        rw [hreq] at hjob
        rw [Option.some.inj hjob]
      | _ =>
        rw [hreq] at hjob
        cases hjob
    change Runs (gateway env).handler (t.request.code env) t.trace t.prog at hrun
    rw [htask] at hrun
    exact goesOutAtOnce_of_runs hj (hatt t ht job hjob) hrun

/-! ### Runs that keep and break it -/

/-- An installation in which everybody has an email channel, and is in digest mode or not. -/
def digestModeWorld (digestMode : Bool) : World :=
  { World.blank with chain := fun _ => some { recipient with digestMode := digestMode } }

/-- A request to a wallet, whose job a worker attempts. -/
def requestDelivered : List GatewayLabel :=
  requested ++ .arrive (.deliver (jobTo 0 (js "w"))) :: proceeds 1 24

-- Nothing is buffered for a recipient who is not in digest mode.
example : (replayFrom (digestModeWorld false) requestDelivered).map (·.store.digestRows.length) = some 0 := by
  decide +kernel

theorem digest_mode_honoured_requestDelivered :
    ∃ p ∈ replayFrom (digestModeWorld false) requestDelivered, DigestModeHonoured p := by
  obtain ⟨hsome, hok⟩ : (replayFrom (digestModeWorld false) requestDelivered).isSome ∧
      (gateway Env.transparent).Keeps (fun p l => Legal p l ∧ ResolvesUndigested p l)
        (Pool.empty (digestModeWorld false)) requestDelivered := by decide +kernel
  obtain ⟨p, hp⟩ := Option.isSome_iff_exists.1 hsome
  exact ⟨p, hp, digest_mode_honoured (fun _ hj => absurd hj List.not_mem_nil) hok hp⟩

/-- The notification of a recipient in digest mode is dispatched at once. -/
theorem digested_dispatched :
    (gateway Env.transparent).Keeps Legal (Pool.empty (digestModeWorld true)) requestDelivered ∧
      ∃ p ∈ replayFrom (digestModeWorld true) requestDelivered, ¬ DigestModeHonoured p := by decide +kernel

end HeraldGateway
