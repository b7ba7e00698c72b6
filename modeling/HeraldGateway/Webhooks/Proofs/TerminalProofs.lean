import HeraldGateway.Async.Log
import HeraldGateway.Delivery.Proofs.DigestsProofs
import HeraldGateway.Webhooks.Terminal

/-!
# Attempts that tell how they ended

An attempt that returns told the webhooks what it stored. One that throws did so too, if what it stored of the
failure was heard and not every channel failed. So a job whose earlier attempts were silent tells its webhooks
once.
-/

namespace HeraldGateway

open Async

variable {env : Env} {job : NotificationJobData} {id : NotificationId} {tr : List AttemptEvent} {last : Prop}

/-! ### What a history stored -/

/-- The status that a call stored of a notification. -/
def storedBy (id : NotificationId) (e : AttemptEvent) : Option NotificationStatus :=
  match (e.op : Op) with
  | .notificationUpdate id' u =>
    if id' = id ∧ e.choice.fault.applies = true ∧ (e.before.statusOf id).isSome = true then u.status else none
  | _ => none

/-- The status that a history stored last. -/
def storedIn (id : NotificationId) (tr : List AttemptEvent) : Option NotificationStatus :=
  tr.foldl (fun status e => (storedBy id e).or status) none

theorem storedIn_append {e : AttemptEvent} :
    storedIn id (tr ++ [e]) = (storedBy id e).or (storedIn id tr) := by
  simp [storedIn]

theorem toldIn_append {e : AttemptEvent} :
    toldIn id (tr ++ [e]) = toldIn id tr ++ (Op.tells? id e.op).toList := by
  rw [toldIn, List.filterMap_append]
  cases h : Op.tells? id e.op with
  | none => simp [toldIn, h]
  | some kind => simp [toldIn, h]

theorem toldIn_silent {e : AttemptEvent} (h : Op.tells? id e.op = none) :
    toldIn id (tr ++ [e]) = toldIn id tr := by
  rw [toldIn_append, h, Option.toList_none, List.append_nil]

/-- An update that is answered is stored. -/
theorem storedBy_update {c : Choice} {s : World} {u : NotificationUpdate} {a : Unit}
    (h : (World.handle env c s (.notificationUpdate id u)).1 = .ok a) :
    storedBy id ((World.handle env).event c s (.notificationUpdate id u)) = u.status := by
  have hserve := handle_ok h
  refine if_pos ⟨rfl, ?_, ?_⟩
  · change c.fault.applies = true
    simp only [World.handle, World.meet] at h
    cases hf : c.fault with
    | none | unheard e => rfl
    | refused e | stalled => rw [hf] at h; cases h
  · change (s.statusOf id).isSome = true
    rw [hserve] at h
    simp only [World.serve, World.updateNotification] at h
    split at h
    · next hany =>
      rw [World.statusOf, Option.isSome_map, List.find?_isSome]
      exact List.any_eq_true.1 hany
    · cases h

/-- An update changes the status of its own notification, if there is one. -/
theorem statusOf_update {s : World} {id' : NotificationId} {u : NotificationUpdate} :
    (s.updateNotification id' u).2.statusOf id =
      if id' = id then (s.statusOf id).map fun status => u.status.getD status else s.statusOf id := by
  have hrows : ∀ rows : List Notification, ((updateWhere (·.id == id') u.apply rows).find? (·.id == id)).map
      (·.status) = if id' = id then ((rows.find? (·.id == id)).map (·.status)).map fun status =>
        u.status.getD status else (rows.find? (·.id == id)).map (·.status) := by
    intro rows
    induction rows with
    | nil => simp [updateWhere]
    | cons r rows ih =>
      rw [updateWhere, List.map_cons, ← updateWhere]
      by_cases hid : id' = id
      · subst hid
        by_cases hr : (r.id == id') = true
        · simp [hr, NotificationUpdate.apply]
        · simpa [hr] using ih
      · by_cases hr : (r.id == id') = true
        · have hne : (r.id == id) = false := by
            rw [beq_iff_eq] at hr
            simpa [hr] using hid
          have hne' : ((u.apply r).id == id) = false := hne
          simpa [hr, hne, hne', hid] using ih
        · by_cases hr' : (r.id == id) = true
          · simp [hr, hr', hid]
          · simpa [hr, hr', hid] using ih
  unfold World.updateNotification
  split
  · exact hrows s.notifications
  · next hnone =>
    split
    · next hid =>
      subst hid
      have hfind : s.notifications.find? (·.id == id') = none := by
        refine List.find?_eq_none.2 fun r hr hid => hnone (List.any_eq_true.2 ⟨r, hr, hid⟩)
      rw [World.statusOf, hfind]
      rfl
    · rfl

/-- What a call does to the status of a notification. -/
theorem statusOf_handle {c : Choice} {s : World} {o : Op}
    (ht : o.table = .notifications → ∃ id u, o = .notificationUpdate id u) :
    (World.handle env c s o).2.statusOf id =
      (storedBy id ((World.handle env).event c s o)).or (s.statusOf id) := by
  by_cases htable : o.table = .notifications
  · obtain ⟨id', u, rfl⟩ := ht htable
    have hstore : (World.handle env c s (.notificationUpdate id' u)).2 =
        if c.fault.applies = true then (s.updateNotification id' u).2 else s := meet_store
    have hstored : storedBy id ((World.handle env).event c s (.notificationUpdate id' u)) =
        if id' = id ∧ c.fault.applies = true ∧ (s.statusOf id).isSome = true then u.status else none := rfl
    rw [hstore, hstored]
    by_cases happlies : c.fault.applies = true
    · rw [if_pos happlies, statusOf_update]
      by_cases hid : id' = id
      · cases hstatus : s.statusOf id with
        | none => simp [hid]
        | some status => cases hu : u.status <;> simp [hid, happlies]
      · simp [hid]
    · simp [happlies]
  · have hstored : storedBy id ((World.handle env).event c s o) = none := by
      cases o with
      | notificationUpdate => exact absurd rfl htable
      | _ => rfl
    rw [hstored, Option.none_or, World.statusOf, World.statusOf, handle_untouched.notifications htable]

/-! ### One attempt -/

/-- A call that tells the webhooks of a notification nothing. -/
def Silent (id : NotificationId) (o : Op) : Prop := Op.tells? id o = none

theorem silent_untold {o : Op} (h : o.untold = true) : Silent id o := by
  cases o with
  | webhookDispatch e => cases h
  | _ => rfl

/-- Calls do not fail in the worker's own words, on the last attempt. -/
def Worded (last : Prop) : Good := fun _ r => last → repliesAllFailed r = false

/-- An attempt's own way of following its history. -/
abbrev LogsTold {α : Type} (env : Env) (last : Prop) (Q : List AttemptEvent → Except Err α → Prop)
    (p : Gateway α) (tr : List AttemptEvent) : Prop :=
  Logs (World.handle env) (fun _ e => last → Reportable e) (fun _ => True) Q p tr

/-- What was stored is what the webhooks were told. -/
def Agreed (id : NotificationId) (tr : List AttemptEvent) : Prop :=
  (storedIn id tr).bind (·.terminalEvents) = some (toldIn id tr)

/-- What an attempt did before it records an error: one that returns agrees, and one that throws was
silent. -/
def AgreedOrSilent (id : NotificationId) (last : Prop) (tr : List AttemptEvent) : Except Err Unit → Prop
  | .ok _ => Agreed id tr
  | .error e => toldIn id tr = [] ∧ (last → repliesAllFailed (.error e : Except Err Unit) = false)

section attempt

variable {α : Type} {A : Allowed} {G : Good} {Q : Except Err α → Prop}

/-- A part that tells nothing. -/
theorem logs_silent {p : Gateway α} (hA : ∀ o, A o → Silent id o)
    (hG : ∀ o r, Worded last o r → G o r) (hp : Along (S := Calls) A G Q p) (htr : toldIn id tr = []) :
    LogsTold env last (fun tr r => toldIn id tr = [] ∧ Q r) p tr := by
  refine Logs.of_along (M := fun tr => toldIn id tr = []) (fun tr c s o ho htr hl => ?_) hp htr
  refine ⟨hG o _ fun h => (hl h).2.2, trivial, ?_⟩
  have ho' : Op.tells? id o = none := hA o ho
  exact (toldIn_silent ho').trans htr

/-- A part that tells nothing and does not throw. -/
theorem logs_silent_bind {p : Gateway α} {f : α → Gateway Unit} (hA : ∀ o, A o → Silent id o)
    (hp : Along (S := Calls) A (fun _ _ => True) (fun r => ∃ a, r = .ok a) p) (htr : toldIn id tr = [])
    (hf : ∀ tr a, toldIn id tr = [] → LogsTold env last (AgreedOrSilent id last) (f a) tr) :
    LogsTold env last (AgreedOrSilent id last) (p.bind f) tr :=
  (logs_silent hA (fun _ _ _ => trivial) hp htr).bind (fun tr a h => hf tr a h.1)
    fun _ _ h => nomatch h.2

/-- A part that tells nothing, and throws what its calls fail with. -/
theorem logs_worded_bind {p : Gateway α} {f : α → Gateway Unit}
    (hp : Along (S := Calls) (Silent id) (Worded last) (fun r => last → repliesAllFailed r = false) p)
    (htr : toldIn id tr = [])
    (hf : ∀ tr a, toldIn id tr = [] → LogsTold env last (AgreedOrSilent id last) (f a) tr) :
    LogsTold env last (AgreedOrSilent id last) (p.bind f) tr :=
  (logs_silent (fun _ h => h) (fun _ _ h => h) hp htr).bind (fun tr a h => hf tr a h.1) fun _ _ h => h

theorem along_call {o : Op} (ho : Silent id o) :
    Along (S := Calls) (Silent id) (Worded last) (fun r => last → repliesAllFailed r = false) (call o) :=
  Along.perform ho

theorem along_resolveIdentity {wallet : JsString} :
    Along (S := Calls) (Silent id) (Worded last) (fun r => last → repliesAllFailed r = false)
      (resolveIdentity wallet) := by
  have hcache : Along (S := Calls) (Silent id) (Worded last) (fun r => last → repliesAllFailed r = false)
      (fetchIdentity wallet) := by
    refine (along_call (o := .fetchIdentityAccount wallet) rfl).bind (fun found _ => ?_) fun _ h => h
    cases found with
    | none =>
      refine (along_swallow (within_call (o := .identityCacheSetex ..) ?_)).bind (fun _ _ _ => rfl)
        fun _ h => nomatch h
      rfl
    | some identity =>
      refine (along_swallow (within_call (o := .identityCacheSetex ..) ?_)).bind (fun _ _ _ => rfl)
        fun _ h => nomatch h
      rfl
  refine Along.bind (Q := fun r => ∃ cached, r = .ok cached) ?_ (fun cached _ => ?_) fun _ h => nomatch h
  · have hsilent : Silent id (.identityCacheGet wallet) := rfl
    exact Along.tryCatch (along_call hsilent) (fun cached _ => ⟨cached, rfl⟩) fun _ _ => ⟨none, rfl⟩
  · match cached with
    | some .notRegistered | some (.identity _) => exact fun _ => rfl
    | none => exact hcache

end attempt

/-- The status is stored in which an attempt ends that tells nothing. -/
theorem logs_storeStatus {u : NotificationUpdate} {status : NotificationStatus} (hu : u.status = some status)
    (hstatus : status.terminalEvents = some []) (htr : toldIn job.notificationId tr = []) :
    LogsTold env last (AgreedOrSilent job.notificationId last)
      (call (.notificationUpdate job.notificationId u)) tr := by
  refine Logs.perform (S := Calls) (o := Op.notificationUpdate job.notificationId u)
    fun c s hl => ⟨trivial, ?_⟩
  have htold : ∀ e : AttemptEvent, e.op = .notificationUpdate job.notificationId u →
      toldIn job.notificationId (tr ++ [e]) = [] := by
    intro e he
    refine (toldIn_silent ?_).trans htr
    rw [he]
    rfl
  cases hr : (World.handle env c s (.notificationUpdate job.notificationId u)).1 with
  | error err =>
    refine ⟨htold _ rfl, fun h => ?_⟩
    have hworded := (hl h).2.2
    rw [Handler.event, hr] at hworded
    exact hworded
  | ok a =>
    change Agreed _ _
    rw [Agreed, storedIn_append, storedBy_update hr, htold _ rfl, hu]
    exact hstatus

theorem logs_recordUnregistered (htr : toldIn job.notificationId tr = []) :
    LogsTold env last (AgreedOrSilent job.notificationId last) (recordUnregistered job) tr := by
  unfold recordUnregistered
  split
  · exact logs_worded_bind (along_call (o := .portalUserFindUnique _) rfl) htr fun tr _ htr =>
      logs_storeStatus rfl rfl htr
  · exact logs_storeStatus rfl rfl htr

theorem logs_bufferJob (htr : toldIn job.notificationId tr = []) :
    LogsTold env last (AgreedOrSilent job.notificationId last) (bufferJob job) tr := by
  refine logs_worded_bind ?_ htr fun tr _ htr => logs_storeStatus rfl rfl htr
  exact (along_call (o := .now) rfl).bind (fun now _ => along_call (o := .digestCreate ..) rfl) fun _ h => h

/-- A status was stored of which the webhooks are to be told one thing, and were told nothing yet. -/
def Stored (id : NotificationId) (kind : WebhookEventType) (tr : List AttemptEvent) : Prop :=
  toldIn id tr = [] ∧ (storedIn id tr).bind (·.terminalEvents) = some [kind]

theorem storedIn_other {c : Choice} {s : World} {o : Op} (h : ∀ id u, o ≠ .notificationUpdate id u) :
    storedIn id (tr ++ [(World.handle env).event c s o]) = storedIn id tr := by
  have hnone : storedBy id ((World.handle env).event c s o) = none := by
    cases o with
    | notificationUpdate id' u => exact absurd rfl (h id' u)
    | _ => rfl
  rw [storedIn_append, hnone, Option.none_or]

/-- The webhooks are told what was stored, and whether they are does not matter. -/
theorem logs_tell {event : WebhookEvent} (hid : event.notificationId = id) (htr : Stored id event.event tr) :
    LogsTold env last (fun tr r => r = .ok () ∧ Agreed id tr)
      (swallow (call (.webhookDispatch event))) tr := by
  refine Logs.andThen ?_
  refine Logs.perform (S := Calls) (o := Op.webhookDispatch event) fun c s _ => ⟨trivial, rfl, ?_⟩
  have htells : Op.tells? id (.webhookDispatch event) = some event.event := if_pos hid
  rw [Agreed, storedIn_other (o := .webhookDispatch event) fun _ _ => nofun, htr.2, toldIn_append, htr.1]
  change _ = some ([] ++ (Op.tells? id (.webhookDispatch event)).toList)
  rw [htells]
  rfl

/-- Other calls in between leave it stored. -/
theorem logs_stored_bind {α : Type} {kind : WebhookEventType} {p : Gateway α} {f : α → Gateway Unit}
    {Q : List AttemptEvent → Except Err Unit → Prop}
    (hp : Along (S := Calls) (fun o => Silent id o ∧ ∀ id u, o ≠ .notificationUpdate id u) (fun _ _ => True)
      (fun r => ∃ a, r = .ok a) p) (htr : Stored id kind tr)
    (hf : ∀ tr a, Stored id kind tr → LogsTold env last Q (f a) tr) : LogsTold env last Q (p.bind f) tr := by
  refine (Logs.of_along (M := Stored id kind) (fun tr c s o ho htr _ => ?_) hp htr).bind (fun tr a h => hf tr a h.1)
    fun _ _ h => nomatch h.2
  have ho' : Op.tells? id o = none := ho.1
  exact ⟨trivial, trivial, (toldIn_silent ho').trans htr.1, by rw [storedIn_other ho.2, htr.2]⟩

/-- The clock can be read. -/
theorem logs_now {Q : List AttemptEvent → Except Err Unit → Prop} {M : List AttemptEvent → Prop}
    {f : Millis → Gateway Unit} (hM : ∀ tr c s, M tr → M (tr ++ [(World.handle env).event c s .now]))
    (htr : M tr) (hf : ∀ tr now, M tr → LogsTold env last Q (f now) tr) :
    LogsTold env last Q ((call .now).bind f) tr := by
  refine Logs.bind (Q := fun tr r => M tr ∧ ∃ now, r = .ok now) ?_ (fun tr now h => hf tr now h.1)
    fun _ _ h => nomatch h.2
  exact Logs.perform (S := Calls) (o := Op.now) fun c s _ => ⟨trivial, hM _ c s htr, s.now, rfl⟩

theorem toldIn_now {c : Choice} {s : World} (htr : toldIn id tr = []) :
    toldIn id (tr ++ [(World.handle env).event c s .now]) = [] := (toldIn_silent rfl).trans htr

/-- A status is stored, and what follows tells the webhooks of it. -/
theorem logs_store_bind {u : NotificationUpdate} {status : NotificationStatus} {k : WebhookEventType}
    {f : Unit → Gateway Unit} {Q : List AttemptEvent → Except Err Unit → Prop} (hu : u.status = some status)
    (hstatus : status.terminalEvents = some [k]) (htr : toldIn id tr = [])
    (hf : ∀ tr, Stored id k tr → LogsTold env last Q (f ()) tr)
    (he : ∀ c s e, (World.handle env c s (.notificationUpdate id u)).1 = .error e →
      (last → Reportable ((World.handle env).event c s (.notificationUpdate id u))) →
        Q (tr ++ [(World.handle env).event c s (.notificationUpdate id u)]) (.error e)) :
    LogsTold env last Q ((call (.notificationUpdate id u)).bind f) tr := by
  have htold : ∀ c s, toldIn id (tr ++ [(World.handle env).event c s (.notificationUpdate id u)]) = [] :=
    fun c s => (toldIn_silent rfl).trans htr
  refine Logs.bind (Q := fun tr' r => match r with
    | .ok _ => Stored id k tr'
    | .error e => Q tr' (.error e)) ?_ (fun tr' _ h => hf tr' h) fun _ _ h => h
  refine Logs.perform (S := Calls) (o := Op.notificationUpdate id u) fun c s hl => ⟨trivial, ?_⟩
  cases hr : (World.handle env c s (.notificationUpdate id u)).1 with
  | ok a =>
    refine ⟨htold c s, ?_⟩
    rw [storedIn_append, storedBy_update hr, hu]
    exact hstatus
  | error err => exact he c s err hr hl

theorem logs_recordDelivery {identity : IdentityAccount} {arweaveId : Option JsString}
    {result : ChannelDispatchResult} (htr : toldIn job.notificationId tr = []) :
    LogsTold env last (AgreedOrSilent job.notificationId last)
      (recordDelivery env job identity arweaveId result) tr := by
  refine logs_now (M := fun tr => toldIn job.notificationId tr = []) (fun _ _ _ => toldIn_now) htr
    fun tr now htr => ?_
  refine logs_store_bind (k := if result.allDelivered then .delivered else .partialSend) rfl ?_ htr
    (fun tr htr => ?_) fun c s e hr hl => ?_
  · split
    · rfl
    · rfl
  · refine logs_stored_bind (along_swallow (within_call ⟨rfl, fun _ _ => nofun⟩)) htr fun tr _ htr => ?_
    refine logs_now (M := Stored job.notificationId _) (fun tr c s htr => ?_) htr fun tr now htr => ?_
    · exact ⟨toldIn_now htr.1, by rw [storedIn_other (o := .now) fun _ _ => nofun, htr.2]⟩
    · refine (logs_tell rfl htr).mono fun tr r h => ?_
      rw [h.1]
      exact h.2
  · refine ⟨(toldIn_silent rfl).trans htr, fun h => ?_⟩
    have hworded := (hl h).2.2
    rw [Handler.event, hr] at hworded
    exact hworded

theorem logs_recordAllFailed {result : ChannelDispatchResult} (htr : toldIn job.notificationId tr = []) :
    LogsTold env last (AgreedOrSilent job.notificationId last) (recordAllFailed job result) tr := by
  -- the last attempt does not store that every channel failed
  refine Logs.bind (Q := fun tr _ => toldIn job.notificationId tr = [] ∧ ¬ last) ?_ (fun tr _ h => ?_)
    fun tr e h => ?_
  · refine Logs.perform (S := Calls) (o := Op.notificationUpdate job.notificationId _)
      fun c s hl => ⟨trivial, ?_⟩
    refine ⟨(toldIn_silent rfl).trans htr, fun h => ?_⟩
    cases (hl h).2.1
  · exact ⟨h.1, fun hlast => absurd hlast h.2⟩
  · exact ⟨h.1, fun hlast => absurd hlast h.2⟩

theorem logs_deliverDecrypted {identity : IdentityAccount} {channels : DecryptedChannels}
    (htr : toldIn job.notificationId tr = []) :
    LogsTold env last (AgreedOrSilent job.notificationId last)
      (deliverDecrypted env job identity channels) tr := by
  have hdispatches : Dispatches (Silent job.notificationId) (fun _ _ => True) channels job :=
    ⟨rfl, fun _ _ => rfl, fun _ _ _ _ => rfl, fun _ _ => rfl, fun _ => rfl⟩
  have hclear : Along (S := Calls) (Silent job.notificationId) (fun _ _ => True) (fun r => ∃ a, r = .ok a)
      (clearSuppression job identity channels) := by
    unfold clearSuppression
    split
    · exact along_swallow (within_call rfl)
    · exact ⟨(), rfl⟩
  have hstore : Along (S := Calls) (Silent job.notificationId) (fun _ _ => True) (fun r => ∃ a, r = .ok a)
      (storeOnArweave job channels) :=
    Along.tryCatch (Within.bind (within_call rfl) fun _ => .ret _) (fun a _ => ⟨a, rfl⟩)
      fun _ _ => ⟨none, rfl⟩
  refine logs_silent_bind (fun _ h => h) hclear htr fun tr _ htr => ?_
  refine logs_silent_bind (fun _ h => h) hstore htr fun tr arweaveId htr => ?_
  refine logs_silent_bind (fun _ h => h.1)
    (((within_dispatch (fun _ => silent_untold) hdispatches).and along_dispatch).mono fun _ h => h.2) htr
    fun tr result htr => ?_
  split
  · exact logs_recordDelivery htr
  · exact logs_recordAllFailed htr

theorem logs_resolveAndDeliver (htr : toldIn job.notificationId tr = []) :
    LogsTold env last (AgreedOrSilent job.notificationId last) (resolveAndDeliver env job) tr := by
  refine logs_worded_bind along_resolveIdentity htr fun tr found htr => ?_
  cases found with
  | none => exact logs_recordUnregistered htr
  | some identity =>
    refine logs_worded_bind (along_call (o := .decryptAllChannels identity) rfl) htr fun tr channels htr => ?_
    split
    · exact logs_storeStatus rfl rfl htr
    · exact logs_deliverDecrypted htr

/-- An attempt that returned told the webhooks what it stored, and so did one that threw, if it was the
last. -/
def AgreedAtEnd (id : NotificationId) (last : Prop) (tr : List AttemptEvent) (r : Except Err Unit) : Prop :=
  r.isOk = true ∨ last → Agreed id tr

theorem logs_recordError {e : Err} (htr : toldIn job.notificationId tr = [])
    (he : last → repliesAllFailed (.error e : Except Err Unit) = false) :
    LogsTold env last (AgreedAtEnd job.notificationId last) (recordError job e) tr := by
  unfold recordError
  split
  · next hown =>
    rintro (hok | hlast)
    · cases hok
    · have hother := he hlast
      rw [repliesAllFailed, hown] at hother
      cases hother
  · refine logs_store_bind (k := .failed) rfl rfl htr (fun tr htr => ?_) fun c s err hr hl => ?_
    · refine (logs_tell rfl htr).bind (fun tr _ h _ => h.2) fun _ _ h => nomatch h.1
    · rintro (hok | hlast)
      · cases hok
      · have hheard := (hl hlast).1 rfl
        rw [Handler.event, hr] at hheard
        cases hheard

/-- An attempt tells its webhooks what it stored. -/
theorem logs_processNotification (hj : job.production = true) :
    LogsTold env last (AgreedAtEnd job.notificationId last) (processNotification env job) [] := by
  refine logs_now (M := fun tr => toldIn job.notificationId tr = []) (fun _ _ _ => toldIn_now) rfl
    fun tr now htr => ?_
  refine Logs.bind (Q := fun tr r => toldIn job.notificationId tr = [] ∧ (last → r.isOk = true)) ?_
    (fun tr _ h => ?_) fun tr e h hend => ?_
  · refine Logs.perform (S := Calls) (o := Op.notificationUpdate job.notificationId _)
      fun c s hl => ⟨trivial, ?_⟩
    exact ⟨(toldIn_silent rfl).trans htr, fun hlast => (hl hlast).1 rfl⟩
  · rw [if_pos hj]
    unfold processProduction
    refine Logs.tryCatch (Q := AgreedOrSilent job.notificationId last) ?_ (fun tr _ h _ => h)
      fun tr e h => logs_recordError h.1 h.2
    split
    · exact logs_bufferJob h.1
    · exact logs_resolveAndDeliver h.1
  · rcases hend with hok | hlast
    · cases hok
    · cases h.2 hlast

/-! ### The attempts of a job -/

section runs

variable {p p' : AttemptPool} {l : AttemptLabel} {attempts : Nat}

/-- What holds of the attempts of a job, one after another. -/
structure TerminalInvariant (env : Env) (attempts : Nat) (job : NotificationJobData)
    (p : AttemptPool) : Prop where
  traced : (jobAttempts env job).Traced p
  /-- Earlier attempts have ended, and were silent. -/
  earlier : ∀ (i : Nat) t, p.threads[i]? = some t → i + 1 < p.threads.length →
    t.prog.running = false ∧ toldIn job.notificationId t.trace = []
  reportable : ∀ (i : Nat) t, p.threads[i]? = some t → i + 1 = attempts → ∀ e ∈ t.trace, Reportable e
  /-- The status is the one that the latest attempt stored, if it stored one. -/
  stored : ∀ (i : Nat) t status, p.threads[i]? = some t → i + 1 = p.threads.length →
    storedIn job.notificationId t.trace = some status → p.store.statusOf job.notificationId = some status

theorem toldIn_of_told {t : Thread Calls Err Unit Unit World Choice} (h : told id p = [])
    (ht : t ∈ p.threads) :
    toldIn id t.trace = [] := by
  refine List.eq_nil_iff_forall_not_mem.2 fun kind hkind => ?_
  have hmem : kind ∈ told id p := List.mem_flatMap.2 ⟨t, ht, hkind⟩
  rw [h] at hmem
  exact absurd hmem List.not_mem_nil

theorem running_of_thrown {t : Thread Calls Err Unit Unit World Choice}
    (h : t.prog.result?.any (!·.isOk) = true) : t.prog.running = false := by
  unfold Prog.running
  cases hr : t.prog.result? with
  | none =>
    rw [hr] at h
    cases h
  | some r => rfl

/-- The attempt that makes a step is the latest one. -/
theorem latest_of_running (hp : TerminalInvariant env attempts job p) {i : Nat}
    {t : Thread Calls Err Unit Unit World Choice} (ht : p.threads[i]? = some t)
    (hrun : t.prog.running = true) :
    i + 1 = p.threads.length := by
  have hi := (List.getElem?_eq_some_iff.1 ht).1
  by_contra hne
  have hended := (hp.earlier i t ht (by omega)).1
  rw [hrun] at hended
  cases hended

theorem earlier_step (hretried : Retried attempts p l) (hok : ReportsLast env attempts job p l)
    (hp : TerminalInvariant env attempts job p) (h : (jobAttempts env job).step p l = some p') :
    ∀ (i : Nat) t, p'.threads[i]? = some t → i + 1 < p'.threads.length →
      t.prog.running = false ∧ toldIn job.notificationId t.trace = [] := by
  intro i t' ht' hi
  rcases System.length_step h with ⟨r, rfl, hlen⟩ | hlen
  · rcases System.thread_cases h ht' with ht | ⟨_, -, hnew, -, -⟩ | ⟨_, _, _, hl, -⟩ | ⟨_, _, _, _, hl, -⟩
    · have hmem := List.mem_of_getElem? ht
      exact ⟨running_of_thrown (hretried.2 t' hmem), toldIn_of_told hok hmem⟩
    · omega
    · cases hl
    · cases hl
  · rw [hlen] at hi
    rcases System.thread_cases h ht' with ht | ⟨_, -, hnew, -, -⟩ | ⟨t, c, k, -, ht, hprog, -, -⟩ |
      ⟨t, c, o, k, -, ht, hprog, -, -⟩
    · exact hp.earlier i t' ht hi
    · omega
    · have hlatest := latest_of_running hp ht (by rw [hprog]; rfl)
      omega
    · have hlatest := latest_of_running hp ht (by rw [hprog]; rfl)
      omega

theorem reportable_step (hok : ReportsLast env attempts job p l) (hp : TerminalInvariant env attempts job p)
    (h : (jobAttempts env job).step p l = some p') :
    ∀ (i : Nat) t, p'.threads[i]? = some t → i + 1 = attempts → ∀ e ∈ t.trace, Reportable e := by
  intro i t' ht' hi e he
  rcases System.thread_cases h ht' with ht | ⟨_, -, -, -, rfl⟩ | ⟨t, c, k, -, ht, -, -, rfl⟩ |
    ⟨t, c, o, k, rfl, ht, hprog, -, rfl⟩
  · exact hp.reportable i t' ht hi e he
  · exact absurd he List.not_mem_nil
  · exact hp.reportable i t ht hi e he
  · rcases List.mem_append.1 he with he | he
    · exact hp.reportable i t ht hi e he
    · obtain rfl := List.mem_singleton.1 he
      exact hok hi t ht o (by rw [hprog]; rfl)

theorem storedStatus_step (hj : job.production = true) (hp : TerminalInvariant env attempts job p)
    (h : (jobAttempts env job).step p l = some p') :
    ∀ (i : Nat) t status, p'.threads[i]? = some t → i + 1 = p'.threads.length →
      storedIn job.notificationId t.trace = some status →
      p'.store.statusOf job.notificationId = some status := by
  intro i t' status ht' hi hstored
  cases l with
  | arrive r =>
    obtain rfl := System.step_arrive h
    rw [List.length_append, List.length_singleton] at hi
    obtain rfl : i = p.threads.length := by omega
    rw [List.getElem?_concat_length] at ht'
    obtain rfl := Option.some.inj ht'
    cases hstored
  | outside w =>
    obtain ⟨s, hs, rfl⟩ := System.step_outside h
    have hs : (if w.statusOf job.notificationId = p.store.statusOf job.notificationId then some w
      else none) = some s := hs
    split at hs
    · next hsame =>
      obtain rfl := Option.some.inj hs
      rw [hsame]
      exact hp.stored i t' status ht' hi hstored
    · cases hs
  | pick j c =>
    obtain ⟨t, ht, ⟨k, hprog, rfl⟩ | ⟨o, k, hprog, rfl⟩⟩ := System.step_pick h
    · have hlatest := latest_of_running hp ht (by rw [hprog]; rfl)
      rw [List.length_set] at hi
      obtain rfl : i = j := by omega
      rw [List.getElem?_set_self (by omega)] at ht'
      obtain rfl := Option.some.inj ht'
      exact hp.stored i t status ht hi hstored
    · have hlatest := latest_of_running hp ht (by rw [hprog]; rfl)
      rw [List.length_set] at hi
      obtain rfl : i = j := by omega
      rw [List.getElem?_set_self (by omega)] at ht'
      obtain rfl := Option.some.inj ht'
      have hrun := hp.traced i t ht
      rw [hprog] at hrun
      have htable := (hrun.along (updates_only hj) fun _ _ => trivial).1.1
      change (World.handle env c.2 p.store o).2.statusOf job.notificationId = some status
      change storedIn job.notificationId (t.trace ++ [(World.handle env).event c.2 p.store o]) = some status
        at hstored
      rw [statusOf_handle htable]
      rw [storedIn_append] at hstored
      cases hby : storedBy job.notificationId ((World.handle env).event c.2 p.store o) with
      | some status' =>
        rw [hby] at hstored
        exact hstored
      | none =>
        rw [hby, Option.none_or] at hstored
        exact hp.stored i t status ht hi hstored

/-- What the attempts told is what the latest one told. -/
theorem told_eq (hp : TerminalInvariant env attempts job p) {t : Thread Calls Err Unit Unit World Choice}
    (ht : p.threads.getLast? = some t) : told job.notificationId p = toldIn job.notificationId t.trace := by
  obtain ⟨ts, hts⟩ := List.getLast?_eq_some_iff.1 ht
  unfold told
  rw [hts, List.flatMap_append, List.flatMap_singleton]
  have hnone : ts.flatMap (fun t => toldIn job.notificationId t.trace) = [] := by
    refine List.flatMap_eq_nil_iff.2 fun u hu => ?_
    obtain ⟨i, hi⟩ := List.mem_iff_getElem?.1 hu
    have hlt := (List.getElem?_eq_some_iff.1 hi).1
    have hi' : p.threads[i]? = some u := by
      rw [hts, List.getElem?_append_left hlt]
      exact hi
    exact (hp.earlier i u hi' (by rw [hts, List.length_append, List.length_singleton]; omega)).2
  rw [hnone, List.nil_append]

/-- Where a job is attempted again only before its webhooks were told anything, and a failure of its last
attempt can be reported, they are told once how it ended. -/
theorem job_told_once {s : World} {ls : List AttemptLabel} (hj : job.production = true)
    (hretried : (jobAttempts env job).Keeps (Retried attempts) (Pool.empty s) ls)
    (hok : (jobAttempts env job).Keeps (ReportsLast env attempts job) (Pool.empty s) ls)
    (hr : (jobAttempts env job).run (Pool.empty s) ls = some p) : ToldOnce attempts job p := by
  have hp : TerminalInvariant env attempts job p := by
    refine System.Keeps.induction (I := TerminalInvariant env attempts job) (fun p l p' hok hp h => ?_)
      (hretried.and hok) hr ⟨System.traced_empty s, nofun, nofun, nofun⟩
    exact ⟨hp.traced.step h, earlier_step hok.1 hok.2 hp h, reportable_step hok.2 hp h, storedStatus_step hj hp h⟩
  rintro ⟨t, ht, hended, hend⟩
  obtain ⟨i, hi, hlatest⟩ : ∃ i : Nat, p.threads[i]? = some t ∧ i + 1 = p.threads.length := by
    obtain ⟨ts, hts⟩ := List.getLast?_eq_some_iff.1 ht
    exact ⟨ts.length, by rw [hts, List.getElem?_concat_length], by rw [hts, List.length_append]; rfl⟩
  have hobeys : Async.Obeys (fun _ e => i + 1 = attempts → Reportable e) t.trace := by
    intro pre e post heq hlast
    exact hp.reportable i t hi hlast e (by rw [heq]; exact List.mem_append_right _ List.mem_cons_self)
  have hlogs := ((hp.traced i t hi).logs (logs_processNotification hj) trivial hobeys).2
  have hagreed : Agreed job.notificationId t.trace := by
    obtain ⟨r, hresult⟩ := Prog.result?_of_ended hended
    rw [hresult] at hend
    have hreached : r.isOk = true ∨ i + 1 = attempts := hend.imp id fun hlen => hlatest.trans hlen
    cases hprog : t.prog with
    | ret a =>
      rw [hprog] at hlogs
      exact hlogs (.inl rfl)
    | throw e =>
      rw [hprog] at hlogs hresult
      obtain rfl := Option.some.inj hresult
      exact hlogs hreached
    | choose k => rw [hprog] at hended; cases hended
    | call o k => rw [hprog] at hended; cases hended
  rw [told_eq hp ht]
  unfold Agreed at hagreed
  cases hstored : storedIn job.notificationId t.trace with
  | none =>
    rw [hstored] at hagreed
    cases hagreed
  | some status =>
    rw [hp.stored i t status hi hlatest hstored, ← hstored]
    exact hagreed

end runs

/-! ### Runs that keep and break it -/

/-- The attempts of a queued job. -/
def replayJob (ls : List AttemptLabel) : Option AttemptPool :=
  (jobAttempts Env.transparent queuedRowJob).run (Pool.empty queuedWorld) ls

/-- One attempt, in which the mail provider takes the email. -/
def deliveredAtOnce : List AttemptLabel := .arrive () :: proceeds 0 24

theorem job_told_once_deliveredAtOnce :
    ∃ p ∈ replayJob deliveredAtOnce, ToldOnce 3 queuedRowJob p ∧ Finished 3 p ∧
      told (.uuid 0) p = [.delivered] := by
  obtain ⟨p, hp, hend⟩ : ∃ p ∈ replayJob deliveredAtOnce, Finished 3 p ∧ told (.uuid 0) p = [.delivered] := by
    decide +kernel
  exact ⟨p, hp, job_told_once rfl (by decide +kernel) (by decide +kernel) hp, hend⟩

/-- The mail provider refuses the email of each attempt, the later of which find the identity cached. -/
def refusedThrice : List AttemptLabel :=
  [(0, 17), (1, 15), (2, 15)].flatMap fun (i, calls) =>
    .arrive () :: proceeds i calls ++ [meets i timeout] ++ proceeds i 2

/-- The job fails, and no webhook is told. -/
theorem failure_untold :
    (jobAttempts Env.transparent queuedRowJob).Keeps (Retried 3) (Pool.empty queuedWorld) refusedThrice ∧
      ∃ p ∈ replayJob refusedThrice, Finished 3 p ∧ told (.uuid 0) p = [] ∧ ¬ ToldOnce 3 queuedRowJob p := by
  decide +kernel

end HeraldGateway
