import HeraldGateway.Async.History
import HeraldGateway.Auth.Revocation

/-!
# Authentication goes back to a check

What is in the cache was put there by a request that had checked the key, so every request that is
authenticated relies on a check, its own or one whose answer is not older than the cache allows.
-/

namespace HeraldGateway

open Async

variable {env : AuthEnv} {s s' : AuthStore} {f : Fault} {o : AuthOp} {keyHash : JsString}
  {context : KeyContext}
  {tr : List AuthEvent} {e : AuthEvent}

/-! ### One request -/

/-- What was cached had been checked. -/
def AllChecked (tr : List AuthEvent) : Prop :=
  ∀ e ∈ tr, ∀ keyHash seconds context, e.op = .cacheSetex keyHash seconds context →
    seconds = CACHE_TTL_SECONDS ∧ Checked keyHash context tr

/-- The clock does not run back between the calls of a request. -/
def ClockRuns (tr : List AuthEvent) (e : AuthEvent) : Prop := ∀ e' ∈ tr, e'.before.now ≤ e.before.now

theorem Checked.append (h : Checked keyHash context tr) : Checked keyHash context (tr ++ [e]) := by
  obtain ⟨e', he', hc⟩ := h
  exact ⟨e', List.mem_append_left _ he', hc⟩

/-- What was checked is so under what its cached copy says. -/
theorem Checked.cached (h : Checked keyHash context tr) : Checked keyHash context.cached tr := by
  obtain ⟨e', he', key, account, hc⟩ := h
  exact ⟨e', he', key, account, hc.op, hc.stored, hc.unrevoked, hc.owned, hc.unsuspended, hc.active,
    hc.unexpired⟩

theorem allChecked_nil : AllChecked [] := fun _ he => absurd he List.not_mem_nil

theorem AllChecked.append (h : AllChecked tr) (he : ∀ keyHash seconds context,
    e.op = .cacheSetex keyHash seconds context →
      seconds = CACHE_TTL_SECONDS ∧ Checked keyHash context tr) : AllChecked (tr ++ [e]) := by
  intro e' he' keyHash seconds context hop
  rcases List.mem_append.1 he' with he' | he'
  · exact (h e' he' keyHash seconds context hop).imp_right Checked.append
  · rw [List.mem_singleton.1 he'] at hop
    exact (he keyHash seconds context hop).imp_right Checked.append

/-- The request's own way of following its history. -/
abbrev LogsChecked {α : Type} (Q : List AuthEvent → Except Err α → Prop) (p : Auth α) (tr : List AuthEvent) :
    Prop :=
  Logs AuthStore.handle ClockRuns AllChecked Q p tr

theorem logs_authCall {Q : List AuthEvent → Except Err o.Res → Prop}
    (h : ∀ f s, ClockRuns tr ((AuthStore.handle).event f s o) →
      AllChecked (tr ++ [(AuthStore.handle).event f s o]) ∧
        Q (tr ++ [(AuthStore.handle).event f s o]) (AuthStore.handle f s o).1) :
    LogsChecked Q o.call tr := Logs.perform (S := AuthCalls) (o := o) h

/-- A key that was found may have an expiry that is checked against a later time. -/
theorem logs_checkExpiry {key : AuthKey} (htr : AllChecked tr) (he : e ∈ tr) :
    LogsChecked (fun tr r => AllChecked tr ∧ e ∈ tr ∧
      (r = .ok () → key.isTestKey = true → ∀ time ∈ key.expiresAt, e.before.now ≤ time)) (checkExpiry key)
      tr := by
  unfold checkExpiry
  cases hexp : key.expiresAt with
  | none => exact ⟨htr, he, fun _ _ time ht => by cases ht⟩
  | some expiresAt =>
    dsimp only
    split
    · have clock : LogsChecked (fun tr r => ∃ now, r = .ok now ∧ AllChecked tr ∧ e ∈ tr ∧ e.before.now ≤ now)
          AuthOp.now.call tr := logs_authCall (o := .now) fun f s hl => by
        have hI := htr.append (e := AuthStore.handle.event f s .now) nofun
        exact ⟨hI, s.now, rfl, hI, List.mem_append_left _ he, hl e he⟩
      refine clock.bind (fun tr now h => ?_) fun _ _ h => nomatch h
      · obtain ⟨_, heq, htr, he, hle⟩ := h
        obtain rfl := Except.ok.inj heq
        split
        · exact ⟨htr, he, nofun⟩
        · next hno =>
          refine ⟨htr, he, fun _ _ time ht => ?_⟩
          obtain rfl := Option.some.inj ht
          exact hle.trans (Nat.not_lt.1 hno)
    · next hno => exact ⟨htr, he, fun _ htest => absurd htest hno⟩

/-- A context that was checked is remembered. -/
theorem logs_rememberKey (htr : AllChecked tr) (hc : Checked keyHash context tr) :
    LogsChecked (fun tr r => r = .ok () ∧ AllChecked tr ∧ Checked keyHash context tr)
      (rememberKey keyHash context) tr := by
  have set : LogsChecked (fun tr _ => AllChecked tr ∧ Checked keyHash context tr)
      (AuthOp.cacheSetex keyHash CACHE_TTL_SECONDS context.cached).call tr :=
    logs_authCall (o := .cacheSetex keyHash CACHE_TTL_SECONDS context.cached) fun f s _ => by
      have hI :=
        htr.append (e := AuthStore.handle.event f s (.cacheSetex keyHash CACHE_TTL_SECONDS context.cached))
        fun _ _ _ hop => by
          cases hop
          exact ⟨rfl, hc.cached⟩
      exact ⟨hI, hI, hc.append⟩
  refine set.settle.bind (fun tr _ h => ?_) fun _ _ h => nomatch h
  obtain ⟨_, -, htr, hc⟩ := h
  have clock : LogsChecked (fun tr r => (∃ now, r = .ok now) ∧ AllChecked tr ∧ Checked keyHash context tr)
      AuthOp.now.call tr := logs_authCall (o := .now) fun f s _ => by
    have hI := htr.append (e := AuthStore.handle.event f s .now) nofun
    exact ⟨hI, ⟨s.now, rfl⟩, hI, hc.append⟩
  refine clock.bind (fun tr now h => ?_) fun _ _ h => nomatch h
  obtain ⟨-, htr, hc⟩ := h
  have note : LogsChecked (fun tr _ => AllChecked tr ∧ Checked keyHash context tr)
      (AuthOp.lastUsedSet context.apiKeyId now).call tr :=
    logs_authCall (o := .lastUsedSet context.apiKeyId now) fun f s _ => by
      have hI := htr.append (e := AuthStore.handle.event f s (.lastUsedSet context.apiKeyId now)) nofun
      exact ⟨hI, hI, hc.append⟩
  refine note.settle.bind (fun tr _ h => ?_) fun _ _ h => nomatch h
  obtain ⟨_, -, htr, hc⟩ := h
  exact ⟨rfl, htr, hc⟩

/-- What a lookup in the database finds. -/
theorem findKey_some {key : AuthKey} {account : AuthAccount} (h : s.findKey keyHash = some (key, account)) :
    (key ∈ s.keys ∧ key.keyHash = keyHash ∧ key.isRevoked = false) ∧
      account ∈ s.accounts ∧ account.id = key.protocolId := by
  simp only [AuthStore.findKey, Option.bind_eq_bind, Option.bind_eq_some_iff, Option.pure_def] at h
  obtain ⟨key', hkey, account', haccount, heq⟩ := h
  obtain ⟨rfl, rfl⟩ := Prod.mk.inj (Option.some.inj heq)
  have hk := List.find?_some hkey
  simp only [Bool.and_eq_true, beq_iff_eq, Bool.not_eq_true'] at hk
  exact ⟨⟨List.mem_of_find?_eq_some hkey, hk⟩, List.mem_of_find?_eq_some haccount,
    beq_iff_eq.1 (List.find?_some (p := fun a : AuthAccount => a.id == key'.protocolId) haccount)⟩

/-- A lookup in the database ends with a context only if the key checks out. -/
theorem logs_lookUpKey (htr : AllChecked tr) :
    LogsChecked (fun tr r => AllChecked tr ∧ ∀ context, r = .ok (some context) → Checked keyHash context tr)
      (lookUpKey env keyHash) tr := by
  have find : LogsChecked (fun tr r => AllChecked tr ∧ ∀ key account, r = .ok (some (key, account)) →
      ∃ e ∈ tr, e.op = .findKey keyHash ∧ e.before.findKey keyHash = some (key, account))
      (AuthOp.findKey keyHash).call tr := logs_authCall (o := .findKey keyHash) fun f s _ => by
    have hI := htr.append (e := AuthStore.handle.event f s (.findKey keyHash)) nofun
    refine ⟨hI, hI, fun key account hr => ⟨_, List.mem_append_right _ (List.mem_singleton.2 rfl), rfl, ?_⟩⟩
    have hserve := Fault.meet_ok (r := s.serve (.findKey keyHash)) hr
    exact Except.ok.inj ((congrArg Prod.fst hserve).symm.trans hr)
  refine find.bind (fun tr found h => ?_) fun _ _ h => ⟨h.1, nofun⟩
  obtain ⟨htr, hfound⟩ := h
  match found with
  | none => exact ⟨htr, nofun⟩
  | some (key, account) =>
    obtain ⟨e, he, hop, hrow⟩ := hfound key account rfl
    obtain ⟨⟨hkey, hhash, hun⟩, haccount, hid⟩ := findKey_some hrow
    dsimp only
    split
    · exact ⟨htr, nofun⟩
    · next hsuspended =>
      split
      · exact ⟨htr, nofun⟩
      · next hactive =>
        refine (logs_checkExpiry htr he).bind (fun tr _ h => ?_) fun _ _ h => ⟨h.1, nofun⟩
        obtain ⟨htr, he, hexp⟩ := h
        have hc : Checked keyHash (keyContext env key account) tr :=
          ⟨e, he, key, account, hop, ⟨hkey, hhash, rfl⟩, hun, ⟨haccount, hid, rfl⟩,
            Bool.eq_false_iff.2 hsuspended, by simpa using hactive, hexp rfl⟩
        refine (logs_rememberKey htr hc).bind (fun tr _ h => ?_) fun _ _ h => nomatch h.1
        refine ⟨h.2.1, fun context heq => ?_⟩
        obtain rfl := Option.some.inj (Except.ok.inj heq)
        exact h.2.2

/-- A request is authenticated with a context that it checked or found in the cache. -/
def AnsweredBy (keyHash : JsString) (context : KeyContext) (tr : List AuthEvent) : Prop :=
  Checked keyHash context tr ∨ ∃ e ∈ tr, hit e.op e.reply = some (keyHash, context)

theorem logs_validateApiKey {key : JsString} :
    LogsChecked (fun tr r => ∀ context, r = .ok (some context) → AnsweredBy (env.hashKey key) context tr)
      (validateApiKey env key) [] := by
  unfold validateApiKey
  split
  · exact nofun
  · have get : LogsChecked (fun tr r => AllChecked tr ∧ ∀ context, r = .ok (some context) →
        ∃ e ∈ tr, hit e.op e.reply = some (env.hashKey key, context))
        (AuthOp.cacheGet (env.hashKey key)).call [] :=
      logs_authCall (o := .cacheGet (env.hashKey key)) fun f s _ => by
        have hI : AllChecked [_] :=
          allChecked_nil.append (e := AuthStore.handle.event f s (.cacheGet (env.hashKey key))) nofun
        refine ⟨hI, hI, fun context hr => ⟨_, List.mem_singleton.2 rfl, ?_⟩⟩
        exact congrArg (hit (.cacheGet (env.hashKey key))) hr
    refine get.settle.bind (fun tr cached h => ?_) fun _ _ h => nomatch h
    obtain ⟨_, heq, htr, hhit⟩ := h
    obtain rfl := Except.ok.inj heq
    match cached with
    | .ok (some context) =>
      intro context' heq
      obtain rfl := Option.some.inj (Except.ok.inj heq)
      exact .inr (hhit _ rfl)
    | .ok none | .error _ =>
      have hlogs : LogsChecked (fun tr r => AllChecked tr ∧ ∀ context, r = .ok (some context) →
          Checked (env.hashKey key) context tr) (lookUpKey env (env.hashKey key)) _ := logs_lookUpKey htr
      exact hlogs.mono fun tr r h context heq => .inl (h.2 context heq)

theorem logs_authenticate {header : Option JsString} : LogsChecked (fun tr r => ∀ keyHash context,
      (AuthTask.authenticate header).keyHash? env = some keyHash → r = .ok (some context) →
        AnsweredBy keyHash context tr) ((AuthTask.authenticate header).code env) [] := by
  refine Logs.bind (Q := fun tr r => ∀ keyHash context, (AuthTask.authenticate header).keyHash? env = some keyHash →
    r = .ok context → AnsweredBy keyHash context tr) ?_ (fun tr a h => ?_) fun _ _ _ _ _ _ => nofun
  · unfold authGuard
    cases hkey : bearerKey header with
    | none => exact fun _ _ _ => nofun
    | some key =>
      refine logs_validateApiKey.bind (fun tr found h => ?_) fun _ _ _ _ _ _ => nofun
      cases found with
      | none => exact fun _ _ _ => nofun
      | some context =>
        intro keyHash context' hhash heq
        obtain rfl := Except.ok.inj heq
        simp only [AuthTask.keyHash?, hkey, Option.map_some, Option.some.injEq] at hhash
        exact hhash ▸ h _ rfl
  · intro keyHash context hhash heq
    exact h keyHash context hhash (congrArg Except.ok (Option.some.inj (Except.ok.inj heq)))

theorem logs_task {task : AuthTask} : LogsChecked (fun tr r => ∀ keyHash context,
      task.keyHash? env = some keyHash → r = .ok (some context) → AnsweredBy keyHash context tr)
      (task.code env) [] := by
  cases task with
  | authenticate header => exact logs_authenticate
  | invalidateCache keyHash =>
    have del : LogsChecked (fun _ _ => True) (AuthOp.cacheDel keyHash).call [] :=
      logs_authCall (o := .cacheDel keyHash) fun f s _ =>
        ⟨allChecked_nil.append (e := AuthStore.handle.event f s (.cacheDel keyHash)) nofun, trivial⟩
    exact del.bind (fun _ _ _ _ _ => nofun) fun _ _ _ _ _ => nofun

/-! ### Clock and cache -/

theorem now_handle : (AuthStore.handle f s o).2.now = s.now := by
  cases o with
  | now => rfl
  | _ => cases f <;> rfl

/-- What is in the cache was there or was put there by the call. -/
theorem cache_handle {v : Timed KeyContext} (h : (AuthStore.handle f s o).2.cache keyHash = some v) :
    s.cache keyHash = some v ∨ ∃ seconds, o = .cacheSetex keyHash seconds v.value ∧
      v.expiresAt = s.now + 1000 * seconds := by
  have meets : (AuthStore.handle f s o).2 = s ∨ (AuthStore.handle f s o).2 = (s.serve o).2 := by
    cases o with
    | now => exact .inl rfl
    | _ => exact Fault.meet_cases.imp_right And.right
  rcases meets with hs | hs <;> rw [hs] at h
  · exact .inl h
  · cases o with
    | cacheSetex h' seconds context =>
      simp only [AuthStore.serve] at h
      split at h
      · next heq =>
        obtain rfl := Option.some.inj h
        exact .inr ⟨seconds, by rw [heq], rfl⟩
      · exact .inl h
    | cacheDel h' =>
      simp only [AuthStore.serve] at h
      split at h
      · cases h
      · exact .inl h
    | now | cacheGet | findKey | lastUsedSet => exact .inl h

/-- What a request finds in the cache is there and has not expired. -/
theorem hit_cached (h : hit o (AuthStore.handle f s o).1 = some (keyHash, context)) :
    ∃ v, s.cache keyHash = some v ∧ v.value = context ∧ s.now < v.expiresAt := by
  cases o with
  | cacheGet h' =>
    cases hr : (AuthStore.handle f s (.cacheGet h')).1 with
    | error err =>
      rw [hr] at h
      cases h
    | ok found =>
      have hserve := Fault.meet_ok (r := s.serve (.cacheGet h')) hr
      have hlive : Timed.live s.now (s.cache h') = found :=
        Except.ok.inj ((congrArg Prod.fst hserve).symm.trans hr)
      rw [hr] at h
      cases found with
      | none => cases h
      | some c =>
        obtain ⟨rfl, rfl⟩ := Prod.mk.inj (Option.some.inj h)
        unfold Timed.live at hlive
        split at hlive
        · next v hv =>
          split at hlive
          · next hlt => exact ⟨v, hv, Option.some.inj hlive, hlt⟩
          · cases hlive
        · cases hlive
  | _ => cases h

/-! ### Runs -/

variable {p p' : AuthPool} {l : AuthLabel} {ls : List AuthLabel}

/-- Some request cached a context at a time. -/
def CachedAt (p : AuthPool) (keyHash : JsString) (context : KeyContext) (time : Millis) : Prop :=
  ∃ t ∈ p.threads, ∃ e ∈ t.trace, e.op = .cacheSetex keyHash CACHE_TTL_SECONDS context ∧ e.before.now = time

theorem CachedAt.step {time : Millis} (h : (authentication env).step p l = some p')
    (hc : CachedAt p keyHash context time) : CachedAt p' keyHash context time := by
  obtain ⟨t, ht, e, he, hop⟩ := hc
  obtain ⟨t', ht', he'⟩ := System.event_kept h ht he
  exact ⟨t', ht', e, he', hop⟩

/-- What holds in every pool that a run reaches. -/
structure RevocationInvariant (env : AuthEnv) (p : AuthPool) : Prop where
  traced : (authentication env).Traced p
  since : System.Since (fun s s' : AuthStore => s.now ≤ s'.now) p
  lawful : System.Histories (fun _ => ClockRuns) p
  cached : ∀ keyHash v, p.store.cache keyHash = some v → ∃ time, CachedAt p keyHash v.value time ∧
    time ≤ p.store.now ∧ v.expiresAt = time + 1000 * CACHE_TTL_SECONDS
  hits : ∀ t ∈ p.threads, ∀ e ∈ t.trace, ∀ keyHash context, hit e.op e.reply = some (keyHash, context) →
    ∃ time, CachedAt p keyHash context time ∧ time ≤ e.before.now ∧
      e.before.now < time + 1000 * CACHE_TTL_SECONDS

theorem now_step (h : (authentication env).step p l = some p') : p.store.now ≤ p'.store.now := by
  refine System.store_rel (R := fun s s' : AuthStore => s.now ≤ s'.now) h (fun _ => Nat.le_refl _)
    (fun _ _ _ => now_handle.ge) ?_
  intro e s s' hs
  rw [← Option.some.inj hs]
  cases e with
  | tick ms => exact Nat.le_add_right _ _
  | configure => exact le_rfl

/-- What a request cached, it had checked. -/
theorem allChecked_of (htr : (authentication env).Traced p) (hl : System.Histories (fun _ => ClockRuns) p)
    {t : AuthThread} (ht : t ∈ p.threads) : AllChecked t.trace := by
  obtain ⟨i, hrun⟩ := htr.of_mem ht
  exact (hrun.logs logs_task allChecked_nil (hl t ht)).1

theorem cached_step (h : (authentication env).step p l = some p') (hp : RevocationInvariant env p)
    (hchecked : ∀ t ∈ p'.threads, AllChecked t.trace) {v : Timed KeyContext}
    (hv : p'.store.cache keyHash = some v) : ∃ time, CachedAt p' keyHash v.value time ∧
      time ≤ p'.store.now ∧ v.expiresAt = time + 1000 * CACHE_TTL_SECONDS := by
  have old : p.store.cache keyHash = some v → ∃ time, CachedAt p' keyHash v.value time ∧
      time ≤ p'.store.now ∧ v.expiresAt = time + 1000 * CACHE_TTL_SECONDS := fun hv => by
    obtain ⟨time, hc, hle, hexp⟩ := hp.cached keyHash v hv
    exact ⟨time, hc.step h, hle.trans (now_step h), hexp⟩
  cases l with
  | arrive task =>
    obtain rfl := System.step_arrive h
    exact old hv
  | outside e =>
    obtain ⟨s, hs, rfl⟩ := System.step_outside h
    obtain rfl := Option.some.inj hs
    refine old ?_
    cases e <;> exact hv
  | pick i c =>
    obtain ⟨t, ht, ⟨k, -, rfl⟩ | ⟨o, k, -, rfl⟩⟩ := System.step_pick h
    · exact old hv
    · rcases cache_handle hv with hv | ⟨seconds, rfl, hexp⟩
      · exact old hv
      · have hmem := List.mem_of_getElem? (List.getElem?_set_self (a := { t with
            trace := t.trace ++ [(AuthStore.handle).event c.2 p.store (.cacheSetex keyHash seconds v.value)]
            prog := k (AuthStore.handle c.2 p.store (.cacheSetex keyHash seconds v.value)).1 })
          (List.getElem?_eq_some_iff.1 ht).1)
        have hlast := List.mem_append_right t.trace (List.mem_singleton.2 rfl :
          (AuthStore.handle).event c.2 p.store (.cacheSetex keyHash seconds v.value) ∈ [_])
        obtain ⟨rfl, -⟩ := hchecked _ hmem _ hlast keyHash seconds v.value rfl
        exact ⟨p.store.now, ⟨_, hmem, _, hlast, rfl, rfl⟩, now_step h, hexp⟩

theorem hits_step (h : (authentication env).step p l = some p') (hp : RevocationInvariant env p)
    (htr : (authentication env).Traced p') : ∀ t ∈ p'.threads, ∀ e ∈ t.trace, ∀ keyHash context,
      hit e.op e.reply = some (keyHash, context) → ∃ time, CachedAt p' keyHash context time ∧
        time ≤ e.before.now ∧ e.before.now < time + 1000 * CACHE_TTL_SECONDS := by
  intro t ht e he keyHash context hhit
  rcases System.event_cases h ht he with ⟨t₀, ht₀, he₀⟩ | ⟨hbefore, -⟩
  · obtain ⟨time, hc, hle, hlt⟩ := hp.hits t₀ ht₀ e he₀ keyHash context hhit
    exact ⟨time, hc.step h, hle, hlt⟩
  · obtain ⟨i, hrun⟩ := htr.of_mem ht
    obtain ⟨f, s, o, rfl⟩ := hrun.event e he
    obtain rfl : s = p.store := hbefore
    obtain ⟨v, hv, rfl, hlive⟩ := hit_cached hhit
    obtain ⟨time, hc, hle, hexp⟩ := hp.cached keyHash v hv
    exact ⟨time, hc.step h, hle, hexp ▸ hlive⟩

theorem revocationInvariant_step (h : (authentication env).step p l = some p')
    (hp : RevocationInvariant env p) : RevocationInvariant env p' := by
  have htr := hp.traced.step h
  have hl : System.Histories (fun _ => ClockRuns) p' := hp.lawful.step h fun i c t o k _ ht _ e he =>
    (hp.since t (List.mem_of_getElem? ht) e he).1
  have hs : System.Since (fun s s' : AuthStore => s.now ≤ s'.now) p' :=
    hp.since.step h (fun _ => le_rfl) (fun _ _ _ => le_trans) (now_step h)
  exact ⟨htr, hs, hl, fun keyHash v hv => cached_step h hp (fun t ht => allChecked_of htr hl ht) hv,
    hits_step h hp htr⟩

/-- In every run, a request is authenticated with a key only by a check of the key: its own, or that of a
request that cached its answer less than 300 seconds before. -/
theorem authenticated_by_check (hs : ∀ keyHash, s.cache keyHash = none)
    (hr : (authentication env).run (Pool.empty s) ls = some p) : AuthenticatedByCheck env p := by
  have hI : RevocationInvariant env p := System.run_induction
    (fun p l p' hp h => revocationInvariant_step h hp) hr
    ⟨System.traced_empty s, System.since_empty s, System.histories_empty s,
      fun keyHash v hv => absurd ((hs keyHash).symm.trans hv) nofun, fun _ ht => absurd ht List.not_mem_nil⟩
  rintro t ht keyHash context ⟨hhash, hans⟩
  obtain ⟨i, hrun⟩ := hI.traced.of_mem ht
  have hlogs := (hrun.logs logs_task allChecked_nil (hI.lawful t ht)).2
  cases hprog : t.prog with
  | ret a =>
    rw [hprog] at hlogs
    have ha : a = some context := by
      unfold Thread.answer? at hans
      rw [hprog] at hans
      exact Option.some.inj hans
    rcases hlogs keyHash context hhash (congrArg Except.ok ha) with hc | ⟨e, he, hhit⟩
    · exact .inl hc
    · obtain ⟨time, ⟨t', ht', e', he', hop, rfl⟩, hle, hlt⟩ := hI.hits t ht e he keyHash context hhit
      have hchecked := allChecked_of hI.traced hI.lawful ht' e' he' keyHash _ context hop
      exact .inr ⟨e, he, t', e', hhit, ht', ⟨he', hop⟩, ⟨hle, hlt⟩, hchecked.2⟩
  | throw | choose | call =>
    unfold Thread.answer? at hans
    rw [hprog] at hans
    cases hans

/-! ### Runs in which an answer is cached -/

/-- Names are left as they are, and a key is its own hash. -/
def AuthEnv.transparent : AuthEnv where
  hashKey key := key
  decryptProtocolName _ := []

/-- A key for an environment. -/
def plainKey (environment : String) : JsString := js environment ++ List.replicate 30 49

/-- The row of a key. -/
def keyRow (environment : String) (isTestKey isRevoked : Bool) (expiresAt : Option Millis) : AuthKey where
  id := js "k"
  protocolId := js "p"
  keyHash := plainKey environment
  environment := js "production"
  scopes := []
  isRevoked := isRevoked
  expiresAt := expiresAt
  isTestKey := isTestKey
  testKeyType := none

/-- The protocol of the keys. -/
def keyOwner (isSuspended : Bool) : AuthAccount where
  id := js "p"
  protocolPubkey := js "pk"
  nameEncrypted := []
  customFromName := some (js "P")
  tier := 1
  isActive := true
  isSuspended := isSuspended
  sendsThisPeriod := 0
  overageEnabled := false
  verificationStatus := js "verified"

/-- Stores with one key, before any request. -/
def keyStore (key : AuthKey) : AuthStore where
  now := 1000
  keys := [key]
  accounts := [keyOwner false]
  cache _ := none
  lastUsed _ := none

/-- A replay of authentication. -/
def replayAuth (s : AuthStore) (ls : List AuthLabel) : Option AuthPool :=
  (authentication AuthEnv.transparent).run (Pool.empty s) ls

/-- A request with a key, whose next `n` calls are answered. -/
def presents (i n : Nat) (key : JsString) : List AuthLabel :=
  .arrive (.authenticate (some (js "Bearer " ++ key))) :: List.replicate n (.pick i (true, .none))

/-- A live key that is used, and used again after something else has happened. -/
def usedAgain (change : AuthChange) : List AuthLabel :=
  presents 0 5 (plainKey "hrld_live_") ++ .outside change :: presents 1 1 (plainKey "hrld_live_")

theorem authenticated_by_check_usedAgain :
    ∃ p ∈ replayAuth (keyStore (keyRow "hrld_live_" false false none)) (usedAgain (.tick 299999)),
      AuthenticatedByCheck AuthEnv.transparent p ∧
        p.threads.map (·.answer?.any Option.isSome) = [true, true] := by
  obtain ⟨p, hp, hans⟩ :
      ∃ p ∈ replayAuth (keyStore (keyRow "hrld_live_" false false none)) (usedAgain (.tick 299999)),
        p.threads.map (·.answer?.any Option.isSome) = [true, true] := by decide +kernel
  exact ⟨p, hp, authenticated_by_check (fun _ => rfl) hp, hans⟩

/-- Some request of a replay is authenticated while its key is not usable. -/
abbrev LetsThrough (s : AuthStore) (ls : List AuthLabel) (keyHash : JsString) : Prop :=
  ∃ p ∈ replayAuth s ls, ∃ t ∈ p.threads, t.request.keyHash? AuthEnv.transparent = some keyHash ∧
    t.answer?.any Option.isSome = true ∧ ∀ e ∈ t.trace, ¬ e.before.Usable keyHash

theorem LetsThrough.not_usable {ls : List AuthLabel} (h : LetsThrough s ls keyHash) :
    ∃ p ∈ replayAuth s ls, ¬ UsableWhenAuthenticated AuthEnv.transparent p := by
  obtain ⟨p, hp, t, ht, hhash, hans, hno⟩ := h
  obtain ⟨a, ha, hsome⟩ := (Option.any_eq_true _ _).1 hans
  obtain ⟨context, rfl⟩ := Option.isSome_iff_exists.1 hsome
  refine ⟨p, hp, fun h => ?_⟩
  obtain ⟨e, he, husable⟩ := h t ht keyHash context ⟨hhash, ha⟩
  exact hno e he husable

/-- A key that was revoked, and one whose protocol was suspended, go on being answered from the cache; a
live key whose expiry is past is not even refused by the database. -/
theorem authenticated_unusable :
    (∃ p ∈ replayAuth (keyStore (keyRow "hrld_live_" false false none))
        (usedAgain (.configure [keyRow "hrld_live_" false true none] [keyOwner false])),
      ¬ UsableWhenAuthenticated AuthEnv.transparent p) ∧
    (∃ p ∈ replayAuth (keyStore (keyRow "hrld_live_" false false none))
        (usedAgain (.configure [keyRow "hrld_live_" false false none] [keyOwner true])),
      ¬ UsableWhenAuthenticated AuthEnv.transparent p) ∧
    ∃ p ∈ replayAuth (keyStore (keyRow "hrld_live_" false false (some 500)))
    (presents 0 5 (plainKey "hrld_live_")),
      ¬ UsableWhenAuthenticated AuthEnv.transparent p := by
  have revoked : LetsThrough (keyStore (keyRow "hrld_live_" false false none))
      (usedAgain (.configure [keyRow "hrld_live_" false true none] [keyOwner false])) (plainKey "hrld_live_") := by
    decide +kernel
  have suspended : LetsThrough (keyStore (keyRow "hrld_live_" false false none))
      (usedAgain (.configure [keyRow "hrld_live_" false false none] [keyOwner true])) (plainKey "hrld_live_") := by
    decide +kernel
  have expired : LetsThrough (keyStore (keyRow "hrld_live_" false false (some 500)))
      (presents 0 5 (plainKey "hrld_live_")) (plainKey "hrld_live_") := by decide +kernel
  exact ⟨revoked.not_usable, suspended.not_usable, expired.not_usable⟩

end HeraldGateway
