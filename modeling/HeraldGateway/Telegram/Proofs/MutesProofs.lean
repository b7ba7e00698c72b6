import HeraldGateway.Delivery.Proofs.DigestPrivacyProofs
import HeraldGateway.Telegram.Mutes

/-!
# Mutes that stand until they are taken back

A mute that was set is found until it lapses, and a delivery that finds it sends nothing that it is about.
-/

namespace HeraldGateway

open Async

variable {env : Env} {c : Choice} {s : World} {o : Op} {key : RedisKey} {since : Millis}

/-! ### What the tasks call -/

section calls

/-- What the bots call when they receive an update. -/
def Op.Handles : Op → Prop
  | .redisSetex key ttl value => key.isMute = true ∧ ttl = MUTE_TTL_SECONDS ∧ value = js "1"
  | .notificationFindUnique _ | .redisGet _ | .redisDel _ | .answerCbQuery .. | .sendMessage .. | .getChatMember ..
  | .protocolSettingsFindUnique _ => True
  | _ => False

variable {A : Allowed} {G : Good} {chatId queryId text : JsString} (hA : ∀ o : Op, o.Handles → A o)

include hA

theorem within_say : (say chatId text).Within A G := within_swallow (within_call (hA _ trivial))

theorem within_answer : (answer queryId text).Within A G := within_swallow (within_call (hA _ trivial))

theorem within_clearSpinner : (clearSpinner queryId).Within A G :=
  Within.ite (fun _ => .ret _) fun _ => within_swallow (within_call (hA _ trivial))

theorem within_handleMuteCallback {notifId : JsString} :
    (handleMuteCallback chatId notifId queryId).Within A G := by
  refine Within.bind (within_call (hA _ trivial)) fun protocolId => ?_
  cases protocolId with
  | none => exact within_answer hA
  | some protocolId => exact Within.bind (within_call (hA _ ⟨rfl, rfl, rfl⟩)) fun _ => within_answer hA

theorem within_customMuteCallback {notifId : JsString} :
    (customMuteCallback chatId notifId queryId).Within A G := by
  refine Within.bind (within_call (hA _ trivial)) fun protocolId => Within.ite (fun _ => ?_)
    fun _ => within_answer hA
  exact Within.bind (within_call (hA _ ⟨rfl, rfl, rfl⟩)) fun _ => within_answer hA

theorem within_muteCategory {categories : JsString} {category : Option JsString} :
    (muteCategory categories chatId category).Within A G := by
  refine Within.ite (fun _ => within_say hA) fun _ => Within.ite (fun _ => within_say hA) fun _ => ?_
  exact Within.bind (within_call (hA _ ⟨rfl, rfl, rfl⟩)) fun _ => within_say hA

theorem within_unmuteCategory {categories : JsString} {category : Option JsString} :
    (unmuteCategory categories chatId category).Within A G := by
  refine Within.ite (fun _ => within_say hA) fun _ => Within.ite (fun _ => within_say hA) fun _ => ?_
  exact Within.bind (within_call (hA _ trivial)) fun _ => within_say hA

theorem within_handleCategoriesCommand : (handleCategoriesCommand chatId).Within A G := by
  refine Within.bind (Within.mapEach fun entry _ => ?_) fun lines => within_say hA
  exact Within.bind (within_orNull (within_call (hA _ trivial))) fun _ => .ret _

theorem within_handleUpdate {u : Update} : (handleUpdate env u).Within A G := by
  cases u with
  | callback chat data queryId =>
    refine Within.ite (fun _ => Within.ite (fun _ => ?_) fun _ => within_clearSpinner hA) fun _ => .ret _
    exact Within.tryCatch (within_handleMuteCallback hA) fun _ => within_clearSpinner hA
  | message chat userId chatType text =>
    refine Within.ite (fun _ => .ret _) fun _ => ?_
    refine Within.ite (fun _ => within_muteCategory hA) fun _ => ?_
    refine Within.ite (fun _ => within_unmuteCategory hA) fun _ => ?_
    exact Within.ite (fun _ => within_handleCategoriesCommand hA) fun _ => .ret _

theorem within_getCustomBotToken {protocolId : JsString} : (getCustomBotToken env protocolId).Within A G := by
  unfold getCustomBotToken
  split
  · exact .ret _
  · refine Within.bind (within_call (hA _ trivial)) fun settings => ?_
    split
    · exact .ret _
    · split <;> exact .ret _

theorem within_verifyGroupAdmin {userId chatType : Option JsString} :
    (verifyGroupAdmin chatId userId chatType).Within A G := by
  refine Within.ite (fun _ => .ret _) fun _ => ?_
  cases userId with
  | none => exact .ret _
  | some userId =>
    exact Within.tryCatch (Within.bind (within_call (hA _ trivial)) fun _ => .ret _) fun _ => .ret _

theorem within_handleCustomBotMessageText {userId chatType : Option JsString} :
    (handleCustomBotMessageText chatId userId chatType text).Within A G := by
  have whenAdmin : ∀ {p : Gateway Unit}, p.Within A G → Gateway.Within A G
      ((verifyGroupAdmin chatId userId chatType).bind fun admin => if admin then p else .ret ()) := fun hp =>
    Within.bind (within_verifyGroupAdmin hA) fun _ => Within.ite (fun _ => hp) fun _ => .ret _
  refine Within.ite (fun _ => whenAdmin (within_muteCategory hA)) fun _ => ?_
  refine Within.ite (fun _ => whenAdmin (within_unmuteCategory hA)) fun _ => ?_
  exact Within.ite (fun _ => whenAdmin (within_handleCategoriesCommand hA)) fun _ => .ret _

theorem within_handleCustomBotUpdate {protocolId : JsString} {u : Update} :
    (handleCustomBotUpdate env protocolId u).Within A G := by
  refine Within.bind (within_getCustomBotToken hA) fun token => Within.ite (fun _ => .ret _) fun _ => ?_
  cases u with
  | callback chat data queryId =>
    refine Within.ite (fun _ => within_clearSpinner hA) fun _ => Within.ite (fun _ => ?_)
      fun _ => within_clearSpinner hA
    exact Within.tryCatch (within_customMuteCallback hA) fun _ => within_clearSpinner hA
  | message chat userId chatType text =>
    exact Within.ite (fun _ => .ret _) fun _ => within_handleCustomBotMessageText hA

end calls

/-- A call of a task: it sets mutes for their time only. -/
def KeepsMutes : Op → Prop
  | .redisSetex key ttl value => key.isMute = true → ttl = MUTE_TTL_SECONDS ∧ value = js "1"
  | .redisIncr _ | .redisExpire .. => False
  | _ => True

theorem within_keepsMutes (task : ChatTask) : (task.code env).Within KeepsMutes fun _ _ => True := by
  have handles : ∀ o : Op, o.Handles → KeepsMutes o := by
    intro o ho
    cases o with
    | redisSetex => exact fun _ => ho.2
    | redisIncr | redisExpire => exact ho
    | _ => trivial
  cases task with
  | deliver chatId job assets =>
    refine Within.bind (within_deliverTelegram (fun o ho => ?_) fun _ _ => trivial) fun _ => .ret _
    cases o with
    | redisSetex key ttl value =>
      cases key with
      | protocolMute | categoryMute | sandboxDaily | sandboxPlayground => cases ho
      | blocked | groupSent | groupMessage =>
        intro hmute
        cases hmute
    | redisIncr | redisExpire => cases ho
    | _ => trivial
  | update u => exact within_handleUpdate handles
  | customUpdate protocolId u => exact within_handleCustomBotUpdate handles

/-- A mute is not taken for absent. -/
def Heeded (key : RedisKey) (task : ChatTask) : Good :=
  fun o r => ¬ (key ∈ task.guards o ∧ findsNothing o r = true)

/-- A task sends what a mute is about only after it took the mute for absent. -/
theorem within_unbroken (task : ChatTask) :
    (task.code env).Within (fun o => o.breaks key = false) (Heeded key task) := by
  have handles : ∀ o : Op, o.Handles → o.breaks key = false := by
    intro o ho
    cases o with
    | sendTelegram => cases ho
    | _ => rfl
  cases task with
  | update u => exact within_handleUpdate handles
  | customUpdate protocolId u => exact within_handleCustomBotUpdate handles
  | deliver chatId job assets =>
    refine Within.bind (within_deliverTelegram (fun o ho => ?_) fun m hm => ?_) fun _ => .ret _
    · cases o with
      | sendTelegram => cases ho
      | _ => rfl
    · have heeded : ∀ {read : RedisKey}, Missing (Heeded key (.deliver chatId job assets)) read →
          key ∉ ChatTask.guards (.deliver chatId job assets) (.redisGet read) := by
        rintro read ⟨r, hgood, hmissing⟩ hguards
        exact hgood ⟨hguards, by rw [findsNothing, hmissing]; rfl⟩
      -- What is not found is asked for by the key of the chat that the message is for.
      have hsub := heeded hm.protocolMute
      have hcat := heeded hm.categoryMute
      rw [Op.breaks, Bool.eq_false_iff]
      intro hsilences
      cases htarget : m.target with
      | subscriber =>
        have hchat := hm.subscriber htarget
        cases key with
        | protocolMute chat protocolId =>
          rw [RedisKey.silences, Bool.and_eq_true, beq_iff_eq, beq_iff_eq, hchat, hm.protocolId] at hsilences
          rw [hsilences.1, hsilences.2] at hsub
          exact hsub (List.mem_singleton.2 rfl)
        | categoryMute chat category =>
          rw [RedisKey.silences, Bool.and_eq_true, beq_iff_eq, beq_iff_eq, hchat, hm.category] at hsilences
          rw [hsilences.1, hsilences.2] at hcat
          exact hcat (List.mem_singleton.2 rfl)
        | _ => cases hsilences
      | group =>
        have hgroup := heeded (hm.unmarked htarget)
        cases key with
        | protocolMute chat protocolId =>
          rw [RedisKey.silences, Bool.and_eq_true, beq_iff_eq, beq_iff_eq, hm.protocolId] at hsilences
          rw [hsilences.1, ← hsilences.2] at hgroup
          exact hgroup List.mem_cons_self
        | categoryMute chat category =>
          rw [RedisKey.silences, Bool.and_eq_true, beq_iff_eq, beq_iff_eq, hm.category] at hsilences
          rw [hsilences.1, ← hsilences.2] at hgroup
          exact hgroup (List.mem_cons_of_mem _ List.mem_cons_self)
        | _ => cases hsilences

/-! ### Calls and mutes -/

/-- The mute is stored, and does not lapse before a time. -/
def Standing (key : RedisKey) (deadline : Millis) (s : World) : Prop :=
  ∃ v, s.redis key = some v ∧ truthy (some v.value) = true ∧ deadline ≤ v.expiresAt

theorem isMute_of_sets {e : ChatEvent} (h : setsMute key e = true) : key.isMute = true := by
  rw [setsMute, Bool.and_eq_true, beq_iff_eq] at h
  cases hop : e.op with
  | redisSetex key' ttl value =>
    rw [hop, Op.mutes?] at h
    split at h
    · next hmute => rwa [← Option.some.inj h.1]
    · cases h.1
  | _ =>
    rw [hop] at h
    cases h.1

/-- A mute that stands is found before it lapses. -/
theorem Standing.live {deadline : Millis} (h : Standing key deadline s) (hnow : s.now < deadline) :
    Timed.live s.now (s.redis key) ≠ none := by
  obtain ⟨v, hv, -, hdeadline⟩ := h
  rw [hv, Timed.live, if_pos (Nat.lt_of_lt_of_le hnow hdeadline)]
  exact Option.some_ne_none _

/-- A mute that is set lasts for its time. -/
theorem standing_setRedis {ttl : Nat} (hsince : since ≤ s.now) (httl : ttl = MUTE_TTL_SECONDS) :
    Standing key (since + MUTE_MS) (s.setRedis key (some ⟨js "1", s.now + ttl * 1000⟩)) := by
  have htruthy : truthy (some (js "1")) = true := by decide
  refine ⟨⟨js "1", s.now + ttl * 1000⟩, setRedis_self, htruthy, ?_⟩
  rw [httl]
  exact Nat.add_le_add_right hsince MUTE_MS

theorem Standing.setRedis_ne {deadline : Millis} {key' : RedisKey} {v : Option (Timed JsString)}
    (h : Standing key deadline s) (hne : key ≠ key') : Standing key deadline (s.setRedis key' v) := by
  obtain ⟨w, hw, hstands⟩ := h
  exact ⟨w, (HeraldGateway.setRedis_ne hne).trans hw, hstands⟩

theorem standing_of_sets (ho : KeepsMutes o) (h : setsMute key ((World.handle env).event c s o) = true) :
    Standing key (s.now + MUTE_MS) (World.handle env c s o).2 := by
  have hmute := isMute_of_sets h
  rw [setsMute, Bool.and_eq_true, beq_iff_eq] at h
  obtain ⟨hsets, happlies⟩ := h
  cases o with
  | redisSetex key' ttl value =>
    obtain rfl : key' = key := by
      rw [Handler.event, Op.mutes?] at hsets
      split at hsets
      · exact Option.some.inj hsets
      · cases hsets
    obtain ⟨httl, rfl⟩ := ho hmute
    have heffect : c.fault.applies = true := happlies
    rw [handle_redisSetex, if_pos heffect]
    exact standing_setRedis (Nat.le_refl _) httl
  | _ => cases hsets

/-- A mute stands after every call that does not take it back. -/
theorem standing_handle (hmute : key.isMute = true) (ho : KeepsMutes o) (hsince : since ≤ s.now)
    (hno : clearsMute key ((World.handle env).event c s o) = false) (h : Standing key (since + MUTE_MS) s) :
    Standing key (since + MUTE_MS) (World.handle env c s o).2 := by
  by_cases ht : o.table = .redis
  · cases o with
    | redisSetex key' ttl value =>
      rw [handle_redisSetex]
      split
      · by_cases hkey : key = key'
        · subst hkey
          obtain ⟨httl, rfl⟩ := ho hmute
          exact standing_setRedis hsince httl
        · exact h.setRedis_ne hkey
      · exact h
    | redisDel key' =>
      rw [handle_redisDel]
      split
      · next happlies =>
        refine h.setRedis_ne fun hkey => ?_
        have hclears : (key' == key && c.fault.applies) = false := hno
        rw [happlies, hkey, Bool.and_true, beq_self_eq_true] at hclears
        cases hclears
      · exact h
    | redisIncr | redisExpire => exact absurd ho id
    | _ => cases ht
  · obtain ⟨v, hv, hstands⟩ := h
    exact ⟨v, (congrFun (handle_untouched.redis ht) key).trans hv, hstands⟩

/-! ### Runs -/

variable {p p' : ChatPool} {l : ChatLabel} {ls : List ChatLabel}

/-- What is left of a thread's task calls as the task does. -/
theorem keepsMutes_of_next (hp : (chatTasks env).Traced p) {i : Nat} {t : ChatThread}
    {k : Except Err o.Res → Gateway Unit} (ht : p.threads[i]? = some t) (hprog : t.prog = .call o k) :
    KeepsMutes o := by
  have hrun := hp i t ht
  rw [hprog] at hrun
  exact (hrun.along (within_keepsMutes t.request) fun _ _ => trivial).1.1

/-- Since a program set a mute, it stands. -/
structure Muted (env : Env) (key : RedisKey) (i : Nat) (set : ChatEvent) (p : ChatPool) : Prop where
  traced : (chatTasks env).Traced p
  recorded : ∃ t, p.threads[i]? = some t ∧ set ∈ t.trace
  clock : set.before.now ≤ p.store.now
  standing : Standing key (set.before.now + MUTE_MS) p.store

theorem chat_clock_step (h : (chatTasks env).step p l = some p') : p.store.now ≤ p'.store.now := by
  refine System.store_rel (R := fun s s' : World => s.now ≤ s'.now) h (fun _ => Nat.le_refl _)
    (fun c s o => handle_untouched.clock.ge) ?_
  intro w s s' hs
  rw [← Option.some.inj hs]
  exact Nat.le_max_left _ _

theorem standing_step (h : (chatTasks env).step p l = some p') (hp : (chatTasks env).Traced p)
    (hmute : key.isMute = true) (hsince : since ≤ p.store.now)
    (hno : ∀ x ∈ (chatTasks env).answered? p l, clearsMute key x.2 = false)
    (hs : Standing key (since + MUTE_MS) p.store) : Standing key (since + MUTE_MS) p'.store := by
  cases l with
  | arrive r =>
    rw [System.step_arrive h]
    exact hs
  | outside w =>
    obtain ⟨s', hs', rfl⟩ := System.step_outside h
    obtain ⟨v, hv, hstands⟩ := hs
    refine ⟨v, ?_, hstands⟩
    rw [← Option.some.inj hs']
    exact (if_pos hmute).trans hv
  | pick i c =>
    obtain ⟨t, ht, ⟨k, -, rfl⟩ | ⟨o, k, hprog, rfl⟩⟩ := System.step_pick h
    · exact hs
    · exact standing_handle hmute (keepsMutes_of_next hp ht hprog) hsince (hno _ (System.answered_of_next ht hprog)) hs

theorem Muted.step {i : Nat} {set : ChatEvent} (h : (chatTasks env).step p l = some p')
    (hmute : key.isMute = true) (hno : ∀ x ∈ (chatTasks env).answered? p l, clearsMute key x.2 = false)
    (hp : Muted env key i set p) :
    Muted env key i set p' := by
  obtain ⟨t, ht, hset⟩ := hp.recorded
  obtain ⟨t', ht', -, hpre⟩ := System.trace_step h ht
  exact ⟨hp.traced.step h, ⟨t', ht', hpre.subset hset⟩, hp.clock.trans (chat_clock_step h),
    standing_step h hp.traced hmute hp.clock hno hp.standing⟩

theorem muted_of_sets {x : Nat × ChatEvent} (hp : (chatTasks env).Traced p)
    (hx : (chatTasks env).answered? p l = some x) (h : (chatTasks env).step p l = some p')
    (hset : setsMute key x.2 = true) : Muted env key x.1 x.2 p' := by
  obtain ⟨c, t, o, k, rfl, ht, hprog, hevent, hstep⟩ := System.step_of_answered hx
  obtain rfl := Option.some.inj (hstep.symm.trans h)
  rw [hevent] at hset ⊢
  refine ⟨hp.step h, ⟨_, List.getElem?_set_self (List.getElem?_eq_some_iff.1 ht).1, ?_⟩, chat_clock_step h,
    standing_of_sets (keepsMutes_of_next hp ht hprog) hset⟩
  exact List.mem_append_right _ (List.mem_singleton.2 rfl)

/-- While a mute lasts, no delivery runs that took it for absent. -/
def NoneIgnores (key : RedisKey) (deadline : Millis) (p : ChatPool) : Prop :=
  p.store.now < deadline → ∀ u ∈ p.threads, u.prog.running = true → ¬ Ignores key u

theorem noneIgnores_step {deadline : Millis} (hok : HeedsMutes env p l)
    (h : (chatTasks env).step p l = some p') (hmute : key.isMute = true)
    (hs : Standing key deadline p.store) (hp : NoneIgnores key deadline p) :
    NoneIgnores key deadline p' := by
  intro hnow' u' hu' hrunning hignores
  have hnow : p.store.now < deadline := (chat_clock_step h).trans_lt hnow'
  obtain ⟨i, hi⟩ := List.mem_iff_getElem?.1 hu'
  rcases System.thread_cases h hi with ht | ⟨r, -, -, -, rfl⟩ | ⟨t, c, k, -, ht, hprog, -, rfl⟩ |
    ⟨t, c, o, k, hl, ht, hprog, -, rfl⟩
  · exact hp hnow u' (List.mem_of_getElem? ht) hrunning hignores
  · obtain ⟨e, he, -⟩ := hignores
    cases he
  · exact hp hnow t (List.mem_of_getElem? ht) (by rw [hprog]; rfl) hignores
  · obtain ⟨e, he, hguards, hfinds⟩ := hignores
    rcases List.mem_append.1 he with he | he
    · exact hp hnow t (List.mem_of_getElem? ht) (by rw [hprog]; rfl) ⟨e, he, hguards, hfinds⟩
    · rw [List.mem_singleton.1 he] at hguards hfinds
      subst hl
      exact hs.live hnow ((hok t ht o (by rw [hprog]; rfl)).1 hfinds key hguards hmute)

/-- A mute is acknowledged only where no delivery runs that took it for absent. -/
theorem noneIgnores_of_tells {x : Nat × ChatEvent} {set : ChatEvent} {deadline : Millis}
    (hok : HeedsMutes env p l) (hx : (chatTasks env).answered? p l = some x)
    (htells : tellsMuted x.2 = true) (hset : setsMute key set = true) (hp : Muted env key x.1 set p) :
    NoneIgnores key deadline p := by
  obtain ⟨c, t, o, k, rfl, ht, hprog, hevent, -⟩ := System.step_of_answered hx
  obtain ⟨t', ht', hmem⟩ := hp.recorded
  obtain rfl := Option.some.inj (ht.symm.trans ht')
  rw [hevent] at htells
  rw [setsMute, Bool.and_eq_true, beq_iff_eq] at hset
  exact fun _ => (hok t ht o (by rw [hprog]; rfl)).2 (Bool.and_eq_true_iff.1 htells).1 set hmem key hset.1

theorem not_clears_of_tells {e : ChatEvent} (h : tellsMuted e = true) : clearsMute key e = false := by
  unfold tellsMuted at h
  unfold clearsMute
  split
  · next hop =>
    rw [hop] at h
    cases h
  · rfl

/-- Who sends what a mute is about took the mute for absent. -/
theorem ignores_of_breaks {x : Nat × ChatEvent} (hp : (chatTasks env).Traced p)
    (hx : (chatTasks env).answered? p l = some x) (hbreaks : breaksMute key x.2 = true) :
    ∃ u ∈ p.threads, u.prog.running = true ∧ Ignores key u := by
  obtain ⟨c, t, o, k, rfl, ht, hprog, hevent, -⟩ := System.step_of_answered hx
  have hrun := hp _ t ht
  rw [hprog] at hrun
  rw [hevent] at hbreaks
  have hunbroken : (t.request.code env).Within (fun o => o.breaks key = false) (Heeded key t.request) :=
    within_unbroken t.request
  obtain ⟨e, he, hignores⟩ :=
    hrun.exists_reply hunbroken (Bool.not_eq_false _ ▸ (Bool.and_eq_true_iff.1 hbreaks).1)
  exact ⟨t, List.mem_of_getElem? ht, by rw [hprog]; rfl, e, he, not_not.1 hignores⟩

/-- Where no mute in force is taken for absent, mutes are honoured once they are acknowledged. -/
theorem mutes_honoured (hok : (chatTasks env).Keeps (HeedsMutes env) (Pool.empty s) ls) :
    MutesHonoured ((chatTasks env).log (Pool.empty s) ls) := by
  intro pre set mid ack post e rest key hlog hset hthread htells hbreaks hnow
  by_contra hno
  push Not at hno
  have hmute := isMute_of_sets hset
  have kept : ∀ x ∈ mid ++ post, clearsMute key x.2 = false := fun x hx => Bool.eq_false_iff.2 (hno x hx)
  obtain ⟨ls₁, l₁, ls₂, p₁, p₂, h₁⟩ := System.log_split hlog hok
  obtain ⟨ls₃, l₂, ls₄, p₃, p₄, h₂⟩ := System.log_split h₁.after h₁.rest
  obtain ⟨ls₅, l₃, ls₆, p₅, p₆, h₃⟩ := System.log_split h₂.after h₂.rest
  have hset₂ : Muted env key set.1 set.2 p₂ :=
    muted_of_sets (System.traced_of_run h₁.runs) h₁.entry h₁.steps hset
  -- Until the mute is acknowledged it stands.
  have quiet₃ := h₂.kept.and (System.keeps_of_log (P := fun x => clearsMute key x.2 = false) fun x hx =>
    kept x (List.mem_append_left _ (h₂.before ▸ hx)))
  have hmuted₃ : Muted env key set.1 set.2 p₃ :=
    System.Keeps.induction (fun _ _ _ hl hp h => hp.step h hmute hl.2) quiet₃ h₂.runs hset₂
  have hnone₃ : NoneIgnores key (set.2.before.now + MUTE_MS) p₃ :=
    noneIgnores_of_tells h₂.holds h₂.entry htells hset (hthread ▸ hmuted₃)
  have hmuted₄ : Muted env key set.1 set.2 p₄ := hmuted₃.step h₂.steps hmute fun x hx => by
    rw [h₂.entry] at hx
    obtain rfl := Option.some.inj hx
    exact not_clears_of_tells htells
  have hnone₄ := noneIgnores_step h₂.holds h₂.steps hmute hmuted₃.standing hnone₃
  -- From then on no delivery takes it for absent.
  have quiet₅ := h₃.kept.and (System.keeps_of_log (P := fun x => clearsMute key x.2 = false) fun x hx =>
    kept x (List.mem_append_right _ (h₃.before ▸ hx)))
  obtain ⟨hmuted₅, hnone₅⟩ : Muted env key set.1 set.2 p₅ ∧ NoneIgnores key (set.2.before.now + MUTE_MS) p₅ :=
    System.Keeps.induction (I := fun p => Muted env key set.1 set.2 p ∧ NoneIgnores key (set.2.before.now + MUTE_MS) p)
      (fun _ _ _ hl hp h => ⟨hp.1.step h hmute hl.2, noneIgnores_step hl.1 h hmute hp.1.standing hp.2⟩) quiet₅ h₃.runs
      ⟨hmuted₄, hnone₄⟩
  obtain ⟨u, hu, hrunning, hignores⟩ := ignores_of_breaks hmuted₅.traced h₃.entry hbreaks
  obtain ⟨_, _, _, _, -, -, -, hevent, -⟩ := System.step_of_answered h₃.entry
  rw [hevent] at hnow
  exact hnone₅ hnow u hu hrunning hignores

/-! ### Runs that keep and break it -/

/-- The notification of a broadcast to a subscriber whose protocol has a group. -/
def groupedJob : NotificationJobData :=
  broadcastJob templatedBroadcast (client .production) (.uuid 0) (subscriber (js "v"))

/-- A chat mutes the protocol of a notification; then the notification is delivered to a subscriber. -/
def mutedThenDelivered (chatId : JsString) (calls : Nat) : List ChatLabel :=
  .arrive (.update (.callback (some chatId) (js "mute_" ++ (NotificationId.uuid 0).text) (js "q"))) :: proceeds 0 3 ++
    .arrive (.deliver (js "c") groupedJob []) :: proceeds 1 calls

theorem mutes_honoured_mutedThenDelivered :
    MutesHonoured ((chatTasks Env.transparent).log (Pool.empty groupedWorld)
    (mutedThenDelivered (js "c") 2)) :=
  mutes_honoured (by decide +kernel)

theorem eq_take_cons_drop {α : Type} {as : List α} {i : Nat} {a : α} (h : a ∈ as[i]?) :
    as = as.take i ++ a :: as.drop (i + 1) := by
  obtain ⟨hi, rfl⟩ := List.getElem?_eq_some_iff.1 h
  rw [← List.drop_eq_getElem_cons hi, List.take_append_drop]

/-- A group that mutes a protocol is told so, and is posted to by the next delivery. -/
theorem muted_group_posted : ¬ MutesHonoured ((chatTasks Env.transparent).log (Pool.empty groupedWorld)
    (mutedThenDelivered (js "g") 8)) := by
  intro h
  obtain ⟨set, hset, ack, hack, e, he, hsets, hthread, htells, hbreaks, hnow, hno⟩ : ∃ set ∈
      ((chatTasks Env.transparent).log (Pool.empty groupedWorld) (mutedThenDelivered (js "g") 8))[1]?, ∃ ack ∈
        (((chatTasks Env.transparent).log (Pool.empty groupedWorld) (mutedThenDelivered (js "g") 8)).drop 2)[0]?, ∃ e ∈
          ((((chatTasks Env.transparent).log (Pool.empty groupedWorld)
            (mutedThenDelivered (js "g") 8)).drop 2).drop 1)[7]?,
      setsMute (.protocolMute (js "g") (js "p")) set.2 = true ∧ ack.1 = set.1 ∧ tellsMuted ack.2 = true ∧
        breaksMute (.protocolMute (js "g") (js "p")) e.2 = true ∧
          e.2.before.now < set.2.before.now + MUTE_MS ∧
          ∀ x ∈ (chatTasks Env.transparent).log (Pool.empty groupedWorld) (mutedThenDelivered (js "g") 8),
            clearsMute (.protocolMute (js "g") (js "p")) x.2 = false := by
    decide +kernel
  generalize (chatTasks Env.transparent).log (Pool.empty groupedWorld) (mutedThenDelivered (js "g") 8) = log at *
  have hlog := eq_take_cons_drop hset
  rw [eq_take_cons_drop hack, eq_take_cons_drop he] at hlog
  obtain ⟨x, hx, hclears⟩ := h _ _ _ _ _ _ _ _ hlog hsets hthread htells hbreaks hnow
  rw [hno x] at hclears
  · cases hclears
  · rcases List.mem_append.1 hx with hx | hx
    · exact List.mem_of_mem_drop (List.mem_of_mem_take hx)
    · exact List.mem_of_mem_drop (List.mem_of_mem_drop (List.mem_of_mem_take hx))

end HeraldGateway
