import HeraldGateway.Gateway.Proofs.FootprintProofs
import HeraldGateway.Gateway.Proofs.WorldProofs
import HeraldGateway.Telegram.Mutes

/-!
# Markers that are found by the bots that wrote them

A marker that is in force was written by a send that was answered *Forbidden* less than a week ago.
-/

namespace HeraldGateway

open Async

variable {env : Env} {c : Choice} {s : World} {o : Op} {params : TelegramParams} {chatId : JsString}

/-! ### One send -/

/-- A call of a send: of markers it reads and writes that of its chat only. -/
def OnMarker (params : TelegramParams) : Op → Prop
  | .redisGet (.blocked chatId) => chatId = params.chatId
  | .redisSetex key ttl _ => key = .blocked params.chatId ∧ ttl * 1000 = BLOCK_MS
  | .redisIncr _ | .redisExpire .. | .redisDel _ => False
  | _ => True

/-- The code of a send. -/
def sendCode (env : Env) (params : TelegramParams) : Gateway Unit :=
  (sendNotification env params).bind fun _ => .ret ()

/-- A send may write only if calls of its bot may be answered as they are. -/
theorem within_sendCode {A : Allowed} {G : Good} (hread : A (.redisGet (.blocked params.chatId)))
    (hload : ∀ protocolId category templateId, A (.telegramTemplateFindFirst protocolId category templateId))
    (hsend : ∀ p, A (.sendTelegram p))
    (hmark : ∀ p e, G (.sendTelegram p) (.error e) → isForbidden e = true →
      A (.redisSetex (.blocked params.chatId) (7 * 24 * 60 * 60) (js "1"))) :
    (sendCode env params).Within A G := by
  refine Within.bind ?_ fun _ => .ret _
  refine Within.bind (within_orNull (within_call hread)) fun isBlocked => ?_
  refine Within.ite (fun _ => .throw _) fun _ => Within.ite (fun _ => .throw _) fun _ => ?_
  refine Within.bind (Within.ite (fun _ => within_call (hload _ _ _)) fun _ => .ret _) fun template => ?_
  refine Along.tryCatch (Along.perform (S := Calls) (ε := Err) (hsend _)) (fun _ _ => trivial) fun e he => ?_
  exact Within.ite (fun hforbidden => Within.bind (within_swallow (within_call (hmark _ e he hforbidden)))
    fun _ => .throw _) fun _ => .throw _

theorem within_onMarker : (sendCode env params).Within (OnMarker params) fun _ _ => True :=
  within_sendCode rfl (fun _ _ _ => trivial) (fun _ => trivial) fun _ _ _ _ => ⟨rfl, rfl⟩

/-- A bot is not answered that the chat has blocked it. -/
def NotForbidden : Good := fun o r => answersForbidden o r = false

theorem within_unmarked : (sendCode env params).Within (fun o => o.table ≠ .redis) NotForbidden := by
  refine within_sendCode nofun (fun _ _ _ => nofun) (fun _ => nofun) fun p e hgood hforbidden => ?_
  rw [show isForbidden e = false from hgood] at hforbidden
  cases hforbidden

theorem table_of_marks (h : o.marks chatId = true) : o.table = .redis := by
  cases o with
  | redisSetex => rfl
  | _ => cases h

/-! ### Markers -/

/-- What finds a marker read one that is in force. -/
theorem found_marker (h : findsMarker o (World.handle env c s o).1 = true) :
    ∃ chatId v, o = .redisGet (.blocked chatId) ∧ s.redis (.blocked chatId) = some v ∧
    s.now < v.expiresAt := by
  cases o with
  | redisGet key =>
    cases key with
    | blocked chatId =>
      refine ⟨chatId, ?_⟩
      cases hr : (World.handle env c s (.redisGet (.blocked chatId))).1 with
      | error e =>
        rw [hr] at h
        cases h
      | ok v =>
        have hserved := hr
        rw [handle_ok hr] at hserved
        rw [hr, ← Except.ok.inj hserved] at h
        unfold findsMarker heard Timed.live at h
        dsimp only at h
        split at h
        · next v hv =>
          split at h
          · next hlt => exact ⟨v, rfl, hv, hlt⟩
          · cases h
        · cases h
    | _ => cases h
  | _ => cases h

/-- A marker that is there after a call was there before, or was written by the call. -/
theorem marker_cases (ho : OnMarker params o) {v : Timed JsString}
    (h : (World.handle env c s o).2.redis (.blocked chatId) = some v) : s.redis (.blocked chatId) = some v ∨
      chatId = params.chatId ∧ o.marks chatId = true ∧ c.fault.applies = true ∧
      v.expiresAt = s.now + BLOCK_MS := by
  by_cases ht : o.table = .redis
  · cases o with
    | redisSetex key ttl value =>
      obtain ⟨rfl, httl⟩ := ho
      have hmeet : World.handle env c s (.redisSetex (.blocked params.chatId) ttl value) =
          World.meet c.fault s (s.serve env c (.redisSetex (.blocked params.chatId) ttl value)) := rfl
      have written : (s.setRedis (.blocked params.chatId) (some ⟨value, s.now + ttl * 1000⟩)).redis (.blocked chatId) =
          some v → s.redis (.blocked chatId) = some v ∨ chatId = params.chatId ∧
            v.expiresAt = s.now + BLOCK_MS := by
        intro hv
        unfold World.setRedis at hv
        dsimp only at hv
        split at hv
        · next hkey =>
          obtain rfl := Option.some.inj hv
          exact .inr ⟨RedisKey.blocked.inj hkey, by rw [← httl]⟩
        · exact .inl hv
      have marks : chatId = params.chatId →
        (Op.redisSetex (.blocked params.chatId) ttl value).marks chatId = true :=
        fun h => by rw [Op.marks, h, beq_self_eq_true]
      rw [hmeet] at h
      unfold World.meet at h
      cases hf : c.fault with
      | refused e | stalled =>
        rw [hf] at h
        exact .inl h
      | none | unheard e =>
        rw [hf] at h
        exact (written h).imp_right fun hw => ⟨hw.1, marks hw.1, rfl, hw.2⟩
    | redisIncr | redisExpire | redisDel => exact absurd ho id
    | _ => cases ht
  · rw [handle_untouched.redis ht] at h
    exact .inl h

/-! ### Runs -/

variable {p p' : SendPool} {l : SendLabel} {ls : List SendLabel}

/-- What holds in every pool that a run reaches. -/
structure MarkerInvariant (env : Env) (p : SendPool) : Prop where
  traced : (telegramSends env).Traced p
  clock : System.Since (fun s s' : World => s.now ≤ s'.now) p
  marked : ∀ chatId v, p.store.redis (.blocked chatId) = some v → ∃ u ∈ p.threads, u.request.chatId = chatId ∧
    ∃ e ∈ u.trace, e.op.marks chatId = true ∧ e.choice.fault.applies = true ∧
      v.expiresAt = e.before.now + BLOCK_MS

theorem clock_step (h : (telegramSends env).step p l = some p') : p.store.now ≤ p'.store.now := by
  refine System.store_rel (R := fun s s' : World => s.now ≤ s'.now) h (fun _ => Nat.le_refl _)
    (fun c s o => handle_untouched.clock.ge) ?_
  intro w s s' hs
  rw [← Option.some.inj hs]
  exact Nat.le_max_left _ _

theorem onMarker_of_next (hp : (telegramSends env).Traced p) {i : Nat} {t : SendThread}
    {k : Except Err o.Res → Gateway Unit} (ht : p.threads[i]? = some t) (hprog : t.prog = .call o k) :
    OnMarker t.request o := by
  have hrun := hp i t ht
  rw [hprog] at hrun
  exact (hrun.along within_onMarker fun _ _ => trivial).1.1

theorem blockMarked_step (h : (telegramSends env).step p l = some p') (hp : MarkerInvariant env p) :
    ∀ chatId v, p'.store.redis (.blocked chatId) = some v → ∃ u ∈ p'.threads, u.request.chatId = chatId ∧
      ∃ e ∈ u.trace, e.op.marks chatId = true ∧ e.choice.fault.applies = true ∧
        v.expiresAt = e.before.now + BLOCK_MS := by
  intro chatId v hv
  have before : p.store.redis (.blocked chatId) = some v → ∃ u ∈ p'.threads, u.request.chatId = chatId ∧
      ∃ e ∈ u.trace, e.op.marks chatId = true ∧ e.choice.fault.applies = true ∧
        v.expiresAt = e.before.now + BLOCK_MS := by
    intro hv
    obtain ⟨u, hu, hchat, e, he, hmark⟩ := hp.marked chatId v hv
    obtain ⟨u', hu', hreq, hpre⟩ := System.thread_kept h hu
    exact ⟨u', hu', by rw [hreq, hchat], e, hpre.subset he, hmark⟩
  cases l with
  | arrive r =>
    rw [System.step_arrive h] at hv
    exact before hv
  | outside w =>
    obtain ⟨s', hs, rfl⟩ := System.step_outside h
    rw [← Option.some.inj hs] at hv
    dsimp only at hv
    split at hv
    · exact before hv
    · cases hv
  | pick i c =>
    obtain ⟨t, ht, ⟨k, -, rfl⟩ | ⟨o, k, hprog, rfl⟩⟩ := System.step_pick h
    · exact before hv
    · rcases marker_cases (onMarker_of_next hp.traced ht hprog) hv with hold | ⟨hchat, hmarks, happlies, hexp⟩
      · exact before hold
      · refine ⟨_, List.mem_of_getElem? (List.getElem?_set_self (List.getElem?_eq_some_iff.1 ht).1), hchat.symm,
          _, List.mem_append_right _ (List.mem_singleton.2 rfl), hmarks, happlies, hexp⟩

theorem markerInvariant_step (h : (telegramSends env).step p l = some p') (hp : MarkerInvariant env p) :
    MarkerInvariant env p' :=
  ⟨hp.traced.step h, hp.clock.step h (fun _ => Nat.le_refl _) (fun _ _ _ => Nat.le_trans) (clock_step h),
    blockMarked_step h hp⟩

theorem markerInvariant_empty (hs : ∀ chatId, s.redis (.blocked chatId) = none) :
    MarkerInvariant env (Pool.empty s) :=
  ⟨System.traced_empty s, System.since_empty s, fun chatId v hv => by
    rw [show (Pool.empty s : SendPool).store.redis (.blocked chatId) = none from hs chatId] at hv
    cases hv⟩

/-- Whoever wrote a marker was answered that the chat has blocked its bot. -/
theorem wasForbidden_of_marks (hp : (telegramSends env).Traced p) {u : SendThread} (hu : u ∈ p.threads)
    {e : SendEvent} (he : e ∈ u.trace) (hmarks : e.op.marks chatId = true) : WasForbidden u := by
  obtain ⟨i, hrun⟩ := hp.of_mem hu
  obtain ⟨e', he', hno⟩ := hrun.exists_reply_of_mem within_unmarked he fun hne => hne (table_of_marks hmarks)
  exact ⟨e', he', Bool.not_eq_false _ ▸ hno⟩

/-- A send that finds a marker finds one of a bot that the chat had blocked, its own if only it wrote
there. -/
theorem own_of_found (hok : FindsOwnMarker env p l) (hp : MarkerInvariant env p) {i : Nat}
    {choice : Bool × Choice} {t : SendThread} {k : Except Err o.Res → Gateway Unit}
    (hl : l = .pick i choice) (ht : p.threads[i]? = some t) (hprog : t.prog = .call o k)
    (hfound : findsMarker o (World.handle env choice.2 p.store o).1 = true) :
    ∃ u ∈ p.threads, SameBot u.request t.request ∧ WasForbidden u ∧ MarksUntil u p.store.now := by
  subst hl
  obtain ⟨chatId, v, rfl, hv, hlt⟩ := found_marker hfound
  have hchat : chatId = t.request.chatId := onMarker_of_next hp.traced ht hprog
  obtain ⟨u, hu, huchat, e, he, hmarks, happlies, hexp⟩ := hp.marked chatId v hv
  have huntil : MarksUntil u p.store.now := by
    refine ⟨e, he, ?_⟩
    have hsince := (hp.clock u hu e he).1
    rw [hexp] at hlt
    simp [marksUntil, huchat, hmarks, happlies, hsince, hlt]
  have hsame := huchat.trans hchat
  exact ⟨u, hu, ⟨hsame, hok t ht _ (by rw [hprog]; rfl) hfound u hu hsame huntil⟩,
    wasForbidden_of_marks hp.traced hu he hmarks, huntil⟩

theorem blocksPerBot_step (hok : FindsOwnMarker env p l) (h : (telegramSends env).step p l = some p')
    (hp : MarkerInvariant env p) (hb : BlocksPerBot p) : BlocksPerBot p' := by
  have kept : ∀ {request : TelegramParams} {now : Millis},
      (∃ u ∈ p.threads, SameBot u.request request ∧ WasForbidden u ∧ MarksUntil u now) →
        ∃ u ∈ p'.threads, SameBot u.request request ∧ WasForbidden u ∧ MarksUntil u now := by
    rintro request now ⟨u, hu, hsame, ⟨e, he, hforbidden⟩, ⟨e', he', huntil⟩⟩
    obtain ⟨u', hu', hreq, hpre⟩ := System.thread_kept h hu
    exact ⟨u', hu', by rwa [hreq], ⟨e, hpre.subset he, hforbidden⟩, ⟨e', hpre.subset he', by rwa [hreq]⟩⟩
  intro t' ht' e he hfound
  obtain ⟨i, hi⟩ := List.mem_iff_getElem?.1 ht'
  rcases System.thread_cases h hi with ht | ⟨r, -, -, -, rfl⟩ | ⟨t, c, k, -, ht, -, -, rfl⟩ |
    ⟨t, c, o, k, hl, ht, hprog, -, rfl⟩
  · exact kept (hb t' (List.mem_of_getElem? ht) e he hfound)
  · cases he
  · exact kept (hb t (List.mem_of_getElem? ht) e he hfound)
  · rcases List.mem_append.1 he with he | he
    · exact kept (hb t (List.mem_of_getElem? ht) e he hfound)
    · rw [List.mem_singleton.1 he] at hfound ⊢
      have hown := own_of_found hok hp hl ht hprog hfound
      exact kept hown

/-- A message to a chat, by the bot of the gateway or by a custom one. -/
def messageBy (token : Option JsString) : TelegramParams :=
  { baseParams (js "c") (broadcastJob { subject := js "Margin", body := js "Add collateral." } (client .production)
      (.uuid 0) ⟨some (js "w"), js "w", js "p", [], true, 0⟩) [] none with customBotToken := token }

/-- A send that is answered that its chat has blocked its bot, and one that follows. -/
def blockedThen (token : Option JsString) : List SendLabel :=
  .arrive (messageBy none) :: proceeds 0 1 ++
    meets 0 (.refused ⟨js "Forbidden", some (js "403"), none, none⟩) ::
    proceeds 0 1 ++ .arrive (messageBy token) :: proceeds 1 1

end HeraldGateway
