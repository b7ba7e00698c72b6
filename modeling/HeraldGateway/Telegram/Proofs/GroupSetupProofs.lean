import HeraldGateway.Async.History
import HeraldGateway.Telegram.GroupSetup

/-!
# Nonces that are found once

A group is linked only by a message that found the nonce. Until the nonce is completed it expires when the
portal said, so a message that finds it before its completion finds it in its lifetime.
-/

namespace HeraldGateway.TelegramMigrationService

open Async

variable {m : BotMessage} {tr : List SetupCall} {c : SetupChoice} {s s' : SetupStore} {o : SetupOp}
  {nonce : JsString}

/-! ### What a message does -/

/-- What a message did before each of its calls: it looks its own nonce up, links a group only after it found
the nonce, and stores it only as completed. -/
def Lawful (m : BotMessage) (tr : List SetupCall) (e : SetupCall) : Prop :=
  match (e.op : SetupOp) with
  | .redisGet nonce => m.nonce? = some nonce
  | .settingsUpdate .. => ∃ e ∈ tr, Finds m e
  | .redisSetex _ _ data => data.status = some (js "completed")
  | _ => True

/-- A message's own way of following its history. -/
abbrev LogsSetup {α : Type} (m : BotMessage) (Q : List SetupCall → Except Err α → Prop) (p : Setup α)
    (tr : List SetupCall) : Prop :=
  Logs SetupStore.handle (fun _ _ => True) (Async.Obeys (Lawful m)) Q p tr

/-- A call that the law allows. -/
theorem logs_allowed {o : SetupOp} (htr : Async.Obeys (Lawful m) tr)
    (ho : ∀ c s, Lawful m tr (SetupStore.handle.event c s o)) :
    LogsSetup m (fun tr' reply => Async.Obeys (Lawful m) tr' ∧ ∃ c s, tr' = tr ++ [SetupStore.handle.event c s o] ∧
      reply = (SetupStore.handle c s o).1) o.call tr := by
  refine Logs.perform (S := SetupCalls) (o := o) fun c s _ => ?_
  have hlaw := htr.append (ho c s)
  exact ⟨hlaw, hlaw, c, s, rfl, rfl⟩

theorem logs_notify {chatId text : JsString} (htr : Async.Obeys (Lawful m) tr) :
    LogsSetup m (fun _ _ => True) (notify chatId text) tr :=
  (logs_allowed (o := .sendMessage chatId text) htr fun _ _ => trivial).tryCatch (fun _ _ _ => trivial)
    fun _ _ _ => trivial

theorem logs_checkIsAdmin {chatId : JsString} {userId : Nat} (htr : Async.Obeys (Lawful m) tr) :
    LogsSetup m (fun tr _ => Async.Obeys (Lawful m) tr) (checkIsAdmin chatId userId) tr := by
  refine Logs.tryCatch (Q := fun tr _ => Async.Obeys (Lawful m) tr) ?_ (fun _ _ h => h) fun _ _ h => h
  exact (logs_allowed (o := .getChatMember chatId userId) htr fun _ _ => trivial).bind (fun _ _ h => h.1)
    fun _ _ h => h.1

theorem logs_linkGroup {data : NonceData} (htr : Async.Obeys (Lawful m) tr) (hfound : ∃ e ∈ tr, Finds m e) :
    LogsSetup m (fun _ _ => True) (linkGroup m nonce data) tr := by
  unfold linkGroup
  refine (logs_allowed (o := .settingsUpdate m.protocolId m.chatId) htr fun _ _ => hfound).bind
    (fun tr _ h => ?_) fun _ _ _ => trivial
  have hdata : ({ data with status := some (js "completed"), chatId := some m.chatId } : NonceData).status =
      some (js "completed") := rfl
  refine (logs_allowed (o := .redisSetex nonce 60 _) h.1 fun _ _ => hdata).bind (fun tr _ h => ?_)
    fun _ _ _ => trivial
  exact logs_notify h.1

theorem logs_setupGroup : LogsSetup m (fun _ _ => True) (setupGroup m) [] := by
  unfold setupGroup
  split
  · next nonce senderId hnonce _ =>
    refine (logs_checkIsAdmin obeys_nil).bind (fun tr isAdmin htr => ?_) fun _ _ _ => trivial
    split
    · refine (logs_allowed (o := .redisGet nonce) htr fun _ _ => hnonce).bind (fun tr' data h => ?_)
        fun _ _ _ => trivial
      obtain ⟨htr', c, s, rfl, hreply⟩ := h
      unfold completeNonce
      split
      · exact logs_notify htr'
      · trivial
      · next data =>
        split
        · exact logs_notify htr'
        · next hbot =>
          split
          · exact logs_notify htr'
          · next hprotocol =>
            refine logs_linkGroup htr' ⟨_, List.mem_append_right _ (List.mem_singleton.2 rfl), data, ?_, ?_⟩
            · change found? (.redisGet nonce) (SetupStore.handle c s (.redisGet nonce)).1 = some data
              rw [← hreply]
              rfl
            · have hsame : data.protocolId = some m.protocolId := by simpa using hprotocol
              rw [NonceData.isFor, Bool.not_eq_true _ |>.mp hbot, hsame]
              simp
    · exact logs_notify htr
  · trivial

/-! ### What calls do to nonces -/

/-- Every nonce in Redis was completed, or expires when it was issued to. -/
def Expiring (s : SetupStore) : Prop := ∀ nonce e, s.redis nonce = some e →
  (∃ data ∈ e.data, data.status = some (js "completed")) ∨ s.issued nonce = some e.expiresAt

theorem expiring_put {e : NonceEntry} (h : Expiring s)
    (he : (∃ data ∈ e.data, data.status = some (js "completed")) ∨ s.issued nonce = some e.expiresAt) :
    Expiring (s.put nonce e) := by
  intro n e' hn
  change (if n = nonce then some e else s.redis n) = some e' at hn
  by_cases hsame : n = nonce
  · rw [if_pos hsame] at hn
    obtain rfl := Option.some.inj hn
    rw [hsame]
    exact he
  · rw [if_neg hsame] at hn
    exact h n e' hn

theorem expiring_handle (h : Expiring s) (ho : ∀ nonce seconds data, o = .redisSetex nonce seconds data →
    data.status = some (js "completed")) : Expiring (SetupStore.handle c s o).2 := by
  rcases Fault.meet_cases (f := c.fault) (s := s) (r := s.serve c o) with hs | ⟨-, hs⟩
  · rw [SetupStore.handle, hs]
    exact h
  · rw [SetupStore.handle, hs]
    cases o with
    | settingsUpdate protocolId chatId =>
      simp only [SetupStore.serve]
      split
      · exact h
      · exact h
    | redisSetex nonce seconds data =>
      exact expiring_put h (.inl ⟨data, rfl, ho nonce seconds data rfl⟩)
    | _ => exact h

theorem expiring_apply {e : SetupEvent} (h : Expiring s) (he : e.apply s = some s') : Expiring s' := by
  cases e with
  | issue nonce seconds data =>
    rw [SetupEvent.apply] at he
    split at he
    · cases he
    · next hnew =>
      obtain rfl := Option.some.inj he
      intro n e' hn
      change (if n = nonce then some ⟨data, s.now + seconds * 1000⟩ else s.redis n) = some e' at hn
      change _ ∨ (if n = nonce then some (s.now + seconds * 1000) else s.issued n) = some e'.expiresAt
      by_cases hsame : n = nonce
      · rw [if_pos hsame] at hn ⊢
        obtain rfl := Option.some.inj hn
        exact .inr rfl
      · rw [if_neg hsame] at hn ⊢
        exact h n e' hn
  | remove nonce =>
    obtain rfl := Option.some.inj he
    intro n e' hn
    by_cases hsame : n = nonce
    · simp [hsame] at hn
    · simp only [hsame, if_false] at hn
      exact h n e' hn
  | relink | elapse =>
    obtain rfl := Option.some.inj he
    exact h

/-- What a lookup finds is stored, and has not expired. -/
theorem find_spec {data : NonceData} (h : found? o (SetupStore.handle c s o).1 = some data) :
    ∃ nonce e, o = .redisGet nonce ∧ s.redis nonce = some e ∧ e.data = some data ∧ s.now < e.expiresAt := by
  cases o with
  | redisGet nonce =>
    cases hr : (SetupStore.handle c s (.redisGet nonce)).1 with
    | error e =>
      rw [hr] at h
      cases h
    | ok found =>
      rw [hr] at h
      have hserve : SetupStore.handle c s (.redisGet nonce) = s.serve c (.redisGet nonce) := Fault.meet_ok hr
      rw [hserve] at hr
      obtain rfl := (Except.ok.inj hr).symm
      obtain ⟨e, he, hdata⟩ : ∃ e, s.live nonce = some e ∧ e.data = some data := by
        cases hlive : s.live nonce with
        | none => simp [found?, hlive] at h
        | some e => exact ⟨e, rfl, by simpa [found?, hlive] using h⟩
      obtain ⟨hentry, hnow⟩ := Option.filter_eq_some_iff.1 he
      exact ⟨nonce, e, rfl, hentry, hdata, of_decide_eq_true hnow⟩
  | _ => cases h

/-! ### The invariant -/

section invariant

variable {p p' : SetupPool} {l : SetupLabel}

/-- What every step keeps where a nonce is found once. -/
structure SetupInvariant (p : SetupPool) : Prop where
  traced : setups.Traced p
  expiring : Expiring p.store
  fresh : ∀ t ∈ p.threads, ∀ nonce ∈ t.request.nonce?, ∀ e ∈ t.trace, Finds t.request e → Fresh nonce e
  single : ∀ t ∈ p.threads, ∀ u ∈ p.threads, Pending t → Pending u → u.request.nonce? = t.request.nonce? →
    u.request.chatId = t.request.chatId

/-- What a message did, and its next call, obey the law. -/
theorem lawful_of_traced {i : Nat} {t : SetupThread} (hp : setups.Traced p) (ht : p.threads[i]? = some t) :
    Async.Obeys (Lawful t.request) t.trace ∧ LogsSetup t.request (fun _ _ => True) t.prog t.trace :=
  (hp i t ht).logs logs_setupGroup obeys_nil fun _ _ _ _ => trivial

theorem lawful_next {i : Nat} {t : SetupThread} {k : Except Err o.Res → Setup Unit} (hp : setups.Traced p)
    (ht : p.threads[i]? = some t) (hprog : t.prog = .call o k) (c : SetupChoice) (s : SetupStore) :
    Lawful t.request t.trace (SetupStore.handle.event c s o) := by
  have hlogs := (lawful_of_traced hp ht).2
  rw [hprog] at hlogs
  exact (hlogs c s trivial).1 t.trace _ [] rfl

theorem expiring_step (hp : SetupInvariant p) (h : setups.step p l = some p') : Expiring p'.store := by
  rcases System.store_cases h with hs | ⟨i, c, t, o, k, -, ht, hprog, hs⟩ | ⟨e, -, hs⟩
  · rw [hs]
    exact hp.expiring
  · rw [hs]
    refine expiring_handle hp.expiring fun nonce seconds data ho => ?_
    subst ho
    exact lawful_next hp.traced ht hprog c.2 p.store
  · exact expiring_apply hp.expiring hs

/-- A message that is pending after a step was so before it, or finds its nonce in the step. -/
theorem pending_cases {i : Nat} {t' : SetupThread} (h : setups.step p l = some p')
    (ht' : p'.threads[i]? = some t') (hpending : Pending t') :
    ∃ t, p.threads[i]? = some t ∧ t.request = t'.request ∧ (Pending t ∨ ∃ c o k, l = .pick i c ∧
      t.prog = .call o k ∧ Finds t.request (SetupStore.handle.event c.2 p.store o)) := by
  obtain ⟨⟨e, he, hfinds⟩, hstill⟩ := hpending
  rcases System.thread_cases h ht' with ht | ⟨m, -, -, -, rfl⟩ | ⟨t, c, k, -, ht, hprog, -, rfl⟩ |
    ⟨t, c, o, k, hl, ht, hprog, -, rfl⟩
  · exact ⟨t', ht, rfl, .inl ⟨⟨e, he, hfinds⟩, hstill⟩⟩
  · exact absurd he List.not_mem_nil
  · exact ⟨t, ht, rfl, .inl ⟨⟨e, he, hfinds⟩, .inl (by rw [hprog]; rfl)⟩⟩
  · refine ⟨t, ht, rfl, ?_⟩
    rcases List.mem_append.1 he with he | he
    · exact .inl ⟨⟨e, he, hfinds⟩, .inl (by rw [hprog]; rfl)⟩
    · obtain rfl := List.mem_singleton.1 he
      exact .inr ⟨c, o, k, hl, hprog, hfinds⟩

/-- A nonce that is found before its completion is found in its lifetime. -/
theorem fresh_of_finds (hexpiring : Expiring s) (hnonce : ∀ n, o = .redisGet n → m.nonce? = some n)
    (hopen : ∀ data ∈ found? o (SetupStore.handle c s o).1, data.status ≠ some (js "completed"))
    (hfinds : Finds m (SetupStore.handle.event c s o)) :
    ∀ nonce ∈ m.nonce?, Fresh nonce (SetupStore.handle.event c s o) := by
  intro nonce hm
  refine ⟨hopen, ?_⟩
  obtain ⟨data, hdata, -⟩ := hfinds
  obtain ⟨n, e, ho, hentry, hstored, hnow⟩ := find_spec hdata
  obtain rfl := Option.some.inj ((hnonce n ho).symm.trans hm)
  rcases hexpiring n e hentry with ⟨data', hdata', hstatus⟩ | hissued
  · obtain rfl := Option.some.inj (hstored.symm.trans hdata')
    exact absurd hstatus (hopen data hdata)
  · exact ⟨e.expiresAt, hissued, hnow⟩

theorem fresh_step (hok : FoundOnce p l) (hp : SetupInvariant p) (h : setups.step p l = some p') :
    ∀ t ∈ p'.threads, ∀ nonce ∈ t.request.nonce?, ∀ e ∈ t.trace, Finds t.request e → Fresh nonce e := by
  intro t' ht' nonce hnonce e he hfinds
  obtain ⟨i, hi⟩ := List.mem_iff_getElem?.1 ht'
  rcases System.thread_cases h hi with ht | ⟨m, -, -, -, rfl⟩ | ⟨t, c, k, -, ht, -, -, rfl⟩ |
    ⟨t, c, o, k, hl, ht, hprog, -, rfl⟩
  · exact hp.fresh t' (List.mem_of_getElem? ht) nonce hnonce e he hfinds
  · exact absurd he List.not_mem_nil
  · exact hp.fresh t (List.mem_of_getElem? ht) nonce hnonce e he hfinds
  · rcases List.mem_append.1 he with he | he
    · exact hp.fresh t (List.mem_of_getElem? ht) nonce hnonce e he hfinds
    · obtain rfl := List.mem_singleton.1 he
      subst hl
      have hopen := (hok t ht o (by rw [hprog]; rfl) hfinds).1
      have hlaw := lawful_next hp.traced ht hprog c.2 p.store
      refine fresh_of_finds hp.expiring (fun n hn => ?_) hopen hfinds nonce hnonce
      subst hn
      exact hlaw

theorem single_step (hok : FoundOnce p l) (hp : SetupInvariant p) (h : setups.step p l = some p') :
    ∀ t ∈ p'.threads, ∀ u ∈ p'.threads, Pending t → Pending u → u.request.nonce? = t.request.nonce? →
      u.request.chatId = t.request.chatId := by
  intro t' ht' u' hu' hpt hpu hnonce
  obtain ⟨i, hi⟩ := List.mem_iff_getElem?.1 ht'
  obtain ⟨j, hj⟩ := List.mem_iff_getElem?.1 hu'
  obtain ⟨t, ht, hrequest, hcase⟩ := pending_cases h hi hpt
  obtain ⟨u, hu, hrequest', hcase'⟩ := pending_cases h hj hpu
  rw [← hrequest, ← hrequest'] at hnonce ⊢
  rcases hcase with hpending | ⟨c, o, k, rfl, hprog, hfinds⟩
  · rcases hcase' with hpending' | ⟨c, o, k, rfl, hprog, hfinds⟩
    · exact hp.single t (List.mem_of_getElem? ht) u (List.mem_of_getElem? hu) hpending hpending' hnonce
    · have hok' := (hok u hu o (by rw [hprog]; rfl) hfinds).2
      exact (hok' t (List.mem_of_getElem? ht) hpending hnonce.symm).symm
  · rcases hcase' with hpending' | ⟨c', o', k', hl, -⟩
    · have hok' := (hok t ht o (by rw [hprog]; rfl) hfinds).2
      exact hok' u (List.mem_of_getElem? hu) hpending' hnonce
    · cases hl
      obtain rfl := Option.some.inj (ht.symm.trans hu)
      rfl

/-- A message whose group was linked had found its nonce. -/
theorem pending_of_linked {t : SetupThread} {i : Nat} (hp : setups.Traced p) (ht : p.threads[i]? = some t)
    (hlinked : Linked t) : Pending t := by
  refine ⟨?_, .inr hlinked⟩
  obtain ⟨e, he, hlinks⟩ := hlinked
  obtain ⟨pre, post, htrace⟩ := List.append_of_mem he
  have hlaw := (lawful_of_traced hp ht).1 pre e post htrace
  unfold Lawful at hlaw
  unfold linksGroup at hlinks
  split at hlaw
  · next hop => rw [hop] at hlinks; cases hlinks
  · obtain ⟨e', he', hfinds⟩ := hlaw
    rw [htrace]
    exact ⟨e', List.mem_append_left _ he', hfinds⟩
  · next hop => rw [hop] at hlinks; cases hlinks
  · next _ hother _ =>
    split at hlinks
    · next hop => exact absurd hop (hother _ _)
    · cases hlinks

end invariant

/-! ### Runs that keep and break it -/

/-- A protocol that has settings, and a nonce that is issued to it for ten minutes. -/
def oneProtocol : JsString → Option (Option JsString) := fun p => if p = js "p" then some none else none

/-- The portal issues the nonce `n` for ten minutes. -/
def issued : SetupLabel :=
  .outside (.issue (js "n") 600 (some { protocolId := some (js "p"), status := some (js "pending") }))

/-- The setup command with that nonce in a chat. -/
def setupIn (chatId : String) : BotMessage := ⟨js "p", js chatId, some 7, js "/start setup_n"⟩

/-- The next calls of the `i`-th message are answered, where the sender is an administrator. -/
def answered (i calls : Nat) : List SetupLabel :=
  List.replicate calls (.pick i (true, { status := js "creator" }))

/-- One group presents the nonce, and another one when it has expired. -/
def secondTooLate : List SetupLabel :=
  issued :: .arrive (setupIn "g") :: answered 0 5 ++ .outside (.elapse 60000) :: .arrive (setupIn "h") ::
    answered 1 3

/-- Another group presents the nonce while it is stored as completed. -/
def replayed : List SetupLabel :=
  issued :: .arrive (setupIn "g") :: answered 0 5 ++ .arrive (setupIn "h") :: answered 1 5

end HeraldGateway.TelegramMigrationService
