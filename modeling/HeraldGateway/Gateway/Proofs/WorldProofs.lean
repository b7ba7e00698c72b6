import HeraldGateway.Gateway.System

/-!
# What calls do to the stores

A call that is heard of was answered from the stores; one that is not either was or had no effect, but
for an abandoned add. From this, which tables a call leaves alone.
-/

namespace HeraldGateway

open Async

variable {env : Env} {c : Choice} {s : World} {o : Op}

/-- A call that succeeds was answered from the stores. -/
theorem handle_ok {a : o.Res} (h : (World.handle env c s o).1 = .ok a) :
    World.handle env c s o = s.serve env c o := by
  have meets : ∀ {β : Type} {r : Except Err β × World} {b : β},
      (World.meet c.fault s r).1 = .ok b → World.meet c.fault s r = r := by
    intro β r b hb
    unfold World.meet at hb ⊢
    cases hf : c.fault with
    | none => rfl
    | refused e | unheard e | stalled => rw [hf] at hb; cases hb
  cases o with
  | now | uuid => rfl
  | notificationAdd data jobId timeout =>
    cases timeout with
    | none => exact meets h
    | some ms =>
      simp only [World.handle, World.addWithTimeout] at h ⊢
      cases hf : c.fault with
      | none => rfl
      | refused e | unheard e | stalled => rw [hf] at h; cases h
  | _ => exact meets h

/-- A call has no effect, is answered, or is an add that is given up on. -/
theorem handle_cases :
    (World.handle env c s o).2 = s ∨ (World.handle env c s o).2 = (s.serve env c o).2 ∨
      ∃ data jobId ms, o = .notificationAdd data jobId (some ms) ∧
        (World.handle env c s o).2 = { s with pendingAdds := s.pendingAdds ++ [⟨data, jobId, s.now⟩] } := by
  have meets : ∀ {β : Type} {r : Except Err β × World},
      (World.meet c.fault s r).2 = s ∨ (World.meet c.fault s r).2 = r.2 := by
    intro β r
    unfold World.meet
    cases c.fault with
    | none | unheard e => exact .inr rfl
    | refused e | stalled => exact .inl rfl
  cases o with
  | now | uuid => exact .inr (.inl rfl)
  | notificationAdd data jobId timeout =>
    cases timeout with
    | none => exact meets.imp_right .inl
    | some ms =>
      simp only [World.handle, World.addWithTimeout]
      cases c.fault with
      | none => exact .inr (.inl rfl)
      | refused e => exact .inl rfl
      | unheard e | stalled => exact .inr (.inr ⟨data, jobId, ms, rfl, rfl⟩)
  | _ => exact meets.imp_right .inl

theorem meet_store {α : Type} {f : Fault} {r : Except Err α × World} :
    (World.meet f s r).2 = if f.applies = true then r.2 else s := by
  cases f with
  | none | refused e | unheard e | stalled => rfl

theorem handle_redisSetex {key : RedisKey} {ttl : Nat} {value : JsString} :
    (World.handle env c s (.redisSetex key ttl value)).2 =
      if c.fault.applies = true then s.setRedis key (some ⟨value, s.now + ttl * 1000⟩) else s := meet_store

theorem handle_redisDel {key : RedisKey} :
    (World.handle env c s (.redisDel key)).2 = if c.fault.applies = true then s.setRedis key none else s :=
  meet_store

@[simp] theorem setRedis_self {key : RedisKey} {v : Option (Timed JsString)} :
    (s.setRedis key v).redis key = v :=
  if_pos rfl

theorem setRedis_ne {key key' : RedisKey} {v : Option (Timed JsString)} (h : key ≠ key') :
    (s.setRedis key' v).redis key = s.redis key := if_neg h

/-- A relation between stores that answers, abandoned adds and nothing at all are in holds after every
call. -/
theorem handle_rel {R : World → World → Prop} (hrefl : R s s) (hserve : R s (s.serve env c o).2)
    (hpending : ∀ job, R s { s with pendingAdds := s.pendingAdds ++ [job] }) :
    R s (World.handle env c s o).2 := by
  rcases @handle_cases env c s o with h | h | ⟨data, jobId, ms, -, h⟩ <;> rw [h]
  · exact hrefl
  · exact hserve
  · exact hpending _

/-- Storing notifications only appends to their table. -/
theorem createNotifications_eq (ns : List NewNotification) (s : World) :
    ∃ rows, (s.createNotifications ns).2 = { s with notifications := s.notifications ++ rows } := by
  induction ns generalizing s with
  | nil => exact ⟨[], by rw [List.append_nil]; rfl⟩
  | cons n ns ih =>
    simp only [World.createNotifications, World.createNotification]
    by_cases hc : s.clashes n = true
    · simp only [hc, if_true]
      exact ⟨[], by rw [List.append_nil]⟩
    · simp only [hc, Bool.false_eq_true, if_false]
      obtain ⟨rows, hrows⟩ := ih { s with notifications := s.notifications ++ [n.row s.now] }
      revert hrows
      split
      · exact fun _ => ⟨[], by rw [List.append_nil]⟩
      · exact fun hrows => ⟨n.row s.now :: rows, by rw [hrows, List.append_assoc, List.singleton_append]⟩

/-- Every notification stays, under its identifier. -/
def KeepsRows (s s' : World) : Prop :=
  ∀ id, (∃ r ∈ s.notifications, r.id = id) → ∃ r ∈ s'.notifications, r.id = id

theorem KeepsRows.of_eq {s' : World} (h : s'.notifications = s.notifications) : KeepsRows s s' :=
  fun _ hr => by rwa [h]

theorem KeepsRows.of_append {s' : World} {rows : List Notification}
    (h : s'.notifications = s.notifications ++ rows) : KeepsRows s s' :=
  fun _ ⟨r, hr, hid⟩ => ⟨r, h ▸ List.mem_append_left _ hr, hid⟩

/-! ### Tables -/

/-- The tables whose changes matter to statements about runs, the notification queue, Redis and what was
sent. -/
inductive Table where
  | notifications
  | scheduled
  | suppressions
  | digests
  | portalUsers
  | tokens
  | campaigns
  | queue
  | redis
  | sent
  | other
  deriving DecidableEq

/-- The table that a call may change. -/
def Op.table : Op → Table
  | .notificationCreate _ | .notificationCreateMany _ | .notificationUpdate .. => .notifications
  | .scheduledCreate _ | .scheduledUpdate .. | .scheduledCancel .. => .scheduled
  | .suppressionUpsert .. | .suppressionDeleteMany _ => .suppressions
  | .digestCreate .. | .digestMarkSent .. => .digests
  | .portalUserUpdate .. => .portalUsers
  | .unsubscribeTokenCreate _ | .unsubscribeTokenUpdate .. => .tokens
  | .campaignUpdate .. => .campaigns
  | .notificationAdd .. => .queue
  | .redisSetex .. | .redisIncr _ | .redisExpire .. | .redisDel _ => .redis
  | .sendEmail _ | .sendTelegram _ | .sendSms _ => .sent
  | _ => .other

/-- All tables but one are as they were, and nobody changed the templates or the clock. -/
structure Untouched (table : Table) (s s' : World) : Prop where
  notifications : table ≠ .notifications → s'.notifications = s.notifications
  scheduled : table ≠ .scheduled → s'.scheduled = s.scheduled
  suppressions : table ≠ .suppressions → s'.suppressions = s.suppressions
  digests : table ≠ .digests → s'.digestRows = s.digestRows
  portalUsers : table ≠ .portalUsers → s'.portalUsers = s.portalUsers
  tokens : table ≠ .tokens → s'.unsubscribeTokens = s.unsubscribeTokens
  queue : table ≠ .queue → s'.notificationQueue = s.notificationQueue
  pending : table ≠ .queue → s'.pendingAdds = s.pendingAdds
  campaigns : table ≠ .campaigns → s'.campaigns = s.campaigns
  redis : table ≠ .redis → s'.redis = s.redis
  sent : table ≠ .sent → s'.sent = s.sent
  templates : s'.templates = s.templates
  apiKeys : s'.apiKeys = s.apiKeys
  clock : s'.now = s.now

theorem Untouched.refl (table : Table) (s : World) : Untouched table s s := by
  constructor <;> intros <;> rfl

theorem serve_untouched : Untouched o.table s (s.serve env c o).2 := by
  cases o with
  | notificationCreateMany ns =>
    obtain ⟨rows, hrows⟩ := createNotifications_eq ns s
    simp only [World.serve, hrows]
    constructor <;> first | exact fun h => absurd rfl h | (intros; rfl)
  | notificationCreate | notificationUpdate | scheduledUpdate | idempotencySetNx | campaignUpdate
  | portalUserUpdate | unsubscribeTokenCreate | unsubscribeTokenUpdate | channelDeliveryCreateAll
  | notificationAdd | digestAdd =>
    simp only [World.serve, World.createNotification, World.updateNotification, World.addJob,
      World.addDigest, World.reply]
    split <;> constructor <;> first | exact fun h => absurd rfl h | (intros; rfl)
  | _ => constructor <;> first | exact fun h => absurd rfl h | (intros; rfl)

theorem handle_untouched : Untouched o.table s (World.handle env c s o).2 := by
  rcases @handle_cases env c s o with h | h | ⟨data, jobId, ms, rfl, h⟩ <;> rw [h]
  · exact .refl _ _
  · exact serve_untouched
  · constructor <;> first | exact fun h => absurd rfl h | (intros; rfl)

theorem keepsRows_handle : KeepsRows s (World.handle env c s o).2 := by
  by_cases ht : o.table = .notifications
  · refine handle_rel (.of_eq rfl) ?_ fun _ => .of_eq rfl
    cases o with
    | notificationCreate n =>
      simp only [World.serve, World.createNotification]
      split
      · exact .of_eq rfl
      · exact .of_append rfl
    | notificationCreateMany ns =>
      obtain ⟨rows, hrows⟩ := createNotifications_eq ns s
      simp only [World.serve, hrows]
      exact .of_append rfl
    | notificationUpdate id u =>
      simp only [World.serve, World.updateNotification]
      split
      · rintro id' ⟨r, hr, hid⟩
        refine ⟨if r.id == id then u.apply r else r, List.mem_map_of_mem hr, ?_⟩
        split <;> exact hid
      · exact .of_eq rfl
    | _ => cases ht
  · exact .of_eq (handle_untouched.notifications ht)

/-- The tables that only the gateway writes are as they were. -/
structure OwnTables (s s' : World) : Prop where
  notifications : s'.notifications = s.notifications
  scheduled : s'.scheduled = s.scheduled
  suppressions : s'.suppressions = s.suppressions
  digests : s'.digestRows = s.digestRows

theorem change_ownTables {e : Change} {s' : World} (h : e.apply s = some s') : OwnTables s s' := by
  cases e with
  | completeAdd i =>
    obtain ⟨j, -, rfl⟩ := Option.map_eq_some_iff.1 h
    simp only [World.addJob]
    split <;> constructor <;> rfl
  | tick | removeJob | configure =>
    obtain rfl := Option.some.inj h
    constructor <;> rfl

theorem keepsRows_change {e : Change} {s' : World} (h : e.apply s = some s') : KeepsRows s s' :=
  .of_eq (change_ownTables h).notifications

/-! ### Reads -/

/-- What is overdue is stored. -/
theorem overdue_stored {now : Millis} {rows : List ScheduledNotification}
    (h : (World.handle env c s (.scheduledFindOverdue now)).1 = .ok rows) :
    ∀ r ∈ rows, r ∈ s.scheduled := by
  have hs := handle_ok h
  rw [hs] at h
  obtain rfl := Except.ok.inj h
  intro r hr
  exact (List.mem_filter.1 (List.mem_of_mem_take hr)).1

end HeraldGateway
