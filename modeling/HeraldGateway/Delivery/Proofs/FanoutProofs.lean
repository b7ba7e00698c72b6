import HeraldGateway.Async.History
import HeraldGateway.Delivery.Fanout
import HeraldGateway.Gateway.Proofs.GatingProofs
import Mathlib.Data.Multiset.Bind

/-!
# Fan-outs that hear everything

A ledger of a fan-out: what it stored was put on the queue, or its add failed, or nobody heard of the insert.
It marks nothing as failed, so it accounts for its notifications only if the first is true of all of them.
-/

namespace HeraldGateway

open Async

variable {env : Env} {c : Choice} {s s' : World} {o : Op}

/-! ### The ledger of a call -/

/-- The notification whose add failed or timed out. -/
def lostIds (e : GatewayEvent) : List NotificationId :=
  match e.op with
  | .notificationAdd data _ _ => if e.reply.isOk then [] else [data.notificationId]
  | _ => []

/-- The notifications that a call stored whose caller took it for failed. -/
def unheardIds (e : GatewayEvent) : List NotificationId := if e.reply.isOk then [] else storedIds e

/-- A call that neither stores notifications nor puts jobs on the queue. -/
def Op.settled : Op → Bool
  | .notificationCreate _ | .notificationCreateMany _ | .notificationAdd .. => false
  | _ => true

/-- What a call stored, put on the queue and lost. -/
structure Ledger (e : GatewayEvent) (stored queued lost : List NotificationId) : Prop where
  stored : storedIds e = stored
  queued : queuedIds e = queued
  lost : lostIds e = lost

theorem ledger_settled (ho : o.settled = true) : Ledger ((World.handle env).event c s o) [] [] [] := by
  cases o with
  | notificationCreate | notificationCreateMany | notificationAdd => cases ho
  | _ => exact ⟨ite_self _, ite_self _, rfl⟩

/-- An add without an identifier of its own puts its job on the queue or fails. -/
theorem ledger_enqueue (data : NotificationJobData) :
    ((World.handle env c s (.enqueue data)).1 = .ok () ∧
      Ledger ((World.handle env).event c s (.enqueue data)) [] [data.notificationId] []) ∨
    (∃ e, (World.handle env c s (.enqueue data)).1 = .error e) ∧
      Ledger ((World.handle env).event c s (.enqueue data)) [] [] [data.notificationId] := by
  have hreply : World.handle env c s (.enqueue data) = s.addWithTimeout c data none ENQUEUE_TIMEOUT_MS := rfl
  rw [Handler.event, hreply]
  cases hf : c.fault with
  | none =>
    have hadd : s.addWithTimeout c data none ENQUEUE_TIMEOUT_MS =
      (s.addJob ⟨data, none, s.now⟩).reply () := by
      unfold World.addWithTimeout
      rw [hf]
    rw [hadd]
    refine .inl ⟨rfl, ite_self _, ?_, rfl⟩
    simp [queuedIds, World.reply, World.addJob]
  | refused err | unheard err | stalled =>
    refine .inr ⟨⟨_, by unfold World.addWithTimeout; rw [hf]⟩, ite_self _, ?_, ?_⟩
    · simp [queuedIds, World.addWithTimeout, hf]
    · simp [lostIds, World.addWithTimeout, hf, Except.isOk, Except.toBool]

/-- Storing notifications stores all of them, under new identifiers, or fails without effect. -/
theorem createNotifications_cases (ns : List NewNotification) (s : World) :
    (∃ e, s.createNotifications ns = (.error e, s)) ∨
    ∃ rows, s.createNotifications ns = (.ok (), { s with notifications := s.notifications ++ rows }) ∧
      rows.map (·.id) = ns.map (·.id) ∧ (ns.map (·.id)).Nodup ∧
        ∀ id ∈ ns.map (·.id), ∀ r ∈ s.notifications, r.id ≠ id := by
  induction ns generalizing s with
  | nil => exact .inr ⟨[], by rw [List.append_nil]; rfl, rfl, .nil, nofun⟩
  | cons n ns ih =>
    simp only [World.createNotifications, World.createNotification]
    by_cases hc : s.clashes n = true
    · simp only [hc, if_true]
      exact .inl ⟨_, rfl⟩
    · simp only [hc, Bool.false_eq_true, if_false]
      rcases ih { s with notifications := s.notifications ++ [n.row s.now] } with
        ⟨e, he⟩ | ⟨rows, hrows, hids, hnodup, hnew⟩
      · rw [he]
        exact .inl ⟨e, rfl⟩
      · rw [hrows]
        have hfree : ∀ r ∈ s.notifications, r.id ≠ n.id := fun r hr hid => by
          refine hc (List.any_eq_true.2 ⟨r, hr, ?_⟩)
          rw [hid]
          simp
        refine .inr ⟨n.row s.now :: rows, ?_, ?_, ?_, ?_⟩
        · simp
        · rw [List.map_cons, List.map_cons, hids]
          rfl
        · refine List.nodup_cons.2 ⟨fun hmem => ?_, hnodup⟩
          exact hnew _ hmem _ (List.mem_append_right _ (List.mem_singleton.2 rfl)) rfl
        · rintro id (_ | ⟨_, hid⟩) r hr
          · exact hfree r hr
          · exact hnew id hid r (List.mem_append_left _ hr)

/-- An insert that is heard of stored what it was to store. -/
theorem ledger_insert {ids : List NotificationId}
    (ho : (∃ n, o = .notificationCreate n ∧ ids = [n.id]) ∨ ∃ ns, o = .notificationCreateMany ns ∧ ids = ns.map (·.id)) :
    ((World.handle env c s o).1.isOk = true ∧ Ledger ((World.handle env).event c s o) ids [] []) ∨
    (World.handle env c s o).1.isOk = false ∧ queuedIds ((World.handle env).event c s o) = [] ∧
      lostIds ((World.handle env).event c s o) = [] := by
  have hidle : queuedIds ((World.handle env).event c s o) = [] ∧
    lostIds ((World.handle env).event c s o) = [] := by
    rcases ho with ⟨n, rfl, -⟩ | ⟨ns, rfl, -⟩ <;> exact ⟨ite_self _, rfl⟩
  cases hr : (World.handle env c s o).1 with
  | error e => exact .inr ⟨rfl, hidle⟩
  | ok a =>
    refine .inl ⟨rfl, ?_, hidle.1, hidle.2⟩
    have hserve := handle_ok hr
    rw [hserve] at hr
    rw [Handler.event, hserve]
    rcases ho with ⟨n, rfl, rfl⟩ | ⟨ns, rfl, rfl⟩
    · simp only [World.serve, World.createNotification] at hr ⊢
      split at hr
      · cases hr
      · next hc => simp [storedIds, hc]
    · simp only [World.serve] at hr ⊢
      rcases createNotifications_cases ns s with ⟨e, he⟩ | ⟨rows, hrows, hids, -⟩
      · rw [he] at hr
        cases hr
      · rw [hrows]
        have hlen : rows.length = ns.length := by simpa using congrArg List.length hids
        cases ns with
        | nil => exact ite_self _
        | cons n ns => simp [storedIds, hlen]

/-! ### The ledger of a program -/

/-- What some calls stored, put on the queue, and so on. -/
def tally (f : GatewayEvent → List NotificationId) (m : Multiset GatewayEvent) : Multiset NotificationId :=
  m.bind fun e => (f e : Multiset NotificationId)

section tally

variable {f : GatewayEvent → List NotificationId} {m m' : Multiset GatewayEvent} {e : GatewayEvent}

@[simp] theorem tally_zero : tally f 0 = 0 := Multiset.zero_bind _

@[simp] theorem tally_add : tally f (m + m') = tally f m + tally f m' := Multiset.add_bind _ _ _

@[simp] theorem tally_cons : tally f (e ::ₘ m) = f e + tally f m := Multiset.cons_bind _ _ _

@[simp] theorem tally_singleton : tally f {e} = f e := Multiset.singleton_bind _ _

theorem tally_coe {tr : List GatewayEvent} : tally f tr = (tr.flatMap f : List NotificationId) :=
  Multiset.coe_bind _ _

end tally

/-- Of notifications that wait for a job, and those that some calls store, others wait afterwards, and the
rest was put on the queue, as many as `n`, or lost, or nobody heard of it. -/
structure Turns (before after : Multiset NotificationId) (n : Nat) (m : Multiset GatewayEvent) : Prop where
  balance : before + tally storedIds m = after + tally queuedIds m + tally lostIds m + tally unheardIds m
  count : (tally queuedIds m).card = n

namespace Turns

variable {a b d a' b' : Multiset NotificationId} {k k' : Nat} {m m' : Multiset GatewayEvent}

theorem zero : Turns a a 0 0 := ⟨by simp, rfl⟩

/-- First some calls, then others. -/
theorem trans (h : Turns a b k m) (h' : Turns b d k' m') : Turns a d (k + k') (m + m') := by
  refine ⟨?_, by rw [tally_add, Multiset.card_add, h.count, h'.count]⟩
  have hsum := congrArg₂ (· + ·) h.balance h'.balance
  simp only [tally_add]
  have hcancel : b + (a + (tally storedIds m + tally storedIds m')) =
      b + (d + (tally queuedIds m + tally queuedIds m') + (tally lostIds m + tally lostIds m') +
        (tally unheardIds m + tally unheardIds m')) := by
    calc b + (a + (tally storedIds m + tally storedIds m'))
      _ = a + tally storedIds m + (b + tally storedIds m') := by abel
      _ = b + tally queuedIds m + tally lostIds m + tally unheardIds m +
          (d + tally queuedIds m' + tally lostIds m' + tally unheardIds m') := hsum
      _ = _ := by abel
  exact add_left_cancel hcancel

/-- Calls about different notifications. -/
theorem add (h : Turns a b k m) (h' : Turns a' b' k' m') : Turns (a + a') (b + b') (k + k') (m + m') := by
  refine ⟨?_, by rw [tally_add, Multiset.card_add, h.count, h'.count]⟩
  simp only [tally_add]
  calc a + a' + (tally storedIds m + tally storedIds m')
    _ = a + tally storedIds m + (a' + tally storedIds m') := by abel
    _ = b + tally queuedIds m + tally lostIds m + tally unheardIds m +
        (b' + tally queuedIds m' + tally lostIds m' + tally unheardIds m') := by rw [h.balance, h'.balance]
    _ = _ := by abel

theorem of_ledger {e : GatewayEvent} {stored queued lost : List NotificationId}
    (h : Ledger e stored queued lost) (hheard : unheardIds e = []) (hb : a + stored = b + queued + lost) :
    Turns a b queued.length {e} := by
  refine ⟨?_, ?_⟩
  · simp only [tally_singleton, h.stored, h.queued, h.lost, hheard]
    rw [hb, Multiset.coe_nil, add_zero]
  · rw [tally_singleton, h.queued]
    rfl

end Turns

/-! ### Programs -/

section programs

variable {α β γ : Type}

/-- Calls that neither store notifications nor put jobs on the queue. -/
def Unchanging (m : Multiset GatewayEvent) : Prop := ∀ a, Turns a a 0 m

theorem unchanging_settled (ho : o.settled = true) : Unchanging {(World.handle env).event c s o} := by
  have hledger : Ledger ((World.handle env).event c s o) [] [] [] := ledger_settled ho
  have hheard : unheardIds ((World.handle env).event c s o) = [] := by
    unfold unheardIds
    rw [hledger.stored, ite_self]
  exact fun a => .of_ledger hledger hheard (by simp)

/-- Programs that make only such calls. -/
theorem yields_unchanging {p : Gateway α} {Q : Except Err α → Prop}
    (hp : Along (S := Calls) (fun o => o.settled = true) (fun _ _ => True) Q p) :
    Yields (World.handle env) (fun m r => Unchanging m ∧ Q r) p := by
  refine Yields.of_along hp (fun _ => .zero) fun c s o m ho hm a => ?_
  rw [← Multiset.singleton_add]
  exact (unchanging_settled ho a).trans (hm a)

/-- A program in the end owes no notification a job, and what it returns says how many jobs it put on the
queue. -/
def Squares (count : α → Option Nat) (m : Multiset GatewayEvent) (r : Except Err α) : Prop :=
  ∃ n, Turns 0 0 n m ∧ ∀ a, r = .ok a → ∀ k ∈ count a, k = n

variable {count : α → Option Nat} {count' : β → Option Nat}

/-- Such calls may come before. -/
theorem squares_after {p : Gateway α} {f : α → Gateway β} {Q : Except Err α → Prop}
    (hp : Along (S := Calls) (fun o => o.settled = true) (fun _ _ => True) Q p)
    (hf : ∀ a, Q (.ok a) → Yields (World.handle env) (Squares count') (f a)) :
    Yields (World.handle env) (Squares count') (p.bind f) := by
  refine (yields_unchanging hp).bind (fun m a hm => ?_) fun m e hm => ⟨0, hm.1 0, nofun⟩
  refine (hf a hm.2).mono fun m' r hm' => ?_
  obtain ⟨n, hn, hcount⟩ := hm'
  exact ⟨n, by simpa using (hm.1 0).trans hn, hcount⟩

theorem squares_call {o : Op} {f : o.Res → Gateway β} (ho : o.settled = true)
    (hf : ∀ a, Yields (World.handle env) (Squares count') (f a)) :
    Yields (World.handle env) (Squares count') ((call o).bind f) :=
  squares_after (Q := fun _ => True) (Within.perform ho) fun a _ => hf a

/-- What is returned may be wrapped. -/
theorem squares_ret {p : Gateway α} {f : α → β} (hp : Yields (World.handle env) (Squares count) p)
    (hf : ∀ a k, count' (f a) = some k → count a = some k) :
    Yields (World.handle env) (Squares count') (p.bind fun a => .ret (f a)) := by
  refine hp.bind (fun m a ⟨n, hn, hcount⟩ => ?_) fun m e ⟨n, hn, _⟩ => ⟨n, hn, nofun⟩
  refine ⟨n, by rwa [add_zero], fun b hb k hk => ?_⟩
  cases hb
  exact hcount a rfl k (hf a k hk)

theorem squares_throw {e : Err} : Yields (World.handle env) (Squares count) (.throw e) := ⟨0, .zero, nofun⟩

/-- Whether a part succeeded, as a number of jobs. -/
def addedBy (r : Except Err α) : Nat := if r.isOk then 1 else 0

/-- Parts that run concurrently, each of which puts the job of some notifications on the queue if it
succeeds. -/
theorem carries_allSettled {xs : List γ} {f : γ → Gateway α} {before : γ → Multiset NotificationId}
    (hf : ∀ x ∈ xs, Yields (World.handle env) (fun m r => Turns (before x) 0 (addedBy r) m) (f x)) :
    Yields (World.handle env) (fun m r => ∃ rs, r = .ok rs ∧
      Turns (xs.map before).sum 0 (rs.filter (·.isOk)).length m) (Prog.allSettled (xs.map f)) := by
  refine (Yields.allSettled hf).mono ?_
  rintro m r ⟨parts, rfl, rfl, hparts⟩
  refine ⟨_, rfl, ?_⟩
  clear hf
  induction hparts with
  | nil => exact .zero
  | @cons x part xs parts hx _ ih =>
    have hcount : ((((part :: parts).map (·.2)).filter (·.isOk)).length) =
        addedBy part.2 + ((parts.map (·.2)).filter (·.isOk)).length := by
      cases hok : part.2.isOk <;> simp [addedBy, hok, Nat.add_comm]
    rw [hcount]
    simpa using hx.add ih

theorem carries_enqueue (data : NotificationJobData) : Yields (World.handle env)
    (fun m r => Turns {data.notificationId} 0 (addedBy r) m) (enqueueNotification data) := by
  refine Yields.perform (S := Calls) (o := .enqueue data) fun c s => ?_
  rcases @ledger_enqueue env c s data with ⟨hr, hledger⟩ | ⟨⟨e, hr⟩, hledger⟩
  · rw [hr]
    refine .of_ledger hledger ?_ (by simp)
    unfold unheardIds
    rw [hledger.stored, ite_self]
  · rw [hr]
    refine .of_ledger hledger ?_ (by simp)
    unfold unheardIds
    rw [hledger.stored, ite_self]

/-- After an insert that is heard of, what it stored waits for jobs. -/
theorem carries_insert {ids : List NotificationId}
    (ho : (∃ n, o = .notificationCreate n ∧ ids = [n.id]) ∨ ∃ ns, o = .notificationCreateMany ns ∧ ids = ns.map (·.id)) :
    Yields (World.handle env) (fun m r => Turns 0 (if r.isOk then ids else 0) 0 m) (call o) := by
  refine Yields.perform fun c s => ?_
  rcases @ledger_insert env c s o ids ho with ⟨hr, hledger⟩ | ⟨hr, hqueued, hlost⟩
  · rw [hr, if_pos rfl]
    refine .of_ledger hledger ?_ (by simp)
    exact if_pos hr
  · rw [hr, if_neg (by decide)]
    refine ⟨?_, by rw [tally_singleton, hqueued]; rfl⟩
    have hunheard : unheardIds ((World.handle env).event c s o) =
      storedIds ((World.handle env).event c s o) :=
      if_neg (by rw [Bool.not_eq_true]; exact hr)
    simp [hqueued, hlost, hunheard]

/-! ### Broadcasts and campaigns -/

theorem sum_map_singleton {f : γ → NotificationId} {xs : List γ} :
    (xs.map fun x => ({f x} : Multiset NotificationId)).sum = (xs.map f : List NotificationId) := by
  induction xs with
  | nil => rfl
  | cons x xs ih =>
    rw [List.map_cons, List.sum_cons, ih, List.map_cons, ← Multiset.cons_coe, Multiset.singleton_add]

theorem squares_enqueueBroadcast (dto : BroadcastDto) (protocol : AuthenticatedProtocol)
    (targets : List ProtocolSubscription) :
    Yields (World.handle env) (Squares some) (enqueueBroadcast env dto protocol targets) := by
  refine squares_after (Q := fun _ => True) (Within.mapEach fun target _ =>
    Within.bind (Within.perform rfl) fun _ => .ret _) fun rows _ => ?_
  refine (carries_insert (.inr ⟨_, rfl, rfl⟩)).bind (fun m _ hm => ?_) fun m e hm => ⟨0, hm, nofun⟩
  refine (carries_allSettled fun row _ => carries_enqueue (broadcastJob dto protocol row.1 row.2)).bind
    (fun m' rs hm' => ?_) fun m' e hm' => ?_
  · obtain ⟨rs', hrs, hcarries⟩ := hm'
    obtain rfl := Except.ok.inj hrs
    have hwait : ((rows.map fun row => broadcastRow env dto protocol row.1 row.2).map (·.id) :
        Multiset NotificationId) = (rows.map fun row =>
          ({(broadcastJob dto protocol row.1 row.2).notificationId} : Multiset NotificationId)).sum := by
      rw [sum_map_singleton, List.map_map]
      rfl
    refine ⟨0 + (rs.filter (·.isOk)).length, ?_, fun a ha k hk => ?_⟩
    · rw [← hwait] at hcarries
      rw [add_zero]
      exact hm.trans hcarries
    · cases ha
      rw [Nat.zero_add]
      exact (Option.some.inj hk).symm
  · obtain ⟨rs', hrs, -⟩ := hm'
    cases hrs

theorem squares_queueBroadcast (dto : BroadcastDto) (protocol : AuthenticatedProtocol) :
    Yields (World.handle env) (Squares fun r => some r.queuedCount) (queueBroadcast env dto protocol) := by
  refine squares_call rfl fun broadcastId => squares_call rfl fun targets => squares_call rfl fun total => ?_
  dsimp only
  split
  · exact ⟨0, .zero, fun a ha k hk => by cases ha; cases hk; rfl⟩
  · exact squares_ret (squares_enqueueBroadcast dto protocol targets) fun _ _ h => h

/-- The part of a campaign for a wallet puts the job on the queue of the notification that it stores, if it
succeeds. -/
theorem carries_enqueueCampaignWallet (campaign : Campaign) (now : Millis) (wallet : JsString) :
    Yields (World.handle env) (fun m r => Turns 0 0 (addedBy r) m)
      (enqueueCampaignWallet env campaign now wallet) := by
  refine (yields_unchanging (Q := fun _ => True) (Within.perform rfl)).bind (fun m id hm => ?_)
    fun m e hm => hm.1 0
  refine (carries_insert (.inl ⟨_, rfl, rfl⟩)).bind (fun m' _ hm' => ?_) fun m' e hm' => ?_
  · refine (carries_enqueue (campaignJob env campaign id wallet)).mono fun m'' r hm'' => ?_
    have hall := ((hm.1 0).trans hm').trans hm''
    rwa [Nat.zero_add, add_assoc] at hall
  · exact (hm.1 0).trans hm'

theorem squares_enqueueAudience (campaign : Campaign) :
    Yields (World.handle env) (Squares some) (enqueueAudience env campaign) := by
  refine squares_call rfl fun now => ?_
  refine (carries_allSettled fun wallet _ => carries_enqueueCampaignWallet campaign now wallet).bind
    (fun m rs hm => ?_) fun m e hm => ?_
  · obtain ⟨rs', hrs, hcarries⟩ := hm
    obtain rfl := Except.ok.inj hrs
    rw [show (campaign.wallets.map fun _ => (0 : Multiset NotificationId)).sum = 0 by simp] at hcarries
    refine (yields_unchanging (Q := fun _ => True) (Within.perform rfl)).bind (fun m' _ hm' => ?_)
      fun m' e hm' => ?_
    · refine ⟨_, by simpa using hcarries.trans (hm'.1 0), fun a ha k hk => ?_⟩
      cases ha
      exact (Option.some.inj hk).symm
    · exact ⟨_, hcarries.trans (hm'.1 0), nofun⟩
  · obtain ⟨rs', hrs, -⟩ := hm
    cases hrs

theorem squares_enqueueCampaign (id : JsString) :
    Yields (World.handle env) (Squares some) (enqueueCampaign env id) := by
  refine squares_call rfl fun found => ?_
  cases found with
  | none => exact squares_throw
  | some campaign => exact squares_enqueueAudience campaign

theorem squares_launchCampaign (id : JsString) (protocol : AuthenticatedProtocol) :
    Yields (World.handle env) (Squares some) (launchCampaign env id protocol) := by
  refine squares_call rfl fun found => ?_
  cases found with
  | none => exact squares_throw
  | some campaign =>
    dsimp only
    split
    · exact squares_throw
    · exact squares_enqueueCampaign id

/-- A fan-out squares its ledger. -/
theorem squares_code {task : Task} (ht : task.fansOut = true) :
    Yields (World.handle env) (Squares Answer.queuedCount?) (task.code env) := by
  cases task with
  | broadcast dto protocol => exact squares_ret (squares_queueBroadcast dto protocol) fun _ _ h => h
  | launchCampaign id protocol => exact squares_ret (squares_launchCampaign id protocol) fun _ _ h => h
  | enqueueCampaign id => exact squares_ret (squares_enqueueCampaign id) fun _ _ h => h
  | _ => cases ht

end programs

/-- A fan-out marks nothing as failed. -/
theorem marks_none {task : Task} (ht : task.fansOut = true) {t : GatewayThread} {q : Gateway Answer}
    (hr : Runs (World.handle env) (task.code env) t.trace q) : t.trace.flatMap failedIds = [] := by
  have hstatus : (task.code env).Within (fun o => ∀ id u, o = .notificationUpdate id u → u.status = none)
      fun _ _ => True := by
    refine within_code (fun o ho id u hu => ?_) ?_
    · subst hu
      exact Option.isNone_iff_eq_none.1 ho
    · cases task with
      | broadcast => exact fun _ _ _ _ _ _ _ hu => by cases hu
      | launchCampaign | enqueueCampaign => exact fun _ _ _ _ _ _ _ hu => by cases hu
      | _ => cases ht
  refine List.flatMap_eq_nil_iff.2 fun e he => ?_
  have hnone := (hr.along hstatus fun _ _ => trivial).2 e he
  unfold failedIds
  split
  · next id u ho => exact if_neg fun h => by rw [hnone id u ho] at h; cases h.1
  · rfl

/-! ### Runs -/

/-- What a call stored is new, and is there afterwards. -/
structure StoresNew (e : GatewayEvent) : Prop where
  nodup : (storedIds e).Nodup
  new : ∀ id ∈ storedIds e, ∀ r ∈ e.before.notifications, r.id ≠ id
  kept : ∀ id ∈ storedIds e, ∃ r ∈ e.after.notifications, r.id = id

theorem StoresNew.of_nil {e : GatewayEvent} (h : storedIds e = []) : StoresNew e := by
  constructor <;> rw [h]
  · exact .nil
  · exact nofun
  · exact nofun

theorem StoresNew.of_append {e : GatewayEvent} {rows : List Notification}
    (h : e.after.notifications = e.before.notifications ++ rows) (hids : storedIds e = rows.map (·.id))
    (hnodup : (rows.map (·.id)).Nodup)
    (hnew : ∀ id ∈ rows.map (·.id), ∀ r ∈ e.before.notifications, r.id ≠ id) :
    StoresNew e := by
  refine ⟨hids ▸ hnodup, hids ▸ hnew, fun id hid => ?_⟩
  rw [hids] at hid
  obtain ⟨r, hr, rfl⟩ := List.mem_map.1 hid
  exact ⟨r, h ▸ List.mem_append_right _ hr, rfl⟩

theorem storesNew_event : StoresNew ((World.handle env).event c s o) := by
  by_cases hsame : (World.handle env c s o).2.notifications = s.notifications
  · refine .of_nil (if_neg ?_)
    change ¬ s.notifications.length < (World.handle env c s o).2.notifications.length
    rw [hsame]
    exact Nat.lt_irrefl _
  have hserve : (World.handle env c s o).2 = (s.serve env c o).2 := by
    rcases @handle_cases env c s o with h | h | ⟨data, jobId, ms, -, h⟩
    · exact absurd (congrArg World.notifications h) hsame
    · exact h
    · exact absurd (congrArg World.notifications h) hsame
  rw [hserve] at hsame
  cases o with
  | notificationCreate n =>
    by_cases hc : s.clashes n = true
    · refine absurd ?_ hsame
      simp only [World.serve, World.createNotification, hc, if_true]
    · have hafter : (World.handle env c s (.notificationCreate n)).2.notifications =
          s.notifications ++ [n.row s.now] := by
        rw [hserve]
        simp only [World.serve, World.createNotification, hc, Bool.false_eq_true, if_false]
      refine .of_append hafter ?_ (List.nodup_singleton _) ?_
      · unfold storedIds
        simp only [Handler.event, hafter]
        simp [NewNotification.row]
      · rintro id hid r hr hr'
        rw [List.map_singleton, List.mem_singleton] at hid
        refine hc (List.any_eq_true.2 ⟨r, hr, ?_⟩)
        rw [hr', hid]
        simp [NewNotification.row]
  | notificationCreateMany ns =>
    rcases createNotifications_cases ns s with ⟨e, he⟩ | ⟨rows, hrows, hids, hnodup, hnew⟩
    · refine absurd ?_ hsame
      simp only [World.serve, he]
    · have hafter : (World.handle env c s (.notificationCreateMany ns)).2.notifications = s.notifications ++
        rows := by
        rw [hserve]
        simp only [World.serve, hrows]
      have hlen : rows ≠ [] := by
        rintro rfl
        refine hsame ?_
        simp only [World.serve, hrows, List.append_nil]
      refine .of_append hafter ?_ (hids ▸ hnodup) (hids ▸ hnew)
      unfold storedIds
      simp only [Handler.event, hafter, List.length_append]
      rw [if_pos (Nat.lt_add_of_pos_right (List.length_pos_of_ne_nil hlen)), hids]
  | _ => exact .of_nil (ite_self _)

variable {p p' : GatewayPool} {l : GatewayLabel} {ls : List GatewayLabel}

theorem keepsRows_step (h : (gateway env).step p l = some p') : KeepsRows p.store p'.store :=
  System.store_rel h (fun _ => .of_eq rfl) (fun _ _ _ => keepsRows_handle) fun _ _ _ => keepsRows_change

/-- Every notification that a task stored is there, and it stored it once. -/
def StoredOnce (p : GatewayPool) : Prop :=
  ∀ t ∈ p.threads, (t.trace.flatMap storedIds).Nodup ∧
    ∀ id ∈ t.trace.flatMap storedIds, ∃ r ∈ p.store.notifications, r.id = id

theorem storedOnce_step (h : (gateway env).step p l = some p') (hp : StoredOnce p) : StoredOnce p' := by
  have hkeeps := keepsRows_step h
  intro t' ht'
  obtain ⟨i, hi⟩ := List.mem_iff_getElem?.1 ht'
  rcases System.thread_cases h hi with ht | ⟨r, -, -, -, rfl⟩ | ⟨t, c, k, -, ht, -, -, rfl⟩ |
    ⟨t, c, o, k, -, ht, -, hs, rfl⟩
  · obtain ⟨hnodup, hkept⟩ := hp t' (List.mem_of_getElem? ht)
    exact ⟨hnodup, fun id hid => hkeeps id (hkept id hid)⟩
  · exact ⟨.nil, nofun⟩
  · obtain ⟨hnodup, hkept⟩ := hp t (List.mem_of_getElem? ht)
    exact ⟨hnodup, fun id hid => hkeeps id (hkept id hid)⟩
  · obtain ⟨hnodup, hkept⟩ := hp t (List.mem_of_getElem? ht)
    have hnew : StoresNew ((World.handle env).event c.2 p.store o) := storesNew_event
    have hsplit : (t.trace ++ [(World.handle env).event c.2 p.store o]).flatMap storedIds =
        t.trace.flatMap storedIds ++ storedIds ((World.handle env).event c.2 p.store o) := by simp
    change ((t.trace ++ [(World.handle env).event c.2 p.store o]).flatMap storedIds).Nodup ∧
      ∀ id ∈ (t.trace ++ [(World.handle env).event c.2 p.store o]).flatMap storedIds, _
    rw [hsplit]
    refine ⟨List.nodup_append.2 ⟨hnodup, hnew.nodup, ?_⟩, fun id hid => ?_⟩
    · rintro id hid _ hid' rfl
      obtain ⟨r, hr, hid''⟩ := hkept id hid
      exact hnew.new id hid' r hr hid''
    · rcases List.mem_append.1 hid with hid | hid
      · exact hkeeps id (hkept id hid)
      · rw [hs]
        exact hnew.kept id hid

/-! ### Accounts -/

/-- Of different notifications that were put on the queue, or lost, or not heard of, all are on the queue only
if none was lost or not heard of, and in any case as many are as were put there. -/
theorem covered_iff {stored queued lost unheard : Multiset NotificationId}
    (h : stored = queued + lost + unheard) (hnodup : stored.Nodup) :
    ((∀ id ∈ stored, id ∈ queued) ↔ lost = 0 ∧ unheard = 0) ∧
      stored.countP (· ∈ queued) = queued.card := by
  subst h
  rw [add_assoc] at *
  obtain ⟨-, -, hdisjoint⟩ := Multiset.nodup_add.1 hnodup
  have hrest : ∀ id ∈ lost + unheard, id ∉ queued :=
    fun id hid hq => Multiset.disjoint_left.1 hdisjoint hq hid
  refine ⟨⟨fun hall => ?_, ?_⟩, ?_⟩
  · have hnone : ∀ id, id ∉ lost + unheard :=
      fun id hid => hrest id hid (hall id (Multiset.mem_add.2 (.inr hid)))
    exact ⟨Multiset.eq_zero_of_forall_notMem fun id hid => hnone id (Multiset.mem_add.2 (.inl hid)),
      Multiset.eq_zero_of_forall_notMem fun id hid => hnone id (Multiset.mem_add.2 (.inr hid))⟩
  · rintro ⟨rfl, rfl⟩ id hid
    simpa using hid
  · rw [Multiset.countP_add, Multiset.countP_eq_card.2 fun _ => id, Multiset.countP_eq_zero.2 hrest, add_zero]

/-- A task loses nothing and stores nothing unheard exactly if it hears of everything. -/
theorem hearsAll_iff {t : GatewayThread} :
    HearsAll t ↔ t.trace.flatMap lostIds = [] ∧ t.trace.flatMap unheardIds = [] := by
  have hlost : ∀ e : GatewayEvent, lostIds e = [] ↔ (e.op.adds = true → e.reply.isOk = true) := by
    rintro ⟨c, s, o, r, s'⟩
    cases o with
    | notificationAdd data jobId timeout => simp [lostIds, Op.adds]
    | _ => exact iff_of_true rfl nofun
  have hunheard : ∀ e : GatewayEvent, unheardIds e = [] ↔ (storedIds e ≠ [] → e.reply.isOk = true) := by
    intro e
    unfold unheardIds
    cases hr : e.reply.isOk <;> simp
  simp only [HearsAll, List.flatMap_eq_nil_iff, hlost, hunheard, or_imp, forall_and]

/-- A fan-out that has ended accounts for what it stored exactly if no add failed or timed out and no insert
took effect unheard. -/
theorem fanout_accounts_iff (hr : (gateway env).run (Pool.empty s) ls = some p) : ∀ t ∈ p.threads,
    t.request.fansOut = true → t.prog.running = false → (AccountsForRows t ↔ HearsAll t) := by
  intro t ht hfans hend
  have hstored : StoredOnce p := System.run_induction (fun _ _ _ hp h => storedOnce_step h hp) hr
    fun _ ht => absurd ht List.not_mem_nil
  obtain ⟨i, hrun⟩ := (System.traced_of_run hr).of_mem ht
  obtain ⟨r, hres⟩ := Prog.result?_of_ended hend
  obtain ⟨n, ⟨hbalance, hcount⟩, hreport⟩ :=
    Runs.yields_result (h := World.handle env) hrun (squares_code hfans) hres
  simp only [zero_add, tally_coe] at hbalance hcount
  obtain ⟨hiff, hcard⟩ := covered_iff hbalance (Multiset.coe_nodup.2 (hstored t ht).1)
  have hfailed := marks_none hfans hrun
  rw [hearsAll_iff]
  simp only [Multiset.mem_coe, Multiset.coe_eq_zero] at hiff
  refine Iff.trans ⟨fun h id hid => ?_, fun h => ⟨fun id hid => .inl (h id hid), fun k hk => ?_⟩⟩ hiff
  · refine (h.covered id hid).resolve_right fun hmarked => ?_
    rw [hfailed] at hmarked
    cases hmarked
  · obtain ⟨a, ha, hka⟩ := Option.bind_eq_some_iff.1 hk
    rw [Thread.answer?_eq_some, hres] at ha
    rw [hreport a (Option.some.inj ha) k hka, ← hcount, ← hcard]
    simp

/-! ### Runs that keep and break it -/

/-- An installation with two subscribers. -/
def twoSubscribers : World :=
  { World.blank with
    subscriptions := [⟨some (js "v"), js "v", js "p", [js "email"], true, 0⟩,
      ⟨some (js "w"), js "w", js "p", [js "email"], true, 0⟩] }

/-- A broadcast to two subscribers, of whose adds the second meets a fault. -/
def broadcastToTwo (f : Fault) : List GatewayLabel :=
  .arrive (.broadcast templatedBroadcast (client .production)) :: proceeds 0 8 ++ [meets 0 f]

theorem fanout_accounts_iff_broadcastToTwo :
    ∃ p ∈ replayFrom twoSubscribers (broadcastToTwo .none), ∀ t ∈ p.threads,
    t.request.fansOut = true → t.prog.running = false → (AccountsForRows t ↔ HearsAll t) := by
  obtain ⟨p, hp⟩ := Option.isSome_iff_exists.1
    (show (replayFrom twoSubscribers (broadcastToTwo .none)).isSome by decide +kernel)
  exact ⟨p, hp, fanout_accounts_iff hp⟩

/-- A broadcast of whose adds one times out leaves a notification that has no job and is not marked as
failed. -/
theorem timedOut_unaccounted : ∃ p ∈ replayFrom twoSubscribers (broadcastToTwo .stalled), ∃ t ∈ p.threads,
    t.request.fansOut = true ∧ t.prog.running = false ∧ ¬ AccountsForRows t := by decide +kernel

end HeraldGateway
