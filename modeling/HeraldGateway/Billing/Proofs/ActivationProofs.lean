import HeraldGateway.Async.History
import HeraldGateway.Billing.Events
import HeraldGateway.Billing.Proofs.PeriodsProofs

/-!
# One payment is activated once

The row of a payment is unique, so its transaction commits at most once, and the state that it leaves does not
depend on when. Nothing of this holds of the renewal on the chain, which goes out before it.
-/

namespace HeraldGateway

open Async

variable {s s' : BillingStore} {a : Activation} {payload : HelioWebhookPayload}

/-! ### The transaction and the clock -/

/-- The stores at another time. -/
def BillingStore.later (now : Millis) (s : BillingStore) : BillingStore := { s with now := now }

section clock

variable {now : Millis} {e : Int}

example : (s.later 1).protocols = s.protocols := by rw [BillingStore.later]

theorem upsertSubscription_later : (s.later now).upsertSubscription a e =
    (s.upsertSubscription a e).map (BillingStore.later now) := by
  unfold BillingStore.upsertSubscription
  cases a.tier.smallInt with
  | none => rfl
  | some tier =>
    by_cases htaken : (s.subscriptions.any fun r =>
        r.protocolId != a.protocolId && r.helioSubscriptionId == some a.transactionId) = true
    · simp only [BillingStore.later, htaken, if_true]
      rfl
    · by_cases hpresent : s.subscriptions.any (·.protocolId == a.protocolId) = true
      · simp only [BillingStore.later, htaken, hpresent, if_true]
        rfl
      · simp only [BillingStore.later, htaken, hpresent]
        rfl

theorem createPayment_later : (s.later now).createPayment a e =
    (s.createPayment a e).map (BillingStore.later now) := by
  unfold BillingStore.createPayment
  cases a.months.smallInt with
  | none => rfl
  | some periodsPaid =>
    by_cases hpaid : s.payments.any (·.helioTransactionId == some a.transactionId) = true
    · simp only [BillingStore.later, hpaid, if_true]
      rfl
    · simp only [BillingStore.later, hpaid]
      rfl

theorem updateProtocol_later : (s.later now).updateProtocol a =
    (s.updateProtocol a).map (BillingStore.later now) := by
  unfold BillingStore.updateProtocol
  cases a.tier.smallInt with
  | none => rfl
  | some tier =>
    by_cases hpresent : s.protocols.any (·.id == a.protocolId) = true
    · simp only [BillingStore.later, hpresent, if_true]
      rfl
    · simp only [BillingStore.later, hpresent]
      rfl

theorem markProcessed_later :
    (s.later now).markProcessed a = (s.markProcessed a).map (BillingStore.later now) := by
  unfold BillingStore.markProcessed
  by_cases hpresent : s.helioEvents.any (·.helioEventId == a.transactionId) = true
  · simp only [BillingStore.later, hpresent, if_true]
    rfl
  · simp only [BillingStore.later, hpresent]
    rfl

/-- What a transaction writes does not depend on the clock of the stores. -/
theorem commit_later : (s.later now).commit a = (s.commit a).map (BillingStore.later now) := by
  unfold BillingStore.commit
  cases a.periodEnd with
  | none => rfl
  | some e =>
    simp only [bind, Except.bind, upsertSubscription_later]
    cases s.upsertSubscription a e with
    | error _ => rfl
    | ok s₁ =>
      simp only [Except.map, createPayment_later]
      cases s₁.createPayment a e with
      | error _ => rfl
      | ok s₂ =>
        simp only [Except.map, updateProtocol_later]
        cases s₂.updateProtocol a with
        | error _ => rfl
        | ok s₃ => exact markProcessed_later

/-- It leaves the same state wherever it starts from the same. -/
theorem commit_database {s₁ : BillingStore} (h : s₁.database = s.database) (hcommit : s₁.commit a = .ok s') :
    (s.commit a).map (·.database) = .ok s'.database := by
  calc (s.commit a).map (·.database)
    _ = (s.later 0).commit a := commit_later.symm
    _ = (s₁.later 0).commit a := congrArg (·.commit a) h.symm
    _ = (s₁.commit a).map (·.database) := commit_later
    _ = .ok s'.database := by rw [hcommit]; rfl

end clock

/-! ### The row of a payment -/

theorem isPaid_database {transactionId : JsString} (h : s'.database = s.database)
    (hp : s.IsPaid transactionId) :
    s'.IsPaid transactionId := by
  obtain ⟨r, hr, hid⟩ := hp
  have hrows := congrArg BillingStore.payments h
  exact ⟨r, hrows.symm ▸ hr, hid⟩

/-- A transaction that commits stores a payment that was not stored before. -/
theorem isPaid_of_commit (h : s.commit a = .ok s') :
    ¬ s.IsPaid a.transactionId ∧ s'.IsPaid a.transactionId := by
  obtain ⟨e, s₁, s₂, s₃, -, h₁, h₂, h₃, h₄⟩ := commit_steps h
  obtain ⟨rows, rfl⟩ := upsertSubscription_eq h₁
  obtain ⟨protocols, rfl⟩ := updateProtocol_eq h₃
  obtain rfl := markProcessed_eq h₄
  unfold BillingStore.createPayment at h₂
  cases hm : a.months.smallInt with
  | none =>
    rw [hm] at h₂
    cases h₂
  | some m =>
    simp only [hm] at h₂
    split at h₂
    · cases h₂
    · next hnew =>
      obtain rfl := Except.ok.inj h₂
      refine ⟨fun ⟨r, hr, hid⟩ => hnew (List.any_eq_true.2 ⟨r, hr, beq_iff_eq.2 hid⟩), ?_⟩
      exact ⟨_, List.mem_append_right _ (List.mem_singleton.2 rfl), rfl⟩

/-! ### What an execution calls -/

/-- The calls of an execution. -/
def BillingOp.executes : BillingOp → Bool
  | findProtocol _ | renewSubscription _ | now | transaction _ => true
  | _ => false

theorem executes_only : Within (S := BillingCalls) (ε := Err) (fun o => o.executes = true) (fun _ _ => True)
    (activateFromHelioPayment payload) := by
  unfold activateFromHelioPayment
  split
  · trivial
  · refine Within.bind (Within.perform (S := BillingCalls) rfl) fun found => ?_
    split
    · trivial
    · refine Within.bind (Within.tryCatch (Within.perform (S := BillingCalls) rfl) fun _ => trivial) fun _ => ?_
      refine Within.bind (Within.perform (S := BillingCalls) rfl) fun now => ?_
      exact Within.bind (Within.perform (S := BillingCalls) rfl) fun _ => trivial

/-- A call finds the protocol for which a transaction of the payment is. -/
def FindsFor (payload : HelioWebhookPayload) (a : Activation) : (o : BillingOp) → Except Err o.Res → Prop
  | .findProtocol k, .ok (some protocol) => k = payload.protocolPubkey ∧ ∃ amountUsdc,
      (payload.amountUsdc.or (.number 0)).toNumber.floorInt = some amountUsdc ∧
        a = payload.activation protocol.id amountUsdc a.now
  | _, _ => False

/-- An execution asks only for a transaction whose protocol it found. -/
theorem transaction_after_found : Within (S := BillingCalls) (ε := Err) (fun o => o ≠ .transaction a)
    (fun o r => ¬ FindsFor payload a o r) (activateFromHelioPayment payload) := by
  unfold activateFromHelioPayment
  split
  · trivial
  · next amountUsdc hamount =>
    refine Within.perform_bind (S := BillingCalls) nofun fun found hgood => ?_
    cases found with
    | none => trivial
    | some protocol =>
      refine Within.bind (Within.tryCatch (Within.perform (S := BillingCalls) nofun) fun _ => trivial) fun _ => ?_
      refine Within.bind (Within.perform (S := BillingCalls) nofun) fun now => ?_
      refine Within.bind (Within.perform (S := BillingCalls) fun heq => ?_) fun _ => trivial
      obtain rfl := BillingOp.transaction.inj heq
      exact hgood ⟨rfl, amountUsdc, hamount, rfl⟩

/-- A call commits a transaction. -/
def Commits : (o : BillingOp) → Except Err o.Res → Prop
  | .transaction _, .ok _ => True
  | _, _ => False

theorem commit_of_commits {f : Fault} {o : BillingOp} (h : Commits o (BillingStore.handle f s o).1) :
    ∃ a, s.commit a = .ok (BillingStore.handle f s o).2 := by
  cases o with
  | transaction a =>
    cases hreply : (f.meet s (s.serve (.transaction a))).1 with
    | error e =>
      have hno : Commits (.transaction a) (.error e) := hreply ▸ h
      cases hno
    | ok u =>
      refine ⟨a, ?_⟩
      change _ = Except.ok (f.meet s (s.serve (.transaction a))).2
      have hmeet := Fault.meet_ok hreply
      rw [hmeet] at hreply ⊢
      cases hcommit : s.commit a with
      | ok s' => rw [BillingStore.serve, hcommit]
      | error e =>
        rw [BillingStore.serve, hcommit] at hreply
        cases hreply
  | _ => cases h

/-- An execution succeeds only after its transaction did. -/
theorem activated_after_commit : Along (S := BillingCalls) (fun _ => True) (fun o r => ¬ Commits o r)
    (fun r => r ≠ .ok .activated) (activateFromHelioPayment payload) := by
  unfold activateFromHelioPayment
  split
  · exact nofun
  · refine Along.bind (Along.perform (S := BillingCalls) (o := .findProtocol _) trivial) (fun found _ => ?_)
      fun _ _ => nofun
    cases found with
    | none => exact nofun
    | some protocol =>
      refine Along.bind (Q := fun _ => True) ?_ (fun _ _ => ?_) fun _ _ => nofun
      · exact Along.of_forall (S := BillingCalls) (fun _ => trivial) _
      · refine Along.bind (Along.perform (S := BillingCalls) (o := .now) trivial) (fun now _ => ?_)
          fun _ _ => nofun
        refine Along.bind (Along.perform (S := BillingCalls) (o := .transaction _) trivial) (fun _ hgood => ?_)
          fun _ _ => nofun
        exact absurd trivial hgood

/-! ### Runs -/

variable {p p' : ActivationPool} {l : ActivationLabel} {ls : List ActivationLabel}

/-- A call of an execution leaves the stores alone, or commits the transaction of the payment. -/
theorem execution_call {i : Nat} {t : Thread BillingCalls Err BillingAnswer Unit BillingStore Fault}
    {f : Fault} {o : BillingOp} {k : Except Err o.Res → Billing BillingAnswer}
    (hp : (activations payload).Traced p) (ht : p.threads[i]? = some t)
    (hprog : t.prog = @Prog.call BillingCalls Err BillingAnswer o k) :
    (BillingStore.handle f p.store o).2 = p.store ∨ ∃ a, o = .transaction a ∧
      p.store.commit a = .ok (BillingStore.handle f p.store o).2 ∧ a.transactionId = payload.transactionId ∧
        ∃ e ∈ t.trace, ∃ protocol amountUsdc,
        e.before.protocols.find? (·.protocolPubkey == payload.protocolPubkey) =
          some protocol ∧ (payload.amountUsdc.or (.number 0)).toNumber.floorInt = some amountUsdc ∧
            a = payload.activation protocol.id amountUsdc a.now := by
  have hruns := hp i t ht
  rw [hprog] at hruns
  have hexec : o.executes = true := (hruns.along executes_only fun _ _ => trivial).1.1
  rcases BillingStore.handle_cases (f := f) (s := p.store) (o := o) with hsame | ⟨-, hserve⟩
  · exact .inl hsame
  · rw [hserve]
    cases o with
    | transaction a =>
      cases hcommit : p.store.commit a with
      | error e => exact .inl (by rw [BillingStore.serve, hcommit])
      | ok s' =>
        obtain ⟨e, he, hfinds⟩ := hruns.exists_reply (transaction_after_found (a := a)) (not_not.2 rfl)
        obtain ⟨c, s, o, rfl⟩ := hruns.event e he
        have hfinds := not_not.1 hfinds
        cases o with
        | findProtocol k =>
          cases hreply : (BillingStore.handle c s (.findProtocol k)).1 with
          | error e =>
            have hno : FindsFor payload a (.findProtocol k) (.error e) := hreply ▸ hfinds
            cases hno
          | ok found =>
            have hfound : FindsFor payload a (.findProtocol k) (.ok found) := hreply ▸ hfinds
            have hrow : s.protocols.find? (·.protocolPubkey == k) = found := by
              have hserve := congrArg Prod.fst (Fault.meet_ok hreply)
              rw [show (Fault.meet c s (s.serve (.findProtocol k))).1 = .ok found from hreply] at hserve
              exact (Except.ok.inj hserve).symm
            cases found with
            | none => cases hfound
            | some protocol =>
              obtain ⟨rfl, amountUsdc, hamount, ha⟩ := hfound
              refine .inr ⟨a, rfl, ?_, ?_, _, he, protocol, amountUsdc, hrow, hamount, ha⟩
              · rw [BillingStore.serve, hcommit]
              · rw [ha]
                rfl
        | _ => cases hfinds
    | findProtocol | renewSubscription | now => exact .inl rfl
    | findByPayloadHash | createEvent | queueAdd => cases hexec

/-- The stores are as they were at first, or as one execution leaves them. -/
structure ActivatedOnce (payload : HelioWebhookPayload) (s : BillingStore) (p : ActivationPool) : Prop where
  traced : (activations payload).Traced p
  states : System.Always (fun s' : BillingStore => s'.database = s.database) p ∨
    Activates payload s p.store ∧ p.store.IsPaid payload.transactionId
  settled : ∀ t ∈ p.threads, ∀ e ∈ t.trace, e.before.IsPaid payload.transactionId →
    e.after.database = e.before.database

theorem ActivatedOnce.step (hp : ActivatedOnce payload s p) (h : (activations payload).step p l = some p') :
    ActivatedOnce payload s p' where
  traced := System.Traced.step h hp.traced
  states := by
    -- Steps that leave the database alone leave either alternative as it is.
    have kept : p'.store.database = p.store.database →
        System.Always (fun s' : BillingStore => s'.database = s.database) p' ∨
          Activates payload s p'.store ∧ p'.store.IsPaid payload.transactionId := by
      intro hsame
      rcases hp.states with halways | ⟨hactive, hpaid⟩
      · exact .inl (halways.step h (hsame.trans halways.1))
      · right
        refine ⟨?_, isPaid_database hsame hpaid⟩
        unfold Activates
        rw [hsame]
        exact hactive
    rcases System.store_cases h with hst | ⟨i, c, t, o, k, rfl, ht, hprog, hst⟩ | ⟨ms, -, hms⟩
    · exact kept (congrArg BillingStore.database hst)
    · rcases execution_call (f := c.2) hp.traced ht hprog with
        hsame | ⟨a, -, hcommit, hid, e, he, q, amountUsdc, hq, hamount, ha⟩
      · exact kept (congrArg BillingStore.database (hst.trans hsame))
      · obtain ⟨hunpaid, hpaid⟩ := isPaid_of_commit hcommit
        rw [hid] at hunpaid hpaid
        rcases hp.states with halways | ⟨-, hpaid'⟩
        · have hbefore := (halways.2 t (List.mem_of_getElem? ht) e he).1
          have hrows := congrArg BillingStore.protocols hbefore
          have hq := (congrArg (List.find? (·.protocolPubkey == payload.protocolPubkey)) hrows).symm.trans hq
          refine .inr ⟨⟨q, amountUsdc, a.now, hq, hamount, ?_⟩, ?_⟩
          · rw [← ha, hst]
            exact commit_database halways.1 hcommit
          · rw [hst]
            exact hpaid
        · exact absurd hpaid' hunpaid
    · exact kept (by rw [← Option.some.inj hms]; rfl)
  settled := by
    refine System.Events.step (P := fun _ (e : BillingEvent) => e.before.IsPaid payload.transactionId →
      e.after.database = e.before.database) h hp.settled fun i c t o k _ ht hprog hpaid => ?_
    rcases execution_call (f := c.2) hp.traced ht hprog with hsame | ⟨a, -, hcommit, hid, -⟩
    · exact congrArg BillingStore.database hsame
    · exact absurd (hid ▸ hpaid) (isPaid_of_commit hcommit).1

/-- An execution that succeeded activated the payment. -/
theorem ActivatedOnce.activates (hp : ActivatedOnce payload s p)
    (h : ∃ t ∈ p.threads, t.answer? = some .activated) : Activates payload s p.store := by
  rcases hp.states with halways | ⟨hactive, -⟩
  · obtain ⟨t, ht, hanswer⟩ := h
    obtain ⟨i, hruns⟩ := hp.traced.of_mem ht
    have hcommits : ∃ e ∈ t.trace, Commits e.op e.reply := by
      by_contra hno
      push Not at hno
      have hresult := Thread.answer?_eq_some.1 hanswer
      have hprog := (hruns.along activated_after_commit hno).1
      cases hrest : t.prog with
      | ret b =>
        rw [hrest] at hprog hresult
        exact hprog (Option.some.inj hresult)
      | throw | choose | call =>
        rw [hrest] at hresult
        cases hresult
    obtain ⟨e, he, hcommits⟩ := hcommits
    obtain ⟨hbefore, hafter⟩ := halways.2 t ht e he
    obtain ⟨c, s₁, o, rfl⟩ := hruns.event e he
    obtain ⟨a, hcommit⟩ := commit_of_commits hcommits
    obtain ⟨hunpaid, hpaid⟩ := isPaid_of_commit hcommit
    exact absurd (isPaid_database (hbefore.trans hafter.symm) hpaid) hunpaid
  · exact hactive

/-! ### The renewal -/

theorem renewals_append {tr : List BillingEvent} {e : BillingEvent} :
    renewals (tr ++ [e]) = e.op.renewals (renewals tr) e.choice e.reply := by
  simp [renewals, List.foldl_append]

/-- What an execution submitted it was about to submit. -/
theorem logs_renewals : Logs (S := BillingCalls) BillingStore.handle (fun _ _ => True)
    (fun tr => traceWeight submits tr ≤ renewals tr) (fun _ _ => True) (activateFromHelioPayment payload) [] := by
  unfold activateFromHelioPayment
  split
  · trivial
  · -- Once the protocol is found, the renewal is ahead.
    refine Logs.bind (Q := fun tr r => traceWeight submits tr = 0 ∧ ∀ protocol, r = .ok (some protocol) → renewals tr = 1)
      (logs_call (o := .findProtocol payload.protocolPubkey) fun f s _ => ?_) (fun tr found h => ?_)
        fun _ _ _ => trivial
    · refine ⟨Nat.zero_le _, rfl, fun protocol hr => ?_⟩
      change BillingOp.renewals 0 f (.findProtocol _)
        (BillingStore.handle f s (.findProtocol payload.protocolPubkey)).1 = 1
      rw [hr]
      rfl
    · cases found with
      | none => trivial
      | some protocol =>
        obtain ⟨hsubmits, hrenewals⟩ := h
        have hrenewals := hrenewals protocol rfl
        have later : ∀ tr : List BillingEvent, ∀ e : BillingEvent, submits e = 0 →
            e.op.renewals (renewals tr) e.choice e.reply = renewals tr →
              traceWeight submits tr ≤ renewals tr →
                traceWeight submits (tr ++ [e]) ≤ renewals (tr ++ [e]) := by
          intro tr e hsub hren hle
          rw [renewals_append, hren, traceWeight_append, traceWeight_cons, hsub]
          exact hle
        refine Logs.bind (Q := fun tr _ => traceWeight submits tr ≤ renewals tr) ?_ (fun tr _ h => ?_)
          fun _ _ _ => trivial
        · refine Logs.tryCatch (Q := fun tr _ => traceWeight submits tr ≤ renewals tr)
            (logs_call (o := .renewSubscription _) fun f s _ => ?_) (fun _ _ h => h) fun _ _ h => h
          have hI : traceWeight submits
                (tr ++ [BillingStore.handle.event f s (.renewSubscription payload.protocolPubkey)]) ≤
              renewals (tr ++ [BillingStore.handle.event f s (.renewSubscription payload.protocolPubkey)]) := by
            rw [renewals_append, traceWeight_append, traceWeight_cons, traceWeight_nil, hsubmits, hrenewals]
            change 0 + ((if f.applies then 1 else 0) + 0) ≤ if f.applies then 1 else 0
            omega
          exact ⟨hI, hI⟩
        · refine Logs.bind (Q := fun tr _ => traceWeight submits tr ≤ renewals tr)
            (logs_call (o := .now) fun f s _ => ?_) (fun tr now h => ?_) fun _ _ _ => trivial
          · exact ⟨later tr _ rfl rfl h, later tr _ rfl rfl h⟩
          · refine Logs.bind (Q := fun _ _ => True) (logs_call (o := .transaction _) fun f s _ => ?_)
              (fun _ _ _ => trivial) fun _ _ _ => trivial
            exact ⟨later tr _ rfl rfl h, trivial⟩

/-- Only a protocol that is found brings a renewal that was not ahead before. -/
theorem renewals_le {n : Nat} {f : Fault} {o : BillingOp} {r : Except Err o.Res} :
    o.renewals n f r ≤ if o.finds r = true then n + 1 else n := by
  cases o with
  | findProtocol k =>
    cases r with
    | error e => exact Nat.le_refl n
    | ok found =>
      cases found with
      | none => exact Nat.le_refl n
      | some protocol => exact Nat.le_refl (n + 1)
  | renewSubscription k =>
    change (if f.applies then n else n - 1) ≤ n
    split
    · exact Nat.le_refl n
    · exact Nat.sub_le n 1
  | _ => exact Nat.le_refl n

theorem total_renewals_step (hp : p.total renewals ≤ 1) (hok : FindsAlone p l)
    (h : (activations payload).step p l = some p') : p'.total renewals ≤ 1 := by
  rcases System.total_step (f := renewals) rfl h with ⟨hsame, -⟩ | ⟨i, c, t, o, k, rfl, ht, hprog, -, hsum⟩
  · rw [hsame]
    exact hp
  · rw [renewals_append] at hsum
    have hle := renewals_le (n := renewals t.trace) (f := c.2) (r := (BillingStore.handle c.2 p.store o).1)
    change _ = p.total renewals + o.renewals (renewals t.trace) c.2 (BillingStore.handle c.2 p.store o).1 at hsum
    by_cases hfinds : o.finds (BillingStore.handle c.2 p.store o).1 = true
    · have hzero := hok t ht o (by rw [hprog]; rfl) hfinds
      rw [if_pos hfinds] at hle
      omega
    · rw [if_neg hfinds] at hle
      omega

/-- However often a payment is executed and wherever each execution fails, it is activated once; and if an
execution finds its protocol only while no other has submitted a renewal or is about to, the renewal is
submitted once. -/
theorem activation_idempotent (hok : (activations payload).Keeps FindsAlone (Pool.empty s) ls)
    (hr : (activations payload).run (Pool.empty s) ls = some p) : Idempotent payload s p := by
  have honce : ActivatedOnce payload s p :=
    System.run_induction (fun _ _ _ hp hs => ActivatedOnce.step hp hs) hr
    ⟨System.traced_empty s, .inl (System.always_empty rfl), fun _ ht => absurd ht List.not_mem_nil⟩
  have htotal : p.total renewals ≤ 1 := System.Keeps.induction (I := fun p => p.total renewals ≤ 1)
    (fun _ _ _ hl hp hs => total_renewals_step hp hl hs) hok hr (Nat.zero_le 1)
  refine ⟨honce.activates, honce.settled, Nat.le_trans (System.total_le fun t ht => ?_) htotal⟩
  obtain ⟨i, hruns⟩ := honce.traced.of_mem ht
  exact (hruns.logs logs_renewals (Nat.le_refl 0) fun _ _ _ _ => trivial).1

/-! ### A retry -/

/-- A growth protocol, before it has paid. -/
def firstPaymentStore : BillingStore where
  now := 0
  protocols := [growthProtocol]
  subscriptions := []
  payments := []
  helioEvents := [⟨0, js "1", js "COMPLETED", some (js "p"), js "1", false, none⟩]
  webhookQueue := [⟨0, paymentEvent "1" 1⟩]

/-- An execution that reaches no protocol, another one that succeeds, and the time between them. -/
def retriedLookup : List ActivationLabel :=
  .arrive () :: .pick 0 (true, .stalled) :: .outside 5000 :: .arrive () :: List.replicate 4 (.pick 1 (true, .none))

theorem activation_idempotent_retriedLookup :
    ∃ p ∈ (activations (paymentEvent "1" 1)).run (Pool.empty firstPaymentStore) retriedLookup,
      Idempotent (paymentEvent "1" 1) firstPaymentStore p := by
  obtain ⟨p, hp⟩ := Option.isSome_iff_exists.1
    (show ((activations (paymentEvent "1" 1)).run (Pool.empty firstPaymentStore) retriedLookup).isSome by decide +kernel)
  exact ⟨p, hp, activation_idempotent (by decide +kernel) hp⟩

/-- The renewal goes out, the transaction is refused, and the retry renews again. -/
theorem renewal_submitted_twice :
    ∃ p ∈ (activations (paymentEvent "1" 1)).run (Pool.empty firstPaymentStore)
        (.arrive () :: List.replicate 3 (.pick 0 (true, .none)) ++ .pick 0 (true, .stalled) ::
          .outside 5000 :: .arrive () :: List.replicate 4 (.pick 1 (true, .none))),
      ¬ Idempotent (paymentEvent "1" 1) firstPaymentStore p ∧
      p.threads.map (·.answer?) = [none, some .activated] ∧
        p.weight submits = 2 := by
  have hrun : ∃ p ∈ (activations (paymentEvent "1" 1)).run (Pool.empty firstPaymentStore)
      (.arrive () :: List.replicate 3 (.pick 0 (true, .none)) ++ .pick 0 (true, .stalled) ::
        .outside 5000 :: .arrive () :: List.replicate 4 (.pick 1 (true, .none))),
      p.threads.map (·.answer?) = [none, some .activated] ∧ p.weight submits = 2 := by decide +kernel
  obtain ⟨p, hp, hanswers, htwo⟩ := hrun
  exact ⟨p, hp, fun h => absurd h.submitted (by omega), hanswers, htwo⟩

end HeraldGateway
