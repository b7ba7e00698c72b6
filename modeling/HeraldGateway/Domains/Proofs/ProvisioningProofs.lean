import HeraldGateway.Async.History
import HeraldGateway.Domains.Provisioning

/-!
# The domain limit

A request stores a key only after it was counted in. So the keys that are stored and those that requests may
yet store stay within the plan, if a request is counted in only where both leave room.
-/

namespace HeraldGateway

open Async

variable {s : DomainStore} {protocolId id domain selector : JsString} {tier limit n : Nat} {c : DomainChoice}
  {o : DomainOp} {tr : List DomainEvent}

/-! ### What calls do to the keys -/

/-- A call leaves the tables alone, or takes effect as if it was answered. -/
theorem DomainStore.handle_cases :
    (DomainStore.handle c s o).2 = s ∨ (DomainStore.handle c s o).2 = (s.serve c o).2 :=
  Fault.meet_cases.imp id And.right

/-- No call changes a plan. -/
theorem handle_tier : (DomainStore.handle c s o).2.tier = s.tier := by
  rcases DomainStore.handle_cases (c := c) (s := s) (o := o) with h | h
  · rw [h]
  · rw [h]
    cases o with
    | createKey row =>
      simp only [DomainStore.serve, DomainStore.createKey]
      split
      · rfl
      · rfl
    | _ => rfl

/-- The row that a call stores is one of the protocol. -/
def DomainOp.inserts (protocolId : JsString) : DomainOp → Prop
  | createKey row => ∃ n, (row n).protocolId = protocolId
  | _ => False

/-- A call that stores no key for a protocol adds none to its active ones. -/
theorem active_serve (h : ¬ o.inserts id) : (s.serve c o).2.active id ≤ s.active id := by
  cases o with
  | createKey row =>
    simp only [DomainStore.serve, DomainStore.createKey]
    split
    · exact Nat.le_refl _
    · have hother : ((row s.keys.created).protocolId == id) = false :=
        beq_eq_false_iff_ne.2 fun heq => h ⟨_, heq⟩
      simp only [DomainStore.active, List.countP_append, List.countP_singleton, hother, Bool.false_and]
      exact Nat.le_refl _
  | deleteKeys k other => exact List.Sublist.countP_le List.filter_sublist
  | _ => exact Nat.le_refl _

/-- A call that stores one adds one. -/
theorem active_createKey {row : Nat → DkimKey} :
    (s.serve c (.createKey row)).2.active id ≤ s.active id + 1 := by
  simp only [DomainStore.serve, DomainStore.createKey]
  split
  · exact Nat.le_succ _
  · simp only [DomainStore.active, List.countP_append, List.countP_singleton]
    split
    · exact Nat.le_refl _
    · exact Nat.le_succ _

/-- Verification neither adds nor removes a key. -/
theorem active_change {e : DomainChange} :
    (e.apply s).tier = s.tier ∧ (e.apply s).active id = s.active id := by
  cases e with
  | register k r => exact ⟨rfl, rfl⟩
  | verify k other answer =>
    refine ⟨rfl, ?_⟩
    simp only [DomainChange.apply, DomainStore.active, DkimStore.verify]
    split
    · split
      · rw [List.countP_map]
        refine List.countP_congr fun key _ => ?_
        simp only [Function.comp_apply]
        split
        · exact Iff.rfl
        · exact Iff.rfl
      · rfl
    · rfl

/-! ### What a request may yet store -/

theorem pendingKeys_append {e : DomainEvent} :
    pendingKeys id limit (tr ++ [e]) = e.op.pending id limit (pendingKeys id limit tr) e.reply := by
  simp [pendingKeys, List.foldl_append]

/-- Only a count that lets a request go on adds to what it may store. -/
theorem pending_le {r : Except Err o.Res} :
    o.pending id limit n r ≤ if o.admits id limit r = true then n + 1 else n := by
  cases o with
  | countActive other =>
    change (if (DomainOp.countActive other).admits id limit r = true then 1 else n) ≤ _
    split
    · exact Nat.le_add_left 1 n
    · exact Nat.le_refl n
  | createKmsKey text =>
    cases r with
    | error e => exact Nat.zero_le n
    | ok k =>
      match k with
      | none | some [] => exact Nat.zero_le n
      | some (_ :: _) => exact Nat.le_refl n
  | getPublicKey k =>
    cases r with
    | error e => exact Nat.zero_le n
    | ok der =>
      match der with
      | none => exact Nat.zero_le n
      | some _ => exact Nat.le_refl n
  | createKey row => exact Nat.zero_le n
  | _ => exact Nat.le_refl n

/-! ### Requests -/

/-- The plan of a protocol, as the calls of a history find it. -/
abbrev PlanIs (id : JsString) (tier : Nat) : List DomainEvent → DomainEvent → Prop :=
  fun _ e => e.before.tier id = some tier

/-- A key that the last call stored was counted in. -/
def CountedIn (id : JsString) (tier : Nat) (tr : List DomainEvent) : Prop :=
  ∀ pre e, tr = pre ++ [e] → e.op.inserts id → pendingKeys id (maxDomains tier) pre = 1

theorem countedIn_append {e : DomainEvent} (h : e.op.inserts id → pendingKeys id (maxDomains tier) tr = 1) :
    CountedIn id tier (tr ++ [e]) := by
  intro pre e' heq hins
  obtain ⟨rfl, he⟩ := List.append_inj' heq rfl
  obtain rfl := List.cons.inj he |>.1
  exact h hins

/-- A request that follows its history. -/
abbrev LogsKeys {α : Type} (id : JsString) (tier : Nat) (Q : List DomainEvent → Except Err α → Prop)
    (p : Domains α) (tr : List DomainEvent) : Prop :=
  Logs (S := DomainCalls) DomainStore.handle (PlanIs id tier) (CountedIn id tier) Q p tr

/-- A call that stores nothing keeps what is said of the history. -/
theorem logsKeys_call {Q : List DomainEvent → Except Err o.Res → Prop} (ho : ¬ o.inserts id)
    (h : ∀ c s, s.tier id = some tier → Q (tr ++ [DomainStore.handle.event c s o]) (DomainStore.handle c s o).1) :
    LogsKeys id tier Q o.call tr :=
  Logs.perform (S := DomainCalls) (o := o)
    fun c s hplan => ⟨countedIn_append fun hins => absurd hins ho, h c s hplan⟩

/-- A call that succeeds was answered. -/
theorem DomainStore.handle_ok {a : o.Res} (h : (DomainStore.handle c s o).1 = .ok a) :
    (s.serve c o).1 = .ok a := by
  rw [← h, DomainStore.handle, Fault.meet_ok h]

/-- A request that was counted in is so until it stores its key. -/
theorem logs_makeKey (h : protocolId = id → pendingKeys id (maxDomains tier) tr = 1) :
    LogsKeys id tier (fun _ _ => True) (makeKey protocolId domain selector) tr := by
  refine Logs.bind (Q := fun tr r => ∀ a k, r = .ok (some (a :: k)) → protocolId = id →
    pendingKeys id (maxDomains tier) tr = 1)
      (logsKeys_call (o := .createKmsKey _) (fun h => h) fun c s _ => ?_)
    (fun tr created h => ?_) fun _ _ _ => trivial
  · intro a k hr heq
    rw [pendingKeys_append]
    change DomainOp.pending id _ _ (.createKmsKey _) (DomainStore.handle c s (.createKmsKey _)).1 = 1
    rw [hr]
    exact h heq
  · match created with
    | none | some [] => trivial
    | some (a :: k) =>
      refine Logs.bind (Q := fun tr r => ∀ der, r = .ok (some der) → protocolId = id →
        pendingKeys id (maxDomains tier) tr = 1)
          (logsKeys_call (o := .getPublicKey _) (fun h => h) fun c s _ => ?_)
        (fun tr answer h => ?_) fun _ _ _ => trivial
      · intro der hr heq
        rw [pendingKeys_append]
        change DomainOp.pending id _ _ (.getPublicKey _) (DomainStore.handle c s (.getPublicKey _)).1 = 1
        rw [hr]
        exact h a k rfl heq
      · match answer with
        | none => trivial
        | some der =>
          refine Logs.bind (Q := fun _ _ => True) (Logs.perform (S := DomainCalls) (o := .createKey _) fun c s _ => ?_)
            (fun _ _ _ => trivial) fun _ _ _ => trivial
          exact ⟨countedIn_append fun ⟨_, hrow⟩ => h der rfl hrow, trivial⟩

theorem logs_code (r : DomainRequest) : LogsKeys id tier (fun _ _ => True) r.code [] := by
  cases r with
  | provision protocolId domain selector =>
    refine Logs.bind (Q := fun _ _ => True) ?_ (fun _ _ _ => trivial) fun _ _ _ => trivial
    refine Logs.tryCatch (Q := fun _ _ => True) ?_ (fun _ _ _ => trivial) fun _ _ _ => trivial
    refine Logs.bind (Q := fun _ r => ∀ t, r = .ok (some t) → protocolId = id → t = tier)
      (logsKeys_call (o := .findTier protocolId) (fun h => h) fun c s hplan t hr heq => ?_) (fun tr found h => ?_)
      fun _ _ _ => trivial
    · have hserve : s.tier protocolId = some t := Except.ok.inj (DomainStore.handle_ok hr)
      rw [heq, hplan] at hserve
      exact (Option.some.inj hserve).symm
    · cases found with
      | none => trivial
      | some t =>
        refine Logs.bind (Q := fun tr r => ∀ n : Nat, r = .ok n → protocolId = id → n < maxDomains tier →
          pendingKeys id (maxDomains tier) tr = 1)
            (logsKeys_call (o := .countActive protocolId) (fun h => h) fun c s _ => ?_)
          (fun tr count hcount => ?_) fun _ _ _ => trivial
        · intro n hr heq hlt
          rw [pendingKeys_append]
          change DomainOp.pending id _ _ (.countActive _) (DomainStore.handle c s (.countActive _)).1 = 1
          rw [hr]
          exact if_pos (Bool.and_eq_true_iff.2 ⟨beq_iff_eq.2 heq, Nat.blt_eq ▸ hlt⟩)
        · unfold checkLimit
          split
          · trivial
          · next hroom =>
            refine logs_makeKey fun heq => hcount count rfl heq ?_
            rw [← h t rfl heq]
            exact Nat.not_le.1 hroom
  | delete k other =>
    refine Logs.bind (Q := fun _ _ => True) ?_ (fun _ _ _ => trivial) fun _ _ _ => trivial
    refine Logs.bind (Q := fun _ _ => True) (logsKeys_call (o := .findKey k other) (fun h => h) fun _ _ _ => trivial)
      (fun tr key _ => ?_) fun _ _ _ => trivial
    refine Logs.bind (Q := fun _ _ => True) ?_
      (fun tr _ _ => logsKeys_call (o := .deleteKeys k other) (fun h => h) fun _ _ _ => trivial)
        fun _ _ _ => trivial
    match key with
    | some (_, some (a :: resendDomainId)) =>
      exact Logs.tryCatch (Q := fun _ _ => True)
        (logsKeys_call (o := .removeResendDomain (a :: resendDomainId)) (fun h => h) fun _ _ _ => trivial)
        (fun _ _ _ => trivial) fun _ _ _ => trivial
    | some (_, some []) | some (_, none) | none => trivial

/-! ### Runs -/

variable {p p' : DomainPool} {l : DomainLabel} {ls : List DomainLabel}

/-- What is stored and what may yet be stored is within the plan. -/
structure WithRoom (id : JsString) (tier : Nat) (p : DomainPool) : Prop where
  traced : domains.Traced p
  plan : System.Always (fun s : DomainStore => s.tier id = some tier) p
  room : p.store.active id + p.total (pendingKeys id (maxDomains tier)) ≤ maxDomains tier

/-- A request that is about to store a key was counted in. -/
theorem WithRoom.pending {i : Nat}
    {t : Thread DomainCalls Err (Option ProvisionedDomain) DomainRequest DomainStore DomainChoice}
    {row : Nat → DkimKey} {k : Except Err DkimKey → Domains (Option ProvisionedDomain)}
    (hp : WithRoom id tier p) (ht : p.threads[i]? = some t)
    (hprog : t.prog = @Prog.call DomainCalls Err _ (.createKey row) k)
    (hins : (DomainOp.createKey row).inserts id) : pendingKeys id (maxDomains tier) t.trace = 1 := by
  have hruns := hp.traced i t ht
  have hobeys : Obeys (PlanIs id tier) t.trace := fun pre e post htr =>
    (hp.plan.2 t (List.mem_of_getElem? ht) e (by rw [htr]; exact List.mem_append_right _ List.mem_cons_self)).1
  have hlogs := (hruns.logs (logs_code t.request) (fun pre e h => by cases pre <;> cases h) hobeys).2
  rw [hprog] at hlogs
  exact (hlogs {} p.store hp.plan.1).1 _ _ rfl hins

theorem WithRoom.step (hp : WithRoom id tier p) (hok : LeavesRoom id p l) (h : domains.step p l = some p') :
    WithRoom id tier p' where
  traced := System.Traced.step h hp.traced
  plan := by
    refine hp.plan.step h ?_
    rw [← hp.plan.1]
    exact System.store_rel (R := fun s s' : DomainStore => s'.tier id = s.tier id) h (fun _ => rfl)
      (fun c s o => congrFun handle_tier id) fun e s s' hs => by
        rw [← Option.some.inj hs]
        exact congrFun (@active_change _ id _).1 id
  room := by
    have hroom := hp.room
    rcases System.total_step (f := pendingKeys id (maxDomains tier)) rfl h with
      ⟨htotal, hst⟩ | ⟨i, c, t, o, k, rfl, ht, hprog, hst, htotal⟩
    · have hactive : p'.store.active id = p.store.active id := by
        rcases hst with hst | ⟨e, hst⟩
        · rw [hst]
        · rw [← Option.some.inj hst]
          exact active_change.2
      omega
    · rw [pendingKeys_append] at htotal
      change _ = _ + o.pending id _ _ (DomainStore.handle c.2 p.store o).1 at htotal
      by_cases hins : o.inserts id
      · -- the key that is stored was one that might yet be stored
        cases o with
        | createKey row =>
          have hpending := hp.pending ht hprog hins
          have hactive : p'.store.active id ≤ p.store.active id + 1 := by
            rw [hst]
            rcases DomainStore.handle_cases (c := c.2) (s := p.store) (o := .createKey row) with hs | hs
            · exact (congrArg (·.active id) hs).trans_le (Nat.le_succ _)
            · exact (congrArg (·.active id) hs).trans_le active_createKey
          have hzero : p'.total (pendingKeys id (maxDomains tier)) + pendingKeys id (maxDomains tier) t.trace =
            p.total (pendingKeys id (maxDomains tier)) + 0 := htotal
          omega
        | _ => exact hins.elim
      · have hactive : p'.store.active id ≤ p.store.active id := by
          rw [hst]
          rcases DomainStore.handle_cases (c := c.2) (s := p.store) (o := o) with hs | hs
          · exact (congrArg (·.active id) hs).le
          · exact (congrArg (·.active id) hs).trans_le (active_serve hins)
        have hle : o.pending id (maxDomains tier) (pendingKeys id (maxDomains tier) t.trace)
            (DomainStore.handle c.2 p.store o).1 ≤ _ := pending_le
        by_cases hadmits : o.admits id (maxDomains tier) (DomainStore.handle c.2 p.store o).1 = true
        · have hleaves := hok t ht o (by rw [hprog]; rfl) tier hp.plan.1 hadmits
          rw [if_pos hadmits] at hle
          omega
        · rw [if_neg hadmits] at hle
          omega

/-- In every run in which requests go on only where there is room for their keys besides those that others may
yet store, a protocol that starts within its plan stays within it. -/
theorem domain_limit_holds (h0 : WithinPlan s id) (hok : domains.Keeps (LeavesRoom id) (Pool.empty s) ls)
    (hr : domains.run (Pool.empty s) ls = some p) : WithinPlan p.store id := by
  have hplan : p.store.tier id = s.tier id := System.run_induction (I := fun p => p.store.tier id = s.tier id)
    (fun p l p' hp h => (System.store_rel (R := fun s s' : DomainStore => s'.tier id = s.tier id) h (fun _ => rfl)
      (fun c s o => congrFun handle_tier id) fun e s s' hs => by
        rw [← Option.some.inj hs]
        exact congrFun (@active_change _ id _).1 id).trans hp) hr rfl
  intro tier htier
  rw [hplan] at htier
  have hroom : WithRoom id tier p :=
    System.Keeps.induction (fun _ _ _ hl hp hs => WithRoom.step hp hl hs) hok hr
    ⟨System.traced_empty s, System.always_empty htier, h0 tier htier⟩
  exact Nat.le_trans (Nat.le_add_right _ _) hroom.room

/-! ### The call without interleaving -/

/-- Alone, and with a KMS that answers, a request does what it does in one step. -/
theorem exec_provisionDomainKey {kmsKeyId : JsString} {modulus : List UInt8} (hkms : kmsKeyId ≠ [])
    (htier : s.tier protocolId = some tier) :
    (DomainStore.handle.exec { kmsKeyId := some kmsKeyId, der := some (rsaHeader ++ modulus) }
      (provisionDomainKey protocolId domain selector) s).2.keys =
        s.keys.provision protocolId domain selector tier modulus := by
  obtain ⟨a, k, rfl⟩ := List.exists_cons_of_ne_nil hkms
  have hpem : pemPublicKey (Text.Base64url.encodeStandard (rsaHeader ++ modulus)) =
      pem (Text.Base64url.encodeStandard (rsaHeader ++ modulus)) := if_neg nofun
  have hcount : s.active protocolId =
    (s.keys.keys.filter fun k => k.protocolId == protocolId && k.isActive).length :=
    List.countP_eq_length_filter
  by_cases hfull : maxDomains tier ≤ s.active protocolId
  · rw [DkimStore.provision, ← hcount, if_pos hfull]
    simp [provisionDomainKey, tryProvision, checkLimit, Prog.tryCatch, Prog.bind, Prog.andThen,
      DomainOp.call, Prog.perform,
      Handler.exec, DomainStore.handle, Fault.meet, DomainStore.serve, htier, hfull]
  · rw [DkimStore.provision, ← hcount, if_neg hfull]
    by_cases htaken : (s.keys.keys.any fun k => k.domain == domain && k.selector == selector) = true
    · rw [if_pos htaken]
      simp [provisionDomainKey, tryProvision, checkLimit, makeKey, Prog.tryCatch, Prog.bind, Prog.andThen,
        DomainOp.call, Prog.perform,
        Handler.exec, DomainStore.handle, Fault.meet, DomainStore.serve, DomainStore.createKey, newKey,
          htier, hfull, htaken]
    · rw [if_neg htaken]
      simp [provisionDomainKey, tryProvision, checkLimit, makeKey, Prog.tryCatch, Prog.bind, Prog.andThen,
        DomainOp.call, Prog.perform,
        Handler.exec, DomainStore.handle, Fault.meet, DomainStore.serve, DomainStore.createKey, newKey,
          htier, hfull, htaken,
        hpem]

/-! ### Two requests of a free plan -/

/-- A protocol of the free plan, without keys. -/
def freeStore : DomainStore := ⟨fun _ => some 0, {}, fun _ => none⟩

/-- The next `n` calls of the `i`-th request are answered, those of KMS with a key. -/
def answered (i n : Nat) : List DomainLabel :=
  List.replicate n (.pick i (true, { kmsKeyId := some (js "k"), der := some [1, 2, 3] }))

/-- A domain is provisioned, another one refused; then the first one is deleted and the second provisioned. -/
def provisionedInTurn : List DomainLabel :=
  .arrive (.provision (js "p") (js "a.xyz") (js "herald")) :: answered 0 5 ++
    .arrive (.provision (js "p") (js "b.xyz") (js "herald")) :: answered 1 2 ++
    .arrive (.delete 0 (js "p")) :: answered 2 2 ++
    .arrive (.provision (js "p") (js "b.xyz") (js "herald")) :: answered 3 5

theorem domain_limit_holds_provisionedInTurn :
    ∃ p ∈ domains.run (Pool.empty freeStore) provisionedInTurn, WithinPlan p.store (js "p") := by
  obtain ⟨p, hp⟩ := Option.isSome_iff_exists.1
    (show (domains.run (Pool.empty freeStore) provisionedInTurn).isSome by decide +kernel)
  exact ⟨p, hp, domain_limit_holds (by decide +kernel) (by decide +kernel) hp⟩

/-- Two requests count no keys, and both store one. -/
theorem domain_limit_exceeded :
    ∃ p ∈ domains.run (Pool.empty freeStore) (.arrive (.provision (js "p") (js "a.xyz") (js "herald")) ::
        .arrive (.provision (js "p") (js "b.xyz") (js "herald")) ::
          answered 0 2 ++ answered 1 2 ++ answered 0 3 ++ answered 1 3),
      WithinPlan freeStore (js "p") ∧ ¬ WithinPlan p.store (js "p") ∧ p.store.active (js "p") = 2 := by
  decide +kernel

end HeraldGateway
