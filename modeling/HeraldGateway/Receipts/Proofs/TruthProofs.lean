import HeraldGateway.Receipts.Truth

/-!
# Truth of receipts, proved

The next call of a worker says how far it is with which notification. What it may rely on is an invariant, and
two live workers are never busy with the same notification.
-/

namespace HeraldGateway

open Async

variable {config : ReceiptConfig} {s s' : ReceiptStore} {p p' : ReceiptPool} {id : JsString}
  {o o' : ReceiptOp} {i j : Nat}

/-! ### Which call follows which -/

/-- A worker that is about to make the call is not busy with a notification. -/
def Idle (next : Option ReceiptOp) : Prop := ∀ o ∈ next, o.subject? = none

/-- A failure is saved next. -/
def Fails (id : JsString) (next : Option ReceiptOp) : Prop :=
  ∃ reason, next = some (.saveReceiptFailure id reason)

/-- What comes after a call. -/
def receiptFollows : (o : ReceiptOp) → Except Err o.Res → Option ReceiptOp → Prop
  | .findProtocol n, .ok _, next =>
    Idle next ∨ next = some (.disableReceipt n.id) ∨ next = some (.getValidityProof n.id n.walletHash)
  | .findProtocol n, .error _, next => Fails n.id next
  | .getValidityProof id _, .ok _, next => ∃ ix, ix.notificationId = id ∧ next = some (.signTransaction ix)
  | .signTransaction ix, .ok blockhash, next => next = some (.sendTransaction ⟨ix, blockhash⟩)
  | .sendTransaction tx, .ok _, next => next = some (.confirmTransaction tx)
  | .confirmTransaction tx, .ok _, next => next = some (.saveReceiptTx tx.notificationId tx)
  | .saveReceiptFailure .., .error _, next => Idle next
  | _, .ok _, next => Idle next
  | o, .error _, next =>
    match o.subject? with
    | some id => Fails id next
    | none => Idle next

theorem idle_none : Idle none := nofun

theorem idle_scan (h : o.subject? = none) : Idle (some o) := by
  rintro _ ⟨⟩
  exact h

theorem chained_scan : Chained receiptFollows (enqueueReceiptBatches config) := by
  rintro (_ | now)
  · exact ⟨idle_none, trivial⟩
  · refine ⟨idle_scan rfl, ?_⟩
    rintro (_ | _ | _)
    · exact ⟨idle_none, trivial⟩
    · exact ⟨idle_none, trivial⟩
    · refine ⟨idle_scan rfl, ?_⟩
      rintro (_ | _ | ⟨n, ns⟩)
      · exact ⟨idle_none, trivial⟩
      · exact ⟨idle_none, trivial⟩
      · refine ⟨idle_scan rfl, ?_⟩
        rintro (_ | _)
        · exact ⟨idle_none, trivial⟩
        · exact ⟨idle_none, trivial⟩

/-- What is left of a round after its last call. -/
theorem chained_saveFailure {reason : JsString} {n : ReceiptNotification} :
    Chained receiptFollows (ReceiptOp.saveReceiptFailure n.id reason).call := by
  rintro (_ | _)
  · exact ⟨idle_none, trivial⟩
  · exact ⟨idle_none, trivial⟩

theorem chained_sendReceipt {n : ReceiptNotification} {tx : ReceiptTransaction}
    (h : tx.notificationId = n.id) :
    Chained receiptFollows ((sendReceipt n.id tx).tryCatch fun e =>
      (ReceiptOp.saveReceiptFailure n.id (failureReason e)).call) := by
  have hfails : ∀ reason, Fails tx.notificationId (some (.saveReceiptFailure n.id reason)) := fun reason =>
    ⟨reason, by rw [h]⟩
  have hsaves : some (ReceiptOp.saveReceiptTx n.id tx) = some (.saveReceiptTx tx.notificationId tx) := by
    rw [h]
  rintro (_ | _)
  · exact ⟨hfails _, chained_saveFailure⟩
  · refine ⟨rfl, ?_⟩
    rintro (_ | _)
    · exact ⟨hfails _, chained_saveFailure⟩
    · refine ⟨hsaves, ?_⟩
      rintro (_ | _)
      · exact ⟨⟨_, rfl⟩, chained_saveFailure⟩
      · exact ⟨idle_none, trivial⟩

theorem chained_writeReceiptFor {n : ReceiptNotification} {protocolOwner : Option JsString}
    {q : Receipts Unit}
    (hq : q = (writeReceiptFor config n protocolOwner).tryCatch fun e =>
      (ReceiptOp.saveReceiptFailure n.id (failureReason e)).call) :
    (Idle q.next? ∨ q.next? = some (.disableReceipt n.id) ∨
      q.next? = some (.getValidityProof n.id n.walletHash)) ∧ Chained receiptFollows q := by
  unfold writeReceiptFor at hq
  split_ifs at hq with howner hvalid
  · subst hq
    exact ⟨.inl idle_none, trivial⟩
  · subst hq
    refine ⟨.inr (.inl rfl), ?_⟩
    rintro (_ | _)
    · exact ⟨⟨_, rfl⟩, chained_saveFailure⟩
    · exact ⟨idle_none, trivial⟩
  · subst hq
    refine ⟨.inr (.inr rfl), ?_⟩
    rintro (_ | _)
    · exact ⟨⟨_, rfl⟩, chained_saveFailure⟩
    · refine ⟨⟨_, rfl, rfl⟩, ?_⟩
      rintro (_ | blockhash)
      · exact ⟨⟨_, rfl⟩, chained_saveFailure⟩
      · exact ⟨rfl, chained_sendReceipt rfl⟩

theorem chained_flushReceipt {n : ReceiptNotification} : Chained receiptFollows (flushReceipt config n) := by
  rintro (_ | protocolOwner)
  · exact ⟨⟨_, rfl⟩, chained_saveFailure⟩
  · exact chained_writeReceiptFor rfl

/-- After the last call of a round the next notification may come. -/
theorem receiptFollows_idle {r : Except Err o.Res} {next : Option ReceiptOp} (h : receiptFollows o r none)
    (hnext : Idle next) : receiptFollows o r next := by
  cases o <;> rcases r with _ | _ <;>
    first
    | exact hnext
    | exact .inl hnext
    | exact nomatch h.choose_spec
    | exact nomatch h.choose_spec.2
    | cases h

theorem chained_rounds {ns : List ReceiptNotification} :
    Idle (Prog.forEach (flushReceipt config) ns).next? ∧
      Chained receiptFollows (Prog.forEach (flushReceipt config) ns) := by
  induction ns with
  | nil => exact ⟨idle_none, trivial⟩
  | cons n ns ih =>
    refine ⟨idle_scan rfl, chained_flushReceipt.andThen (fun r => ?_) fun o r next => receiptFollows_idle⟩
    cases r with
    | ok a => exact ih
    | error e => exact ⟨idle_none, trivial⟩

/-- Every task is chained, and is not busy when it starts. -/
theorem chained_code (task : ReceiptTask) :
    Idle (task.code config).next? ∧ Chained receiptFollows (task.code config) := by
  cases task with
  | scan => exact ⟨idle_scan rfl, chained_scan⟩
  | flush job =>
    simp only [ReceiptTask.code, flushReceipts]
    split_ifs
    · exact ⟨idle_none, trivial⟩
    · exact ⟨idle_none, trivial⟩
    · exact ⟨idle_none, trivial⟩
    · exact ⟨idle_none, trivial⟩
    · exact chained_rounds

/-- A worker stays with its notification, until it begins with the next one. -/
theorem subject_of_follows {r : Except Err o.Res} {next : Option ReceiptOp} (h : receiptFollows o r next)
    (ho' : o' ∈ next) (hid : id ∈ o'.subject?) :
    o.subject? = some id ∨ ∃ n, o = .findProtocol n ∧ n.id = id := by
  have of_idle : Idle next → o.subject? = some id ∨ ∃ n, o = .findProtocol n ∧ n.id = id := fun hidle => by
    rw [Option.mem_def, hidle o' ho'] at hid
    cases hid
  have of_eq : ∀ {o₁ : ReceiptOp}, next = some o₁ → o₁.subject? = some id := fun heq => by
    rw [heq] at ho'
    obtain rfl := Option.some.inj ho'
    exact hid
  have of_fails : ∀ {id'}, Fails id' next → id' = id := fun ⟨_, heq⟩ => Option.some.inj (of_eq heq)
  cases o with
  | now | lockSetNx | findPending | receiptQueueAdd | saveReceiptFailure => cases r <;> exact of_idle h
  | findProtocol n =>
    cases r with
    | error e => exact .inr ⟨n, rfl, of_fails h⟩
    | ok a =>
      rcases h with h | h | h
      · exact of_idle h
      · exact .inr ⟨n, rfl, Option.some.inj (of_eq h)⟩
      · exact .inr ⟨n, rfl, Option.some.inj (of_eq h)⟩
  | disableReceipt | saveReceiptTx =>
    cases r with
    | error e => exact .inl (congrArg some (of_fails h))
    | ok a => exact of_idle h
  | getValidityProof =>
    cases r with
    | error e => exact .inl (congrArg some (of_fails h))
    | ok a =>
      obtain ⟨ix, rfl, h⟩ := h
      have hix : (ReceiptOp.signTransaction ix).subject? = some id := of_eq h
      exact .inl hix
  | signTransaction ix =>
    cases r with
    | error e => exact .inl (congrArg some (of_fails h))
    | ok blockhash =>
      have hix : (ReceiptOp.sendTransaction ⟨ix, blockhash⟩).subject? = some id := of_eq h
      exact .inl hix
  | sendTransaction tx =>
    cases r with
    | error e => exact .inl (congrArg some (of_fails h))
    | ok a =>
      have htx : (ReceiptOp.confirmTransaction tx).subject? = some id := of_eq h
      exact .inl htx
  | confirmTransaction tx =>
    cases r with
    | error e => exact .inl (congrArg some (of_fails h))
    | ok a =>
      have htx : (ReceiptOp.saveReceiptTx tx.notificationId tx).subject? = some id := of_eq h
      exact .inl htx

/-! ### What a worker relies on -/

/-- What holds when a worker is about to make a call. -/
def ReceiptOp.Grounded (s : ReceiptStore) : ReceiptOp → Prop
  | disableReceipt id | getValidityProof id _ => s.written id = false ∧ s.Unfailed id
  | signTransaction ix => s.written ix.notificationId = false ∧ s.Unfailed ix.notificationId
  | sendTransaction tx => s.written tx.notificationId = false ∧ s.Unfailed tx.notificationId
  | confirmTransaction tx => s.Unfailed tx.notificationId ∧
      ∀ tx', s.wrote tx' = true → tx'.notificationId = tx.notificationId → tx' = tx
  | saveReceiptTx id tx => s.wrote tx = true ∧ tx.notificationId = id ∧ s.Unfailed id
  | saveReceiptFailure id _ => ∀ row ∈ s.notifications, row.id = id → s.written id = false
  | _ => True

theorem grounded_of_subject (h : o.subject? = none) : o.Grounded s := by
  cases o <;> trivial

theorem written_iff : s.written id = true ↔ ∃ tx, s.wrote tx = true ∧ tx.notificationId = id := by
  simp only [ReceiptStore.written, ReceiptStore.wrote, List.any_eq_true, Bool.and_eq_true, beq_iff_eq,
    List.contains_iff_mem]
  constructor
  · rintro ⟨⟨tx, ok⟩, hmem, rfl, hid⟩
    exact ⟨tx, hmem, hid⟩
  · rintro ⟨tx, hmem, hid⟩
    exact ⟨_, hmem, rfl, hid⟩

/-- The invariant. -/
structure SoundReceipts (p : ReceiptPool) : Prop where
  chained : System.AllChained receiptFollows p
  grounded : ∀ i o, liveNext? p i = some o → o.Grounded p.store
  apart : ∀ i j o o', i ≠ j → liveNext? p i = some o → liveNext? p j = some o' →
    ∀ id ∈ o.subject?, o'.subject? ≠ some id
  truthful : Truthful p

theorem liveNext?_eq_some :
    liveNext? p i = some o ↔ i ∉ p.store.crashed ∧ System.next? p i = some o := by
  unfold liveNext?
  by_cases hcrashed : i ∈ p.store.crashed
  · rw [if_pos (List.contains_iff_mem.2 hcrashed)]
    exact ⟨nofun, fun h => absurd hcrashed h.1⟩
  · rw [if_neg (mt List.contains_iff_mem.1 hcrashed)]
    exact ⟨fun h => ⟨hcrashed, h⟩, fun h => h.2⟩

/-! ### What a change leaves alone -/

/-- Of some notifications, no receipt lands, and what is noted stays, or is cleared; new ones have nothing
noted and no receipt. -/
structure Undisturbed (Q : JsString → Prop) (s s' : ReceiptStore) : Prop where
  wrote : ∀ tx, Q tx.notificationId → s'.wrote tx = s.wrote tx
  rows : ∀ row' ∈ s'.notifications, Q row'.id →
    (∃ row ∈ s.notifications, row.id = row'.id ∧ row'.receiptTx = row.receiptTx ∧
      (row.receiptFailureReason = none → row'.receiptFailureReason = none)) ∨
    row'.receiptTx = none ∧ row'.receiptFailureReason = none ∧ s.written row'.id = false

namespace Undisturbed

variable {Q : JsString → Prop} (h : Undisturbed Q s s') (hid : Q id)
include h hid

theorem written : s'.written id = s.written id := by
  refine Bool.eq_iff_iff.2 ?_
  rw [written_iff, written_iff]
  refine exists_congr fun tx => and_congr_left fun htx => ?_
  rw [h.wrote tx (htx ▸ hid)]

theorem unfailed (hold : s.Unfailed id) : s'.Unfailed id := by
  intro row' hrow' hid'
  rcases h.rows row' hrow' (hid' ▸ hid) with ⟨row, hrow, heq, -, hreason⟩ | ⟨-, hreason, -⟩
  · exact hreason (hold row hrow (heq.trans hid'))
  · exact hreason

omit hid in
theorem grounded (hid : ∀ id ∈ o.subject?, Q id) (ho : o.Grounded s) : o.Grounded s' := by
  cases o with
  | now | lockSetNx | findPending | receiptQueueAdd | findProtocol => trivial
  | disableReceipt | getValidityProof | signTransaction | sendTransaction =>
    exact ⟨(h.written (hid _ rfl)).trans ho.1, h.unfailed (hid _ rfl) ho.2⟩
  | confirmTransaction tx =>
    refine ⟨h.unfailed (hid _ rfl) ho.1, fun tx' htx' heq => ho.2 tx' ?_ heq⟩
    rwa [h.wrote tx' (heq ▸ hid _ rfl)] at htx'
  | saveReceiptTx id tx =>
    exact ⟨(h.wrote tx (ho.2.1 ▸ hid _ rfl)).trans ho.1, ho.2.1, h.unfailed (hid _ rfl) ho.2.2⟩
  | saveReceiptFailure id reason =>
    intro row' hrow' heq'
    rw [h.written (hid id rfl)]
    rcases h.rows row' hrow' (heq' ▸ hid id rfl) with ⟨row, hrow, heq, -, -⟩ | ⟨-, -, hwritten⟩
    · exact ho row hrow (heq.trans heq')
    · rwa [heq'] at hwritten

theorem records (ho : o.Records s id) : o.Records s' id := by
  cases o with
  | confirmTransaction tx => exact ⟨(h.wrote tx (ho.2 ▸ hid)).trans ho.1, ho.2⟩
  | saveReceiptTx id' tx => exact ⟨(h.wrote tx (ho.2.1 ▸ hid)).trans ho.1, ho.2⟩
  | _ => exact ho.elim

end Undisturbed

/-- What is noted stays true, if workers that were about to note something still are. -/
theorem TruthfulAbout.step {Q : JsString → Prop} (h : Undisturbed Q p.store p'.store) (hid : Q id)
    (hp : TruthfulAbout p id)
    (hnext : ∀ i, ∀ o ∈ liveNext? p i, o.Records p.store id → ∃ j, ∃ o' ∈ liveNext? p' j, o'.Records p'.store id) :
    TruthfulAbout p' id := by
  refine ⟨fun row' hrow' hid' tx htx => ?_, fun hwritten => ?_, fun hwritten row' hrow' hid' => ?_⟩
  · rcases h.rows row' hrow' (hid' ▸ hid) with ⟨row, hrow, heq, hsame, -⟩ | ⟨hnone, -, -⟩
    · rw [hsame] at htx
      obtain ⟨hwrote, htxid⟩ := hp.recorded row hrow (heq.trans hid') tx htx
      exact ⟨(h.wrote tx (htxid ▸ hid)).trans hwrote, htxid⟩
    · rw [hnone] at htx
      cases htx
  · exact h.unfailed hid (hp.unfailed ((h.written hid).symm.trans hwritten))
  · rw [h.written hid] at hwritten
    rcases h.rows row' hrow' (hid' ▸ hid) with ⟨row, hrow, heq, hsame, -⟩ | ⟨-, -, hnot⟩
    · rw [hsame]
      refine (hp.kept hwritten row hrow (heq.trans hid')).imp_right ?_
      rintro ⟨i, o, ho, hrecords⟩
      exact hnext i o ho hrecords
    · rw [hid', hwritten] at hnot
      cases hnot

/-! ### Calls -/

theorem Undisturbed.of_eq {Q : JsString → Prop} (hlanded : s'.landed = s.landed)
    (hrows : s'.notifications = s.notifications) : Undisturbed Q s s' where
  wrote tx _ := by rw [ReceiptStore.wrote, hlanded, ReceiptStore.wrote]
  rows row' hrow' _ := .inl ⟨row', hrows ▸ hrow', rfl, rfl, id⟩

theorem mem_updateNotification {f : ReceiptRow → ReceiptRow} {row' : ReceiptRow}
    (h : row' ∈ (s.updateNotification id f).2.notifications) :
    ∃ row ∈ s.notifications, (row.id ≠ id ∧ row' = row) ∨ row.id = id ∧ row' = f row := by
  unfold ReceiptStore.updateNotification at h
  by_cases hany : s.notifications.any (·.id == id) = true
  · rw [if_pos hany] at h
    obtain ⟨row, hrow, rfl⟩ := List.mem_map.1 h
    refine ⟨row, hrow, ?_⟩
    by_cases hid : row.id = id
    · exact .inr ⟨hid, if_pos hid⟩
    · exact .inl ⟨hid, if_neg hid⟩
  · rw [if_neg hany] at h
    refine ⟨row', h, .inl ⟨fun hid => hany ?_, rfl⟩⟩
    exact List.any_eq_true.2 ⟨row', h, beq_iff_eq.2 hid⟩

theorem updateNotification_landed {f : ReceiptRow → ReceiptRow} :
    (s.updateNotification id f).2.landed = s.landed ∧ (s.updateNotification id f).2.crashed = s.crashed := by
  unfold ReceiptStore.updateNotification
  split <;> exact ⟨rfl, rfl⟩

theorem undisturbed_update {f : ReceiptRow → ReceiptRow} {Q : JsString → Prop}
    (hf : ∀ row, (f row).id = row.id)
    (hQ : ∀ row, Q row.id → row.id = id →
      (f row).receiptTx = row.receiptTx ∧ (f row).receiptFailureReason = row.receiptFailureReason) :
    Undisturbed Q s (s.updateNotification id f).2 where
  wrote tx _ := by rw [ReceiptStore.wrote, updateNotification_landed.1, ReceiptStore.wrote]
  rows row' hrow' hid := by
    obtain ⟨row, hrow, ⟨-, rfl⟩ | ⟨heq, rfl⟩⟩ := mem_updateNotification hrow'
    · exact .inl ⟨row', hrow, rfl, rfl, fun h => h⟩
    · obtain ⟨htx, hreason⟩ := hQ row (hf row ▸ hid) heq
      exact .inl ⟨row, hrow, (hf row).symm, htx, fun h => hreason.trans h⟩

/-- The call notes nothing about a notification. -/
def ReceiptOp.Spares (id : JsString) : ReceiptOp → Prop
  | saveReceiptTx id' _ | saveReceiptFailure id' _ => id ≠ id'
  | _ => True

/-- What a call leaves alone. -/
theorem serve_spares : (s.serve o).2.landed = s.landed ∧ (s.serve o).2.crashed = s.crashed ∧
    Undisturbed o.Spares s (s.serve o).2 := by
  cases o with
  | disableReceipt id =>
    exact ⟨updateNotification_landed.1, updateNotification_landed.2,
      undisturbed_update (fun _ => rfl) fun _ _ _ => ⟨rfl, rfl⟩⟩
  | saveReceiptTx id tx =>
    exact ⟨updateNotification_landed.1, updateNotification_landed.2,
      undisturbed_update (fun _ => rfl) fun _ hne heq => absurd heq hne⟩
  | saveReceiptFailure id reason =>
    exact ⟨updateNotification_landed.1, updateNotification_landed.2,
      undisturbed_update (fun _ => rfl) fun _ hne heq => absurd heq hne⟩
  | lockSetNx | receiptQueueAdd | getValidityProof =>
    simp only [ReceiptStore.serve]
    split <;> exact ⟨rfl, rfl, .of_eq rfl rfl⟩
  | confirmTransaction =>
    simp only [ReceiptStore.serve]
    split
    · exact ⟨rfl, rfl, .of_eq rfl rfl⟩
    · split <;> exact ⟨rfl, rfl, .of_eq rfl rfl⟩
  | now | findPending | findProtocol | signTransaction | sendTransaction => exact ⟨rfl, rfl, .of_eq rfl rfl⟩

/-- Under a fault a call does what it does when it is answered, or nothing. -/
theorem handle_store {f : Fault} :
    (ReceiptStore.handle f s o).2 = s ∨ (ReceiptStore.handle f s o).2 = (s.serve o).2 := by
  cases o with
  | now => exact .inr rfl
  | _ => cases f <;> first | exact .inl rfl | exact .inr rfl

theorem handle_spares {f : Fault} : (ReceiptStore.handle f s o).2.landed = s.landed ∧
    (ReceiptStore.handle f s o).2.crashed = s.crashed ∧
    Undisturbed o.Spares s (ReceiptStore.handle f s o).2 := by
  rcases handle_store (o := o) (f := f) (s := s) with h | h
  · rw [h]
    exact ⟨rfl, rfl, .of_eq rfl rfl⟩
  · rw [h]
    exact serve_spares

/-- What a confirmation says, when it may be made: that the transaction did what it says. -/
theorem confirm_ok {f : Fault} {tx : ReceiptTransaction} {err : Bool} (ht : s.rejected tx = true → f ≠ .none)
    (h : (ReceiptStore.handle f s (.confirmTransaction tx)).1 = .ok err) : s.wrote tx = true := by
  cases f with
  | none =>
    change (s.serve (.confirmTransaction tx)).1 = .ok err at h
    simp only [ReceiptStore.serve] at h
    by_cases hwrote : s.wrote tx = true
    · exact hwrote
    · rw [if_neg hwrote, if_neg fun hrejected => ht hrejected rfl] at h
      cases h
  | refused | unheard | stalled => cases h

theorem confirm_wrote {tx : ReceiptTransaction} (h : s.wrote tx = true) :
    (ReceiptStore.handle .none s (.confirmTransaction tx)).1 = .ok false := by
  change (s.serve (.confirmTransaction tx)).1 = .ok false
  simp only [ReceiptStore.serve]
  rw [if_pos h]

theorem updateNotification_error {f : ReceiptRow → ReceiptRow} {e : Err}
    (h : (s.updateNotification id f).1 = .error e) :
    ∀ row ∈ (s.updateNotification id f).2.notifications, row.id ≠ id := by
  unfold ReceiptStore.updateNotification at h ⊢
  by_cases hany : s.notifications.any (·.id == id) = true
  · rw [if_pos hany] at h
    cases h
  · rw [if_neg hany]
    exact fun row hrow hid => hany (List.any_eq_true.2 ⟨row, hrow, beq_iff_eq.2 hid⟩)

/-- What a worker relies on for its next call, after one that it may make. -/
theorem grounded_next {f : Fault} {next : Option ReceiptOp} (hs : s = p.store)
    (ho : o.Grounded s) (ht : TimelyCall p i f o)
    (hfollows : receiptFollows o (ReceiptStore.handle f s o).1 next) (ho' : o' ∈ next) :
    o'.Grounded (ReceiptStore.handle f s o).2 := by
  have hspares : Undisturbed o.Spares s (ReceiptStore.handle f s o).2 := handle_spares.2.2
  generalize hreply : (ReceiptStore.handle f s o).1 = r at hfollows
  have of_idle : Idle next → o'.Grounded (ReceiptStore.handle f s o).2 :=
    fun h => grounded_of_subject (h o' ho')
  have of_fails : ∀ {id}, Fails id next → s.written id = false → (∀ id, o.Spares id) →
      o'.Grounded (ReceiptStore.handle f s o).2 := by
    rintro id ⟨reason, rfl⟩ hwritten hall
    obtain rfl := Option.some.inj ho'
    exact hspares.grounded (fun _ _ => hall _) fun _ _ _ => hwritten
  have of_eq : ∀ {o₁}, next = some o₁ → o₁.Grounded s → (∀ id, o.Spares id) →
      o'.Grounded (ReceiptStore.handle f s o).2 := by
    rintro o₁ rfl h₁ hall
    obtain rfl := Option.some.inj ho'
    exact hspares.grounded (fun _ _ => hall _) h₁
  cases o with
  | now | lockSetNx | findPending | receiptQueueAdd | saveReceiptFailure => cases r <;> exact of_idle hfollows
  | findProtocol n =>
    obtain ⟨hwritten, hunfailed, -⟩ := ht
    subst hs
    cases r with
    | error e => exact of_fails hfollows hwritten fun _ => trivial
    | ok owner =>
      rcases hfollows with h | h | h
      · exact of_idle h
      · exact of_eq h ⟨hwritten, hunfailed⟩ fun _ => trivial
      · exact of_eq h ⟨hwritten, hunfailed⟩ fun _ => trivial
  | disableReceipt id =>
    cases r with
    | error e => exact of_fails hfollows ho.1 fun _ => trivial
    | ok a => exact of_idle hfollows
  | getValidityProof id walletHash =>
    cases r with
    | error e => exact of_fails hfollows ho.1 fun _ => trivial
    | ok a =>
      obtain ⟨ix, rfl, h⟩ := hfollows
      exact of_eq h ho fun _ => trivial
  | signTransaction ix =>
    cases r with
    | error e => exact of_fails hfollows ho.1 fun _ => trivial
    | ok blockhash => exact of_eq hfollows ho fun _ => trivial
  | sendTransaction tx =>
    cases r with
    | error e => exact of_fails hfollows ho.1 fun _ => trivial
    | ok a =>
      refine of_eq hfollows ⟨ho.2, fun tx' htx' heq => ?_⟩ fun _ => trivial
      exact absurd (written_iff.2 ⟨tx', htx', heq⟩) (Bool.eq_false_iff.1 ho.1)
  | confirmTransaction tx =>
    subst hs
    cases r with
    | ok err => exact of_eq hfollows ⟨confirm_ok ht.2 hreply, rfl, ho.1⟩ fun _ => trivial
    | error e =>
      refine of_fails hfollows (Bool.eq_false_iff.2 fun hwritten => ?_) fun _ => trivial
      obtain ⟨tx', htx', heq⟩ := written_iff.1 hwritten
      rw [ho.2 tx' htx' heq] at htx'
      rw [ht.1 htx', confirm_wrote htx'] at hreply
      cases hreply
  | saveReceiptTx id tx =>
    cases r with
    | ok a => exact of_idle hfollows
    | error e =>
      obtain rfl : f = .none := ht
      obtain ⟨reason, rfl⟩ := hfollows
      obtain rfl := Option.some.inj ho'
      exact fun row hrow hid => absurd hid (updateNotification_error hreply row hrow)

/-! ### Steps -/

/-- What a call notes is true. -/
theorem truthful_noted {f : Fault} (hstore : p'.store = (ReceiptStore.handle f p.store o).2)
    (ho : o.Grounded p.store) (ht : TimelyCall p i f o) (hid : ¬ o.Spares id) (hp : TruthfulAbout p id) :
    TruthfulAbout p' id := by
  have hlanded : p'.store.landed = p.store.landed := hstore ▸ handle_spares.1
  have hwrote : ∀ tx, p'.store.wrote tx = p.store.wrote tx := fun tx => by
    rw [ReceiptStore.wrote, hlanded, ReceiptStore.wrote]
  have hwritten : p'.store.written id = p.store.written id := by
    rw [ReceiptStore.written, hlanded, ReceiptStore.written]
  cases o with
  | saveReceiptTx id' tx =>
    obtain rfl : id = id' := not_not.1 hid
    obtain rfl : f = .none := ht
    obtain ⟨htx, htxid, hunfailed⟩ := ho
    have hrows : ∀ row' ∈ p'.store.notifications, row'.id = id →
        row'.receiptTx = some tx ∧ row'.receiptFailureReason = none := by
      intro row' hrow' heq
      rw [hstore] at hrow'
      obtain ⟨row, hrow, ⟨hne, rfl⟩ | ⟨hrowid, rfl⟩⟩ := mem_updateNotification hrow'
      · exact absurd heq hne
      · exact ⟨rfl, hunfailed row hrow hrowid⟩
    refine ⟨fun row' hrow' heq tx' htx' => ?_, fun _ row' hrow' heq => (hrows row' hrow' heq).2,
      fun _ row' hrow' heq => .inl ?_⟩
    · rw [(hrows row' hrow' heq).1] at htx'
      obtain rfl := Option.some.inj htx'
      exact ⟨(hwrote tx).trans htx, htxid⟩
    · rw [(hrows row' hrow' heq).1]
      rfl
  | saveReceiptFailure id' reason =>
    obtain rfl : id = id' := not_not.1 hid
    have hrows : ∀ row' ∈ p'.store.notifications, row'.id = id → ∃ row ∈ p.store.notifications,
        row.id = id ∧ row'.receiptTx = row.receiptTx := by
      intro row' hrow' heq
      rw [hstore] at hrow'
      rcases handle_store (f := f) (s := p.store) (o := .saveReceiptFailure id reason) with h | h
      · rw [h] at hrow'
        exact ⟨row', hrow', heq, rfl⟩
      · rw [h] at hrow'
        obtain ⟨row, hrow, ⟨hne, rfl⟩ | ⟨hrowid, rfl⟩⟩ := mem_updateNotification hrow'
        · exact absurd heq hne
        · exact ⟨row, hrow, hrowid, rfl⟩
    have hnot : ∀ row' ∈ p'.store.notifications, row'.id = id → p'.store.written id ≠ true := by
      intro row' hrow' heq h
      obtain ⟨row, hrow, hrowid, -⟩ := hrows row' hrow' heq
      rw [hwritten, ho row hrow hrowid] at h
      cases h
    refine ⟨fun row' hrow' heq tx htx => ?_, fun h row' hrow' heq => absurd h (hnot row' hrow' heq),
      fun h row' hrow' heq => absurd h (hnot row' hrow' heq)⟩
    obtain ⟨row, hrow, hrowid, hsame⟩ := hrows row' hrow' heq
    rw [hsame] at htx
    rw [hwrote]
    exact hp.recorded row hrow hrowid tx htx
  | _ => exact absurd trivial hid

/-- A worker that is about to note a transaction still is after its call, or has noted it. -/
theorem records_next {f : Fault} {next : Option ReceiptOp} (ht : TimelyCall p i f o)
    (hfollows : receiptFollows o (ReceiptStore.handle f p.store o).1 next) (hspares : o.Spares id)
    (ho : o.Records p.store id) : ∃ o' ∈ next, o'.Records p.store id := by
  cases o with
  | confirmTransaction tx =>
    obtain ⟨hwrote, hid⟩ := ho
    rw [ht.1 hwrote, confirm_wrote hwrote] at hfollows
    exact ⟨_, hfollows, hwrote, hid, hid⟩
  | saveReceiptTx id' tx => exact absurd ho.2.2.symm hspares
  | _ => exact ho.elim

theorem SoundReceipts.pick {c : Bool × Fault} (hp : SoundReceipts p)
    (hpossible : PossibleReceiptStep p (.pick i c)) (htimely : Timely p (.pick i c))
    (h : (receipts config).step p (.pick i c) = some p') : SoundReceipts p' := by
  obtain ⟨o, ho, hstore, hfollows, hother⟩ := System.next?_pick h hp.chained
  have hstore : p'.store = (ReceiptStore.handle c.2 p.store o).2 := hstore
  have hlive : liveNext? p i = some o := liveNext?_eq_some.2 ⟨hpossible, ho⟩
  have hcrashed : p'.store.crashed = p.store.crashed := hstore ▸ handle_spares.2.1
  have hothers : ∀ j, j ≠ i → liveNext? p' j = liveNext? p j := fun j hj => by
    rw [liveNext?, hcrashed, hother j hj, liveNext?]
  have hmine : liveNext? p' i = System.next? p' i := by
    rw [liveNext?, hcrashed, if_neg (mt List.contains_iff_mem.1 hpossible)]
  have hground := hp.grounded i o hlive
  have hspares : Undisturbed o.Spares p.store p'.store := hstore ▸ handle_spares.2.2
  -- what any other worker is busy with is spared, as is anything that it could begin with
  have hapart : ∀ j o', j ≠ i → liveNext? p j = some o' → ∀ id ∈ o'.subject?, o.subject? ≠ some id :=
    fun j o' hj ho' id hid => hp.apart j i o' o hj ho' hlive id hid
  refine ⟨hp.chained.step (fun r _ => (chained_code r).2) h, fun j o' ho' => ?_, ?_, fun id => ?_⟩
  · by_cases hj : j = i
    · subst hj
      rw [hmine] at ho'
      rw [hstore]
      exact grounded_next rfl hground (htimely o ho) hfollows ho'
    · rw [hothers j hj] at ho'
      refine hspares.grounded (fun id hid => ?_) (hp.grounded j o' ho')
      have hne := hapart j o' hj ho' id hid
      cases o with
      | saveReceiptTx | saveReceiptFailure => exact fun heq => hne (congrArg some heq.symm)
      | _ => trivial
  · have hbusy : ∀ j o₁ o₂, j ≠ i → System.next? p' i = some o₁ → liveNext? p j = some o₂ →
        ∀ id ∈ o₂.subject?, o₁.subject? ≠ some id := by
      intro j o₁ o₂ hj ho₁ ho₂ id hid hid₁
      rcases subject_of_follows hfollows ho₁ hid₁ with hsub | ⟨n, rfl, rfl⟩
      · exact hapart j o₂ hj ho₂ id hid hsub
      · have hj' : j ∈ List.range p.threads.length := by
          obtain ⟨t, ht, -⟩ := System.next?_eq_some.1 (liveNext?_eq_some.1 ho₂).2
          exact List.mem_range.2 (List.getElem?_eq_some_iff.1 ht).1
        exact (htimely _ ho).2.2 j hj' hj o₂ ho₂ hid
    intro j k o₁ o₂ hjk ho₁ ho₂ id hid
    by_cases hj : j = i
    · subst hj
      rw [hmine] at ho₁
      rw [hothers k hjk.symm] at ho₂
      exact fun hid₂ => hbusy k o₁ o₂ hjk.symm ho₁ ho₂ id hid₂ hid
    · rw [hothers j hj] at ho₁
      by_cases hk : k = i
      · subst hk
        rw [hmine] at ho₂
        exact hbusy j o₂ o₁ hj ho₂ ho₁ id hid
      · rw [hothers k hk] at ho₂
        exact hp.apart j k o₁ o₂ hjk ho₁ ho₂ id hid
  · by_cases hid : o.Spares id
    · refine (hp.truthful id).step hspares hid fun j o' ho' hrecords => ?_
      by_cases hj : j = i
      · subst hj
        obtain rfl := Option.some.inj (hlive.symm.trans ho')
        obtain ⟨o₂, ho₂, hrecords₂⟩ := records_next (htimely _ ho) hfollows hid hrecords
        exact ⟨j, o₂, hmine.trans ho₂, hspares.records hid hrecords₂⟩
      · exact ⟨j, o', (hothers j hj).trans ho', hspares.records hid hrecords⟩
    · exact truthful_noted hstore hground (htimely o ho) hid (hp.truthful id)

/-- A step in which no worker moves and nothing lands, where workers may die that have nothing to note. -/
theorem SoundReceipts.still (hp : SoundReceipts p) (hchained : System.AllChained receiptFollows p')
    (hund : Undisturbed (fun _ => True) p.store p'.store)
    (hnew : ∀ i o, liveNext? p' i = some o → liveNext? p i = some o ∨ o.subject? = none)
    (hkept : ∀ i o id, liveNext? p i = some o → o.Records p.store id → liveNext? p' i = some o) :
    SoundReceipts p' := by
  refine ⟨hchained, fun i o ho => ?_, fun i j o₁ o₂ hij ho₁ ho₂ id hid => ?_, fun id => ?_⟩
  · rcases hnew i o ho with ho | ho
    · exact hund.grounded (fun _ _ => trivial) (hp.grounded i o ho)
    · exact grounded_of_subject ho
  · rcases hnew i o₁ ho₁ with ho₁ | ho₁
    · rcases hnew j o₂ ho₂ with ho₂ | ho₂
      · exact hp.apart i j o₁ o₂ hij ho₁ ho₂ id hid
      · rw [ho₂]
        exact nofun
    · rw [ho₁] at hid
      cases hid
  · refine (hp.truthful id).step hund trivial fun i o ho hrecords => ?_
    exact ⟨i, o, hkept i o id ho hrecords, hund.records trivial hrecords⟩

theorem SoundReceipts.arrive {task : ReceiptTask} (hp : SoundReceipts p)
    (h : (receipts config).step p (.arrive task) = some p') : SoundReceipts p' := by
  have hstore : p'.store = p.store := by rw [System.step_arrive h]
  refine hp.still (hp.chained.step (fun r _ => (chained_code r).2) h) ?_ (fun i o ho => ?_)
    fun i o id ho _ => ?_
  · rw [hstore]
    exact .of_eq rfl rfl
  · obtain ⟨hi, ho⟩ := liveNext?_eq_some.1 ho
    rw [hstore] at hi
    rcases System.next?_arrive h ho with ho | ⟨-, ho⟩
    · exact .inl (liveNext?_eq_some.2 ⟨hi, ho⟩)
    · exact .inr ((chained_code task).1 o ho)
  · obtain ⟨hi, ho⟩ := liveNext?_eq_some.1 ho
    refine liveNext?_eq_some.2 ⟨by rwa [hstore], System.next?_of_arrive h ho⟩

theorem subject_of_records (h : o.Records s id) : o.subject? = some id := by
  cases o with
  | confirmTransaction tx => exact congrArg some h.2
  | saveReceiptTx id' tx => exact congrArg some h.2.2
  | _ => exact h.elim

/-- A receipt lands that a worker waits for. -/
theorem SoundReceipts.land {tx : ReceiptTransaction} (hp : SoundReceipts p)
    (hthreads : p'.threads = p.threads)
    (hstore : p'.store = { p.store with landed := (tx, true) :: p.store.landed })
    (hwaits : liveNext? p i = some (.confirmTransaction tx)) : SoundReceipts p' := by
  have hwrote : ∀ tx', p'.store.wrote tx' = true ↔ tx' = tx ∨ p.store.wrote tx' = true := fun tx' => by
    rw [hstore]
    simp [ReceiptStore.wrote]
  have hnext : ∀ j, liveNext? p' j = liveNext? p j := fun j => by
    rw [liveNext?, hstore, System.next?, hthreads, liveNext?, System.next?]
  have hund : Undisturbed (· ≠ tx.notificationId) p.store p'.store := by
    refine ⟨fun tx' hne => Bool.eq_iff_iff.2 ((hwrote tx').trans ⟨?_, .inr⟩), fun row hrow _ => ?_⟩
    · rintro (rfl | h)
      · exact absurd rfl hne
      · exact h
    · rw [hstore] at hrow
      exact .inl ⟨row, hrow, rfl, rfl, fun h => h⟩
  obtain ⟨hunfailed, honly⟩ := hp.grounded i _ hwaits
  have hchained : System.AllChained receiptFollows p' := by
    rw [System.AllChained, hthreads]
    exact hp.chained
  refine ⟨hchained, fun j o ho => ?_, fun j k o₁ o₂ hjk ho₁ ho₂ => ?_, fun id => ?_⟩
  · rw [hnext] at ho
    by_cases hj : j = i
    · subst hj
      obtain rfl := Option.some.inj (hwaits.symm.trans ho)
      refine ⟨by rw [hstore]; exact hunfailed, fun tx' htx' heq => ?_⟩
      rcases (hwrote tx').1 htx' with rfl | h
      · rfl
      · exact honly tx' h heq
    · refine hund.grounded (fun id hid heq => ?_) (hp.grounded j o ho)
      exact hp.apart j i o _ hj ho hwaits id hid (congrArg some heq.symm)
  · rw [hnext] at ho₁ ho₂
    exact hp.apart j k o₁ o₂ hjk ho₁ ho₂
  · by_cases hid : id = tx.notificationId
    · subst hid
      refine ⟨fun row hrow heq tx' htx' => ?_, fun _ => by rw [hstore]; exact hunfailed, fun _ row hrow heq => .inr ?_⟩
      · rw [hstore] at hrow
        obtain ⟨h, htxid⟩ := (hp.truthful _).recorded row hrow heq tx' htx'
        exact ⟨(hwrote tx').2 (.inr h), htxid⟩
      · exact ⟨i, _, (hnext i).trans hwaits, (hwrote tx).2 (.inl rfl), rfl⟩
    · refine (hp.truthful id).step hund hid fun j o ho hrecords => ?_
      exact ⟨j, o, (hnext j).trans ho, hund.records hid hrecords⟩

theorem SoundReceipts.outside {e : ReceiptChange} (hp : SoundReceipts p) (htimely : Timely p (.outside e))
    (h : (receipts config).step p (.outside e) = some p') : SoundReceipts p' := by
  obtain ⟨s', he, rfl⟩ := System.step_outside h
  have he : e.apply p.store = some s' := he
  -- where nobody dies, every worker is about to make the call that it was about to make
  have of_undisturbed : s'.crashed = p.store.crashed → Undisturbed (fun _ => True) p.store s' →
      SoundReceipts ⟨s', p.threads⟩ := by
    intro hcrashed hund
    have hnext : ∀ i, liveNext? (⟨s', p.threads⟩ : ReceiptPool) i = liveNext? p i := fun i => by
      rw [liveNext?, hcrashed, liveNext?, System.next?, System.next?]
    exact hp.still hp.chained hund (fun i o ho => .inl ((hnext i).symm.trans ho))
      fun i o _ ho _ => (hnext i).trans ho
  cases e with
  | tick ms blocks =>
    obtain rfl := Option.some.inj he
    exact of_undisturbed rfl (.of_eq rfl rfl)
  | register protocolId protocolPubkey =>
    obtain rfl := Option.some.inj he
    exact of_undisturbed rfl (.of_eq rfl rfl)
  | clearFailure id =>
    obtain rfl := Option.some.inj he
    refine of_undisturbed rfl ⟨fun _ _ => rfl, fun row' hrow' _ => .inl ?_⟩
    obtain ⟨row, hrow, rfl⟩ := List.mem_map.1 hrow'
    by_cases hid : row.id = id
    · rw [if_pos hid]
      exact ⟨row, hrow, rfl, rfl, fun _ => rfl⟩
    · rw [if_neg hid]
      exact ⟨row, hrow, rfl, rfl, fun h => h⟩
  | deliver n writeReceipt =>
    simp only [ReceiptChange.apply] at he
    split_ifs at he with hfresh
    obtain rfl := Option.some.inj he
    refine of_undisturbed rfl ⟨fun _ _ => rfl, fun row' hrow' _ => ?_⟩
    rcases List.mem_append.1 hrow' with hrow' | hrow'
    · exact .inl ⟨row', hrow', rfl, rfl, fun h => h⟩
    · obtain rfl := List.mem_singleton.1 hrow'
      refine .inr ⟨rfl, rfl, Bool.eq_false_iff.2 fun hwritten => hfresh ?_⟩
      obtain ⟨tx, htx, hid⟩ := written_iff.1 hwritten
      refine Bool.or_eq_true_iff.2 (.inr (List.any_eq_true.2 ⟨_, List.contains_iff_mem.1 htx, ?_⟩))
      exact beq_iff_eq.2 hid
  | land tx succeeds =>
    simp only [ReceiptChange.apply] at he
    split_ifs at he with hlands
    obtain rfl := Option.some.inj he
    cases hsucceeds : succeeds && !p.store.written tx.notificationId with
    | true =>
      obtain rfl : succeeds = true := (Bool.and_eq_true_iff.1 hsucceeds).1
      obtain ⟨i, -, hwaits⟩ := htimely
      exact hp.land rfl rfl hwaits
    | false =>
      rw [hsucceeds] at of_undisturbed
      refine of_undisturbed rfl ⟨fun tx' _ => ?_, fun row hrow _ => .inl ⟨row, hrow, rfl, rfl, fun h => h⟩⟩
      simp [ReceiptStore.wrote]
  | crash i =>
    obtain rfl := Option.some.inj he
    refine hp.still hp.chained (.of_eq rfl rfl) (fun j o ho => .inl ?_) fun j o id ho hrecords => ?_
    · obtain ⟨hj, ho⟩ := liveNext?_eq_some.1 ho
      exact liveNext?_eq_some.2 ⟨fun h => hj (List.mem_cons_of_mem i h), ho⟩
    · obtain ⟨hj, hnext⟩ := liveNext?_eq_some.1 ho
      refine liveNext?_eq_some.2 ⟨fun h => ?_, hnext⟩
      rcases List.mem_cons.1 h with rfl | h
      · exact htimely o ho id (subject_of_records hrecords) hrecords
      · exact hj h

theorem soundReceipts_empty : SoundReceipts (Pool.empty {} : ReceiptPool) where
  chained := System.allChained_empty _
  grounded := nofun
  apart := nofun
  truthful _ := ⟨nofun, nofun, nofun⟩

theorem SoundReceipts.step {l : ReceiptLabel} (hp : SoundReceipts p) (hpossible : PossibleReceiptStep p l)
    (htimely : Timely p l) (h : (receipts config).step p l = some p') : SoundReceipts p' := by
  cases l with
  | arrive task => exact hp.arrive h
  | pick i c => exact hp.pick hpossible htimely h
  | outside e => exact hp.outside htimely h

/-- In a run whose steps are timely, what is noted about receipts is true. -/
theorem receipts_truthful {ls : List ReceiptLabel}
    (hok : (receipts config).Keeps (fun p l => PossibleReceiptStep p l ∧ Timely p l) (Pool.empty {}) ls)
    (hr : (receipts config).run (Pool.empty {}) ls = some p) : Truthful p :=
  (System.Keeps.induction (fun _ _ _ hl hp h => SoundReceipts.step hp hl.1 hl.2 h) hok hr soundReceipts_empty).truthful

/-- A worker that accepts every public key, with a key pair. -/
def receiptConfig : ReceiptConfig := { validPubkey := fun _ => true }

/-- A notification that was delivered. -/
def deliveredNotification : ReceiptNotification := ⟨js "n", js "acme", js "w", js "defi"⟩

/-- The transaction that writes its receipt. -/
def deliveredReceipt : ReceiptTransaction := ⟨⟨js "key", js "w", js "n", 0⟩, 0⟩

/-- A scan queues a batch, and a worker sends the transaction. -/
def receiptSent : List ReceiptLabel :=
  let next (i : Nat) : ReceiptLabel := .pick i (true, .none)
  [.outside (.register (js "acme") (js "key")), .outside (.deliver deliveredNotification true),
    .arrive .scan, next 0, next 0, next 0, next 0, .arrive (.flush ⟨0, [deliveredNotification]⟩),
    next 1, next 1, next 1, next 1]

/-- It lands, and the worker confirms and saves it. -/
def receiptLands (succeeds : Bool) : List ReceiptLabel :=
  receiptSent ++ [.outside (.land deliveredReceipt succeeds), .pick 1 (true, .none), .pick 1 (true, .none)]

theorem receipts_truthful_landed :
    ∃ p, (receipts receiptConfig).run (Pool.empty {}) (receiptLands true) = some p ∧ Truthful p := by
  obtain ⟨p, hp⟩ := Option.isSome_iff_exists.1
    (show ((receipts receiptConfig).run (Pool.empty {}) (receiptLands true)).isSome by decide +kernel)
  exact ⟨p, hp, receipts_truthful (by decide +kernel) hp⟩

/-- A transaction that failed on the chain is noted. -/
theorem failed_transaction_noted :
    ∃ p, (receipts receiptConfig).Keeps PossibleReceiptStep (Pool.empty {}) (receiptLands false) ∧
    (receipts receiptConfig).run (Pool.empty {}) (receiptLands false) = some p ∧ ¬ Truthful p := by
  obtain ⟨p, hp, hnoted⟩ := (Option.any_eq_true _ _).1
    (show ((receipts receiptConfig).run (Pool.empty {}) (receiptLands false)).any fun p =>
      p.store.notifications.any fun row => row.receiptTx.any fun tx => !p.store.wrote tx by decide +kernel)
  refine ⟨p, by decide +kernel, hp, fun h => ?_⟩
  obtain ⟨row, hrow, htx⟩ := List.any_eq_true.1 hnoted
  obtain ⟨tx, htx, hnot⟩ := (Option.any_eq_true _ _).1 htx
  rw [((h row.id).recorded row hrow rfl tx htx).1] at hnot
  cases hnot

/-- A worker that dies after its transaction landed leaves the notification marked failed when its job is
retried. -/
example : ((receipts receiptConfig).run (Pool.empty {}) (receiptSent ++ [.outside (.land deliveredReceipt true),
      .outside (.crash 1), .arrive (.flush ⟨0, [deliveredNotification]⟩), .pick 2 (true, .none),
      .pick 2 (true, .none),
      .pick 2 (true, .none)])).map (fun p => p.store.notifications.map fun row =>
        (p.store.written row.id, row.receiptTx.isSome, row.receiptFailureReason.isSome))
        = some [(true, false, true)] := by
  decide +kernel

end HeraldGateway
