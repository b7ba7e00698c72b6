import HeraldGateway.Async.Log
import HeraldGateway.Async.History
import HeraldGateway.Receipts.Truth
import HeraldGateway.Receipts.Proofs.TruthProofs

/-!
# Progress of the scans, proved

A round of a job ends with an update that takes its notification out of the filter, or with a look-up that
found no public key. What is out of the filter stays out, unless its failure is cleared.
-/

namespace HeraldGateway

open Async

variable {config : ReceiptConfig} {s s' : ReceiptStore} {p p' : ReceiptPool} {id id' : JsString}
  {o : ReceiptOp} {fates : ReceiptFates} {n : ReceiptNotification}

/-! ### The filter -/

/-- A row passes the filter of the scans. -/
structure ReceiptRow.Passes (row : ReceiptRow) : Prop where
  writes : row.writeReceipt = true
  unwritten : row.receiptTx = none
  unfailed : row.receiptFailureReason = none
  delivered : row.status = .delivered

theorem eligible_iff : s.Eligible id ↔ ∃ row ∈ s.notifications, row.id = id ∧ row.Passes := by
  unfold ReceiptStore.Eligible ReceiptStore.pending
  constructor
  · rintro ⟨n, hn, hid⟩
    obtain ⟨row, hrow, rfl⟩ := List.mem_map.1 hn
    rw [List.mem_mergeSort, List.mem_filter] at hrow
    obtain ⟨hmem, hfilter⟩ := hrow
    simp only [Bool.and_eq_true, Option.isNone_iff_eq_none, decide_eq_true_eq] at hfilter
    obtain ⟨⟨⟨hwrites, htx⟩, hreason⟩, hstatus⟩ := hfilter
    exact ⟨row, hmem, hid, hwrites, htx, hreason, hstatus⟩
  · rintro ⟨row, hmem, hid, hpass⟩
    refine ⟨row.toReceiptNotification, List.mem_map.2 ⟨row, ?_, rfl⟩, hid⟩
    rw [List.mem_mergeSort, List.mem_filter]
    simp [hmem, hpass.writes, hpass.unwritten, hpass.unfailed, hpass.delivered]

/-- The notification is in the table. -/
def ReceiptStore.Has (s : ReceiptStore) (id : JsString) : Prop := ∃ row ∈ s.notifications, row.id = id

theorem has_of_pending (h : n ∈ s.pending) : s.Has n.id := by
  obtain ⟨row, hrow, hid, -⟩ := eligible_iff.1 ⟨n, h, rfl⟩
  exact ⟨row, hrow, hid⟩

/-! ### Updates -/

section update

variable {f : ReceiptRow → ReceiptRow} (hf : ∀ row, (f row).id = row.id)
include hf

theorem has_update (h : s.Has id') : (s.updateNotification id f).2.Has id' := by
  obtain ⟨row, hrow, hid⟩ := h
  unfold ReceiptStore.updateNotification
  split
  · by_cases hrowid : row.id = id
    · exact ⟨f row, List.mem_map.2 ⟨row, hrow, if_pos hrowid⟩, (hf row).trans hid⟩
    · exact ⟨row, List.mem_map.2 ⟨row, hrow, if_neg hrowid⟩, hid⟩
  · exact ⟨row, hrow, hid⟩

/-- An update has no say in other notifications. -/
theorem eligible_update_ne (hne : id' ≠ id) :
    (s.updateNotification id f).2.Eligible id' ↔ s.Eligible id' := by
  rw [eligible_iff, eligible_iff]
  constructor
  · rintro ⟨row', hrow', hid, hpass⟩
    obtain ⟨row, hrow, ⟨-, rfl⟩ | ⟨hrowid, rfl⟩⟩ := mem_updateNotification hrow'
    · exact ⟨row', hrow, hid, hpass⟩
    · exact absurd (hid.symm.trans ((hf row).trans hrowid)) hne
  · rintro ⟨row, hrow, hid, hpass⟩
    refine ⟨row, ?_, hid, hpass⟩
    unfold ReceiptStore.updateNotification
    split
    · exact List.mem_map.2 ⟨row, hrow, if_neg fun h => hne (hid.symm.trans h)⟩
    · exact hrow

omit hf in
/-- An update that takes its row out of the filter brings nothing into it. -/
theorem eligible_of_update (hout : ∀ row, ¬ (f row).Passes)
    (h : (s.updateNotification id f).2.Eligible id') : s.Eligible id' ∧ id' ≠ id := by
  obtain ⟨row', hrow', hid, hpass⟩ := eligible_iff.1 h
  obtain ⟨row, hrow, ⟨hne, rfl⟩ | ⟨-, rfl⟩⟩ := mem_updateNotification hrow'
  · exact ⟨eligible_iff.2 ⟨row', hrow, hid, hpass⟩, fun heq => hne (hid.trans heq)⟩
  · exact absurd hpass (hout row)

end update

/-- The notification that a call takes out of the filter. -/
def ReceiptOp.settles? : ReceiptOp → Option JsString
  | disableReceipt id | saveReceiptTx id _ | saveReceiptFailure id _ => some id
  | _ => none

theorem serve_settles (h : o.settles? = some id) :
    ∃ f : ReceiptRow → ReceiptRow, (s.serve o).2 = (s.updateNotification id f).2 ∧
      (∀ row, (f row).id = row.id) ∧ ∀ row, ¬ (f row).Passes := by
  cases o with
  | disableReceipt =>
    obtain rfl := Option.some.inj h
    exact ⟨_, rfl, fun _ => rfl, fun row hpass => Bool.false_ne_true hpass.writes⟩
  | saveReceiptTx id tx =>
    obtain rfl := Option.some.inj h
    exact ⟨_, rfl, fun _ => rfl, fun row hpass => Option.some_ne_none tx hpass.unwritten⟩
  | saveReceiptFailure id reason =>
    obtain rfl := Option.some.inj h
    exact ⟨_, rfl, fun _ => rfl, fun row hpass => Option.some_ne_none reason hpass.unfailed⟩
  | _ => cases h

theorem serve_notifications (h : o.settles? = none) : (s.serve o).2.notifications = s.notifications := by
  cases o with
  | disableReceipt | saveReceiptTx | saveReceiptFailure => cases h
  | lockSetNx | receiptQueueAdd | getValidityProof | confirmTransaction =>
    simp only [ReceiptStore.serve]
    split_ifs <;> rfl
  | now | findPending | findProtocol | signTransaction | sendTransaction => rfl

/-- What was out of the filter is out of it afterwards. -/
structure StaysOut (id : JsString) (s s' : ReceiptStore) : Prop where
  has : s.Has id → s'.Has id
  eligible : s.Has id → s'.Eligible id → s.Eligible id

theorem StaysOut.of_eq (h : s'.notifications = s.notifications) : StaysOut id s s' where
  has hs := by rwa [ReceiptStore.Has, h]
  eligible _ hs' := by
    rw [eligible_iff, h] at hs'
    exact eligible_iff.2 hs'

theorem staysOut_handle {f : Fault} : StaysOut id s (ReceiptStore.handle f s o).2 := by
  rcases handle_store (o := o) (f := f) (s := s) with h | h
  · rw [h]
    exact .of_eq rfl
  · rw [h]
    cases hsettles : o.settles? with
    | none => exact .of_eq (serve_notifications hsettles)
    | some id' =>
      obtain ⟨f, hserve, hid, hout⟩ := serve_settles hsettles
      rw [hserve]
      exact ⟨has_update hid, fun _ h => (eligible_of_update hout h).1⟩

/-- Others bring a notification back into the filter only where its failure is cleared. -/
theorem staysOut_change {e : ReceiptChange} (he : e ≠ .clearFailure id) (h : e.apply s = some s') :
    StaysOut id s s' := by
  cases e with
  | tick | register | crash =>
    obtain rfl := Option.some.inj h
    exact .of_eq rfl
  | land =>
    simp only [ReceiptChange.apply] at h
    split_ifs at h
    obtain rfl := Option.some.inj h
    exact .of_eq rfl
  | deliver m writeReceipt =>
    simp only [ReceiptChange.apply] at h
    split_ifs at h with hfresh
    obtain rfl := Option.some.inj h
    refine ⟨fun hstored => hstored.imp fun row h => ⟨List.mem_append_left _ h.1, h.2⟩, fun hstored helig => ?_⟩
    obtain ⟨row, hrow, hid⟩ := hstored
    obtain ⟨row', hrow', hid', hpass⟩ := eligible_iff.1 helig
    rcases List.mem_append.1 hrow' with hrow' | hrow'
    · exact eligible_iff.2 ⟨row', hrow', hid', hpass⟩
    · obtain rfl := List.mem_singleton.1 hrow'
      refine absurd (Bool.or_eq_true_iff.2 (.inl (List.any_eq_true.2 ⟨row, hrow, ?_⟩))) hfresh
      exact beq_iff_eq.2 (hid.trans hid'.symm)
  | clearFailure id' =>
    obtain rfl := Option.some.inj h
    have hne : id' ≠ id := fun heq => he (congrArg _ heq)
    refine ⟨fun hstored => hstored.imp fun row h => ⟨List.mem_map.2 ⟨row, h.1, if_neg fun heq => ?_⟩, h.2⟩,
      fun _ helig => ?_⟩
    · exact hne (heq.symm.trans h.2)
    · obtain ⟨row', hrow', hid', hpass⟩ := eligible_iff.1 helig
      obtain ⟨row, hrow, rfl⟩ := List.mem_map.1 hrow'
      by_cases hrowid : row.id = id'
      · rw [if_pos hrowid] at hid'
        exact absurd (hrowid.symm.trans hid') hne
      · rw [if_neg hrowid] at hid' hpass
        exact eligible_iff.2 ⟨row, hrow, hid', hpass⟩

theorem staysOut_step {l : ReceiptLabel} (hl : l ≠ .outside (.clearFailure id))
    (h : (receipts config).step p l = some p') : StaysOut id p.store p'.store := by
  rcases System.store_cases h with hs | ⟨_, _, _, o, _, -, -, -, hs⟩ | ⟨e, rfl, he⟩
  · rw [hs]
    exact .of_eq rfl
  · rw [hs]
    exact staysOut_handle
  · exact staysOut_change (fun heq => hl (congrArg _ heq)) he

/-! ### Rounds -/

/-- A call that ends the round of a notification: an update that takes it out of the filter, or a look-up that
finds no public key. -/
def ReceiptOp.EndsRound (id : JsString) (s : ReceiptStore) : ReceiptOp → Prop
  | findProtocol n => n.id = id ∧ truthy (s.owner? n) = false
  | o => o.settles? = some id

theorem endsRound_of_settles (ho : o.settles? = some id) : o.EndsRound id s := by
  cases o with
  | disableReceipt | saveReceiptTx | saveReceiptFailure => exact ho
  | _ => cases ho

theorem findsOwner_of_settles {f : Fault} (ho : o.settles? = some id) : o.FindsOwner s f := by
  cases o with
  | findProtocol => cases ho
  | _ => trivial

/-- An event in which such a call was answered. -/
def EndsRound (id : JsString) (e : Event ReceiptCalls Err ReceiptStore Fault) : Prop :=
  e.choice = .none ∧ e.op.EndsRound id e.before

/-- A call after which a round is over leaves its notification out of the filter. -/
theorem not_eligible_endsRound (ho : o.EndsRound id s) (hfinds : o.FindsOwner s .none) :
    ¬ (ReceiptStore.handle .none s o).2.Eligible id := by
  intro helig
  cases o with
  | findProtocol n =>
    obtain ⟨rfl, hfalsy⟩ := ho
    have htruthy : truthy (s.owner? n) = true := hfinds rfl helig
    rw [hfalsy] at htruthy
    cases htruthy
  | disableReceipt | saveReceiptTx | saveReceiptFailure =>
    obtain ⟨f, hserve, -, hout⟩ := serve_settles (s := s) ho
    have helig' : (s.updateNotification id f).2.Eligible id := hserve ▸ helig
    exact (eligible_of_update hout helig').2 rfl
  | _ => cases ho

/-- After some steps, the rounds that are over left their notification out of the filter. -/
structure RoundsOver (first : Nat) (id : JsString) (p : ReceiptPool) : Prop where
  has : p.store.Has id
  settled : ∀ i t, first ≤ i → p.threads[i]? = some t → (∃ e ∈ t.trace, EndsRound id e) →
    ¬ p.store.Eligible id

theorem RoundsOver.step {first : Nat} {l : ReceiptLabel} (hp : RoundsOver first id p)
    (hfound : OwnerFound p l) (hl : l ≠ .outside (.clearFailure id))
    (h : (receipts config).step p l = some p') : RoundsOver first id p' := by
  have hstays := staysOut_step hl h
  refine ⟨hstays.has hp.has, fun i t' hi ht' ⟨e, he, hends⟩ => ?_⟩
  -- a round that was over before
  have of_before : ∀ t, p.threads[i]? = some t → e ∈ t.trace → ¬ p'.store.Eligible id := by
    intro t ht he helig
    exact hp.settled i t hi ht ⟨e, he, hends⟩ (hstays.eligible hp.has helig)
  rcases System.thread_cases h ht' with ht | ⟨r, -, -, -, rfl⟩ | ⟨t, c, k, -, ht, -, -, rfl⟩ |
    ⟨t, c, o, k, rfl, ht, hprog, hstore, rfl⟩
  · exact of_before t' ht he
  · cases he
  · exact of_before t ht he
  · rcases List.mem_append.1 he with he | he
    · exact of_before t ht he
    · obtain rfl := List.mem_singleton.1 he
      obtain ⟨hchoice, hop⟩ := hends
      have hnext : System.next? p i = some o := System.next?_eq_some.2 ⟨t, ht, by rw [hprog]; rfl⟩
      have hfinds : o.FindsOwner p.store c.2 := hfound o hnext
      have hchoice : c.2 = .none := hchoice
      have hstore : p'.store = (ReceiptStore.handle c.2 p.store o).2 := hstore
      rw [hchoice] at hfinds hstore
      rw [hstore]
      exact not_eligible_endsRound hop hfinds

/-! ### What a job did -/

theorem fault_none {f : Fault} {a : o.Res} (ho : o.EndsRound id s')
    (h : (ReceiptStore.handle f s o).1 = .ok a) : f = .none := by
  cases o with
  | now => cases ho
  | _ =>
    cases f with
    | none => rfl
    | refused | unheard | stalled => cases h

/-- Where a round does not fail, it was ended. -/
def Ended (id : JsString) (m : Multiset (Event ReceiptCalls Err ReceiptStore Fault))
    (r : Except Err Unit) : Prop :=
  r = .ok () → ∃ e ∈ m, EndsRound id e

theorem ended_add {m m' : Multiset (Event ReceiptCalls Err ReceiptStore Fault)} {r : Except Err Unit}
    (h : Ended id m' r) : Ended id (m + m') r := fun hr => by
  obtain ⟨e, he, hends⟩ := h hr
  exact ⟨e, Multiset.mem_add.2 (.inr he), hends⟩

/-- A program whose last part ends a round ends it. -/
theorem yields_ended_bind {α : Type} {q : Receipts α} {f : α → Receipts Unit}
    (hf : ∀ a, Yields ReceiptStore.handle (Ended id) (f a)) :
    Yields ReceiptStore.handle (Ended id) (q.bind f) := by
  have hq : Yields ReceiptStore.handle (fun _ _ => True) q := by
    induction q with
    | ret | throw => trivial
    | choose k ih => exact ih
    | call o k ih => exact fun c s => ih _
  exact hq.bind (fun m a _ => (hf a).mono fun m' r => ended_add) fun m e _ => nofun

theorem yields_ended_perform (ho : o.settles? = some id) :
    Yields ReceiptStore.handle (fun m r => ∀ a, r = .ok a → ∃ e ∈ m, EndsRound id e)
      (@Prog.perform ReceiptCalls Err o) := by
  refine Yields.perform fun c s a hr => ⟨_, Multiset.mem_singleton_self _, ?_, endsRound_of_settles ho⟩
  exact fault_none (endsRound_of_settles (s := s) ho) hr

theorem yields_writeReceiptFor {owner : Option JsString} (howner : truthy owner = true) :
    Yields ReceiptStore.handle (Ended n.id) (writeReceiptFor config n owner) := by
  unfold writeReceiptFor
  rw [howner]
  by_cases hvalid : config.validPubkey (owner.getD []) = true
  · rw [if_neg (by simp), if_neg (by simp [hvalid])]
    refine yields_ended_bind fun _ => yields_ended_bind fun blockhash => ?_
    refine yields_ended_bind fun _ => yields_ended_bind fun _ => ?_
    exact (yields_ended_perform (o := .saveReceiptTx n.id _) rfl).mono fun _ _ h => h ()
  · rw [if_neg (by simp), if_pos (by simp [hvalid])]
    exact (yields_ended_perform (o := .disableReceipt n.id) rfl).mono fun _ _ h => h ()

/-- The look-up of a protocol ends a round if it finds no public key. -/
theorem yields_findProtocol :
    Yields ReceiptStore.handle
      (fun m r => ∀ owner, r = .ok owner → truthy owner = false → ∃ e ∈ m, EndsRound n.id e)
      (ReceiptOp.findProtocol n).call := by
  refine Yields.perform (S := ReceiptCalls) (o := .findProtocol n) fun c s owner hr hfalsy => ?_
  have hc : c = .none := by
    cases c with
    | none => rfl
    | refused | unheard | stalled => cases hr
  subst hc
  obtain rfl := Except.ok.inj hr
  exact ⟨_, Multiset.mem_singleton_self _, rfl, rfl, hfalsy⟩

theorem yields_writeReceipt : Yields ReceiptStore.handle (Ended n.id) (writeReceipt config n) := by
  refine yields_findProtocol.bind (fun m owner hends => ?_) fun m e _ => nofun
  cases howner : truthy owner with
  | true => exact (yields_writeReceiptFor howner).mono fun m' r => ended_add
  | false =>
    obtain ⟨e, he, hround⟩ := hends owner rfl howner
    rw [writeReceiptFor, howner]
    exact fun _ => ⟨e, Multiset.mem_add.2 (.inl he), hround⟩

theorem yields_flushReceipt : Yields ReceiptStore.handle (Ended n.id) (flushReceipt config n) :=
  yields_writeReceipt.tryCatch (fun _ _ h => h) fun _ e _ =>
    (yields_ended_perform (o := .saveReceiptFailure n.id (failureReason e)) rfl).mono fun _ _ h =>
      ended_add (h ())

/-- A job that finishes ended the round of each of its notifications. -/
theorem yields_rounds {ns : List ReceiptNotification} :
    Yields ReceiptStore.handle (fun m r => r = .ok () → ∀ n ∈ ns, ∃ e ∈ m, EndsRound n.id e)
      (Prog.forEach (flushReceipt config) ns) := by
  induction ns with
  | nil => exact fun _ _ h => absurd h List.not_mem_nil
  | cons n ns ih =>
    refine yields_flushReceipt.bind (fun m a hn => ih.mono fun _ _ hns hr n' hn' => ?_) fun m e _ => nofun
    rcases List.mem_cons.1 hn' with rfl | hn'
    · obtain ⟨e, he, hends⟩ := hn rfl
      exact ⟨e, Multiset.mem_add.2 (.inl he), hends⟩
    · exact ended_add (fun hr => hns hr n' hn') hr

theorem yields_flushReceipts {ns : List ReceiptNotification} :
    Yields ReceiptStore.handle (fun m r => r = .ok () → ∀ n ∈ ns, ∃ e ∈ m, EndsRound n.id e)
      (flushReceipts config ns) := by
  unfold flushReceipts
  split_ifs with hempty
  · rw [List.isEmpty_iff.1 hempty]
    exact fun _ _ h => absurd h List.not_mem_nil
  · exact nofun
  · exact nofun
  · exact nofun
  · exact yields_rounds

/-- After a job that came later and finished, no notification of a batch is eligible, unless its failure was
cleared. -/
theorem makesProgress_of_run {s : ReceiptStore} {ls₀ ls : List ReceiptLabel}
    (hr₀ : (receipts config).run (Pool.empty s) ls₀ = some p) (hr : (receipts config).run p ls = some p')
    (hfound : (receipts config).Keeps OwnerFound p ls) : MakesProgress p ls p' := by
  intro take i t job hi ht hjob hbatch hanswer n hn hclear
  rw [hbatch] at hn
  have hover : RoundsOver p.threads.length n.id p' := by
    have hlabels : (receipts config).Keeps (fun _ l => l ∈ ls) p ls :=
      System.Keeps.of_labels _ fun _ hl _ => hl
    refine System.Keeps.induction (fun q l q' hl hq h => ?_) (hfound.and hlabels) hr
      ⟨has_of_pending (List.mem_of_mem_take hn), fun j u hj hu => ?_⟩
    · exact hq.step hl.1 (fun heq => hclear (heq ▸ hl.2)) h
    · exact absurd (List.getElem?_eq_some_iff.1 hu).1 (Nat.not_lt.2 hj)
  have htraced := System.run_induction (fun _ _ _ hq h => System.Traced.step h hq) hr
    (System.traced_of_run hr₀)
  have hruns := htraced i t ht
  rw [hjob] at hruns
  have hends := hruns.yields_result (@yields_flushReceipts config job.notifications)
    (Thread.answer?_eq_some.1 hanswer) rfl n (hbatch ▸ hn)
  obtain ⟨e, he, hround⟩ := hends
  exact hover.settled i t hi ht ⟨e, Multiset.mem_coe.1 he, hround⟩

/-! ### A job that runs alone -/

theorem before_rows : (fates.before s o).notifications = s.notifications ∧
    (fates.before s o).protocols = s.protocols := by
  cases o with
  | confirmTransaction tx =>
    simp only [ReceiptFates.before]
    cases hlands : fates.lands tx with
    | none => exact ⟨rfl, rfl⟩
    | some succeeds =>
      simp only [Option.bind_some, ReceiptChange.apply]
      split_ifs <;> exact ⟨rfl, rfl⟩
  | _ => exact ⟨rfl, rfl⟩

/-- The store still says the same of the eligibility of a notification, and of protocols. -/
structure Spared (id : JsString) (s s' : ReceiptStore) : Prop where
  protocols : s'.protocols = s.protocols
  eligible : s'.Eligible id ↔ s.Eligible id

theorem Spared.trans {s'' : ReceiptStore} (h : Spared id s s') (h' : Spared id s' s'') : Spared id s s'' :=
  ⟨h'.protocols.trans h.protocols, h'.eligible.trans h.eligible⟩

theorem Spared.of_eq (hrows : s'.notifications = s.notifications) (hprotocols : s'.protocols = s.protocols) :
    Spared id s s' :=
  ⟨hprotocols, by rw [eligible_iff, eligible_iff, hrows]⟩

theorem updateNotification_protocols {f : ReceiptRow → ReceiptRow} :
    (s.updateNotification id f).2.protocols = s.protocols := by
  unfold ReceiptStore.updateNotification
  split <;> rfl

theorem serve_protocols : (s.serve o).2.protocols = s.protocols := by
  cases o with
  | disableReceipt | saveReceiptTx | saveReceiptFailure => exact updateNotification_protocols
  | lockSetNx | receiptQueueAdd | getValidityProof | confirmTransaction =>
    simp only [ReceiptStore.serve]
    split_ifs <;> rfl
  | now | findPending | findProtocol | signTransaction | sendTransaction => rfl

/-- A call spares the notifications that it takes nothing from. -/
theorem spared_handle (ho : o.settles? ≠ some id) : Spared id s (ReceiptFates.handle fates s o).2 := by
  have hbefore : Spared id s (fates.before s o) := .of_eq before_rows.1 before_rows.2
  refine hbefore.trans ?_
  unfold ReceiptFates.handle
  rcases handle_store (o := o) (f := fates.fault o) (s := fates.before s o) with h | h
  · rw [h]
    exact .of_eq rfl rfl
  · rw [h]
    refine ⟨serve_protocols, ?_⟩
    cases hsettles : o.settles? with
    | none => rw [eligible_iff, eligible_iff, serve_notifications hsettles]
    | some id' =>
      obtain ⟨f, hserve, hid, -⟩ := serve_settles (s := fates.before s o) hsettles
      rw [hserve]
      exact eligible_update_ne hid fun heq => ho (hsettles.trans (congrArg some heq.symm))

section rounds

variable (hne : n.id ≠ id)
include hne

theorem along_receiptCall (ho : o.settles? = some n.id ∨ o.settles? = none) :
    Along (fun o => ReceiptOp.settles? o ≠ some id) (fun _ _ => True) (fun _ => True)
      (@Prog.perform ReceiptCalls Err o) := by
  refine Along.perform (fun heq => ?_)
  rcases ho with ho | ho
  · exact hne (Option.some.inj (ho.symm.trans heq))
  · exact nomatch ho.symm.trans heq

theorem along_writeReceiptFor {owner : Option JsString} :
    Along (fun o => ReceiptOp.settles? o ≠ some id) (fun _ _ => True) (fun _ => True)
      (writeReceiptFor config n owner) := by
  unfold writeReceiptFor
  split_ifs
  · trivial
  · exact along_receiptCall hne (o := .disableReceipt n.id) (.inl rfl)
  · refine (along_receiptCall hne (o := .getValidityProof n.id n.walletHash) (.inr rfl)).bind (fun _ _ => ?_)
      fun _ _ => trivial
    refine (along_receiptCall hne (o := .signTransaction _) (.inr rfl)).bind (fun blockhash _ => ?_)
      fun _ _ => trivial
    refine (along_receiptCall hne (o := .sendTransaction _) (.inr rfl)).bind (fun _ _ => ?_)
      fun _ _ => trivial
    refine (along_receiptCall hne (o := .confirmTransaction _) (.inr rfl)).bind (fun _ _ => ?_)
      fun _ _ => trivial
    exact along_receiptCall hne (o := .saveReceiptTx n.id _) (.inl rfl)

/-- A round takes out of the filter only the notification that it is about. -/
theorem along_flushReceipt :
    Along (fun o => ReceiptOp.settles? o ≠ some id) (fun _ _ => True) (fun _ => True)
      (flushReceipt config n) := by
  have hwrite : Along (fun o => ReceiptOp.settles? o ≠ some id) (fun _ _ => True) (fun _ => True)
      (writeReceipt config n) :=
    (along_receiptCall hne (o := .findProtocol n) (.inr rfl)).bind (fun _ _ => along_writeReceiptFor hne)
      fun _ _ => trivial
  exact hwrite.tryCatch (fun _ _ => trivial) fun e _ =>
    along_receiptCall hne (o := .saveReceiptFailure n.id (failureReason e)) (.inl rfl)

end rounds

/-- Rounds about others spare a notification. -/
theorem spared_rounds {ns : List ReceiptNotification} (hns : ∀ n ∈ ns, n.id ≠ id) :
    Spared id s (ReceiptFates.handle.exec fates (Prog.forEach (flushReceipt config) ns) s).2 :=
  Along.exec (fun _ => .of_eq rfl rfl) (fun _ _ _ => .trans) (fun _ _ => spared_handle)
    (Along.forEach (fun n hn => along_flushReceipt (hns n hn)) trivial) s

/-- A program that does not fail leaves a notification out of the filter. -/
def Settles (fates : ReceiptFates) (id : JsString) (q : Receipts Unit) : Prop :=
  ∀ s s', ReceiptFates.handle.exec fates q s = (.ok (), s') → ¬ s'.Eligible id

theorem settles_bind {α : Type} {q : Receipts α} {f : α → Receipts Unit} (hf : ∀ a, Settles fates id (f a)) :
    Settles fates id (q.bind f) := by
  intro s s' h
  rw [Prog.bind, exec_andThen] at h
  cases hq : (ReceiptFates.handle.exec fates q s).1 with
  | ok a =>
    rw [hq] at h
    exact hf a _ s' h
  | error e =>
    rw [hq] at h
    cases h

theorem settles_tryCatch {q : Receipts Unit} {f : Err → Receipts Unit} (hq : Settles fates id q)
    (hf : ∀ e, Settles fates id (f e)) : Settles fates id (q.tryCatch f) := by
  intro s s' h
  rw [Prog.tryCatch, exec_andThen] at h
  cases hr : ReceiptFates.handle.exec fates q s with
  | mk r s₁ =>
    rw [hr] at h
    cases r with
    | ok a =>
      obtain rfl : s₁ = s' := congrArg Prod.snd h
      exact hq s s₁ hr
    | error e => exact hf e s₁ s' h

theorem not_eligible_handle {a : o.Res} (ho : o.settles? = some id)
    (h : ReceiptFates.handle fates s o = (.ok a, s')) : ¬ s'.Eligible id := by
  have hends : o.EndsRound id s := endsRound_of_settles ho
  have hfault : fates.fault o = .none := fault_none hends (congrArg Prod.fst h)
  unfold ReceiptFates.handle at h
  rw [hfault] at h
  have hout : ¬ (ReceiptStore.handle .none (fates.before s o) o).2.Eligible id :=
    not_eligible_endsRound (endsRound_of_settles ho) (findsOwner_of_settles ho)
  rwa [h] at hout

theorem settles_saveFailure {reason : JsString} :
    Settles fates id (ReceiptOp.saveReceiptFailure id reason).call := fun _ _ h =>
  not_eligible_handle (o := .saveReceiptFailure id reason) rfl
    ((exec_perform (S := ReceiptCalls) (.saveReceiptFailure id reason)).symm.trans h)

theorem settles_writeReceiptFor {owner : Option JsString} (howner : truthy owner = true) :
    Settles fates n.id (writeReceiptFor config n owner) := by
  unfold writeReceiptFor
  rw [howner]
  by_cases hvalid : config.validPubkey (owner.getD []) = true
  · rw [if_neg (by simp), if_neg (by simp [hvalid])]
    refine settles_bind fun _ => settles_bind fun blockhash => settles_bind fun _ => settles_bind fun _ => ?_
    exact fun s s' h => not_eligible_handle (o := .saveReceiptTx n.id _) rfl
      ((exec_perform (S := ReceiptCalls) (.saveReceiptTx n.id _)).symm.trans h)
  · rw [if_neg (by simp), if_pos (by simp [hvalid])]
    exact fun s s' h => not_eligible_handle (o := .disableReceipt n.id) rfl
      ((exec_perform (S := ReceiptCalls) (.disableReceipt n.id)).symm.trans h)

theorem findProtocol_reply :
    (fates.fault (.findProtocol n) = .none ∧
      ReceiptFates.handle fates s (.findProtocol n) = (.ok (s.owner? n), s)) ∨
    fates.fault (.findProtocol n) ≠ .none ∧
      ∃ e, ReceiptFates.handle fates s (.findProtocol n) = (.error e, s) := by
  have hhandle : ReceiptFates.handle fates s (.findProtocol n) =
      (fates.fault (.findProtocol n)).meet s (s.serve (.findProtocol n)) := rfl
  rw [hhandle]
  cases fates.fault (.findProtocol n) with
  | none => exact .inl ⟨rfl, rfl⟩
  | refused | unheard | stalled => exact .inr ⟨nofun, _, rfl⟩

/-- A round takes its notification out of the filter if the look-up fails or finds a public key, and only
then. -/
theorem exec_flushReceipt (h : ReceiptFates.handle.exec fates (flushReceipt config n) s = (.ok (), s')) :
    ¬ s'.Eligible n.id ↔ (ReceiptOp.findProtocol n).FindsOwner s (fates.fault (.findProtocol n)) := by
  have hlookup : ReceiptFates.handle.exec fates (ReceiptOp.findProtocol n).call s =
      ReceiptFates.handle fates s (.findProtocol n) := exec_perform _
  unfold flushReceipt Prog.tryCatch at h
  rw [exec_andThen, writeReceipt, Prog.bind_eq_bind, Prog.bind, exec_andThen, hlookup] at h
  rcases @findProtocol_reply s fates n with ⟨hfault, hreply⟩ | ⟨hfault, e, hreply⟩
  · rw [hreply] at h
    have hexec : ReceiptFates.handle.exec fates ((writeReceiptFor config n (s.owner? n)).tryCatch fun e =>
        (ReceiptOp.saveReceiptFailure n.id (failureReason e)).call) s = (.ok (), s') := by
      unfold Prog.tryCatch
      rw [exec_andThen]
      exact h
    rw [hfault]
    cases howner : truthy (s.owner? n) with
    | true =>
      refine ⟨fun _ _ _ => howner, fun _ => ?_⟩
      exact settles_tryCatch (settles_writeReceiptFor howner) (fun _ => settles_saveFailure) s s' hexec
    | false =>
      -- the round is skipped
      rw [writeReceiptFor, howner] at hexec
      obtain rfl : s = s' := congrArg Prod.snd hexec
      refine ⟨fun hout _ helig => absurd helig hout, fun hfinds helig => ?_⟩
      have htruthy := hfinds rfl helig
      rw [howner] at htruthy
      cases htruthy
  · rw [hreply] at h
    exact ⟨fun _ hnone => absurd hnone hfault, fun _ => settles_saveFailure s s' h⟩

/-- The same of a loop over notifications with different ids. -/
theorem exec_rounds {ns : List ReceiptNotification} (hids : (ns.map (·.id)).Nodup)
    (h : ReceiptFates.handle.exec fates (Prog.forEach (flushReceipt config) ns) s = (.ok (), s')) :
    (∀ n ∈ ns, ¬ s'.Eligible n.id) ↔
      ∀ n ∈ ns, (ReceiptOp.findProtocol n).FindsOwner s (fates.fault (.findProtocol n)) := by
  induction ns generalizing s with
  | nil => simp
  | cons n ns ih =>
    rw [List.map_cons, List.nodup_cons] at hids
    have hothers : ∀ m ∈ ns, n.id ≠ m.id := fun m hm heq => hids.1 (heq ▸ List.mem_map_of_mem hm)
    cases hround : ReceiptFates.handle.exec fates (flushReceipt config n) s with
    | mk r s₁ =>
      rw [Prog.forEach, Prog.bind, exec_andThen, hround] at h
      cases r with
      | error e => cases h
      | ok u =>
        have hrest : ReceiptFates.handle.exec fates (Prog.forEach (flushReceipt config) ns) s₁ =
          (.ok (), s') := h
        -- the rest spares this notification, and its round spared the others
        have hspared : Spared n.id s₁ s' := by
          have hafter := @spared_rounds config s₁ n.id fates ns fun m hm => (hothers m hm).symm
          rwa [hrest] at hafter
        have hbefore : ∀ m ∈ ns, Spared m.id s s₁ := fun m hm => by
          have hafter := Along.exec (h := ReceiptFates.handle) (c := fates) (P := Spared m.id)
            (fun _ => .of_eq rfl rfl) (fun _ _ _ => .trans) (fun _ _ => spared_handle)
            (@along_flushReceipt config m.id n (hothers m hm)) s
          rwa [hround] at hafter
        have hfinds : ∀ m ∈ ns, ∀ f, (ReceiptOp.findProtocol m).FindsOwner s₁ f ↔
            (ReceiptOp.findProtocol m).FindsOwner s f := fun m hm f => by
          simp only [ReceiptOp.FindsOwner, ReceiptStore.owner?, (hbefore m hm).protocols,
            (hbefore m hm).eligible]
        rw [List.forall_mem_cons, List.forall_mem_cons, hspared.eligible, exec_flushReceipt hround,
          ih hids.2 hrest]
        exact and_congr_right fun _ => forall₂_congr fun m hm => hfinds m hm _

theorem exec_flushReceipts {ns : List ReceiptNotification} (hids : (ns.map (·.id)).Nodup)
    (h : ReceiptFates.handle.exec fates (flushReceipts config ns) s = (.ok (), s')) :
    (∀ n ∈ ns, ¬ s'.Eligible n.id) ↔
      ∀ n ∈ ns, (ReceiptOp.findProtocol n).FindsOwner s (fates.fault (.findProtocol n)) := by
  unfold flushReceipts at h
  split_ifs at h with hempty
  · simp [List.isEmpty_iff.1 hempty]
  · cases h
  · cases h
  · cases h
  · exact exec_rounds hids h

/-- The scans make progress in a run in which no look-up of a protocol comes back without a public key. A job
that runs alone makes progress just then. -/
theorem receipts_progress (config : ReceiptConfig) :
    (∀ s ls₀ ls p p', (receipts config).run (Pool.empty s) ls₀ = some p →
      (receipts config).run p ls = some p' → (receipts config).Keeps OwnerFound p ls →
      MakesProgress p ls p') ∧
    ∀ fates ns s s', (ns.map fun n : ReceiptNotification => n.id).Nodup →
      ReceiptFates.handle.exec fates (flushReceipts config ns) s = (.ok (), s') →
      ((∀ n ∈ ns, ¬ s'.Eligible n.id) ↔
        ∀ n ∈ ns, (ReceiptOp.findProtocol n).FindsOwner s (fates.fault (.findProtocol n))) :=
  ⟨fun _ _ _ _ _ hr₀ hr hfound => makesProgress_of_run hr₀ hr hfound,
    fun _ _ _ _ hids h => exec_flushReceipts hids h⟩

/-- Every call is answered, and every transaction lands and succeeds. -/
def smoothFates : ReceiptFates := ⟨fun _ => .none, fun _ => some true⟩

theorem receipts_progress_landed :
    ∃ p p', (receipts receiptConfig).run (Pool.empty {}) (receiptSent.take 2) = some p ∧
      (receipts receiptConfig).run p ((receiptLands true).drop 2) = some p' ∧
      MakesProgress p ((receiptLands true).drop 2) p' ∧
      ∀ n ∈ [deliveredNotification], ¬ (ReceiptFates.handle.exec smoothFates
        (flushReceipts receiptConfig [deliveredNotification]) p.store).2.Eligible n.id := by
  obtain ⟨p, hp, h⟩ := (Option.any_eq_true _ _).1
    (show ((receipts receiptConfig).run (Pool.empty {}) (receiptSent.take 2)).any fun p => decide <|
      ((receipts receiptConfig).run p ((receiptLands true).drop 2)).isSome ∧
      (receipts receiptConfig).Keeps OwnerFound p ((receiptLands true).drop 2) ∧
      (ReceiptFates.handle.exec smoothFates (flushReceipts receiptConfig [deliveredNotification]) p.store).1.isOk ∧
      (ReceiptOp.findProtocol deliveredNotification).FindsOwner p.store .none by decide +kernel)
  obtain ⟨hrun, hfound, hok, hfinds⟩ := of_decide_eq_true h
  obtain ⟨p', hp'⟩ := Option.isSome_iff_exists.1 hrun
  obtain ⟨hruns, halone⟩ := receipts_progress receiptConfig
  refine ⟨p, p', hp, hp', hruns {} _ _ p p' hp hp' hfound, ?_⟩
  cases hexec : ReceiptFates.handle.exec smoothFates (flushReceipts receiptConfig [deliveredNotification])
      p.store with
  | mk r s' =>
    rw [hexec] at hok
    cases r with
    | error e => cases hok
    | ok u =>
      exact (halone smoothFates [deliveredNotification] p.store s' (by decide) hexec).2
        (List.forall_mem_singleton.2 hfinds)

/-- A notification of a protocol with an empty public key. -/
def skippedNotification : ReceiptNotification := ⟨js "a", js "blank", js "w", js "defi"⟩

/-- It is delivered. -/
def skippedDelivered : List ReceiptLabel :=
  [.outside (.register (js "blank") []), .outside (.deliver skippedNotification true)]

/-- A scan, the job, and a scan in the next window. -/
def skippingScans : List ReceiptLabel :=
  let next (i : Nat) : ReceiptLabel := .pick i (true, .none)
  [.arrive .scan, next 0, next 0, next 0, next 0, .arrive (.flush ⟨0, [skippedNotification]⟩), next 1,
    .outside (.tick 300000 1), .arrive .scan, next 2, next 2, next 2, next 2]

/-- The job finishes, and the next scan picks the same notification again. -/
theorem skipped_picked_again :
    ∃ p p', (receipts receiptConfig).run (Pool.empty {}) skippedDelivered = some p ∧
      (receipts receiptConfig).Keeps PossibleReceiptStep p skippingScans ∧
      (receipts receiptConfig).run p skippingScans = some p' ∧
      p'.store.jobs = [⟨0, [skippedNotification]⟩, ⟨1, [skippedNotification]⟩] ∧
      ¬ MakesProgress p skippingScans p' := by
  obtain ⟨p, hp, h⟩ := (Option.any_eq_true _ _).1
    (show ((receipts receiptConfig).run (Pool.empty {}) skippedDelivered).any fun p =>
      decide <| (receipts receiptConfig).Keeps PossibleReceiptStep p skippingScans ∧
        p.threads.length = 0 ∧ p.store.pending.take 1 = [skippedNotification] ∧
        ((receipts receiptConfig).run p skippingScans).any fun p' => decide <|
          p'.store.jobs = [⟨0, [skippedNotification]⟩, ⟨1, [skippedNotification]⟩] ∧
          p'.store.Eligible skippedNotification.id ∧
          p'.threads[1]?.any fun t => t.request = .flush ⟨0, [skippedNotification]⟩ ∧ t.answer? = some () by
      decide +kernel)
  obtain ⟨hpossible, hempty, hpick, hrun⟩ := of_decide_eq_true h
  obtain ⟨p', hp', h'⟩ := (Option.any_eq_true _ _).1 hrun
  obtain ⟨hjobs, helig, hthread⟩ := of_decide_eq_true h'
  obtain ⟨t, ht, hdone⟩ := (Option.any_eq_true _ _).1 hthread
  obtain ⟨hjob, hanswer⟩ := of_decide_eq_true hdone
  refine ⟨p, p', hp, hpossible, hp', hjobs, fun hprogress => ?_⟩
  refine hprogress 1 1 t _ (by omega) ht hjob hpick.symm hanswer skippedNotification List.mem_cons_self ?_ helig
  simp [skippingScans]

end HeraldGateway
