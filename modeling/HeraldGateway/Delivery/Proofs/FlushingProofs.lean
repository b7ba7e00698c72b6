import HeraldGateway.Async.History
import HeraldGateway.Delivery.Flushing
import HeraldGateway.Delivery.Proofs.DigestsProofs
import HeraldGateway.Gateway.Proofs.WorldProofs

/-!
# What is flushed

Both groupings are those of `Grouped`. Around them, a flush enqueues its jobs one after another: what is
enqueued is always an initial part of the jobs of the rows that it found due.
-/

namespace HeraldGateway

open Async

variable {env : Env} {s : World} {tr : List GatewayEvent} {due : List DigestRow}

/-! ### The two groupings -/

theorem digestJobs_wallets (due : List DigestRow) :
    (digestJobs due).map (·.walletHash) = (groupBy (·.walletHash) due).map Prod.fst := by
  rw [digestJobs, List.map_map]
  rfl

theorem partitionsDue_digestJobs (due : List DigestRow) : PartitionsDue due (digestJobs due) where
  onePerWallet := by
    rw [digestJobs_wallets]
    exact (grouped_groupBy _ due).nodup
  wallets w := by
    rw [digestJobs_wallets]
    exact (grouped_groupBy _ due).keys w
  ownRows job hjob := by
    obtain ⟨g, hg, rfl⟩ := List.mem_map.1 hjob
    exact congrArg (List.map DigestRow.entry) ((grouped_groupBy _ due).group g hg)
  everyRow := by
    have hentries : (digestJobs due).flatMap (·.entries) =
        ((groupBy (·.walletHash) due).flatMap Prod.snd).map DigestRow.entry := by
      rw [digestJobs, List.flatMap_map, List.map_flatMap]
    rw [hentries]
    exact (groupBy_perm _ due).map DigestRow.entry

theorem buildDigestBody_eq (entries : List DigestEntry) :
    buildDigestBody env entries = join (js "\n") (announcement entries.length ::
      (groupBy DigestEntry.group entries).flatMap (groupLines env) ++ closingLines) := rfl

theorem listsEntries_buildDigestBody (entries : List DigestEntry) :
    ListsEntries env entries (buildDigestBody env entries) :=
  ⟨groupBy DigestEntry.group entries, buildDigestBody_eq entries, grouped_groupBy _ entries,
    groupBy_perm _ entries, groupBy_lengths _ entries⟩

/-! ### A flush -/

theorem enqueuedDigests_concat (tr : List GatewayEvent) (e : GatewayEvent) :
    enqueuedDigests (tr ++ [e]) = enqueuedDigests tr ++ (enqueuedDigest? e).toList := by
  rw [enqueuedDigests, List.filterMap_append, List.filterMap_cons, List.filterMap_nil]
  cases enqueuedDigest? e with
  | none => rfl
  | some data => rfl

theorem foundRows.append (h : foundRows env due tr) (tr' : List GatewayEvent) :
    foundRows env due (tr ++ tr') := by
  obtain ⟨c, s, now, hmem, hr⟩ := h
  exact ⟨c, s, now, List.mem_append_left _ hmem, hr⟩

/-- What was enqueued is an initial part of the jobs of the rows that were found due. -/
def Flushing (env : Env) (tr : List GatewayEvent) : Prop :=
  enqueuedDigests tr = [] ∨ ∃ due, foundRows env due tr ∧ enqueuedDigests tr <+: digestJobs due

/-- A flush ends well once it enqueued all of them. -/
def Flushed {α : Type} (env : Env) (tr : List GatewayEvent) : Except Err α → Prop
  | .ok _ => ∃ due, foundRows env due tr ∧ enqueuedDigests tr = digestJobs due
  | .error _ => True

/-- A flush's own way of following its history. -/
abbrev LogsFlush {α : Type} (env : Env) (Q : List GatewayEvent → Except Err α → Prop) (p : Gateway α)
    (tr : List GatewayEvent) : Prop :=
  Logs (World.handle env) (fun _ _ => True) (Flushing env) Q p tr

/-- A call that enqueues nothing. -/
theorem enqueuedDigests_other {e : GatewayEvent} (h : ∀ data at_, e.op ≠ .digestAdd data at_) :
    enqueuedDigests (tr ++ [e]) = enqueuedDigests tr := by
  have hnone : enqueuedDigest? e = none := by
    unfold enqueuedDigest?
    split
    · next data at_ ho => exact absurd ho (h data at_)
    · rfl
  rw [enqueuedDigests_concat, hnone]
  exact List.append_nil _

/-- A job that was added is the next one that was enqueued. -/
theorem enqueuedDigests_add {c : Choice} {s : World} {data : DigestJobData} {at_ : Millis} {a : Unit}
    (h : (World.handle env c s (.digestAdd data at_)).1 = .ok a) :
    enqueuedDigests (tr ++ [(World.handle env).event c s (.digestAdd data at_)]) =
      enqueuedDigests tr ++ [data] := by
  have happ : c.fault.applies = true := by
    cases hf : c.fault with
    | none | unheard e => rfl
    | refused e | stalled =>
      simp only [World.handle, World.meet, hf] at h
      cases h
  rw [enqueuedDigests_concat]
  simp [enqueuedDigest?, Handler.event, happ]

/-- Whether or not a job was added, nothing else was. -/
theorem enqueuedDigests_prefix {c : Choice} {s : World} {data : DigestJobData} {at_ : Millis} :
    enqueuedDigests (tr ++ [(World.handle env).event c s (.digestAdd data at_)]) <+:
      enqueuedDigests tr ++ [data] := by
  rw [enqueuedDigests_concat]
  refine (List.prefix_append_right_inj _).2 ?_
  by_cases happ : c.fault.applies = true
  · simp [enqueuedDigest?, Handler.event, happ]
  · simp [enqueuedDigest?, Handler.event, happ]

/-- After the jobs that were done, the rest is enqueued. -/
theorem logs_addDigests (rest done : List DigestJobData) (hjobs : digestJobs due = done ++ rest)
    (hdue : foundRows env due tr) (hdone : enqueuedDigests tr = done) :
    LogsFlush env (Flushed env) (Prog.forEach (fun job => do
      let addedAt ← call .now
      call (.digestAdd job addedAt)) rest) tr := by
  induction rest generalizing tr done with
  | nil =>
    rw [List.append_nil] at hjobs
    exact ⟨due, hdue, hdone.trans hjobs.symm⟩
  | cons job rest ih =>
    subst hdone
    have hjobs' : digestJobs due = (enqueuedDigests tr ++ [job]) ++ rest := by
      rw [hjobs, List.append_assoc, List.singleton_append]
    have hadd : LogsFlush env (fun tr' r => ∀ a, r = .ok a →
        foundRows env due tr' ∧ enqueuedDigests tr' = enqueuedDigests tr ++ [job]) (do
          let addedAt ← call .now
          call (.digestAdd job addedAt)) tr := by
      refine Logs.bind (Q := fun tr' _ => foundRows env due tr' ∧ enqueuedDigests tr' = enqueuedDigests tr)
        (Logs.perform (S := Calls) (o := Op.now) fun c s _ => ?_) (fun tr' addedAt h => ?_)
          fun _ _ _ _ => nofun
      · have hsame : enqueuedDigests (tr ++ [(World.handle env).event c s .now]) = enqueuedDigests tr :=
          enqueuedDigests_other fun _ _ => nofun
        refine ⟨.inr ⟨due, hdue.append _, ?_⟩, hdue.append _, hsame⟩
        rw [hsame, hjobs]
        exact List.prefix_append _ _
      · obtain ⟨hdue', hsame⟩ := h
        refine Logs.perform (S := Calls) (o := Op.digestAdd job addedAt) fun c s _ => ?_
        refine ⟨.inr ⟨due, hdue'.append _, ?_⟩, fun a hr => ⟨hdue'.append _, ?_⟩⟩
        · refine enqueuedDigests_prefix.trans ?_
          rw [hsame, hjobs']
          exact List.prefix_append _ _
        · rw [enqueuedDigests_add hr, hsame]
    refine hadd.bind (fun tr' a h => ?_) fun _ _ _ => trivial
    obtain ⟨hdue', hdone⟩ := h a rfl
    exact ih _ hjobs' hdue' hdone

theorem logs_flushDueDigests : LogsFlush env (Flushed env) flushDueDigests [] := by
  have none_of : ∀ {tr : List GatewayEvent} {e : GatewayEvent}, enqueuedDigests tr = [] →
      (∀ data at_, e.op ≠ .digestAdd data at_) → enqueuedDigests (tr ++ [e]) = [] :=
    fun htr h => (enqueuedDigests_other h).trans htr
  refine Logs.bind (Q := fun tr _ => enqueuedDigests tr = [])
    (Logs.perform (S := Calls) (o := Op.now) fun c s _ => ?_) (fun tr now htr => ?_) fun _ _ _ => trivial
  · have h : enqueuedDigests ([] ++ [(World.handle env).event c s .now]) = [] := none_of rfl fun _ _ => nofun
    exact ⟨.inl h, h⟩
  refine Logs.bind (Q := fun tr r => enqueuedDigests tr = [] ∧ ∀ due, r = .ok due → foundRows env due tr)
    (Logs.perform (S := Calls) (o := Op.digestFindDue now) fun c s _ => ?_) (fun tr due h => ?_)
    fun _ _ _ => trivial
  · have h := none_of (e := (World.handle env).event c s (.digestFindDue now)) htr fun _ _ => nofun
    refine ⟨.inl h, h, fun due hr => ⟨c, s, now, List.mem_append_right _ (List.mem_singleton.2 rfl), hr⟩⟩
  · exact logs_addDigests _ [] rfl (h.2 due rfl) h.1

/-- A flush enqueues the jobs of the rows it found due. -/
theorem flushes_of_traced {p : GatewayPool} (hp : (gateway env).Traced p) {t : GatewayThread}
    (ht : t ∈ p.threads) (hreq : t.request = .flushDigests) : Flushes env t := by
  obtain ⟨i, hr⟩ := hp.of_mem ht
  rw [hreq] at hr
  have hlogs : LogsFlush env (Flushed env) ((Task.flushDigests).code env) [] :=
    logs_flushDueDigests.bind (fun tr a h => h) fun _ _ _ => trivial
  obtain ⟨hsome, hq⟩ := hr.logs hlogs (.inl rfl) fun _ _ _ _ => trivial
  refine ⟨hsome, fun a ha => ?_⟩
  have hret := Thread.answer?_eq_some.1 ha
  cases hprog : t.prog with
  | ret b =>
    rw [hprog] at hq
    exact hq
  | _ =>
    rw [hprog] at hret
    cases hret

/-- Every list of due entries is partitioned into jobs by its wallets, every list of entries is listed by the
body of its digest, and these are the jobs that a flush enqueues in any run. -/
theorem flush_partitions_due :
    (∀ due, PartitionsDue due (digestJobs due)) ∧
    (∀ entries, ListsEntries env entries (buildDigestBody env entries)) ∧
    ∀ (s : World) ls p, (gateway env).run (Pool.empty s) ls = some p →
      ∀ t ∈ p.threads, t.request = .flushDigests → Flushes env t :=
  ⟨partitionsDue_digestJobs, listsEntries_buildDigestBody, fun _ _ _ hr _ ht hreq =>
    flushes_of_traced (System.traced_of_run hr) ht hreq⟩

/-- An installation in which notifications of two wallets are due. -/
def dueWorld : World :=
  { bufferedWorld with
    digestRows := [bufferedRow, { bufferedRow with id := 1, walletHash := js "v", queuedAt := 1 },
      { bufferedRow with id := 2, category := [], queuedAt := 2 }]
    now := 10 }

theorem flush_partitions_due_dueWorld :
    ∃ p ∈ replayFrom dueWorld (.arrive .flushDigests :: proceeds 0 6), ∃ t ∈ p.threads,
      t.answer? = some .done ∧ Flushes Env.transparent t ∧
      (enqueuedDigests t.trace).map (fun job => job.entries.map (·.id)) = [[0, 2], [1]] := by
  obtain ⟨p, hp, t, ht, hreq, hdone, hjobs⟩ :
      ∃ p ∈ replayFrom dueWorld (.arrive .flushDigests :: proceeds 0 6), ∃ t ∈ p.threads,
        t.request = .flushDigests ∧ t.answer? = some .done ∧
        (enqueuedDigests t.trace).map (fun job => job.entries.map (·.id)) = [[0, 2], [1]] := by decide +kernel
  exact ⟨p, hp, t, ht, hdone, flush_partitions_due.2.2 _ _ _ hp t ht hreq, hjobs⟩

end HeraldGateway
