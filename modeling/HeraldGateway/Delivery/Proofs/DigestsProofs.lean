import HeraldGateway.Async.History
import HeraldGateway.Delivery.Digests
import HeraldGateway.Delivery.Proofs.AttemptsProofs
import HeraldGateway.Gateway.Proofs.FootprintProofs
import HeraldGateway.Gateway.Proofs.WorldProofs

/-!
# Digests whose entries are owned

An attempt that throws before it dispatched may be repeated, and one that returned has marked its entries.
So where entries are taken up only while nobody has them, and no mark is lost, no entry is in two digests
that were dispatched.
-/

namespace HeraldGateway

open Async

variable {env : Env} {c : Choice} {s s' : World} {o : Op} {id : Nat} {tr : List GatewayEvent}
  {e : GatewayEvent}

/-! ### What one attempt leaves behind -/

/-- The call marked entries as sent. -/
def Marked (ids : List Nat) (e : GatewayEvent) : Prop :=
  (∃ now, e.op = .digestMarkSent ids now) ∧ ∃ a, e.reply = .ok a

/-- Once something was dispatched, marks are not lost. -/
def MarkHeard (tr : List GatewayEvent) (e : GatewayEvent) : Prop :=
  e.op.marksSent = true → dispatched tr = true → e.choice.fault = .none

/-- An attempt that returned marked its entries; one that threw dispatched nothing. -/
def SettlesMarked {α : Type} (ids : List Nat) (tr : List GatewayEvent) : Except Err α → Prop
  | .ok _ => ids = [] ∨ ∃ e ∈ tr, Marked ids e
  | .error _ => dispatched tr = false

theorem dispatched_append : dispatched (tr ++ [e]) = (dispatched tr || dispatched [e]) := by
  simp [dispatched]

theorem dispatched_undelivered (htr : dispatched tr = false) (h : e.op.delivers = false) :
    dispatched (tr ++ [e]) = false := by
  rw [dispatched_append, htr, Bool.false_or]
  simp [dispatched, h]

theorem delivers_routine (h : o.routine = true) : o.delivers = false := by
  cases o with
  | sendEmail | sendTelegram | sendSms => cases h
  | _ => rfl

section attempt

variable {data : DigestJobData} {job : NotificationJobData} {wallet : JsString} {α : Type}

/-- The attempt's own way of following its history. -/
abbrev LogsMarked (env : Env) (ids : List Nat) (p : Gateway α) (tr : List GatewayEvent) : Prop :=
  Logs (World.handle env) MarkHeard (fun _ => True) (SettlesMarked ids) p tr

/-- What comes before the dispatch may throw. -/
theorem logs_before {ids : List Nat} {p : Gateway α} {f : α → Gateway Unit}
    (hp : p.Within (fun o => o.delivers = false) fun _ _ => True) (htr : dispatched tr = false)
    (hf : ∀ tr a, dispatched tr = false → LogsMarked env ids (f a) tr) :
    LogsMarked env ids (p.bind f) tr := by
  refine (Logs.of_along (M := fun tr => dispatched tr = false) ?_ hp htr).bind ?_ ?_
  · exact fun tr c s o ho htr _ => ⟨trivial, trivial, dispatched_undelivered htr ho⟩
  · exact fun tr a h => hf tr a h.1
  · exact fun tr e h => h.1

theorem logs_markAsSent {entries : List DigestEntry} (tr : List GatewayEvent) :
    LogsMarked env (entries.map (·.id)) (markAsSent entries) tr := by
  have clock : Logs (World.handle env) MarkHeard (fun _ => True) (fun _ r => ∃ now, r = .ok now)
      (call .now) tr := Logs.perform (S := Calls) (o := Op.now) fun c s _ => ⟨trivial, s.now, rfl⟩
  refine clock.bind (fun tr now _ => ?_) fun _ _ h => nomatch h
  refine Logs.perform (S := Calls) (I := fun _ => True) fun c s hl => ⟨trivial, ?_⟩
  cases hr : (World.handle env c s (.digestMarkSent (entries.map (·.id)) now)).1 with
  | ok a => exact .inr ⟨_, List.mem_append_right _ (List.mem_singleton.2 rfl), ⟨now, rfl⟩, a, hr⟩
  | error err =>
    -- the call failed, so nothing was dispatched before
    refine dispatched_undelivered (Bool.eq_false_iff.2 fun hd => ?_) rfl
    have hnone : c.fault = .none := hl rfl hd
    simp only [World.handle, World.meet, hnone] at hr
    cases hr

/-- A dispatch does not throw. -/
theorem along_dispatch {channels : DecryptedChannels} :
    Along (S := Calls) (fun _ => True) (fun _ _ => True) (fun r => ∃ a, r = .ok a)
      (dispatch env channels job) := by
  refine Along.bind (Q := fun r => ∃ a, r = .ok a) ?_ (fun assets _ => ?_) fun _ h => nomatch h
  · exact Along.tryCatch (Along.of_forall (fun _ => trivial) _) (fun a _ => ⟨a, rfl⟩) fun _ _ => ⟨[], rfl⟩
  · split
    · exact ⟨_, rfl⟩
    · refine (Along.allSettled fun p _ => Along.of_forall (fun _ => trivial) p).bind (fun rs _ => ?_) ?_
      · exact (along_swallow (Along.of_forall (fun _ => trivial) _)).bind (fun _ _ => ⟨_, rfl⟩)
          fun _ h => nomatch h
      · rintro _ ⟨_, h, -⟩
        cases h

theorem logs_sendDigest (htr : dispatched tr = false) :
    LogsMarked env (data.entries.map (·.id)) (sendDigest env data job wallet) tr := by
  refine logs_before (within_resolveIdentity (of_untold fun o => delivers_routine) _) htr
    fun tr identity htr => ?_
  cases identity with
  | none => exact logs_markAsSent tr
  | some identity =>
    refine logs_before (within_call rfl) htr fun tr channels _ => ?_
    refine (Logs.of_along (M := fun _ => True) (fun _ _ _ _ _ _ _ => ⟨trivial, trivial, trivial⟩)
      along_dispatch trivial).bind (fun tr _ _ => logs_markAsSent tr) ?_
    rintro _ _ ⟨-, _, h⟩
    cases h

theorem logs_processDigest (h : dispatched tr = false) :
    LogsMarked env (data.entries.map (·.id)) (processDigest env data) tr := by
  unfold processDigest
  split
  · next hnil => exact .inl (by rw [hnil]; rfl)
  · refine logs_before (within_call rfl) h fun tr found htr => ?_
    split
    · refine logs_before (within_call rfl) htr fun tr protocol htr => ?_
      refine logs_before (within_call rfl) htr fun tr now htr => ?_
      refine logs_before (within_call rfl) htr fun tr wallet htr => ?_
      split
      · exact logs_sendDigest htr
      · exact logs_markAsSent tr
    · exact logs_markAsSent tr

end attempt

/-- An attempt at a digest that has returned marked the entries; one that threw dispatched nothing. -/
theorem settled_of_runs {task : Task} {q : Gateway Answer} (hid : id ∈ task.digested)
    (hr : Runs (gateway env).handler (task.code env) tr q) (hl : Async.Obeys MarkHeard tr) :
    (∀ a, q = .ret a → ∃ e ∈ tr, Marked task.digested e) ∧ ∀ err, q = .throw err → dispatched tr = false := by
  cases task with
  | deliverDigest data =>
    have hlogs : Logs (World.handle env) MarkHeard (fun _ => True)
        (SettlesMarked (data.entries.map (·.id))) ((Task.deliverDigest data).code env) [] :=
      (logs_processDigest rfl).bind (fun _ _ h => h) fun _ _ h => h
    have hq := (hr.logs hlogs trivial hl).2
    constructor
    · rintro a rfl
      rcases hq with hnil | he
      · rw [Task.digested, hnil] at hid
        cases hid
      · exact he
    · rintro err rfl
      exact hq
  | _ => cases hid

/-! ### Marks stay -/

/-- Entries keep their places, and marks are not taken back. -/
structure KeepsEntries (s s' : World) : Prop where
  rows : ∀ (id : Nat) (r : DigestRow), s.digestRows[id]? = some r → ∃ r' : DigestRow,
    s'.digestRows[id]? = some r' ∧ r'.id = r.id ∧ (r.sentAt.isSome = true → r'.sentAt.isSome = true)
  numbered : s.EntriesNumbered → s'.EntriesNumbered

theorem KeepsEntries.of_eq (h : s'.digestRows = s.digestRows) : KeepsEntries s s' := by
  refine ⟨fun id r hr => ⟨r, by rw [h, hr], rfl, fun h => h⟩, fun hn => ?_⟩
  unfold World.EntriesNumbered
  rwa [h]

theorem KeepsEntries.markedSent (h : KeepsEntries s s') (hm : s.MarkedSent id) : s'.MarkedSent id := by
  obtain ⟨r, hr, hsent⟩ := hm
  obtain ⟨r', hr', -, hmark⟩ := h.rows id r hr
  exact ⟨r', hr', hmark hsent⟩

theorem keepsEntries_handle : KeepsEntries s (World.handle env c s o).2 := by
  by_cases ht : o.table = .digests
  · refine handle_rel (.of_eq rfl) ?_ fun _ => .of_eq rfl
    cases o with
    | digestCreate walletHash protocolId subject category time =>
      refine ⟨fun id r hr => ⟨r, ?_, rfl, fun h => h⟩, fun hn i r hr => ?_⟩
      · exact (List.getElem?_append_left (List.getElem?_eq_some_iff.1 hr).1).trans hr
      · simp only [World.serve, World.reply] at hr
        rcases Nat.lt_trichotomy i s.digestRows.length with hi | rfl | hi
        · rw [List.getElem?_append_left hi] at hr
          exact hn i r hr
        · rw [List.getElem?_concat_length] at hr
          rw [← Option.some.inj hr]
        · rw [List.getElem?_eq_none (by simp; omega)] at hr
          cases hr
    | digestMarkSent ids now =>
      have hrow : ∀ i, (s.serve env c (.digestMarkSent ids now)).2.digestRows[i]? =
          s.digestRows[i]?.map fun r : DigestRow => if ids.contains r.id then { r with sentAt := some now } else r :=
        fun i => List.getElem?_map
      refine ⟨fun id r hr => ?_, fun hn i r' hr' => ?_⟩
      · rw [hrow, hr, Option.map_some]
        by_cases hmem : ids.contains r.id = true
        · exact ⟨_, rfl, by rw [if_pos hmem], fun _ => by rw [if_pos hmem]; rfl⟩
        · exact ⟨r, by rw [if_neg hmem], rfl, fun hsent => hsent⟩
      · rw [hrow] at hr'
        obtain ⟨r, hr, rfl⟩ := Option.map_eq_some_iff.1 hr'
        have hid := hn i r hr
        split <;> exact hid
    | _ => cases ht
  · exact .of_eq (handle_untouched.digests ht)

/-- A mark that is heard of is there. -/
theorem markedSent_of_marked (hn : s.EntriesNumbered) {ids : List Nat}
    (hm : Marked ids ((gateway env).handler.event c s o)) (hid : id ∈ ids)
    (hstored : id < s.digestRows.length) : (World.handle env c s o).2.MarkedSent id := by
  obtain ⟨⟨now, ho⟩, a, hr⟩ := hm
  obtain rfl : o = .digestMarkSent ids now := ho
  have hserve := @handle_ok env c s (.digestMarkSent ids now) _ hr
  obtain ⟨r, hrow⟩ : ∃ r, s.digestRows[id]? = some r := ⟨_, List.getElem?_eq_getElem hstored⟩
  have hmem : ids.contains r.id = true := by
    rw [hn id r hrow]
    exact List.contains_iff_mem.2 hid
  refine ⟨{ r with sentAt := some now }, ?_, rfl⟩
  rw [hserve]
  refine (List.getElem?_map ..).trans ?_
  rw [hrow, Option.map_some, if_pos hmem]

/-! ### Runs -/

variable {p p' : GatewayPool} {l : GatewayLabel} {ls : List GatewayLabel}

/-- What holds in every pool that a run reaches. -/
structure DigestsInvariant (env : Env) (p : GatewayPool) : Prop where
  traced : (gateway env).Traced p
  numbered : p.store.EntriesNumbered
  lawful : System.Histories (fun _ => MarkHeard) p
  stored : ∀ t ∈ p.threads, ∀ id ∈ t.request.digested, id < p.store.digestRows.length
  marked : ∀ t ∈ p.threads, ∀ e ∈ t.trace, Marked t.request.digested e →
    ∀ id ∈ t.request.digested, p.store.MarkedSent id
  /-- An attempt whose entry was taken up again had ended without a dispatch. -/
  spent : ∀ (i j : Nat) t t', i < j → p.threads[i]? = some t → p.threads[j]? = some t' →
    ∀ id ∈ t.request.digested, id ∈ t'.request.digested →
      t.prog.running = false ∧ dispatched t.trace = false

theorem keepsEntries_step (h : (gateway env).step p l = some p') : KeepsEntries p.store p'.store :=
  System.store_rel h (fun _ => .of_eq rfl) (fun _ _ _ => keepsEntries_handle) fun _ _ _ he =>
    .of_eq (change_ownTables he).digests

theorem stored_step (hok : EntriesOwned p l) (h : (gateway env).step p l = some p')
    (hp : DigestsInvariant env p) :
    ∀ t ∈ p'.threads, ∀ id ∈ t.request.digested, id < p'.store.digestRows.length := by
  intro t' ht' id hid
  have hlt : id < p.store.digestRows.length := by
    obtain ⟨i, hi⟩ := List.mem_iff_getElem?.1 ht'
    rcases System.request_cases h hi with ⟨t, ht, hreq⟩ | ⟨r, rfl, -, rfl⟩
    · exact hp.stored t (List.mem_of_getElem? ht) id (hreq ▸ hid)
    · obtain ⟨r, hr, -⟩ := (hok id hid).1
      exact (List.getElem?_eq_some_iff.1 hr).1
  obtain ⟨r', hr', -⟩ := (keepsEntries_step h).rows id _ (List.getElem?_eq_getElem hlt)
  exact (List.getElem?_eq_some_iff.1 hr').1

theorem marked_step (h : (gateway env).step p l = some p') (hp : DigestsInvariant env p) :
    ∀ t ∈ p'.threads, ∀ e ∈ t.trace, Marked t.request.digested e →
      ∀ id ∈ t.request.digested, p'.store.MarkedSent id := by
  intro t' ht' e he hm id hid
  have hkeep := keepsEntries_step h
  obtain ⟨i, hi⟩ := List.mem_iff_getElem?.1 ht'
  rcases System.thread_cases h hi with ht | ⟨r, -, -, -, rfl⟩ | ⟨t, c, k, -, ht, -, -, rfl⟩ |
    ⟨t, c, o, k, -, ht, -, hstore, rfl⟩
  · exact hkeep.markedSent (hp.marked t' (List.mem_of_getElem? ht) e he hm id hid)
  · cases he
  · exact hkeep.markedSent (hp.marked t (List.mem_of_getElem? ht) e he hm id hid)
  · have hmem := List.mem_of_getElem? ht
    rcases List.mem_append.1 he with he | he
    · exact hkeep.markedSent (hp.marked t hmem e he hm id hid)
    · rw [List.mem_singleton.1 he] at hm
      rw [hstore]
      exact markedSent_of_marked hp.numbered hm hid (hp.stored t hmem id hid)

/-- An attempt that is not under way and whose entry is not marked has dispatched nothing. -/
theorem undispatched_of_unsent (hp : DigestsInvariant env p) {t : GatewayThread} (ht : t ∈ p.threads)
    (hid : id ∈ t.request.digested) (hend : t.prog.running = false) (hun : p.store.Unsent id) :
    dispatched t.trace = false := by
  obtain ⟨i, hr⟩ := hp.traced.of_mem ht
  obtain ⟨hret, hthrow⟩ := settled_of_runs hid hr (hp.lawful t ht)
  cases hprog : t.prog with
  | ret a =>
    obtain ⟨e, he, hm⟩ := hret a hprog
    obtain ⟨r, hr, hsent⟩ := hp.marked t ht e he hm id hid
    obtain ⟨r', hr', hnone⟩ := hun
    obtain rfl := Option.some.inj (hr.symm.trans hr')
    rw [hnone] at hsent
    cases hsent
  | throw err => exact hthrow err hprog
  | choose k =>
    rw [hprog] at hend
    cases hend
  | call o k =>
    rw [hprog] at hend
    cases hend

theorem spent_step (hok : EntriesOwned p l) (h : (gateway env).step p l = some p')
    (hp : DigestsInvariant env p) (i j : Nat) (t t' : GatewayThread) (hij : i < j)
    (ht : p'.threads[i]? = some t) (ht' : p'.threads[j]? = some t') (id : Nat)
    (hid : id ∈ t.request.digested) (hid' : id ∈ t'.request.digested) :
    t.prog.running = false ∧ dispatched t.trace = false := by
  rcases System.request_cases h ht' with ⟨u', hu', hreq'⟩ | ⟨task, rfl, hj, rfl⟩
  · rcases System.request_cases h ht with ⟨u, hu, hreq⟩ | ⟨_, -, hi, -⟩
    · have hspent := hp.spent i j u u' hij hu hu' id (hreq ▸ hid) (hreq' ▸ hid')
      obtain rfl := System.ended_step h hu ht hspent.1
      exact hspent
    · exact absurd (List.getElem?_eq_some_iff.1 hu').1 (by omega)
  · -- the entry is taken up again by an attempt that arrives
    obtain ⟨hun, hfree⟩ := hok id hid'
    rcases System.thread_cases h ht with hold | ⟨_, -, hi, -, -⟩ | ⟨_, _, _, hl, -⟩ | ⟨_, _, _, _, hl, -⟩
    · have hmem := List.mem_of_getElem? hold
      have hend : t.prog.running = false := Bool.eq_false_iff.2 fun hrun => hfree t hmem hrun hid
      exact ⟨hend, undispatched_of_unsent hp hmem hid hend hun⟩
    · omega
    · cases hl
    · cases hl

theorem digestsInvariant_step (hok : EntriesOwned p l) (h : (gateway env).step p l = some p')
    (hp : DigestsInvariant env p) : DigestsInvariant env p' where
  traced := hp.traced.step h
  numbered := (keepsEntries_step h).numbered hp.numbered
  lawful := hp.lawful.step h fun i c t o k hl ht hprog hm hd => by
    subst hl
    exact hok t ht o (by rw [hprog]; rfl) hm hd
  stored := stored_step hok h hp
  marked := marked_step h hp
  spent := spent_step hok h hp

/-- Where digests are attempted only while nobody has their entries, and no mark of what was dispatched
is lost, no entry is in two digests that were dispatched. -/
theorem entries_digested_once (hs : s.EntriesNumbered)
    (hok : (gateway env).Keeps EntriesOwned (Pool.empty s) ls)
    (hr : (gateway env).run (Pool.empty s) ls = some p) : DigestedOnce p := by
  have hp : DigestsInvariant env p := System.Keeps.induction
    (fun p l p' hok hp h => digestsInvariant_step hok h hp) hok hr
    ⟨System.traced_empty s, hs, System.histories_empty s, fun _ ht => absurd ht List.not_mem_nil,
      fun _ ht => absurd ht List.not_mem_nil, fun _ _ _ _ _ ht => by cases ht⟩
  refine List.pairwise_iff_getElem.2 fun i j hi hj hij hd _ id hid hid' => ?_
  have hspent := hp.spent i j _ _ hij (List.getElem?_eq_getElem hi) (List.getElem?_eq_getElem hj) id hid hid'
  rw [hspent.2] at hd
  cases hd

/-! ### Runs that keep and break it -/

/-- A buffered notification that is due. -/
def bufferedRow : DigestRow where
  id := 0
  walletHash := js "w"
  protocolId := js "p"
  subject := js "Margin"
  category := js "defi"
  queuedAt := 0
  scheduledFor := 0
  sentAt := none

/-- An installation in which it waits for its subscriber. -/
def bufferedWorld : World :=
  { World.blank with
    notifications := [queuedRow]
    digestRows := [bufferedRow]
    subscriptions := [⟨some (js "w"), js "w", js "p", [js "email"], true, 0⟩]
    chain := fun _ => some recipient }

/-- The digest job of its wallet. -/
def bufferedDigest : DigestJobData := ⟨js "w", [bufferedRow.entry]⟩

/-- A flush enqueues the job. -/
def flushedOnce : List GatewayLabel := .arrive .flushDigests :: proceeds 0 4

/-- The `i`-th task, an attempt of the job, makes `n` calls. -/
def digestAttempt (i n : Nat) : List GatewayLabel := .arrive (.deliverDigest bufferedDigest) :: proceeds i n

/-- The first attempt does not get at the database, and the second one sends the digest. -/
def digestRetried : List GatewayLabel :=
  flushedOnce ++ digestAttempt 1 1 ++ meets 1 timeout :: digestAttempt 2 20

theorem entries_digested_once_digestRetried :
    ∃ p ∈ replayFrom bufferedWorld digestRetried, DigestedOnce p ∧
      p.threads.countP (fun t => dispatched t.trace) = 1 := by
  have hs : bufferedWorld.EntriesNumbered := by
    intro i r hr
    obtain ⟨hi, rfl⟩ := List.getElem?_eq_some_iff.1 hr
    obtain rfl : i = 0 := Nat.lt_one_iff.1 hi
    rfl
  obtain ⟨⟨p, hp, hsent⟩, hok⟩ :
      (∃ p ∈ replayFrom bufferedWorld digestRetried, p.threads.countP (fun t => dispatched t.trace) = 1) ∧
      (gateway Env.transparent).Keeps EntriesOwned (Pool.empty bufferedWorld) digestRetried := by
    decide +kernel
  exact ⟨p, hp, entries_digested_once hs hok hp, hsent⟩

/-- The digest is sent, but the database does not take the mark, so BullMQ makes another attempt. -/
def markLost : List GatewayLabel := flushedOnce ++ digestAttempt 1 19 ++ meets 1 timeout :: digestAttempt 2 18

/-- The next flush finds the entry while its job still waits. -/
def flushedTwice : List GatewayLabel :=
  flushedOnce ++ .outside (.tick 3600000) :: .arrive .flushDigests :: proceeds 1 4 ++ digestAttempt 2 20 ++
    digestAttempt 3 18

theorem entry_digested_twice :
    ((gateway Env.transparent).Keeps Legal (Pool.empty bufferedWorld) markLost ∧
        ∃ p ∈ replayFrom bufferedWorld markLost, ¬ DigestedOnce p) ∧
      (gateway Env.transparent).Keeps Legal (Pool.empty bufferedWorld) flushedTwice ∧
        ∃ p ∈ replayFrom bufferedWorld flushedTwice, ¬ DigestedOnce p := by
  refine ⟨⟨?_, ?_⟩, ?_, ?_⟩ <;> decide +kernel

end HeraldGateway
