import HeraldGateway.Scheduling.Proofs.PassProofs
import Mathlib.Data.List.Pairwise

/-!
# Scheduled sends fire once if passes are not disturbed

A pass sets a schedule running without looking at it again, so two passes that found the same one fire it
twice. Where no pass finds what another one has in hand, every schedule waits for the pass that found it.
-/

namespace HeraldGateway

open Async

variable {env : Env} {c : Choice} {s s' : World} {o : Op} {r : ScheduledNotification}

/-! ### Schedules that wait -/

/-- A schedule that waits goes on waiting. -/
def KeepsWaiting (r : ScheduledNotification) (s s' : World) : Prop := s.Waits r → s'.Waits r

theorem KeepsWaiting.of_eq (h : s'.scheduled = s.scheduled) : KeepsWaiting r s s' := fun hw => by
  unfold World.Waits
  rwa [h]

theorem keepsWaiting_handle (hn : s.Numbered) (ho : o.updates r.id = false) :
    KeepsWaiting r s (World.handle env c s o).2 := by
  by_cases ht : o.table = .scheduled
  · refine handle_rel (.of_eq rfl) ?_ fun _ => .of_eq rfl
    cases o with
    | scheduledCreate data =>
      have hlt : ∀ row, s.scheduled[r.id]? = some row →
          (s.scheduled ++ [data s.scheduled.length])[r.id]? = some row := fun row h => by
        rw [List.getElem?_append_left (List.getElem?_eq_some_iff.1 h).1, h]
      exact fun hw => hw.imp (hlt _) (hlt _)
    | scheduledUpdate id u =>
      simp only [World.serve]
      split
      · have hkeep : ∀ row, s.scheduled[r.id]? = some row →
            (updateWhere (·.id == id) u s.scheduled)[r.id]? = some row := fun row h => by
          have hne : row.id ≠ id := fun heq =>
            beq_eq_false_iff_ne.1 ho (heq.symm.trans (hn _ row h))
          simp [updateWhere, h, hne]
        exact fun hw => hw.imp (hkeep _) (hkeep _)
      · exact .of_eq rfl
    | scheduledCancel id protocolId =>
      intro hw
      simp only [World.Waits, World.serve, World.reply, updateWhere, List.getElem?_map]
      rcases hw with hw | hw
      · rw [hw]
        simp only [Option.map_some, Option.some.injEq]
        split
        · exact .inr rfl
        · exact .inl rfl
      · rw [hw]
        simp
    | _ => cases ht
  · exact .of_eq (handle_untouched.scheduled ht)

/-- A schedule that is found due is as it was found. -/
theorem waits_of_found (hn : s.Numbered) (hr : r ∈ dueRows o (World.handle env c s o).1) :
    (World.handle env c s o).2.Waits r := by
  cases o with
  | scheduledFindOverdue now =>
    cases hrep : (World.handle env c s (.scheduledFindOverdue now)).1 with
    | error e =>
      rw [hrep] at hr
      cases hr
    | ok rows =>
      rw [hrep] at hr
      obtain ⟨n, hrow⟩ := List.mem_iff_getElem?.1 (overdue_stored hrep r hr)
      obtain rfl := hn n r hrow
      have hsame : (World.handle env c s (.scheduledFindOverdue now)).2.scheduled = s.scheduled :=
        handle_untouched.scheduled nofun
      exact .inl (hsame ▸ hrow)
  | _ => cases hr

/-! ### What a pass has in hand -/

variable {tr : List GatewayEvent} {e : GatewayEvent}

theorem foundDue_eq_nil (h : tr.countP (·.op.findsDue) = 0) : foundDue tr = [] := by
  refine List.flatMap_eq_nil_iff.2 fun e he => ?_
  have hfind := List.countP_eq_zero.1 h e he
  obtain ⟨choice, before, o, reply, after⟩ := e
  cases o with
  | scheduledFindOverdue => exact absurd rfl hfind
  | _ => rfl

theorem dueRows_of_updates {id : Nat} (h : e.op.updates id = true) : dueRows e.op e.reply = [] := by
  obtain ⟨choice, before, o, reply, after⟩ := e
  cases o with
  | scheduledUpdate => rfl
  | _ => cases h

theorem findsDue_of_dueRows (h : r ∈ dueRows e.op e.reply) : e.op.findsDue = true := by
  obtain ⟨choice, before, o, reply, after⟩ := e
  cases o with
  | scheduledFindOverdue => rfl
  | _ => cases h

/-- A pass that writes a schedule has it in hand. -/
theorem inHand_of_updates {t : GatewayThread} {id : Nat} (hI : PassInvariant (t.trace ++ [e]))
    (h : e.op.updates id = true) : InHand id t := by
  have hcount := hI.twice id
  rw [List.countP_append, List.countP_singleton, if_pos h] at hcount
  have hfound : id ∈ (foundDue (t.trace ++ [e])).map (·.id) := by
    by_contra hno
    have hzero := hI.found id hno
    rw [List.countP_append, List.countP_singleton, if_pos h] at hzero
    omega
  rw [foundDue_append, dueRows_of_updates h, List.append_nil] at hfound
  obtain ⟨r, hr, hid⟩ := List.mem_map.1 hfound
  exact ⟨⟨r, hr, hid⟩, hcount⟩

/-- What a pass finds it has not written yet. -/
theorem find?_eq_none_of_found (hI : PassInvariant (tr ++ [e])) (htr : PassInvariant tr)
    (hr : r ∈ dueRows e.op e.reply) : tr.find? (·.op.updates r.id) = none := by
  have hreads := hI.reads
  rw [List.countP_append, List.countP_singleton, if_pos (findsDue_of_dueRows hr)] at hreads
  have hnil : foundDue tr = [] := foundDue_eq_nil (by omega)
  have hzero := htr.found r.id (by simp [hnil])
  exact List.find?_eq_none.2 fun e he => List.countP_eq_zero.1 hzero e he

/-! ### Runs -/

variable {p p' : GatewayPool} {l : GatewayLabel} {ls : List GatewayLabel}

/-- How passes stand to each other and to the schedules they found: no two have the same one in hand, and
each schedule waits for its pass until it is written. -/
structure PassesStand (p : GatewayPool) : Prop where
  apart : ∀ (i j : Nat) t u, i ≠ j → p.threads[i]? = some t → p.threads[j]? = some u →
    t.request = .reconcile → u.request = .reconcile → ∀ id, InHand id t → ¬ InHand id u
  waiting : ∀ (i : Nat) t, p.threads[i]? = some t → t.request = .reconcile → ∀ r ∈ foundDue t.trace,
    t.trace.find? (·.op.updates r.id) = none → p.store.Waits r
  waited : ∀ (i : Nat) t, p.threads[i]? = some t → t.request = .reconcile → ∀ r ∈ foundDue t.trace,
    ∀ e ∈ t.trace.find? (·.op.updates r.id), e.before.Waits r

theorem passesStand_empty (s : World) : PassesStand (Pool.empty s) := by
  refine ⟨fun _ _ _ _ _ ht => ?_, fun _ _ ht => ?_, fun _ _ ht => ?_⟩ <;> cases ht

/-- Where no call is answered and no schedule changes, passes stand as before. -/
theorem passesStand_quiet (hs : p'.store.scheduled = p.store.scheduled)
    (hthreads : ∀ (i : Nat) t', p'.threads[i]? = some t' → t'.trace = [] ∨
      ∃ t, p.threads[i]? = some t ∧ t'.request = t.request ∧ t'.trace = t.trace)
    (hp : PassesStand p) : PassesStand p' := by
  have old : ∀ (i : Nat) t' (r : ScheduledNotification), p'.threads[i]? = some t' → t'.request = .reconcile →
      r ∈ foundDue t'.trace → ∃ t, p.threads[i]? = some t ∧ t.request = .reconcile ∧ t'.trace = t.trace := by
    intro i t' r ht' hreq hr
    rcases hthreads i t' ht' with hnil | ⟨t, ht, hreq', htr⟩
    · rw [hnil] at hr
      cases hr
    · exact ⟨t, ht, hreq' ▸ hreq, htr⟩
  refine ⟨fun i j t' u' hij ht' hu' hreq hreq' id hin hin' => ?_, fun i t' ht' hreq r hr hnone => ?_,
    fun i t' ht' hreq r hr e he => ?_⟩
  · obtain ⟨r, hr, -⟩ := hin.1
    obtain ⟨r', hr', -⟩ := hin'.1
    obtain ⟨t, ht, hreq, htr⟩ := old i t' r ht' hreq hr
    obtain ⟨u, hu, hreq', hur⟩ := old j u' r' hu' hreq' hr'
    unfold InHand at hin hin'
    rw [htr] at hin
    rw [hur] at hin'
    exact hp.apart i j t u hij ht hu hreq hreq' id hin hin'
  · obtain ⟨t, ht, hreq, htr⟩ := old i t' r ht' hreq hr
    rw [htr] at hr hnone
    exact KeepsWaiting.of_eq hs (hp.waiting i t ht hreq r hr hnone)
  · obtain ⟨t, ht, hreq, htr⟩ := old i t' r ht' hreq hr
    rw [htr] at hr he
    exact hp.waited i t ht hreq r hr e he

/-- What holds in every pool whose passes were not disturbed. -/
structure FiringInvariant (env : Env) (p : GatewayPool) : Prop where
  traced : (gateway env).Traced p
  numbered : p.store.Numbered
  lawful : System.Histories (fun task tr e => task = .reconcile → PassLaw tr e) p
  stand : PassesStand p

/-- What a pass did kept the invariant, and what is left of it will. -/
theorem logs_of_pass (hp : (gateway env).Traced p)
    (hl : System.Histories (fun task tr e => task = .reconcile → PassLaw tr e) p) {t : GatewayThread}
    (ht : t ∈ p.threads) (hreq : t.request = .reconcile) :
    PassInvariant t.trace ∧ Gateway.Logs env (fun tr _ => PassEnded tr) t.prog t.trace := by
  obtain ⟨i, hrun⟩ := hp.of_mem ht
  rw [hreq] at hrun
  refine hrun.logs logs_reconcile ?_ fun pre e post heq => hl t ht pre e post heq hreq
  exact passAt_nil.invariant List.nil_prefix (Nat.zero_le 1) List.nodup_nil nofun

/-- Only passes write schedules. -/
theorem reconcile_of_updates (hp : (gateway env).Traced p) {i id : Nat} {t : GatewayThread}
    {k : Except Err o.Res → Gateway Answer} (ht : p.threads[i]? = some t) (hprog : t.prog = .call o k)
    (ho : o.updates id = true) : t.request = .reconcile := by
  by_contra hne
  have hrun := hp i t ht
  rw [hprog] at hrun
  have hcode : (t.request.code env).Within (fun o => o.updates id = false) fun _ _ => True := by
    refine within_code_of_quiet (fun o hq => ?_) (fun _ => rfl) (fun _ => rfl) fun h => absurd h hne
    cases o with
    | scheduledUpdate => cases hq
    | _ => rfl
  have hfalse : o.updates id = false := (hrun.along hcode fun _ _ => trivial).1.1
  rw [ho] at hfalse
  cases hfalse

/-- A call of an undisturbed pass, or of another task, leaves passes as they should stand. -/
theorem passesStand_call {i : Nat} {c : Bool × Choice} {t : GatewayThread}
    {k : Except Err o.Res → Gateway Answer} (hp : FiringInvariant env p)
    (hok : PassUndisturbed env p (.pick i c)) (ht : p.threads[i]? = some t) (hprog : t.prog = .call o k)
    (hstore : p'.store = (World.handle env c.2 p.store o).2)
    (hthreads : ∀ (j : Nat) t', p'.threads[j]? = some t' → (j ≠ i ∧ p.threads[j]? = some t') ∨
      j = i ∧ t' = { t with
        trace := t.trace ++ [(gateway env).handler.event c.2 p.store o]
        prog := k (World.handle env c.2 p.store o).1 }) : PassesStand p' := by
  have hnext : o ∈ t.prog.next? := by rw [hprog]; rfl
  -- what the pass keeps, before and after the call
  have hlogs : t.request = .reconcile → PassInvariant t.trace ∧
      PassInvariant (t.trace ++ [(gateway env).handler.event c.2 p.store o]) := fun hreq => by
    obtain ⟨hI, hlogs⟩ := logs_of_pass hp.traced hp.lawful (List.mem_of_getElem? ht) hreq
    rw [hprog] at hlogs
    exact ⟨hI, (hlogs c.2 p.store ⟨(hok t ht hreq o hnext).1, hp.numbered⟩).1⟩
  -- a schedule that waits for a pass is not written by another one
  have hkeeps : ∀ (j : Nat) u, j ≠ i → p.threads[j]? = some u → u.request = .reconcile →
      ∀ r ∈ foundDue u.trace, u.trace.find? (·.op.updates r.id) = none → p'.store.Waits r := by
    intro j u hj hu hreq r hr hnone
    rw [hstore]
    refine keepsWaiting_handle hp.numbered ?_ (hp.stand.waiting j u hu hreq r hr hnone)
    by_contra hupd
    have hupd : o.updates r.id = true := Bool.of_not_eq_false hupd
    have hreq' := reconcile_of_updates hp.traced ht hprog hupd
    refine hp.stand.apart i j t u (Ne.symm hj) ht hu hreq' hreq r.id
      (inHand_of_updates (hlogs hreq').2 hupd) ⟨⟨r, hr, rfl⟩, ?_⟩
    rw [List.countP_eq_zero.2 fun e he => List.find?_eq_none.1 hnone e he]
    exact Nat.zero_lt_two
  -- what the stepping pass has in hand it had in hand before, or has just found
  have hhand : ∀ id t', t'.trace = t.trace ++ [(gateway env).handler.event c.2 p.store o] →
      InHand id t' → InHand id t ∨ ∃ r ∈ dueRows o (World.handle env c.2 p.store o).1, r.id = id := by
    rintro id t' htr ⟨⟨r, hr, hid⟩, hcount⟩
    rw [htr] at hr hcount
    rw [List.countP_append] at hcount
    rw [foundDue_append] at hr
    rcases List.mem_append.1 hr with hr | hr
    · exact .inl ⟨⟨r, hr, hid⟩, Nat.lt_of_le_of_lt (Nat.le_add_right _ _) hcount⟩
    · exact .inr ⟨r, hr, hid⟩
  have hapart : ∀ (j : Nat) t' u, j ≠ i → p.threads[j]? = some u → t.request = .reconcile →
      u.request = .reconcile → t'.trace = t.trace ++ [(gateway env).handler.event c.2 p.store o] →
        ∀ id, InHand id t' → ¬ InHand id u := by
    intro j t' u hj hu hreq hreq' htr id hin hin'
    rcases hhand id t' htr hin with hin | ⟨r, hr, rfl⟩
    · exact hp.stand.apart i j t u (Ne.symm hj) ht hu hreq hreq' id hin hin'
    · obtain ⟨hlt, rfl⟩ := List.getElem?_eq_some_iff.1 hu
      exact (hok t ht hreq o hnext).2 r hr ⟨j, hlt⟩ hj hin'
  refine ⟨fun a b t₁ t₂ hab h₁ h₂ hreq₁ hreq₂ id hin₁ hin₂ => ?_, fun j t' ht' hreq r hr hnone => ?_,
    fun j t' ht' hreq r hr e he => ?_⟩
  · rcases hthreads a t₁ h₁ with ⟨ha, h₁⟩ | ⟨rfl, rfl⟩ <;> rcases hthreads b t₂ h₂ with ⟨hb, h₂⟩ | ⟨rfl, rfl⟩
    · exact hp.stand.apart a b t₁ t₂ hab h₁ h₂ hreq₁ hreq₂ id hin₁ hin₂
    · exact hapart a _ t₁ ha h₁ hreq₂ hreq₁ rfl id hin₂ hin₁
    · exact hapart b _ t₂ hb h₂ hreq₁ hreq₂ rfl id hin₁ hin₂
    · exact absurd rfl hab
  · rcases hthreads j t' ht' with ⟨hj, ht'⟩ | ⟨rfl, rfl⟩
    · exact hkeeps j t' hj ht' hreq r hr hnone
    · rw [foundDue_append] at hr
      rw [List.find?_append, Option.or_eq_none_iff] at hnone
      have hupd : o.updates r.id = false := Bool.eq_false_iff.2 fun h =>
        List.find?_eq_none.1 hnone.2 _ List.mem_cons_self h
      rw [hstore]
      rcases List.mem_append.1 hr with hr | hr
      · exact keepsWaiting_handle hp.numbered hupd (hp.stand.waiting j t ht hreq r hr hnone.1)
      · exact waits_of_found hp.numbered hr
  · rcases hthreads j t' ht' with ⟨hj, ht'⟩ | ⟨rfl, rfl⟩
    · exact hp.stand.waited j t' ht' hreq r hr e he
    · rw [List.find?_append, Option.mem_def, Option.or_eq_some_iff] at he
      rw [foundDue_append] at hr
      rcases he with he | ⟨hnone, he⟩
      · rcases List.mem_append.1 hr with hr | hr
        · exact hp.stand.waited j t ht hreq r hr e he
        · rw [find?_eq_none_of_found (hlogs hreq).2 (hlogs hreq).1 hr] at he
          cases he
      · obtain rfl := List.mem_singleton.1 (List.mem_of_find?_eq_some he)
        have hupd := List.find?_some he
        rw [dueRows_of_updates hupd, List.append_nil] at hr
        exact hp.stand.waiting j t ht hreq r hr hnone

theorem firingInvariant_step (hok : PassUndisturbed env p l) (h : (gateway env).step p l = some p')
    (hp : FiringInvariant env p) : FiringInvariant env p' := by
  have htraced := hp.traced.step h
  have hlawful : System.Histories (fun task tr e => task = .reconcile → PassLaw tr e) p' := by
    refine hp.lawful.step h ?_
    rintro i c t o k rfl ht hprog hreq
    exact ⟨(hok t ht hreq o (by rw [hprog]; rfl)).1, hp.numbered⟩
  refine ⟨htraced, (keepsSchedules_step hp.traced h).numbered hp.numbered, hlawful, ?_⟩
  rcases System.step_kinds h with ⟨hstore, hthreads⟩ | ⟨e, -, he, hthreads⟩ |
    ⟨i, c, t, o, k, rfl, ht, hprog, hstore, hthreads⟩
  · exact passesStand_quiet (congrArg World.scheduled hstore) hthreads hp.stand
  · exact passesStand_quiet (change_ownTables he).scheduled
      (fun i t' ht' => .inr ⟨t', by rwa [← hthreads], rfl, rfl⟩) hp.stand
  · exact passesStand_call hp hok ht hprog hstore hthreads

/-! ### Notifications are stored once -/

/-- What tasks stored is stored, and nothing was stored twice. -/
structure RowsDistinct (p : GatewayPool) : Prop where
  stored : ∀ (i : Nat) t, p.threads[i]? = some t → ∀ id ∈ storedRows t.trace,
    ∃ r ∈ p.store.notifications, r.id = id
  nodup : ∀ (i : Nat) t, p.threads[i]? = some t → (storedRows t.trace).Nodup
  apart : ∀ (i j : Nat) t u, i ≠ j → p.threads[i]? = some t → p.threads[j]? = some u →
    List.Disjoint (storedRows t.trace) (storedRows u.trace)

theorem rowsDistinct_empty (s : World) : RowsDistinct (Pool.empty s) := by
  refine ⟨fun _ _ ht => ?_, fun _ _ ht => ?_, fun _ _ _ _ _ ht => ?_⟩ <;> cases ht

/-- A call stores only a notification whose identifier is new. -/
theorem new_of_storedRow {id : NotificationId}
    (h : storedRow ((gateway env).handler.event c s o) = some id) :
    (∀ r ∈ s.notifications, r.id ≠ id) ∧ ∃ r ∈ (World.handle env c s o).2.notifications, r.id = id := by
  cases o with
  | notificationCreate n =>
    have hafter : (World.handle env c s (.notificationCreate n)).2 = s ∨
        (World.handle env c s (.notificationCreate n)).2 = (s.createNotification n).2 := by
      rcases @handle_cases env c s (.notificationCreate n) with
        h | h | ⟨_, _, _, hn, -⟩
      · exact .inl h
      · exact .inr h
      · cases hn
    have hlt : (if s.notifications.length < (World.handle env c s (.notificationCreate n)).2.notifications.length
        then some n.id else none) = some id := h
    rcases hafter with hw | hw
    · rw [hw, if_neg (Nat.lt_irrefl _)] at hlt
      cases hlt
    · by_cases hc : s.clashes n = true
      · rw [hw, World.createNotification, if_pos hc, if_neg (Nat.lt_irrefl _)] at hlt
        cases hlt
      · rw [hw, World.createNotification, if_neg hc] at hlt ⊢
        simp only [List.length_append, List.length_singleton, Nat.lt_add_one, if_true,
          Option.some.injEq] at hlt
        subst hlt
        refine ⟨fun r hr hid => hc (List.any_eq_true.2 ⟨r, hr, by simp [hid]⟩), _,
          List.mem_append_right _ List.mem_cons_self, rfl⟩
  | _ => cases h

theorem rowsDistinct_step (h : (gateway env).step p l = some p') (hp : RowsDistinct p) :
    RowsDistinct p' := by
  have quiet : (∀ (i : Nat) t', p'.threads[i]? = some t' → t'.trace = [] ∨
      ∃ t, p.threads[i]? = some t ∧ t'.request = t.request ∧ t'.trace = t.trace) →
      KeepsRows p.store p'.store → RowsDistinct p' := by
    intro hthreads hkeeps
    refine ⟨fun i t' ht' id hid => ?_, fun i t' ht' => ?_, fun i j t' u' hij ht' hu' => ?_⟩
    · rcases hthreads i t' ht' with hnil | ⟨t, ht, -, htr⟩
      · rw [hnil] at hid
        cases hid
      · exact hkeeps id (hp.stored i t ht id (htr ▸ hid))
    · rcases hthreads i t' ht' with hnil | ⟨t, ht, -, htr⟩
      · rw [hnil]
        exact List.nodup_nil
      · exact htr ▸ hp.nodup i t ht
    · rcases hthreads i t' ht' with hnil | ⟨t, ht, -, htr⟩
      · rw [hnil]
        exact List.disjoint_nil_left _
      · rcases hthreads j u' hu' with hnil | ⟨u, hu, -, hur⟩
        · rw [hnil]
          exact List.disjoint_nil_right _
        · rw [htr, hur]
          exact hp.apart i j t u hij ht hu
  rcases System.step_kinds h with ⟨hstore, hthreads⟩ | ⟨e, -, he, hthreads⟩ |
    ⟨i, c, t, o, k, rfl, ht, hprog, hstore, hthreads⟩
  · exact quiet hthreads (.of_eq (congrArg World.notifications hstore))
  · exact quiet (fun i t' ht' => .inr ⟨t', by rwa [← hthreads], rfl, rfl⟩) (keepsRows_change he)
  · have hkeeps : KeepsRows p.store p'.store := by
      rw [hstore]
      exact keepsRows_handle
    -- a notification that the call stores is in no history so far
    have hnew : ∀ id ∈ storedRow ((gateway env).handler.event c.2 p.store o),
        (∃ r ∈ p'.store.notifications, r.id = id) ∧
          ∀ (j : Nat) u, p.threads[j]? = some u → id ∉ storedRows u.trace := by
      intro id hid
      obtain ⟨hfresh, hafter⟩ := new_of_storedRow hid
      refine ⟨hstore ▸ hafter, fun j u hu hmem => ?_⟩
      obtain ⟨r, hr, hrid⟩ := hp.stored j u hu id hmem
      exact hfresh r hr hrid
    have hother : ∀ (j : Nat) u, j ≠ i → p.threads[j]? = some u → List.Disjoint
        (storedRows (t.trace ++ [(gateway env).handler.event c.2 p.store o])) (storedRows u.trace) := by
      intro j u hj hu
      rw [storedRows_append, List.disjoint_append_left]
      refine ⟨hp.apart i j t u (Ne.symm hj) ht hu, fun id hid hid' => ?_⟩
      exact (hnew id (Option.mem_toList.1 hid)).2 j u hu hid'
    refine ⟨fun j t' ht' id hid => ?_, fun j t' ht' => ?_, fun a b t₁ t₂ hab h₁ h₂ => ?_⟩
    · rcases hthreads j t' ht' with ⟨-, ht'⟩ | ⟨rfl, rfl⟩
      · exact hkeeps id (hp.stored j t' ht' id hid)
      · rw [storedRows_append] at hid
        rcases List.mem_append.1 hid with hid | hid
        · exact hkeeps id (hp.stored j t ht id hid)
        · exact (hnew id (Option.mem_toList.1 hid)).1
    · rcases hthreads j t' ht' with ⟨-, ht'⟩ | ⟨rfl, rfl⟩
      · exact hp.nodup j t' ht'
      · rw [storedRows_append]
        refine List.Nodup.append (hp.nodup j t ht) ?_ fun id hid hid' => ?_
        · cases storedRow ((gateway env).handler.event c.2 p.store o) with
          | none => exact List.nodup_nil
          | some id => exact List.nodup_singleton id
        · exact (hnew id (Option.mem_toList.1 hid')).2 j t ht hid
    · rcases hthreads a t₁ h₁ with ⟨ha, h₁⟩ | ⟨rfl, rfl⟩ <;>
        rcases hthreads b t₂ h₂ with ⟨hb, h₂⟩ | ⟨rfl, rfl⟩
      · exact hp.apart a b t₁ t₂ hab h₁ h₂
      · exact (hother a t₁ ha h₁).symm
      · exact hother b t₂ hb h₂
      · exact absurd rfl hab

theorem RowsDistinct.nodup_all (hp : RowsDistinct p) :
    (p.threads.flatMap fun t => storedRows t.trace).Nodup := by
  refine List.nodup_flatMap.2 ⟨fun t ht => ?_, List.pairwise_iff_getElem.2 fun i j hi hj hij => ?_⟩
  · obtain ⟨i, hi⟩ := List.mem_iff_getElem?.1 ht
    exact hp.nodup i t hi
  · exact hp.apart i j _ _ hij.ne (List.getElem?_eq_getElem hi) (List.getElem?_eq_getElem hj)

/-! ### Undisturbed runs -/

/-- Where passes are undisturbed and do not find due what another one has in hand, scheduled sends fire
exactly once. -/
theorem sends_fire_once (hs : s.Numbered) (hok : (gateway env).Keeps (PassUndisturbed env) (Pool.empty s) ls)
    (hr : (gateway env).run (Pool.empty s) ls = some p) : SendsFireOnce p := by
  obtain ⟨hI, hrows⟩ : FiringInvariant env p ∧ RowsDistinct p :=
    System.Keeps.induction (I := fun p => FiringInvariant env p ∧ RowsDistinct p)
      (fun _ _ _ hok hp h => ⟨firingInvariant_step hok h hp.1, rowsDistinct_step h hp.2⟩) hok hr
      ⟨⟨System.traced_empty s, hs, System.histories_empty s, passesStand_empty s⟩, rowsDistinct_empty s⟩
  refine ⟨fun t ht hreq => ?_, hrows.nodup_all⟩
  obtain ⟨hpass, hlogs⟩ := logs_of_pass hI.traced hI.lawful ht hreq
  obtain ⟨i, hi⟩ := List.mem_iff_getElem?.1 ht
  refine ⟨hI.stand.waited i t hi hreq, hpass.jobs, hpass.rows, hpass.open_, fun hended => ?_⟩
  cases hprog : t.prog with
  | ret a =>
    rw [hprog] at hlogs
    exact hlogs
  | throw e =>
    rw [hprog] at hlogs
    exact hlogs
  | choose k =>
    rw [hprog] at hended
    cases hended
  | call o k =>
    rw [hprog] at hended
    cases hended

/-! ### Runs that keep and break it -/

/-- A schedule for a wallet that recurs every minute. -/
def everyMinute : ScheduleRecurringDto where
  wallet := some (js "w")
  subject := js "Margin"
  body := js "Add collateral."
  cronExpr := js "*/1 * * * *"

/-- A client stores it, and its first occurrence falls due. -/
def recurringStored : List GatewayLabel :=
  .arrive (.scheduleRecurring everyMinute (client .production)) :: proceeds 0 2 ++
    [.outside (.tick 60000)]

/-- A pass fires the first occurrence. -/
def firstFired : List GatewayLabel := recurringStored ++ .arrive .reconcile :: proceeds 1 8

/-- Another one fires the second occurrence, after BullMQ removed the job of the first. -/
def secondFired : List GatewayLabel :=
  firstFired ++ [.outside (.tick 60000), .outside (.removeJob 0)] ++ .arrive .reconcile :: proceeds 2 8

theorem sends_fire_once_secondFired :
    ∃ p ∈ replayFrom World.blank secondFired, SendsFireOnce p ∧
      p.store.notificationQueue.length = 2 := by
  obtain ⟨⟨p, hp, hqueue⟩, hok⟩ :
      (∃ p ∈ replayFrom World.blank secondFired, p.store.notificationQueue.length = 2) ∧
      (gateway Env.transparent).Keeps (PassUndisturbed Env.transparent) (Pool.empty World.blank) secondFired := by
    decide +kernel
  exact ⟨p, hp, sends_fire_once numbered_blank hok hp, hqueue⟩

/-- The job of the first occurrence is still there when the second one falls due. -/
def secondIgnored : List GatewayLabel :=
  firstFired ++ [.outside (.tick 60000)] ++ .arrive .reconcile :: proceeds 2 8

/-- Two passes find the first occurrence. -/
def foundTwice : List GatewayLabel :=
  recurringStored ++ .arrive .reconcile :: proceeds 1 2 ++ .arrive .reconcile :: proceeds 2 8 ++
    proceeds 1 6

/-- The queue does not take the job of the first occurrence. -/
def enqueueRefused : List GatewayLabel :=
  recurringStored ++ .arrive .reconcile :: proceeds 1 5 ++
    meets 1 (.refused ⟨js "timeout", none, none, none⟩) :: proceeds 1 1

/-- A pass that has ended stored a notification for which it enqueued nothing. -/
def Unfired (t : GatewayThread) : Prop :=
  t.request = .reconcile ∧ t.prog.running = false ∧
    storedRows t.trace ≠ (enqueuedJobs t.trace).map (·.1)

instance (t : GatewayThread) : Decidable (Unfired t) := by unfold Unfired; infer_instance

theorem not_fireOnce_of_unfired {t : GatewayThread} (ht : t ∈ p.threads) (hu : Unfired t) :
    ¬ SendsFireOnce p := fun h => hu.2.2 ((h.passes t ht hu.1).ended hu.2.1).2.1

/-- Second occurrences are not enqueued, nor what two passes find, nor what the queue refuses; the last
also ends the schedule. -/
theorem occurrences_unfired :
    (∃ p ∈ replayFrom World.blank secondIgnored, ¬ SendsFireOnce p) ∧
      (∃ p ∈ replayFrom World.blank foundTwice, ¬ SendsFireOnce p) ∧
        ∃ p ∈ replayFrom World.blank enqueueRefused, ¬ SendsFireOnce p ∧
          p.store.scheduleStatus 0 = some .failed := by
  have hruns : (∃ p ∈ replayFrom World.blank secondIgnored, ∃ t ∈ p.threads, Unfired t) ∧
      (∃ p ∈ replayFrom World.blank foundTwice, ∃ t ∈ p.threads, Unfired t) ∧
        ∃ p ∈ replayFrom World.blank enqueueRefused, (∃ t ∈ p.threads, Unfired t) ∧
          p.store.scheduleStatus 0 = some .failed := by decide +kernel
  obtain ⟨⟨p, hp, t, ht, hu⟩, ⟨p', hp', t', ht', hu'⟩, p'', hp'', ⟨t'', ht'', hu''⟩, hfailed⟩ := hruns
  exact ⟨⟨p, hp, not_fireOnce_of_unfired ht hu⟩, ⟨p', hp', not_fireOnce_of_unfired ht' hu'⟩,
    p'', hp'', not_fireOnce_of_unfired ht'' hu'', hfailed⟩

end HeraldGateway
