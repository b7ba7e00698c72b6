import HeraldGateway.Subscriptions.Audience
import Mathlib.Data.List.Induction
import Mathlib.Data.List.Nodup

/-!
# The audience is what was decided about it

The table holds of every wallet what the decisions about it amount to, so an answer about the audience is one
about the decisions that were carried out before it.
-/

namespace HeraldGateway.Audience

open Async

variable {env : Env} {c : AudienceChoice} {s s' : Store} {o : AudienceOp} {r : Subscription} {d : Decision}
  {ds : List Decision} {st : Option Standing} {walletHash protocolId w h k : JsString} {cs : List JsString}
  {log : List (Nat × AudienceEvent)} {p p' : AudiencePool}

/-! ### What decisions amount to -/

theorem standing_concat : standingAfter (ds ++ [d]) = d.apply (standingAfter ds) := by
  rw [standingAfter, List.foldl_append]
  rfl

theorem apply_isSome : (d.apply st).isSome = (st.isSome || d.brings) := by
  cases st <;> cases d <;> rfl

theorem apply_active : (d.apply st).any (·.active) = ((d.apply st).isSome && decide (d ≠ .leave)) := by
  cases st <;> cases d <;> simp [Decision.apply]

/-- The address and the channels of a standing. -/
def Standing.joined? (st : Standing) : Option (JsString × List JsString) :=
  st.walletPubkey.map fun walletPubkey => (walletPubkey, st.channels)

theorem standing_isSome : (standingAfter ds).isSome = ds.any Decision.brings := by
  induction ds using List.reverseRecOn with
  | nil => rfl
  | append_singleton ds d ih =>
    rw [standing_concat, apply_isSome, ih, List.any_append, List.any_cons, List.any_nil, Bool.or_false]

theorem standing_active : (standingAfter ds).any (·.active) = true ↔ Subscribed ds := by
  rcases List.eq_nil_or_concat ds with rfl | ⟨ds, d, rfl⟩
  · simp [standingAfter, Subscribed]
  · rw [List.concat_eq_append, standing_concat, apply_active, ← standing_concat, standing_isSome, Subscribed,
      Bool.and_eq_true, decide_eq_true_eq, List.getLast?_concat]
    simp

theorem apply_joined : (d.apply st).bind Standing.joined? = d.joined?.or (st.bind Standing.joined?) := by
  cases st <;> cases d <;> rfl

theorem apply_channels : ((d.apply st).map (·.channels)).getD [] =
    (d.joined?.map (·.2)).getD ((st.map (·.channels)).getD []) := by
  cases st <;> cases d <;> rfl

theorem lastJoined_concat : lastJoined? (ds ++ [d]) = d.joined?.or (lastJoined? ds) := by
  rw [lastJoined?, lastJoined?, List.reverse_append]
  cases hd : d.joined? <;> simp [hd]

theorem standing_joined : (standingAfter ds).bind Standing.joined? = lastJoined? ds := by
  induction ds using List.reverseRecOn with
  | nil => rfl
  | append_singleton ds d ih => rw [standing_concat, apply_joined, ih, lastJoined_concat]

theorem standing_channels :
    ((standingAfter ds).map (·.channels)).getD [] = ((lastJoined? ds).map (·.2)).getD [] := by
  induction ds using List.reverseRecOn with
  | nil => rfl
  | append_singleton ds d ih =>
    rw [standing_concat, apply_channels, ih, lastJoined_concat]
    cases d.joined? <;> rfl

/-- A broadcast may address a wallet exactly if its decisions leave it active and with an address. -/
theorem standing_targeted : standingAfter ds = some ⟨some w, cs, true⟩ ↔ Targeted ds w cs := by
  rw [Targeted, ← standing_active, ← standing_joined]
  cases standingAfter ds with
  | none => simp
  | some st =>
    obtain ⟨walletPubkey, channels, active⟩ := st
    cases walletPubkey <;> simp [Standing.joined?, and_comm, and_left_comm]

/-! ### The table -/

/-- The standing that a row stores. -/
def Subscription.standing (r : Subscription) : Standing := ⟨r.walletPubkey, r.channels, r.active⟩

namespace Store

/-- The standing of a wallet at a protocol, as the table has it. -/
def standing (s : Store) (walletHash protocolId : JsString) : Option Standing :=
  (s.find walletHash protocolId).map Subscription.standing

/-- The constraints of the table. -/
structure WellFormed (s : Store) : Prop where
  unique : (s.rows.map Subscription.key).Nodup
  registered : ∀ r ∈ s.rows, s.protocols.contains r.protocolId = true

end Store

theorem isOf_eq_true : r.isOf h k = true ↔ r.key = (h, k) := by
  simp [Subscription.isOf, Subscription.key]

/-- What is found by a key is a row with that key. -/
theorem of_find_eq_some (h' : s.find h k = some r) : r ∈ s.rows ∧ r.key = (h, k) :=
  ⟨List.mem_of_find?_eq_some h', isOf_eq_true.1 (List.find?_some (p := fun r : Subscription => r.isOf h k) h')⟩

theorem key_ne_of_find_eq_none (h' : s.find h k = none) : ∀ r ∈ s.rows, r.key ≠ (h, k) :=
  fun r hr hkey => List.find?_eq_none.1 h' r hr (isOf_eq_true.2 hkey)

/-- Looking a row up by its key finds it. -/
theorem find_eq_some (hs : s.WellFormed) : s.find h k = some r ↔ r ∈ s.rows ∧ r.key = (h, k) := by
  refine ⟨of_find_eq_some, ?_⟩
  rintro ⟨hmem, hkey⟩
  cases hfind : s.find h k with
  | none => exact absurd hkey (key_ne_of_find_eq_none hfind r hmem)
  | some r' =>
    obtain ⟨hmem', hkey'⟩ := of_find_eq_some hfind
    rw [List.inj_on_of_nodup_map hs.unique hmem' hmem (hkey'.trans hkey.symm)]

/-- The protocol of a row that is found exists. -/
theorem contains_of_find (hs : s.WellFormed) (h' : s.find h k = some r) : s.protocols.contains k = true := by
  obtain ⟨hmem, hkey⟩ := of_find_eq_some h'
  obtain rfl : r.protocolId = k := congrArg Prod.snd hkey
  exact hs.registered r hmem

/-- A change of the rows of one wallet and protocol that keeps their keys. -/
theorem find_change {u : Subscription → Subscription} (hu : ∀ r, (u r).key = r.key) :
    (s.change walletHash protocolId u).find h k =
      if (walletHash, protocolId) = (h, k) then (s.find h k).map u else s.find h k := by
  have hsame : (fun r => r.isOf h k) ∘ (fun r => if r.isOf walletHash protocolId then u r else r) =
      fun r => r.isOf h k := by
    funext r
    rw [Function.comp_apply]
    split
    · rw [Bool.eq_iff_iff, isOf_eq_true, isOf_eq_true, hu]
    · rfl
  simp only [Store.find, Store.change, updateWhere, List.find?_map, hsame]
  cases hfind : s.rows.find? fun r => r.isOf h k with
  | none => simp
  | some r =>
    have hkey := (of_find_eq_some (s := s) hfind).2
    rw [Option.map_some, Option.map_some]
    by_cases heq : (walletHash, protocolId) = (h, k)
    · rw [if_pos heq, if_pos (isOf_eq_true.2 (hkey.trans heq.symm))]
    · rw [if_neg heq, if_neg fun hof => heq ((isOf_eq_true.1 hof).symm.trans hkey)]

theorem standing_change {u : Subscription → Subscription} (hu : ∀ r, (u r).key = r.key)
    (hd : ∀ r ∈ s.find h k, Decision.apply (some r.standing) d = some (u r).standing)
    (hnone : (walletHash, protocolId) = (h, k) → s.find h k = none → Decision.apply none d = none) :
    (s.change walletHash protocolId u).standing h k =
      if (walletHash, protocolId) = (h, k) then d.apply (s.standing h k) else s.standing h k := by
  rw [Store.standing, find_change hu]
  split
  · next hkey =>
    rw [Store.standing]
    cases hfind : s.find h k with
    | none => exact (hnone hkey hfind).symm
    | some r => exact (hd r hfind).symm
  · rfl

theorem keys_change {u : Subscription → Subscription} (hu : ∀ r, (u r).key = r.key) :
    (s.change walletHash protocolId u).rows.map Subscription.key = s.rows.map Subscription.key := by
  rw [Store.change, updateWhere, List.map_map]
  refine List.map_congr_left fun r _ => ?_
  rw [Function.comp_apply]
  split
  · exact hu r
  · rfl

theorem Store.WellFormed.of_keys (hs : s.WellFormed)
    (hkeys : s'.rows.map Subscription.key = s.rows.map Subscription.key)
    (hprotocols : ∀ k, s.protocols.contains k = true → s'.protocols.contains k = true) : s'.WellFormed where
  unique := by rw [hkeys]; exact hs.unique
  registered r hr := by
    have hmem : r.key ∈ s.rows.map Subscription.key := hkeys ▸ List.mem_map_of_mem hr
    obtain ⟨r', hr', hkey⟩ := List.mem_map.1 hmem
    have hsame : r'.protocolId = r.protocolId := congrArg Prod.snd hkey
    exact hprotocols _ (hsame ▸ hs.registered r' hr')

theorem standing_upsert {new : Subscription} {u : Subscription → Subscription} (hs : s.WellFormed)
    (hu : ∀ r, (u r).key = r.key) (hnew : Decision.apply none d = some new.standing)
    (hd : ∀ r, Decision.apply (some r.standing) d = some (u r).standing) :
    (s.upsert new u).2.standing h k =
      if s.protocols.contains new.protocolId = true ∧ new.key = (h, k) then d.apply (s.standing h k)
      else s.standing h k := by
  unfold Store.upsert
  cases hfind : s.find new.walletHash new.protocolId with
  | some row =>
    have hregistered := contains_of_find hs hfind
    -- The row that is updated is there, so a decision of a wallet that was never in is not asked for.
    have hnone : (new.walletHash, new.protocolId) = (h, k) → s.find h k = none →
        Decision.apply none d = none := by
      intro heq hn
      obtain ⟨rfl, rfl⟩ := Prod.mk.inj heq
      rw [hfind] at hn
      cases hn
    simp only [hregistered, true_and]
    exact standing_change hu (fun r _ => hd r) hnone
  | none =>
    dsimp only
    by_cases hregistered : s.protocols.contains new.protocolId = true
    · rw [if_pos hregistered]
      simp only [hregistered, true_and]
      unfold Store.standing Store.find
      rw [List.find?_append]
      by_cases hkey : new.key = (h, k)
      · obtain ⟨rfl, rfl⟩ := Prod.mk.inj hkey
        have hnone : s.rows.find? (fun r => r.isOf new.walletHash new.protocolId) = none := hfind
        have hself : new.isOf new.walletHash new.protocolId = true := isOf_eq_true.2 rfl
        rw [hnone, if_pos hkey]
        simp [hself, hnew]
      · have hother : ¬ new.isOf h k = true := fun hof => hkey (isOf_eq_true.1 hof)
        simp [hkey, hother]
    · rw [if_neg hregistered, if_neg fun hboth => hregistered hboth.1]

theorem wellFormed_upsert {new : Subscription} {u : Subscription → Subscription} (hs : s.WellFormed)
    (hu : ∀ r, (u r).key = r.key) : (s.upsert new u).2.WellFormed := by
  unfold Store.upsert
  cases hfind : s.find new.walletHash new.protocolId with
  | some row => exact hs.of_keys (keys_change hu) fun _ hk => hk
  | none =>
    dsimp only
    split
    · next hregistered =>
      refine ⟨?_, fun r hr => ?_⟩
      · have hfresh : new.key ∉ s.rows.map Subscription.key := by
          intro hmem
          obtain ⟨r, hr, hkey⟩ := List.mem_map.1 hmem
          exact key_ne_of_find_eq_none hfind r hr hkey
        rw [List.map_append, List.nodup_append]
        refine ⟨hs.unique, List.nodup_singleton _, ?_⟩
        intro a ha b hb
        obtain rfl := List.mem_singleton.1 hb
        exact fun heq => hfresh (heq ▸ ha)
      · rcases List.mem_append.1 hr with hr | hr
        · exact hs.registered r hr
        · obtain rfl := List.mem_singleton.1 hr
          exact hregistered
    · exact hs

/-! ### Calls -/

/-- A decision that is only carried out under a condition. -/
theorem elim_about {b : Bool} {key : JsString × JsString} {x : Option Standing} :
    ((if b then some (key, d) else none).bind (about h k)).elim x (Decision.apply x) =
      if b = true ∧ key = (h, k) then d.apply x else x := by
  cases b with
  | false => simp
  | true =>
    simp only [if_true, Option.bind_some, about, true_and]
    split <;> rfl

/-- An answered statement changes a standing as the decision says that it carries out. -/
theorem standing_serve (hs : s.WellFormed) :
    (s.serve o).2.standing h k =
      ((if AudienceOp.lands s o then o.decision? else none).bind (about h k)).elim (s.standing h k)
        (Decision.apply (s.standing h k)) := by
  cases o with
  | upsertSubscriber walletPubkey walletHash protocolId channels source =>
    refine (standing_upsert (d := .join walletPubkey channels) hs ?_ ?_ ?_).trans ?_
    · exact fun _ => rfl
    · rfl
    · exact fun _ => rfl
    · simp only [AudienceOp.lands, AudienceOp.decision?, Subscription.key]
      exact elim_about.symm
  | upsertFromPortal walletHash protocolId =>
    refine (standing_upsert (d := .enter) hs ?_ ?_ ?_).trans ?_
    · exact fun _ => rfl
    · rfl
    · exact fun _ => rfl
    · simp only [AudienceOp.lands, AudienceOp.decision?, Subscription.key]
      exact elim_about.symm
  | deactivate walletHash protocolId =>
    refine (standing_change (d := .leave) ?_ ?_ ?_).trans ?_
    · exact fun _ => rfl
    · exact fun _ _ => rfl
    · exact fun _ _ => rfl
    · simp only [AudienceOp.lands, AudienceOp.decision?, about, if_true, Option.bind_some]
      split <;> rfl
  | reactivate walletHash protocolId =>
    refine (standing_change (d := .resume) ?_ ?_ ?_).trans ?_
    · exact fun _ => rfl
    · exact fun _ _ => rfl
    · exact fun _ _ => rfl
    · simp only [AudienceOp.lands, AudienceOp.decision?, about, if_true, Option.bind_some]
      split <;> rfl
  | findUnique | countActive | findTargets | findByWallet => rfl

theorem wellFormed_serve (hs : s.WellFormed) : (s.serve o).2.WellFormed := by
  cases o with
  | upsertSubscriber | upsertFromPortal => exact wellFormed_upsert hs fun _ => rfl
  | deactivate | reactivate => exact hs.of_keys (keys_change fun _ => rfl) fun _ hk => hk
  | findUnique | countActive | findTargets | findByWallet => exact hs

theorem wellFormed_handle (hs : s.WellFormed) : (Store.handle c s o).2.WellFormed := by
  rcases Fault.meet_cases (f := c.fault) (s := s) (r := s.serve o) with hsame | ⟨-, hserved⟩
  · rwa [Store.handle, hsame]
  · rw [Store.handle, hserved]
    exact wellFormed_serve hs

/-- A call changes a standing as the decision says that it is recorded with. -/
theorem standing_handle (hs : s.WellFormed) :
    (Store.handle c s o).2.standing h k =
      ((recorded? (Store.handle.event c s o)).bind (about h k)).elim (s.standing h k)
        (Decision.apply (s.standing h k)) := by
  have hrecorded : recorded? (Store.handle.event c s o) =
      if c.fault.applies && AudienceOp.lands s o then o.decision? else none := rfl
  rw [hrecorded, Store.handle]
  cases c.fault with
  | none | unheard => exact standing_serve hs
  | refused | stalled => rfl

/-- The decisions of a log after one more call. -/
theorem standing_log {i : Nat} {e : AudienceEvent} :
    standingAfter (decisions h k (log ++ [(i, e)])) =
      ((recorded? e).bind (about h k)).elim (standingAfter (decisions h k log))
        (Decision.apply (standingAfter (decisions h k log))) := by
  have hsplit : decisions h k (log ++ [(i, e)]) =
      decisions h k log ++ ((recorded? e).bind (about h k)).toList := by
    rw [decisions, List.filterMap_append]
    cases hx : (recorded? e).bind (about h k) <;> simp [decisions, hx]
  rw [hsplit]
  cases (recorded? e).bind (about h k) with
  | none => rw [Option.toList_none, List.append_nil, Option.elim_none]
  | some d => rw [Option.toList_some, standing_concat, Option.elim_some]

/-! ### Reads -/

/-- The table holds what the decisions of a log amount to. -/
structure Store.Follows (s : Store) (log : List (Nat × AudienceEvent)) : Prop where
  wellFormed : s.WellFormed
  standing : ∀ h k, s.standing h k = standingAfter (decisions h k log)

/-- The decisions amount to a standing exactly if a row stores it. -/
theorem Store.Follows.row_iff (hs : s.Follows log) {st : Standing} :
    standingAfter (decisions h k log) = some st ↔ ∃ r ∈ s.rows, r.key = (h, k) ∧ r.standing = st := by
  rw [← hs.standing, Store.standing, Option.map_eq_some_iff]
  simp only [find_eq_some hs.wellFormed, and_assoc]

theorem Store.Follows.subscribed_iff (hs : s.Follows log) :
    Subscribed (decisions h k log) ↔ ∃ r ∈ s.rows, r.key = (h, k) ∧ r.active = true := by
  rw [← standing_active, Option.any_eq_true_iff_get]
  constructor
  · rintro ⟨hsome, hactive⟩
    obtain ⟨r, hr, hkey, hrow⟩ := hs.row_iff.1 (Option.some_get hsome).symm
    exact ⟨r, hr, hkey, (congrArg Standing.active hrow).trans hactive⟩
  · rintro ⟨r, hr, hkey, hactive⟩
    have hst := hs.row_iff.2 ⟨r, hr, hkey, rfl⟩
    exact ⟨Option.isSome_of_eq_some hst, by simpa [hst, Subscription.standing] using hactive⟩

theorem Store.Follows.targeted_iff (hs : s.Follows log) :
    Targeted (decisions h k log) w cs ↔ ∃ r ∈ s.rows, r.key = (h, k) ∧ r.standing = ⟨some w, cs, true⟩ := by
  rw [← standing_targeted, hs.row_iff]

/-- The rows of one protocol are of different wallets. -/
theorem nodup_wallets (hs : s.WellFormed) {q : Subscription → Bool} (hq : ∀ r, q r = true → r.protocolId = k) :
    ((s.rows.filter q).map (·.walletHash)).Nodup := by
  have hkeys : ((s.rows.filter q).map (·.walletHash)).map (fun h => (h, k)) =
      (s.rows.filter q).map Subscription.key := by
    rw [List.map_map]
    refine List.map_congr_left fun r hr => ?_
    rw [Function.comp_apply, Subscription.key, hq r (List.mem_filter.1 hr).2]
  have hnodup : ((s.rows.filter q).map Subscription.key).Nodup :=
    hs.unique.sublist (List.filter_sublist.map Subscription.key)
  exact (hkeys ▸ hnodup).of_map

theorem tells_check (hs : s.Follows log) :
    ((statusOf (s.find h k)).isSubscribed = true ↔ Subscribed (decisions h k log)) ∧
      (statusOf (s.find h k)).channels = ((lastJoined? (decisions h k log)).map (·.2)).getD [] := by
  have hstatus : (statusOf (s.find h k)).isSubscribed = (s.standing h k).any (·.active) ∧
      (statusOf (s.find h k)).channels = ((s.standing h k).map (·.channels)).getD [] := by
    rw [Store.standing, statusOf]
    cases s.find h k <;> exact ⟨rfl, rfl⟩
  rw [hstatus.1, hstatus.2, hs.standing, standing_active, standing_channels]
  exact ⟨Iff.rfl, rfl⟩

theorem tells_count (hs : s.Follows log) :
    ∃ wallets : List JsString, wallets.Nodup ∧ wallets.length = (s.rows.filter (·.subscribes k)).length ∧
      ∀ h, h ∈ wallets ↔ Subscribed (decisions h k log) := by
  refine ⟨(s.rows.filter (·.subscribes k)).map (·.walletHash), nodup_wallets hs.wellFormed (k := k) ?_,
    List.length_map _, fun h => ?_⟩
  · intro r hr
    simp only [Subscription.subscribes, Bool.and_eq_true, beq_iff_eq] at hr
    exact hr.1
  · rw [hs.subscribed_iff, List.mem_map]
    simp only [List.mem_filter, Subscription.subscribes, Subscription.key, Bool.and_eq_true, beq_iff_eq,
      Prod.mk.injEq]
    constructor
    · rintro ⟨r, ⟨hr, hk, hactive⟩, rfl⟩
      exact ⟨r, hr, ⟨rfl, hk⟩, hactive⟩
    · rintro ⟨r, hr, ⟨rfl, hk⟩, hactive⟩
      exact ⟨r, ⟨hr, hk, hactive⟩, rfl⟩

theorem addressed_eq_true :
    r.addressed k = true ↔ r.protocolId = k ∧ r.active = true ∧ r.walletPubkey.isSome := by
  simp [Subscription.addressed, and_assoc]

theorem target_eq_some : r.target? = some ⟨w, h, cs⟩ ↔
    r.walletPubkey = some w ∧ r.walletHash = h ∧ r.channels = cs := by
  cases hw : r.walletPubkey <;> simp [Subscription.target?, hw]

theorem tells_targets (hs : s.Follows log) :
    (((s.rows.filter (·.addressed k)).filterMap Subscription.target?).map (·.walletHash)).Nodup ∧
      ∀ w h cs, ⟨w, h, cs⟩ ∈ (s.rows.filter (·.addressed k)).filterMap Subscription.target? ↔
        Targeted (decisions h k log) w cs := by
  constructor
  · have hwallets : ((s.rows.filter (·.addressed k)).filterMap Subscription.target?).map (·.walletHash) =
        (s.rows.filter (·.addressed k)).map (·.walletHash) := by
      rw [List.map_filterMap, ← List.filterMap_eq_map]
      refine List.filterMap_congr fun r hr => ?_
      obtain ⟨w, hw⟩ := Option.isSome_iff_exists.1 (addressed_eq_true.1 (List.mem_filter.1 hr).2).2.2
      rw [Function.comp_apply, Subscription.target?, hw]
      rfl
    rw [hwallets]
    exact nodup_wallets hs.wellFormed fun r hr => (addressed_eq_true.1 hr).1
  · intro w h cs
    rw [hs.targeted_iff, List.mem_filterMap]
    simp only [List.mem_filter, addressed_eq_true, target_eq_some, Subscription.key, Subscription.standing,
      Prod.mk.injEq, Standing.mk.injEq]
    constructor
    · rintro ⟨r, ⟨hr, hk, hactive, -⟩, hw, hh, hcs⟩
      exact ⟨r, hr, ⟨hh, hk⟩, hw, hcs, hactive⟩
    · rintro ⟨r, hr, ⟨hh, hk⟩, hw, hcs, hactive⟩
      exact ⟨r, ⟨hr, hk, hactive, by rw [hw]; rfl⟩, hw, hh, hcs⟩

/-! ### Requests -/

/-- What a request does with the reply to its call. -/
def answerWith {o : AudienceOp} (g : o.Res → Response) : Except Err o.Res → Subscriptions Response
  | .ok x => .ret (g x)
  | .error e => .throw e

theorem call_bind {o : AudienceOp} {g : o.Res → Response} :
    (o.call.bind fun x => .ret (g x)) = @Prog.call AudienceCalls Err Response o (answerWith g) := by
  refine congrArg (@Prog.call AudienceCalls Err Response o) (funext fun reply => ?_)
  cases reply <;> rfl

theorem call_bind_bind {β : Type} {o : AudienceOp} {f : o.Res → β} {g : β → Response} :
    ((o.call.bind fun x => .ret (f x)).bind fun y => .ret (g y)) =
      @Prog.call AudienceCalls Err Response o (answerWith fun x => g (f x)) := by
  refine congrArg (@Prog.call AudienceCalls Err Response o) (funext fun reply => ?_)
  cases reply <;> rfl

/-- A request is refused, or makes one call, which carries out its decision or reads what there is to tell. -/
theorem code_cases (env : Env) (req : Request) :
    (∃ e, req.code env = .throw e) ∨ ∃ (o : AudienceOp) (g : o.Res → Response),
      req.code env = @Prog.call AudienceCalls Err Response o (answerWith g) ∧
        o.decision? = req.decision? env ∧
        ∀ (s : Store) log x, s.Follows log → (s.serve o).1 = .ok x → Tells env log req (g x) := by
  cases req with
  | subscribe dto protocolId =>
    by_cases hvalid : dto.valid = true
    · rw [Request.code, if_pos hvalid]
      exact .inr ⟨_, _, call_bind, rfl, fun _ _ _ _ _ => trivial⟩
    · rw [Request.code, if_neg hvalid]
      exact .inl ⟨_, rfl⟩
  | unsubscribe walletAddress protocolId => exact .inr ⟨_, _, call_bind, rfl, fun _ _ _ _ _ => trivial⟩
  | check walletAddress protocolId =>
    by_cases hempty : walletAddress.isEmpty = true
    · rw [Request.code, if_pos hempty]
      exact .inl ⟨_, rfl⟩
    · rw [Request.code, if_neg hempty]
      refine .inr ⟨_, _, call_bind_bind, rfl, fun s log x hs hx => ?_⟩
      obtain rfl := Except.ok.inj hx
      exact tells_check hs
  | subscribeInternal dto => exact .inr ⟨_, _, call_bind, rfl, fun _ _ _ _ _ => trivial⟩
  | list walletHash => exact .inr ⟨_, _, call_bind_bind, rfl, fun _ _ _ _ _ => trivial⟩
  | portalSubscribe walletHash protocolId => exact .inr ⟨_, _, call_bind, rfl, fun _ _ _ _ _ => trivial⟩
  | portalUnsubscribe walletHash protocolId => exact .inr ⟨_, _, call_bind, rfl, fun _ _ _ _ _ => trivial⟩
  | portalResubscribe walletHash protocolId => exact .inr ⟨_, _, call_bind, rfl, fun _ _ _ _ _ => trivial⟩
  | targets protocolId =>
    refine .inr ⟨_, _, call_bind_bind, rfl, fun s log x hs hx => ?_⟩
    obtain rfl := Except.ok.inj hx
    exact tells_targets hs
  | subscriberCount protocolId =>
    refine .inr ⟨_, _, call_bind, rfl, fun s log x hs hx => ?_⟩
    obtain rfl := Except.ok.inj hx
    exact tells_count hs

/-- A statement that succeeds was not refused. -/
theorem lands_of_ok (hs : s.WellFormed) {x : o.Res} (h : (s.serve o).1 = .ok x) :
    AudienceOp.lands s o = true := by
  have hupsert : ∀ (new row : Subscription) u, (s.upsert new u).1 = .ok row →
      s.protocols.contains new.protocolId = true := by
    intro new row u hok
    unfold Store.upsert at hok
    cases hfind : s.find new.walletHash new.protocolId with
    | some row' => exact contains_of_find hs hfind
    | none =>
      rw [hfind] at hok
      dsimp only at hok
      by_cases hregistered : s.protocols.contains new.protocolId = true
      · exact hregistered
      · rw [if_neg hregistered] at hok
        cases hok
  cases o with
  | upsertSubscriber | upsertFromPortal => exact hupsert _ _ _ h
  | deactivate | reactivate | findUnique | countActive | findTargets | findByWallet => rfl

/-- What a call that succeeds is recorded with. -/
theorem recorded_of_ok (hs : s.WellFormed) {x : o.Res} (hx : (Store.handle c s o).1 = .ok x) :
    recorded? (Store.handle.event c s o) = o.decision? ∧ (s.serve o).1 = .ok x := by
  have hserve : (s.serve o).1 = .ok x := (congrArg Prod.fst (Fault.meet_ok hx)).symm.trans hx
  have happlies : c.fault.applies = true := by
    rw [Store.handle] at hx
    cases hfault : c.fault with
    | none | unheard => rfl
    | refused | stalled =>
      rw [hfault] at hx
      cases hx
  have hrecorded : recorded? (Store.handle.event c s o) =
      if c.fault.applies && AudienceOp.lands s o then o.decision? else none := rfl
  exact ⟨by rw [hrecorded, happlies, lands_of_ok hs hserve]; rfl, hserve⟩

/-! ### Runs -/

/-- The request has ended. If it was answered, its call is in the log: recorded with what was asked for, and
answered with what was decided before it. -/
def Served (env : Env) (log : List (Nat × AudienceEvent)) (i : Nat)
    (t : Thread AudienceCalls Err Response Request Store AudienceChoice) : Prop :=
  t.prog.running = false ∧ ∀ a, t.prog.result? = some (.ok a) →
    ∃ pre e post, log = pre ++ (i, e) :: post ∧ recorded? e = t.request.decision? env ∧ Tells env pre t.request a

theorem Served.append {i : Nat} {t : Thread AudienceCalls Err Response Request Store AudienceChoice}
    {more : List (Nat × AudienceEvent)} (ht : Served env log i t) : Served env (log ++ more) i t := by
  refine ⟨ht.1, fun a ha => ?_⟩
  obtain ⟨pre, e, post, hlog, hrecorded, htells⟩ := ht.2 a ha
  exact ⟨pre, e, post ++ more, by rw [hlog, List.append_assoc, List.cons_append], hrecorded, htells⟩

/-- A pool after a log: its table follows the log, and its requests have not begun or were served. -/
structure Logged (env : Env) (log : List (Nat × AudienceEvent)) (p : AudiencePool) : Prop where
  store : p.store.Follows log
  threads : ∀ (i : Nat) t, p.threads[i]? = some t → t.prog = t.request.code env ∨ Served env log i t

theorem Store.Follows.of_eq (hs : s.Follows log) (hrows : s'.rows = s.rows)
    (hprotocols : ∀ k, s.protocols.contains k = true → s'.protocols.contains k = true) : s'.Follows log where
  wellFormed := hs.wellFormed.of_keys (by rw [hrows]) hprotocols
  standing h k := by
    rw [← hs.standing, Store.standing, Store.standing, Store.find, hrows]
    rfl

/-- A request that has not begun makes its only call. -/
theorem served_of_call {i : Nat} {f : Except Err o.Res → Subscriptions Response}
    {t : Thread AudienceCalls Err Response Request Store AudienceChoice} (hs : s.Follows log)
    (hcode : t.request.code env = @Prog.call AudienceCalls Err Response o f) :
    Served env (log ++ [(i, Store.handle.event c s o)]) i { t with
      trace := t.trace ++ [Store.handle.event c s o]
      prog := f (Store.handle c s o).1 } := by
  rcases code_cases env t.request with ⟨e, hthrow⟩ | ⟨o', g, hcall, hdecision, htells⟩
  · rw [hthrow] at hcode
    cases hcode
  · rw [hcall] at hcode
    cases hcode
    cases hreply : (Store.handle c s o).1 with
    | error e => exact ⟨rfl, fun a ha => by cases ha⟩
    | ok x =>
      obtain ⟨hrecorded, hserve⟩ := recorded_of_ok hs.wellFormed hreply
      refine ⟨rfl, fun a ha => ⟨log, _, [], rfl, hrecorded.trans hdecision, ?_⟩⟩
      cases ha
      exact htells s log x hs hserve

theorem follows_step {l : AudienceLabel} (hs : p.store.Follows log) (h : (audience env).step p l = some p') :
    p'.store.Follows (log ++ ((audience env).answered? p l).toList) := by
  cases l with
  | arrive req =>
    obtain rfl := System.step_arrive h
    have hnone : (audience env).answered? p (.arrive req) = none := rfl
    rw [hnone, Option.toList_none, List.append_nil]
    exact hs
  | outside e =>
    obtain ⟨s, hs', rfl⟩ := System.step_outside h
    obtain rfl := Option.some.inj hs'
    have hnone : (audience env).answered? p (.outside e) = none := rfl
    rw [hnone, Option.toList_none, List.append_nil]
    cases e with
    | register protocolId => exact hs.of_eq rfl fun k hk => by simp_all [Change.apply]
    | tick ms => exact hs.of_eq rfl fun _ hk => hk
  | pick i c =>
    obtain ⟨t, ht, ⟨k, hprog, rfl⟩ | ⟨o, k, hprog, rfl⟩⟩ := System.step_pick h
    · have hnone : (audience env).answered? p (.pick i c) = none := by
        simp [System.answered?, ht, hprog, Prog.next?]
      rw [hnone, Option.toList_none, List.append_nil]
      exact hs
    · rw [System.answered_of_next ht hprog, Option.toList_some]
      refine ⟨wellFormed_handle hs.wellFormed, fun h k => ?_⟩
      rw [standing_log, ← hs.standing]
      exact standing_handle hs.wellFormed

theorem logged_step {l : AudienceLabel} (hp : Logged env log p) (h : (audience env).step p l = some p') :
    Logged env (log ++ ((audience env).answered? p l).toList) p' := by
  refine ⟨follows_step hp.store h, fun i t' ht' => ?_⟩
  rcases System.thread_cases h ht' with ht | ⟨req, rfl, -, -, rfl⟩ | ⟨t, c, k, rfl, ht, hprog, -, rfl⟩ |
    ⟨t, c, o, k, rfl, ht, hprog, -, rfl⟩
  · exact (hp.threads i t' ht).imp_right Served.append
  · exact .inl rfl
  · -- No request leaves a choice to the scheduler.
    exfalso
    rcases hp.threads i t ht with hcode | hserved
    · rcases code_cases env t.request with ⟨e, hthrow⟩ | ⟨o, g, hcall, -⟩
      · rw [hprog, hthrow] at hcode
        cases hcode
      · rw [hprog, hcall] at hcode
        cases hcode
    · rw [Served, hprog] at hserved
      cases hserved.1
  · rw [System.answered_of_next ht hprog, Option.toList_some]
    rcases hp.threads i t ht with hcode | hserved
    · exact .inr (served_of_call hp.store (hcode.symm.trans hprog))
    · rw [Served, hprog] at hserved
      cases hserved.1

/-- In every run from an empty table, a request that was answered made its call at one place of the log: what it
asked for is recorded there, and what it was told is what had been decided before. -/
theorem audience_told {ls : List AudienceLabel} (hrows : s.rows = [])
    (hrun : (audience env).run (Pool.empty s) ls = some p) {i : Nat}
    {t : Thread AudienceCalls Err Response Request Store AudienceChoice} {a : Response}
    (ht : p.threads[i]? = some t) (ha : t.answer? = some a) :
    ∃ pre e post, (audience env).log (Pool.empty s) ls = pre ++ (i, e) :: post ∧
      recorded? e = t.request.decision? env ∧ Tells env pre t.request a := by
  have hempty : Logged env [] (Pool.empty s) := by
    refine ⟨⟨⟨by simp [Pool.empty, hrows], by simp [Pool.empty, hrows]⟩, fun h k => ?_⟩,
      fun i t ht => by cases ht⟩
    simp [Pool.empty, Store.standing, Store.find, hrows, decisions, standingAfter]
  -- The table follows the log along the run, and requests that end do so with what it held at their call.
  have hlogged := System.log_induction (R := Logged env) (fun _ _ _ _ hp hs => logged_step hp hs) hrun hempty
  have hresult := Thread.answer?_eq_some.1 ha
  rcases hlogged.threads i t ht with hcode | hserved
  · exfalso
    rcases code_cases env t.request with ⟨e, hthrow⟩ | ⟨o, g, hcall, -⟩
    · rw [hcode, hthrow] at hresult
      cases hresult
    · rw [hcode, hcall] at hresult
      cases hresult
  · exact hserved.2 a hresult

/-! ### A wallet that joins twice -/

/-- The next step of a request, which is answered. -/
def answered (i : Nat) : AudienceLabel := .pick i (true, {})

/-- A wallet enters from the portal and joins with its address; a broadcast asks whom to address after each. -/
def joinedFromPortal : List AudienceLabel :=
  [.arrive (.portalSubscribe (Env.transparent.sha256 (js "w")) (js "p")), answered 0,
    .arrive (.targets (js "p")), answered 1,
    .arrive (.subscribe ⟨js "w", none⟩ (js "p")), answered 2,
    .arrive (.targets (js "p")), answered 3]

theorem audience_told_joinedFromPortal :
    ∃ p t a, (audience Env.transparent).run (Pool.empty { protocols := [js "p"] }) joinedFromPortal = some p ∧
      p.threads[3]? = some t ∧ t.answer? = some a ∧
      ∃ pre e post, (audience Env.transparent).log (Pool.empty { protocols := [js "p"] }) joinedFromPortal =
        pre ++ (3, e) :: post ∧ recorded? e = t.request.decision? Env.transparent ∧
          Tells Env.transparent pre t.request a :=
  ⟨_, _, .targets [⟨js "w", Env.transparent.sha256 (js "w"), [js "email"]⟩], rfl, rfl, rfl,
    audience_told rfl rfl rfl rfl⟩

end HeraldGateway.Audience
