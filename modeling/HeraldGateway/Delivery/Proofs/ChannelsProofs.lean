import HeraldGateway.Delivery.Channels
import Mathlib.Data.List.Sort

/-!
# When the choice of channels follows its contract

What dispatch allows is what it selects by the preference or the list, and SMS beside it if the priority
escalates. The escalation looks at no list, and the preference at nothing but itself.
-/

namespace HeraldGateway

variable {channels : DecryptedChannels} {job : NotificationJobData}

/-! ### What dispatch allows -/

theorem sms_mem_registeredChannels {tier : Nat} :
    (registeredChannels channels tier).contains .sms = (truthy channels.phone && decide (tier ≥ 1)) := by
  unfold registeredChannels
  cases truthy channels.phone <;> cases decide (tier ≥ 1) <;> simp

/-- A channel without a contact is not registered. -/
theorem not_registered_of_has {tier : Nat} {c : Channel} (h : channels.has c = false) :
    c ∉ registeredChannels channels tier := by
  unfold registeredChannels
  cases c with
  | email =>
    rw [DecryptedChannels.has] at h
    simp [h]
  | telegram =>
    rw [DecryptedChannels.has] at h
    simp [h]
  | sms =>
    rw [DecryptedChannels.has] at h
    simp [h]
  | other name => simp

theorem mem_selectedChannels {c : Channel} :
    c ∈ selectedChannels channels job ↔
      c ∈ registeredChannels channels (job.tier.getD 0) ∧ job.excludes c = false ∧
        ∀ l, explicitChannels job = some l → c ∈ l := by
  unfold selectedChannels
  cases hexplicit : explicitChannels job with
  | none => simp
  | some l =>
    simp only [List.mem_filter, List.contains_iff_mem, Bool.and_eq_true, Bool.not_eq_true', Option.some.injEq,
      forall_eq']
    tauto

/-- Dispatch allows, in the fixed order, what it selects and what the priority adds. -/
theorem resolveAllowedChannels_eq :
    resolveAllowedChannels channels job =
      (selectedChannels channels job ++ escalatedChannels channels job).insertionSort
        fun a b => channelIndex a ≤ channelIndex b := by
  unfold resolveAllowedChannels
  by_cases hnone : (registeredChannels channels (job.tier.getD 0)).isEmpty = true
  · have hnil := List.isEmpty_iff.1 hnone
    have hselected : selectedChannels channels job = [] :=
      List.eq_nil_iff_forall_not_mem.2 fun c hc => by simpa [hnil] using (mem_selectedChannels.1 hc).1
    simp [hselected, escalatedChannels, NotificationJobData.smsUsable, hnil]
  · have hsame : (decide (job.tier.getD 0 ≥ 1) &&
        (job.priority == some .important || job.priority == some .critical) && truthy channels.phone &&
        !(job.excludedChannels.getD []).contains .sms && !(selectedChannels channels job).contains .sms) =
        (job.urgent && job.smsUsable channels && !(selectedChannels channels job).contains .sms) := by
      unfold NotificationJobData.urgent NotificationJobData.smsUsable NotificationJobData.excludes
      rw [sms_mem_registeredChannels]
      cases decide (job.tier.getD 0 ≥ 1) <;> cases truthy channels.phone <;> simp
    simp only [hnone, Bool.false_eq_true, if_false]
    change List.insertionSort _ (if decide (job.tier.getD 0 ≥ 1) &&
        (job.priority == some .important || job.priority == some .critical) && truthy channels.phone &&
        !(job.excludedChannels.getD []).contains .sms && !(selectedChannels channels job).contains .sms
      then selectedChannels channels job ++ [.sms] else selectedChannels channels job) = _
    rw [hsame]
    unfold escalatedChannels
    split <;> simp

theorem mem_resolveAllowedChannels {c : Channel} :
    c ∈ resolveAllowedChannels channels job ↔
      c ∈ selectedChannels channels job ∨ c ∈ escalatedChannels channels job := by
  rw [resolveAllowedChannels_eq, List.mem_insertionSort, List.mem_append]

theorem mem_escalatedChannels {c : Channel} :
    c ∈ escalatedChannels channels job ↔
      c = .sms ∧ job.urgent = true ∧ job.smsUsable channels = true ∧
      .sms ∉ selectedChannels channels job := by
  unfold escalatedChannels
  split
  · next h =>
    simp only [Bool.and_eq_true, Bool.not_eq_true', List.contains_eq_mem, decide_eq_false_iff_not] at h
    simp [h]
  · next h =>
    simp only [Bool.and_eq_true, Bool.not_eq_true', List.contains_eq_mem, decide_eq_false_iff_not] at h
    simp only [List.not_mem_nil, false_iff]
    tauto

/-! ### The contract -/

theorem channels_sorted (l : List Channel) :
    (l.insertionSort fun a b => channelIndex a ≤ channelIndex b).Pairwise
      fun a b => channelIndex a ≤ channelIndex b := by
  have htotal : Std.Total fun a b : Channel => channelIndex a ≤ channelIndex b :=
    ⟨fun a b => Int.le_total (channelIndex a) (channelIndex b)⟩
  have htrans : IsTrans Channel fun a b => channelIndex a ≤ channelIndex b :=
    ⟨fun _ _ _ h h' => Int.le_trans h h'⟩
  exact List.pairwise_insertionSort _ l

/-- A preference without a contact selects nothing, and only the priority adds to that. -/
theorem resolveAllowedChannels_unregistered (h : job.PrefersUnregistered channels) :
    resolveAllowedChannels channels job = if job.urgent && job.smsUsable channels then [.sms] else [] := by
  obtain ⟨c, hpreferred, hcontact⟩ := h
  have hexplicit : explicitChannels job = some [c] := by
    unfold explicitChannels
    rw [hpreferred]
  have hselected : selectedChannels channels job = [] := by
    refine List.eq_nil_iff_forall_not_mem.2 fun d hd => ?_
    obtain ⟨hregistered, -, hexplicit'⟩ := mem_selectedChannels.1 hd
    have hd' : d = c := List.mem_singleton.1 (hexplicit' [c] hexplicit)
    rw [hd'] at hregistered
    exact not_registered_of_has hcontact hregistered
  rw [resolveAllowedChannels_eq, escalatedChannels, hselected]
  simp only [List.contains_nil, Bool.not_false, Bool.and_true, List.nil_append]
  split <;> rfl

/-- At normal priority a request gets what it selects. -/
theorem mem_resolveAllowedChannels_normal {c : Channel} :
    c ∈ resolveAllowedChannels channels { job with priority := some .normal } ↔
      c ∈ selectedChannels channels job := by
  rw [mem_resolveAllowedChannels, mem_escalatedChannels]
  constructor
  · rintro (h | ⟨-, hurgent, -⟩)
    · exact h
    · cases hurgent
  · exact .inl

/-- Of a request whose list leaves SMS out, usable SMS is selected exactly if it is preferred. -/
theorem sms_mem_selectedChannels (hunlisted : job.Unlisted .sms) (husable : job.smsUsable channels = true) :
    .sms ∈ selectedChannels channels job ↔ job.preferredChannel = some .sms := by
  obtain ⟨l, hl, hne, hsms⟩ := hunlisted
  obtain ⟨hregistered, hexcluded⟩ := Bool.and_eq_true_iff.1 husable
  rw [mem_selectedChannels]
  unfold explicitChannels
  constructor
  · rintro ⟨-, -, hexplicit⟩
    cases hpreferred : job.preferredChannel with
    | some c =>
      have hc := hexplicit [c] (by rw [hpreferred])
      rw [List.mem_singleton.1 hc]
    | none =>
      obtain ⟨c, cs, rfl⟩ := List.exists_cons_of_ne_nil hne
      exact absurd (hexplicit (c :: cs) (by rw [hpreferred, hl])) hsms
  · intro hpreferred
    refine ⟨List.contains_iff_mem.1 hregistered, by simpa using hexcluded, fun l' hl' => ?_⟩
    rw [hpreferred] at hl'
    cases hl'
    exact List.mem_singleton_self _

/-- The choice of channels follows its contract exactly if its preference, where there is no contact for it,
would leave what the priority gives anyway, and the priority adds nothing to a list without SMS. -/
theorem follows_contract_iff (channels : DecryptedChannels) (job : NotificationJobData) :
    FollowsContract channels job ↔
      (job.PrefersUnregistered channels → FallbackVacuous channels job) ∧ EscalationListed channels job := by
  constructor
  · intro h
    refine ⟨fun hpreferred => ?_, fun hunlisted hurgent husable => ?_⟩
    · unfold FallbackVacuous
      rw [← resolveAllowedChannels_unregistered hpreferred, h.fallsBack hpreferred]
    · by_contra hpreferred
      have hselected := mt (sms_mem_selectedChannels hunlisted husable).1 hpreferred
      have hadded : .sms ∈ resolveAllowedChannels channels job :=
        mem_resolveAllowedChannels.2 (.inr (mem_escalatedChannels.2 ⟨rfl, hurgent, husable, hselected⟩))
      exact hselected (mem_resolveAllowedChannels_normal.1 (h.listed .sms hadded hunlisted))
  · rintro ⟨hvacuous, hlisted⟩
    refine ⟨fun c hc => ?_, ?_, fun hpreferred => ?_, fun c hc hunlisted => ?_⟩
    · rcases mem_resolveAllowedChannels.1 hc with hselected | hescalated
      · exact ⟨(mem_selectedChannels.1 hselected).1, (mem_selectedChannels.1 hselected).2.1⟩
      · obtain ⟨rfl, -, husable, -⟩ := mem_escalatedChannels.1 hescalated
        obtain ⟨hregistered, hexcluded⟩ := Bool.and_eq_true_iff.1 husable
        exact ⟨List.contains_iff_mem.1 hregistered, by simpa using hexcluded⟩
    · rw [resolveAllowedChannels_eq]
      exact channels_sorted _
    · rw [resolveAllowedChannels_unregistered hpreferred, hvacuous hpreferred]
    · rw [mem_resolveAllowedChannels_normal]
      rcases mem_resolveAllowedChannels.1 hc with hselected | hescalated
      · exact hselected
      · obtain ⟨rfl, hurgent, husable, -⟩ := mem_escalatedChannels.1 hescalated
        exact (sms_mem_selectedChannels hunlisted husable).2 (hlisted hunlisted hurgent husable)

/-- A recipient with an email address and a telephone number. -/
def mailAndPhone : DecryptedChannels := { email := some (js "a@x.io"), phone := some (js "+15550100") }

/-- A notification of a protocol whose tier permits every channel. -/
def growthJob : NotificationJobData where
  notificationId := .uuid 0
  protocolId := js "p"
  protocolPubkey := []
  protocolName := js "P"
  wallet := js "w"
  subject := []
  body := []
  category := js "defi"
  writeReceipt := false
  digestMode := false
  tier := some 1

/-- Who prefers Telegram gets nothing, and who lists email alone gets SMS as well. -/
theorem contract_broken :
    ¬ FollowsContract mailAndPhone { growthJob with preferredChannel := some .telegram } ∧
      ¬ FollowsContract mailAndPhone { growthJob with channels := some [.email], priority := some .important } := by
  constructor
  · intro h
    have hempty := h.fallsBack ⟨.telegram, rfl, rfl⟩
    revert hempty
    decide
  · intro h
    have hadded := h.listed .sms (by decide) ⟨[.email], rfl, by decide, by decide⟩
    revert hadded
    decide

end HeraldGateway
