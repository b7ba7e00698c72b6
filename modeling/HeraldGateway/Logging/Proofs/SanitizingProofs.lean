import HeraldGateway.Logging.Sanitizing

/-!
# Proofs: what the request log keeps

The two runs of `sanitizeBody` are related along the derivation that their bodies are the same but for sensitive
values. That the log keeps all else is an induction on the body.
-/

namespace HeraldGateway.RequestLog

variable {ν : Type}

mutual

/-- Values that differ under sensitive keys only are logged as the same. -/
theorem sanitizeBody_eq {j j' : Json ν} (h : SameBut j j') : sanitizeBody j = sanitizeBody j' := by
  cases h with
  | null | bool | number | string => rfl
  | array h => rw [sanitizeBody, sanitizeBody, sanitizeItems_eq h]
  | object h => rw [sanitizeBody, sanitizeBody, sanitizeEntries_eq h]

theorem sanitizeItems_eq {items items' : List (Json ν)} (h : SameItems items items') :
    sanitizeItems items = sanitizeItems items' := by
  cases h with
  | nil => rfl
  | cons h hs => rw [sanitizeItems, sanitizeItems, sanitizeBody_eq h, sanitizeItems_eq hs]

theorem sanitizeEntries_eq {entries entries' : List (JsString × Json ν)} (h : SameEntries entries entries') :
    sanitizeEntries entries = sanitizeEntries entries' := by
  cases h with
  | nil => rfl
  | sensitive hk hs => rw [sanitizeEntries, sanitizeEntries, if_pos hk, if_pos hk, sanitizeEntries_eq hs]
  | other h hs => rw [sanitizeEntries, sanitizeEntries, sanitizeBody_eq h, sanitizeEntries_eq hs]

end

theorem SameEntries.length_eq {entries entries' : List (JsString × Json ν)} (h : SameEntries entries entries') :
    entries.length = entries'.length := by
  cases h with
  | nil => rfl
  | sensitive hk hs => rw [List.length_cons, List.length_cons, hs.length_eq]
  | other h hs => rw [List.length_cons, List.length_cons, hs.length_eq]

theorem length_sanitizeEntries_le (entries : List (JsString × Json ν)) :
    (sanitizeEntries entries).length ≤ entries.length := by
  induction entries with
  | nil => exact le_rfl
  | cons entry entries ih =>
    obtain ⟨k, v⟩ := entry
    rw [sanitizeEntries]
    split
    · exact Nat.le_succ_of_le ih
    · exact Nat.succ_le_succ ih

mutual

/-- The log of a body has all else as it was exactly when no entry sets a prototype. -/
theorem sameBut_sanitizeBody_iff (j : Json ν) : SameBut j (sanitizeBody j) ↔ ¬NamesProto j := by
  cases j with
  | null => exact ⟨fun _ => id, fun _ => .null⟩
  | bool b => exact ⟨fun _ => id, fun _ => .bool b⟩
  | number n => exact ⟨fun _ => id, fun _ => .number n⟩
  | string s => exact ⟨fun _ => id, fun _ => .string s⟩
  | array items =>
    rw [sanitizeBody, NamesProto, ← sameItems_sanitizeItems_iff items]
    exact ⟨fun h => by cases h with | array h => exact h, .array⟩
  | object entries =>
    rw [sanitizeBody, NamesProto, ← sameEntries_sanitizeEntries_iff entries]
    exact ⟨fun h => by cases h with | object h => exact h, .object⟩

theorem sameItems_sanitizeItems_iff (items : List (Json ν)) :
    SameItems items (sanitizeItems items) ↔ ¬ItemsNameProto items := by
  cases items with
  | nil => exact ⟨fun _ => nofun, fun _ => .nil⟩
  | cons item items =>
    rw [sanitizeItems, ItemsNameProto, not_or, ← sameBut_sanitizeBody_iff item, ← sameItems_sanitizeItems_iff items]
    exact ⟨fun h => by cases h with | cons h hs => exact ⟨h, hs⟩, fun h => .cons h.1 h.2⟩

theorem sameEntries_sanitizeEntries_iff (entries : List (JsString × Json ν)) :
    SameEntries entries (sanitizeEntries entries) ↔ ¬EntriesNameProto entries := by
  cases entries with
  | nil => exact ⟨fun _ => nofun, fun _ => .nil⟩
  | cons entry entries =>
    obtain ⟨k, v⟩ := entry
    rw [sanitizeEntries, EntriesNameProto, not_or, not_or, ← sameEntries_sanitizeEntries_iff entries]
    by_cases hproto : k = PROTO
    · -- The entry is missing, so the two lists differ in length.
      rw [if_pos hproto]
      refine ⟨fun h => ?_, fun h => absurd hproto h.1⟩
      have hlength := h.length_eq
      have hle := length_sanitizeEntries_le entries
      rw [List.length_cons] at hlength
      omega
    · rw [if_neg hproto]
      cases hk : isSensitive k with
      | true =>
        rw [if_pos rfl]
        refine ⟨fun h => ⟨hproto, nofun, ?_⟩, fun h => .sensitive hk h.2.2⟩
        cases h with
        | sensitive _ hs | other _ hs => exact hs
      | false =>
        rw [if_neg nofun]
        refine ⟨fun h => ?_, fun h => .other ((sameBut_sanitizeBody_iff v).2 fun hv => h.2.1 ⟨rfl, hv⟩) h.2.2⟩
        cases h with
        | sensitive hk' _ => exact absurd (hk.symm.trans hk') nofun
        | other hv hs => exact ⟨hproto, fun hproto' => (sameBut_sanitizeBody_iff v).1 hv hproto'.2, hs⟩

end

/-- The log of a body is right exactly when no entry sets a prototype. -/
theorem logged_right_iff (j : Json ν) : LoggedRight j ↔ ¬NamesProto j := by
  rw [← sameBut_sanitizeBody_iff]
  exact ⟨LoggedRight.keeps, fun h => ⟨fun _ => sanitizeBody_eq, h⟩⟩

/-- The entry is lost. -/
theorem proto_lost : ¬LoggedRight (.object [(PROTO, .number 1), (js "to", .string (js "all"))] : Json Nat) := by
  rintro ⟨-, h⟩
  exact (sameBut_sanitizeBody_iff _).1 h (.inl rfl)

end HeraldGateway.RequestLog
