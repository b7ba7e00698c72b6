import HeraldGateway.Delivery.SqsConsumer

/-!
# No event is lost at the queue

Handling a message ends without an error only after its event was added, or where there is none. The loop of a
poll catches every error, so it comes to all messages.
-/

namespace HeraldGateway

variable {parse : JsonParser}

/-! ### A message -/

theorem dealtWith_addEvent {data : JsonBody} {outcome : AddOutcome}
    (h : (addEvent data outcome).result.isOk = true) : (addEvent data outcome).added = [data] := by
  cases outcome with
  | added => rfl
  | failed stored => cases h

/-- A message whose handling does not throw is dealt with. -/
theorem dealtWith_processMessage {msg : SqsMessage} {outcome : AddOutcome}
    (h : (processMessage parse msg outcome).result.isOk = true) :
    DealtWith parse msg (processMessage parse msg outcome) := by
  unfold processMessage at h ⊢
  cases hbody : msg.readBody parse with
  | none => exact .inr (.inl hbody)
  | some body =>
    rw [hbody] at h
    dsimp only at h ⊢
    cases htype : bodyType body with
    | error e =>
      rw [htype] at h
      cases h
    | ok type =>
      rw [htype] at h
      dsimp only at h ⊢
      by_cases hsub : type.isString (js "SubscriptionConfirmation") = true
      · exact .inr (.inr ⟨body, type, hbody, htype, hsub⟩)
      · rw [if_neg hsub] at h ⊢
        cases hdata : messageData parse body with
        | error e =>
          rw [hdata] at h
          cases h
        | ok data =>
          rw [hdata] at h
          exact .inl ⟨body, data, hbody, hdata, dealtWith_addEvent h⟩

/-! ### A poll -/

theorem entriesOfHandled_append (hs hs' : List (SqsMessage × Handling)) :
    entriesOfHandled (hs ++ hs') = entriesOfHandled hs ++ entriesOfHandled hs' := by
  unfold entriesOfHandled
  rw [List.filter_append, List.filterMap_append]

/-- One round handles its message, and submits it if that did not throw. -/
theorem handleNext_eq (report : PollReport) (m : SqsMessage × AddOutcome) :
    handleNext parse report m = ⟨report.handled ++ [(m.1, processMessage parse m.1 m.2)],
      report.entries ++ entriesOfHandled [(m.1, processMessage parse m.1 m.2)]⟩ := by
  have hentries : entriesOfHandled [(m.1, processMessage parse m.1 m.2)] =
      if (processMessage parse m.1 m.2).result.isOk = true then m.1.entryOf?.toList else [] := by
    unfold entriesOfHandled
    by_cases hok : (processMessage parse m.1 m.2).result.isOk = true
    · cases hentry : m.1.entryOf? with
      | none | some entry => simp [hok, hentry]
    · simp [hok]
  rw [hentries]
  unfold handleNext
  cases hresult : (processMessage parse m.1 m.2).result with
  | ok u => simp [hresult, Except.isOk, Except.toBool]
  | error e => simp [hresult, Except.isOk, Except.toBool]

/-- The loop handles all messages, and submits those whose handling did not throw. -/
theorem foldl_handleNext (messages : List (SqsMessage × AddOutcome)) (report : PollReport) :
    messages.foldl (handleNext parse) report =
      ⟨report.handled ++ messages.map fun m => (m.1, processMessage parse m.1 m.2),
        report.entries ++ entriesOfHandled (messages.map fun m => (m.1, processMessage parse m.1 m.2))⟩ := by
  induction messages generalizing report with
  | nil => simp [entriesOfHandled]
  | cons m messages ih =>
    have hsplit := entriesOfHandled_append [(m.1, processMessage parse m.1 m.2)]
      (messages.map fun m => (m.1, processMessage parse m.1 m.2))
    rw [List.singleton_append] at hsplit
    rw [List.foldl_cons, ih, handleNext_eq, List.map_cons, hsplit]
    simp only [List.append_assoc, List.singleton_append]

theorem losesNothing_poll (p : SqsPoll) : LosesNothing parse p (poll parse p) := by
  have hloop := @foldl_handleNext parse p.messages ⟨[], []⟩
  have hhandled : (poll parse p).handled =
      p.messages.map fun m => (m.1, processMessage parse m.1 m.2) := by
    rw [poll, hloop]
    rfl
  refine ⟨hhandled, ?_, fun h hh hok => ?_⟩
  · rw [hhandled, poll, hloop]
    rfl
  · rw [hhandled] at hh
    obtain ⟨m, -, rfl⟩ := List.mem_map.1 hh
    exact dealtWith_processMessage hok

/-- A text that is no JSON is deleted, a message without a body is not. -/
example : (poll (fun _ => none) ⟨.ok [(⟨some [49], some [97], .string [123]⟩, .added),
    (⟨some [50], some [98], .undefined⟩, .added)], .ok ()⟩).entries = [⟨[49], [97]⟩] := by decide

/-! ### Polls -/

end HeraldGateway
