import HeraldGateway.Async.History
import HeraldGateway.Gateway.Proofs.WorldProofs
import HeraldGateway.Operations
import HeraldGateway.Tokens.Proofs.CodecProofs
import HeraldGateway.Tokens.SingleUse

/-!
# Single use where tokens are presented in order

A request that finds its token unused has it to itself until it ends, and marks it before it reports
success. A marked token stays marked, so nobody finds it unused afterwards.
-/

namespace HeraldGateway

open Async

variable {env : Env} {c : Choice} {s s' : World} {o : Op} {tokenHash token payloadStr : JsString}
  {tr : List GatewayEvent} {e : GatewayEvent}

/-! ### Stored tokens -/

/-- A stored token is marked as used. -/
def World.TokenUsed (s : World) (tokenHash : JsString) : Prop :=
  ∃ r ∈ s.unsubscribeTokens.find? (·.tokenHash == tokenHash), r.usedAt.isSome = true

/-- Tokens that are used stay so. -/
def KeepsUsed (s s' : World) : Prop := ∀ tokenHash, s.TokenUsed tokenHash → s'.TokenUsed tokenHash

theorem keepsUsed_of_eq (h : s'.unsubscribeTokens = s.unsubscribeTokens) : KeepsUsed s s' := by
  intro tokenHash hu
  unfold World.TokenUsed
  rw [h]
  exact hu

/-- Marking a token leaves its hash alone, so it is found where it was. -/
theorem find?_mark {rows : List UnsubscribeTokenRow} {h : JsString} {time : Millis} :
    (updateWhere (·.tokenHash == h) (fun r => { r with usedAt := some time }) rows).find?
        (·.tokenHash == tokenHash) =
      (rows.find? (·.tokenHash == tokenHash)).map fun r =>
        if r.tokenHash == h then { r with usedAt := some time } else r := by
  unfold updateWhere
  rw [List.find?_map]
  refine congrArg _ (congrArg (List.find? · rows) (funext fun r => ?_))
  rw [Function.comp_apply]
  split <;> rfl

theorem keepsUsed_handle : KeepsUsed s (World.handle env c s o).2 := by
  refine handle_rel (R := KeepsUsed) (fun _ h => h) ?_ fun _ => keepsUsed_of_eq rfl
  cases o with
  | unsubscribeTokenCreate h =>
    simp only [World.serve]
    split
    · exact fun _ h => h
    · rintro tokenHash ⟨r, hr, hused⟩
      refine ⟨r, ?_, hused⟩
      exact Option.mem_def.2 ((List.find?_append ..).trans (congrArg (Option.or · _) hr))
  | unsubscribeTokenUpdate h time =>
    simp only [World.serve]
    split
    · rintro tokenHash ⟨r, hr, hused⟩
      unfold World.TokenUsed
      dsimp only [World.reply]
      rw [find?_mark, Option.mem_def.1 hr]
      refine ⟨_, rfl, ?_⟩
      dsimp only
      split
      · rfl
      · exact hused
    · exact fun _ h => h
  | _ => exact keepsUsed_of_eq (serve_untouched.tokens fun h => by cases h)

/-- The call found a stored token that is not used. -/
def foundUnused : (o : Op) → Except Err o.Res → Option JsString
  | .unsubscribeTokenFindUnique tokenHash, .ok (some row) =>
    if row.usedAt.isSome then none else some tokenHash
  | _, _ => none

/-- The call marked a stored token as used. -/
def marked : (o : Op) → Except Err o.Res → Option JsString
  | .unsubscribeTokenUpdate tokenHash _, .ok _ => some tokenHash
  | _, _ => none

/-- A token that is found unused is not used. -/
theorem not_used_of_foundUnused (h : foundUnused o (World.handle env c s o).1 = some tokenHash) :
    ¬ s.TokenUsed tokenHash := by
  cases o with
  | unsubscribeTokenFindUnique tokenHash' =>
    cases hr : (World.handle env c s (.unsubscribeTokenFindUnique tokenHash')).1 with
    | error err =>
      rw [hr] at h
      cases h
    | ok found =>
      have hfound : s.unsubscribeTokens.find? (·.tokenHash == tokenHash') = found :=
        Except.ok.inj ((congrArg Prod.fst (handle_ok hr)).symm.trans hr)
      rw [hr] at h
      cases found with
      | none => cases h
      | some row =>
        simp only [foundUnused] at h
        split at h
        · cases h
        · next hunused =>
          obtain rfl := Option.some.inj h
          rintro ⟨r, hr', hused⟩
          rw [hfound] at hr'
          obtain rfl := Option.some.inj hr'
          exact hunused hused
  | _ => cases h

/-- A token that is marked is used afterwards. -/
theorem used_of_marked (h : marked o (World.handle env c s o).1 = some tokenHash) :
    (World.handle env c s o).2.TokenUsed tokenHash := by
  cases o with
  | unsubscribeTokenUpdate tokenHash' time =>
    cases hr : (World.handle env c s (.unsubscribeTokenUpdate tokenHash' time)).1 with
    | error err =>
      rw [hr] at h
      cases h
    | ok u =>
      rw [hr] at h
      obtain rfl := Option.some.inj h
      have hserve := handle_ok hr
      rw [hserve] at hr ⊢
      simp only [World.serve] at hr ⊢
      split at hr
      · next hany =>
        rw [if_pos hany]
        unfold World.TokenUsed
        dsimp only [World.reply]
        rw [find?_mark]
        obtain ⟨row, hrow⟩ := Option.isSome_iff_exists.1 (List.find?_isSome.2 (List.any_eq_true.1 hany))
        rw [hrow]
        refine ⟨_, rfl, ?_⟩
        dsimp only
        rw [if_pos (List.find?_some hrow)]
        rfl
      · cases hr
  | _ => cases h

/-! ### One request -/

/-- A request that finds an unused token. -/
def Takes (tokenHash : JsString) (tr : List GatewayEvent) : Prop :=
  ∃ e ∈ tr, foundUnused e.op e.reply = some tokenHash

/-- No call found an unused token. -/
def TakesNone (tr : List GatewayEvent) : Prop := ∀ e ∈ tr, foundUnused e.op e.reply = none

theorem Takes.append (h : Takes tokenHash tr) : Takes tokenHash (tr ++ [e]) := by
  obtain ⟨e', he', hf⟩ := h
  exact ⟨e', List.mem_append_left _ he', hf⟩

theorem takesNone_nil : TakesNone [] := fun _ he => absurd he List.not_mem_nil

theorem TakesNone.append (h : TakesNone tr) (he : foundUnused e.op e.reply = none) :
    TakesNone (tr ++ [e]) := by
  intro e' he'
  rcases List.mem_append.1 he' with he' | he'
  · exact h e' he'
  · rwa [List.mem_singleton.1 he']

/-- How a request may be proceeds that presents a token in order: with success, if it took the token and
marked it; or that the token was used, if it did not take it. -/
inductive Settled (env : Env) (token payloadStr : JsString) (tr : List GatewayEvent) :
    UnsubscribeResult → Prop
  | malformed {error : String} (hpayload : env.decodePayload payloadStr = none) (hnone : TakesNone tr) :
    Settled env token payloadStr tr (.refused error)
  | used (hnone : TakesNone tr) : Settled env token payloadStr tr (.refused "Token already used")
  | spent {payload : JsonPayload} (hpayload : env.decodePayload payloadStr = some payload)
      (htakes : Takes (env.tokenHash token) tr)
      (hmarked : ∃ e ∈ tr, marked e.op e.reply = some (env.tokenHash token)) :
    Settled env token payloadStr tr { success := true, payload := some payload }

/-- The request's own way of following its history. -/
abbrev LogsToken (env : Env) (token : JsString) {α : Type} (Q : List GatewayEvent → Except Err α → Prop)
    (p : Gateway α) (tr : List GatewayEvent) : Prop :=
  Logs (World.handle env) (fun tr e => PresentedInOrder env (.execute token) tr e.before e.op) (fun _ => True)
    Q p tr

theorem logs_tokenCall {Q : List GatewayEvent → Except Err o.Res → Prop}
    (h : ∀ c s, PresentedInOrder env (.execute token) tr s o →
      Q (tr ++ [(World.handle env).event c s o]) (World.handle env c s o).1) :
    LogsToken env token Q (call o) tr :=
  Logs.perform (S := Calls) (o := o) fun c s hl => ⟨trivial, h c s hl⟩

/-- Whatever a request calls, it has taken the token. -/
theorem logs_takes {α : Type} {p : Gateway α} (h : Takes tokenHash tr) :
    LogsToken env token (fun tr _ => Takes tokenHash tr) p tr := by
  induction p generalizing tr with
  | ret a => exact h
  | throw err => exact h
  | choose k ih => exact fun b => ih b h
  | call o k ih => exact fun c s _ => ⟨trivial, ih _ h.append⟩

/-- A stored token is marked. -/
theorem logs_useToken {row : UnsubscribeTokenRow} (h : Takes (env.tokenHash token) tr) :
    LogsToken env token (fun tr r => r = .ok () → Takes (env.tokenHash token) tr ∧
      ∃ e ∈ tr, marked e.op e.reply = some (env.tokenHash token))
      (useToken (env.tokenHash token) (some row)) tr := by
  have clock : LogsToken env token (fun tr _ => Takes (env.tokenHash token) tr) (call .now) tr := logs_takes h
  refine clock.bind (fun tr now h => ?_) fun _ _ _ => nofun
  refine logs_tokenCall fun c s _ hok => ⟨h.append, _, List.mem_append_right _ (List.mem_singleton.2 rfl), ?_⟩
  change marked (.unsubscribeTokenUpdate _ now) (World.handle env c s (.unsubscribeTokenUpdate _ now)).1 = _
  rw [hok]
  rfl

/-- A request settles as it should, from the lookup of its token on. -/
theorem logs_executeToken {payload : JsonPayload}
    (hpayload : env.decodePayload payloadStr = some payload) (h : TakesNone tr) :
    LogsToken env token (fun tr r => ∀ a, r = .ok a → Settled env token payloadStr tr a)
      (executeToken env token payload) tr := by
  have look : LogsToken env token (fun tr r => ∀ found, r = .ok found → ∃ row, found = some row ∧
      (row.usedAt.isSome = true → TakesNone tr) ∧
        (row.usedAt.isSome = false → Takes (env.tokenHash token) tr))
      (call (.unsubscribeTokenFindUnique (env.tokenHash token))) tr := by
    refine logs_tokenCall fun c s hl found hok => ?_
    have hfound : s.unsubscribeTokens.find? (·.tokenHash == env.tokenHash token) = found :=
      Except.ok.inj ((congrArg Prod.fst (handle_ok hok)).symm.trans hok)
    obtain ⟨row, hrow⟩ := Option.isSome_iff_exists.1 (List.find?_isSome.2 (List.any_eq_true.1 hl.1))
    obtain rfl := hrow.symm.trans hfound
    have hcall : ∀ r, foundUnused (.unsubscribeTokenFindUnique (env.tokenHash token)) (.ok (some row)) = r →
        foundUnused _ ((World.handle env).event c s (.unsubscribeTokenFindUnique (env.tokenHash token))).reply = r :=
      fun r hr => (congrArg (foundUnused _) hok).trans hr
    refine ⟨row, rfl, fun hused => h.append (hcall none (if_pos hused)), fun hunused => ?_⟩
    exact ⟨_, List.mem_append_right _ (List.mem_singleton.2 rfl), hcall _ (if_neg (by rw [hunused]; decide))⟩
  refine look.bind (fun tr found h => ?_) fun _ _ _ _ => nofun
  obtain ⟨row, rfl, hused, hunused⟩ := h found rfl
  dsimp only [Option.any_some]
  split
  · next hrow =>
    rintro a heq
    obtain rfl := Except.ok.inj heq
    exact .used (hused hrow)
  · next hrow =>
    refine (logs_takes (hunused (Bool.eq_false_iff.2 hrow))).bind (fun tr _ h => ?_) fun _ _ _ _ => nofun
    refine (logs_useToken h).bind (fun tr _ h => ?_) fun _ _ _ _ => nofun
    rintro a heq
    obtain rfl := Except.ok.inj heq
    exact .spent hpayload (h rfl).1 (h rfl).2

theorem signedPart_eq_some (h : signedPart env token = some payloadStr) : ∃ signature,
    splitOn 46 token = [payloadStr, signature] ∧
      env.base64url signature = env.base64url (env.unsubscribeSign payloadStr) := by
  unfold signedPart at h
  rcases hsplit : splitOn 46 token with _ | ⟨part, _ | ⟨signature, _ | ⟨other, parts⟩⟩⟩
  · rw [hsplit] at h
    cases h
  · rw [hsplit] at h
    cases h
  · rw [hsplit] at h
    dsimp only at h
    by_cases hsig : env.base64url signature = env.base64url (env.unsubscribeSign part)
    · rw [if_pos hsig] at h
      obtain rfl := Option.some.inj h
      exact ⟨signature, rfl, hsig⟩
    · rw [if_neg hsig] at h
      cases h
  · rw [hsplit] at h
    cases h

/-- A request that presents a token in order settles as it should. -/
theorem logs_validateAndExecute (hpart : signedPart env token = some payloadStr) :
    LogsToken env token (fun tr r => ∀ a, r = .ok a → Settled env token payloadStr tr a)
      (validateAndExecute env token) [] := by
  obtain ⟨signature, hsplit, hsig⟩ := signedPart_eq_some hpart
  unfold validateAndExecute
  rw [hsplit]
  dsimp only
  rw [if_pos hsig]
  cases hpayload : env.decodePayload payloadStr with
  | none =>
    rintro a hok
    obtain rfl := Except.ok.inj hok
    exact .malformed hpayload takesNone_nil
  | some payload =>
    have clock : LogsToken env token (fun tr r => ∀ now, r = .ok now → TakesNone tr ∧
        payload.expired (now / 1000) ≠ some true) (call .now) [] := logs_tokenCall fun c s hl now hok => by
      obtain rfl := Except.ok.inj hok
      exact ⟨takesNone_nil.append rfl, hl rfl payloadStr hpart payload hpayload⟩
    refine clock.bind (fun tr now h => ?_) fun _ _ _ _ => nofun
    obtain ⟨hnone, hexp⟩ := h now rfl
    split
    · next htrue => exact absurd htrue hexp
    · exact logs_executeToken hpayload hnone
    · exact fun _ => nofun

/-! ### Runs -/

variable {p p' p₁ p₂ : TokenPool} {l : TokenLabel} {ls₁ ls₂ : List TokenLabel} {t u : TokenThread} {i j : Nat}

/-- The hash of a token as it was minted. -/
def mintedHash (env : Env) (payloadStr : JsString) : JsString :=
  env.tokenHash (payloadStr ++ js "." ++ env.unsubscribeSign payloadStr)

/-- A request has a token to itself: it found it unused, and has not failed. -/
structure Holds (env : Env) (payloadStr : JsString) (t : TokenThread) : Prop where
  presents : t.request.presents? env = some payloadStr
  takes : Takes (mintedHash env payloadStr) t.trace
  unfailed : ∀ err, t.prog.result? ≠ some (.error err)

/-- Every call for a token obeys the condition. -/
abbrev Lawful (env : Env) (p : TokenPool) : Prop :=
  System.Histories (fun task tr e => PresentedInOrder env task tr e.before e.op) p

/-- What holds in every pool that a run reaches. -/
structure TokenInvariant (env : Env) (p : TokenPool) : Prop where
  traced : (tokenService env).Traced p
  lawful : Lawful env p
  marked : ∀ t ∈ p.threads, ∀ e ∈ t.trace, ∀ tokenHash, marked e.op e.reply = some tokenHash →
    p.store.TokenUsed tokenHash
  alone : ∀ (i j : Nat) t u payloadStr, i ≠ j → p.threads[i]? = some t → p.threads[j]? = some u →
    Holds env payloadStr t → ¬ Holds env payloadStr u

theorem tokenInvariant_empty (s : World) : TokenInvariant env (Pool.empty s) where
  traced := System.traced_empty s
  lawful := System.histories_empty s
  marked _ ht := absurd ht List.not_mem_nil
  alone _ _ _ _ _ _ ht := by cases ht

/-- Who took a token presented it as it was minted. -/
theorem minted_of_takes (hl : Lawful env p) (ht : t ∈ p.threads)
    (hp : t.request.presents? env = some payloadStr) (htakes : Takes tokenHash t.trace) :
    t.request = .execute (payloadStr ++ js "." ++ env.unsubscribeSign payloadStr) := by
  obtain ⟨e, he, hfound⟩ := htakes
  obtain ⟨pre, post, htr⟩ := List.append_of_mem he
  have hlaw := hl t ht pre e post htr
  obtain ⟨c, s, o, r, s'⟩ := e
  cases o with
  | unsubscribeTokenFindUnique tokenHash' => exact hlaw.2 payloadStr hp
  | _ => cases hfound

/-- A request that presented a token and was proceeds settled as it should. -/
theorem settled_of_answer {a : TokenAnswer} (htr : (tokenService env).Traced p) (hl : Lawful env p)
    (ht : t ∈ p.threads) (hp : t.request.presents? env = some payloadStr) (ha : t.answer? = some a) :
    ∃ token r, t.request = .execute token ∧ a = .executed r ∧ Settled env token payloadStr t.trace r := by
  obtain ⟨i, hrun⟩ := htr.of_mem ht
  have hobeys := hl t ht
  cases hreq : t.request with
  | mint =>
    rw [hreq] at hp
    cases hp
  | execute token =>
    rw [hreq] at hp hrun hobeys
    have hcode : Logs (World.handle env)
        (fun tr e => PresentedInOrder env (.execute token) tr e.before e.op) (fun _ => True)
        (fun tr r => ∀ a, r = .ok a → ∃ r, a = .executed r ∧ Settled env token payloadStr tr r)
        ((tokenService env).code (.execute token) i) [] := by
      refine (logs_validateAndExecute hp).bind (fun tr r h a heq => ?_) fun _ _ _ _ => nofun
      exact ⟨r, (Except.ok.inj heq).symm, h r rfl⟩
    have hend := (hrun.logs hcode trivial hobeys).2
    have hres := Thread.answer?_eq_some.1 ha
    cases hprog : t.prog with
    | ret b =>
      rw [hprog] at hend hres
      obtain rfl := Except.ok.inj (Option.some.inj hres)
      obtain ⟨r, rfl, hsettled⟩ := hend b rfl
      exact ⟨token, r, rfl, rfl, hsettled⟩
    | throw | choose | call =>
      rw [hprog] at hres
      cases hres

/-- Who took a token and has ended without failing marked it. -/
theorem used_of_holds (hI : TokenInvariant env p) (ht : t ∈ p.threads) (hh : Holds env payloadStr t)
    (hend : t.prog.running = false) : p.store.TokenUsed (mintedHash env payloadStr) := by
  obtain ⟨r, hres⟩ := Prog.result?_of_ended hend
  cases r with
  | error err => exact absurd hres (hh.unfailed err)
  | ok a =>
    obtain ⟨token, r, hreq, -, hsettled⟩ :=
      settled_of_answer hI.traced hI.lawful ht hh.presents (Thread.answer?_eq_some.2 hres)
    obtain ⟨e, he, hfound⟩ := hh.takes
    cases hsettled with
    | malformed _ hnone | used hnone =>
      rw [hnone e he] at hfound
      cases hfound
    | spent _ _ hmarked =>
      obtain ⟨e', he', hm⟩ := hmarked
      have hminted := minted_of_takes hI.lawful ht hh.presents hh.takes
      obtain rfl := TokenTask.execute.inj (hreq.symm.trans hminted)
      exact hI.marked t ht e' he' _ hm

theorem keepsUsed_step (h : (tokenService env).step p l = some p') : KeepsUsed p.store p'.store := by
  refine System.store_rel h (fun _ => keepsUsed_of_eq rfl) (fun _ _ _ => keepsUsed_handle) ?_
  intro e s s' hs
  rw [← Option.some.inj hs]
  cases e <;> exact keepsUsed_of_eq rfl

/-- Who holds a token after a step held it before, or has just found it unused. -/
theorem holds_step (h : (tokenService env).step p l = some p') (ht : p'.threads[i]? = some t)
    (hh : Holds env payloadStr t) : (∃ t₀, p.threads[i]? = some t₀ ∧ Holds env payloadStr t₀) ∨
      ∃ c t₀ o k, l = .pick i c ∧ p.threads[i]? = some t₀ ∧ t₀.prog = .call o k ∧
        t₀.request.presents? env = some payloadStr ∧
          foundUnused o (World.handle env c.2 p.store o).1 = some (mintedHash env payloadStr) := by
  rcases System.thread_cases h ht with ht₀ | ⟨task, -, -, -, rfl⟩ | ⟨t₀, c, k, -, ht₀, hprog, -, rfl⟩ |
    ⟨t₀, c, o, k, hl, ht₀, hprog, -, rfl⟩
  · exact .inl ⟨t, ht₀, hh⟩
  · obtain ⟨e, he, -⟩ := hh.takes
    exact absurd he List.not_mem_nil
  · refine .inl ⟨t₀, ht₀, hh.presents, hh.takes, fun err => ?_⟩
    rw [hprog]
    exact nofun
  · obtain ⟨e, he, hfound⟩ := hh.takes
    rcases List.mem_append.1 he with he | he
    · refine .inl ⟨t₀, ht₀, hh.presents, ⟨e, he, hfound⟩, fun err => ?_⟩
      rw [hprog]
      exact nofun
    · obtain rfl := List.mem_singleton.1 he
      exact .inr ⟨c, t₀, o, k, hl, ht₀, hprog, hh.presents, hfound⟩

/-- Nobody finds a token unused that another request holds. -/
theorem not_found_of_holds (hok : OneAtATime env p l) (hI : TokenInvariant env p) {c : Bool × Choice}
    {k : Except Err o.Res → Gateway TokenAnswer} (hl : l = .pick i c) (hij : j ≠ i)
    (ht : p.threads[i]? = some t) (hprog : t.prog = .call o k)
    (hp : t.request.presents? env = some payloadStr) (hu : p.threads[j]? = some u)
    (hh : Holds env payloadStr u) :
    foundUnused o (World.handle env c.2 p.store o).1 ≠ some (mintedHash env payloadStr) := by
  intro hfound
  subst hl
  have hlooks : o.looksUp = true := by
    cases o with
    | unsubscribeTokenFindUnique => rfl
    | _ => cases hfound
  obtain ⟨hj, rfl⟩ := List.getElem?_eq_some_iff.1 hu
  have hidle := (hok t ht o (by rw [hprog]; rfl)).2 hlooks payloadStr hp ⟨j, hj⟩ hij
  obtain ⟨e, he, hfound'⟩ := hh.takes
  have hlooked : e.op.looksUp = true := by
    obtain ⟨c, s, o, r, s'⟩ := e
    cases o with
    | unsubscribeTokenFindUnique => rfl
    | _ => cases hfound'
  have hend : (p.threads[j]).prog.running = false :=
    Bool.eq_false_iff.2 fun hrun => hidle ⟨hh.presents, hrun, e, he, hlooked⟩
  exact not_used_of_foundUnused hfound (used_of_holds hI (List.getElem_mem hj) hh hend)

theorem tokenInvariant_step (hok : OneAtATime env p l) (h : (tokenService env).step p l = some p')
    (hI : TokenInvariant env p) : TokenInvariant env p' := by
  refine ⟨hI.traced.step h, hI.lawful.step h fun i c t o k hl ht hprog => ?_, fun t ht e he tokenHash hm => ?_,
    fun i j t u payloadStr hij ht hu hh hh' => ?_⟩
  · subst hl
    exact (hok t ht o (by rw [hprog]; rfl)).1
  · obtain ⟨i, hrun⟩ := (hI.traced.step h).of_mem ht
    rcases System.event_cases h ht he with ⟨t₀, ht₀, he₀⟩ | ⟨-, hafter⟩
    · exact keepsUsed_step h _ (hI.marked t₀ ht₀ e he₀ tokenHash hm)
    · obtain ⟨c, s, o, rfl⟩ := hrun.event e he
      exact hafter ▸ used_of_marked hm
  · rcases holds_step h ht hh with ⟨t₀, ht₀, hh₀⟩ | ⟨c, t₀, o, k, hl, ht₀, hprog, hp, hfound⟩
    · rcases holds_step h hu hh' with ⟨u₀, hu₀, hh₀'⟩ | ⟨c, u₀, o, k, hl, hu₀, hprog, hp, hfound⟩
      · exact hI.alone i j t₀ u₀ payloadStr hij ht₀ hu₀ hh₀ hh₀'
      · exact not_found_of_holds hok hI hl hij hu₀ hprog hp ht₀ hh₀ hfound
    · rcases holds_step h hu hh' with ⟨u₀, hu₀, hh₀'⟩ | ⟨c', u₀, o', k', hl', -, -, -, -⟩
      · exact not_found_of_holds hok hI hl (Ne.symm hij) ht₀ hprog hp hu₀ hh₀' hfound
      · rw [hl] at hl'
        cases hl'
        exact hij rfl

/-- Who reports success holds the token. -/
theorem holds_of_spent (hI : TokenInvariant env p) (ht : t ∈ p.threads)
    (hs : spent? env t = some payloadStr) :
    Holds env payloadStr t ∧ t.prog.running = false ∧ env.decodePayload payloadStr ≠ none := by
  unfold spent? at hs
  split at hs
  · next r ha =>
    split at hs
    · next hsuccess =>
      obtain ⟨token, r', hreq, heq, hsettled⟩ := settled_of_answer hI.traced hI.lawful ht hs ha
      obtain rfl := TokenAnswer.executed.inj heq
      have hres := Thread.answer?_eq_some.1 ha
      cases hsettled with
      | malformed | used => cases hsuccess
      | spent hpayload htakes =>
        have hminted := minted_of_takes hI.lawful ht hs htakes
        obtain rfl := TokenTask.execute.inj (hreq.symm.trans hminted)
        refine ⟨⟨hs, htakes, fun err herr => ?_⟩, ?_, ?_⟩
        · rw [hres] at herr
          cases herr
        · unfold Prog.running
          rw [hres]
          rfl
        · rw [hpayload]
          exact nofun
    · cases hs
  · cases hs

/-- What holds of those who present a token later that is used in `p₁`. -/
def UsedSince (n : Nat) (tokenHash : JsString) (p : TokenPool) : Prop :=
  p.store.TokenUsed tokenHash ∧ System.EventsFrom n (fun _ e => foundUnused e.op e.reply ≠ some tokenHash) p

theorem usedSince_step {n : Nat} (h : (tokenService env).step p l = some p') (hu : UsedSince n tokenHash p) :
    UsedSince n tokenHash p' :=
  ⟨keepsUsed_step h _ hu.1, hu.2.step h fun _ _ _ _ _ _ _ _ _ hfound => not_used_of_foundUnused hfound hu.1⟩

/-- Where tokens are presented in order and one at a time, each is used once. -/
theorem tokens_used_once (hok₁ : (tokenService env).Keeps (OneAtATime env) (Pool.empty s) ls₁)
    (hr₁ : (tokenService env).run (Pool.empty s) ls₁ = some p₁)
    (hok₂ : (tokenService env).Keeps (OneAtATime env) p₁ ls₂)
    (hr₂ : (tokenService env).run p₁ ls₂ = some p₂) : SingleUse env p₁ p₂ := by
  have hI₁ : TokenInvariant env p₁ := System.Keeps.induction
    (fun _ _ _ hok hp h => tokenInvariant_step hok h hp) hok₁ hr₁ (tokenInvariant_empty s)
  have hI₂ : TokenInvariant env p₂ := System.Keeps.induction
    (fun _ _ _ hok hp h => tokenInvariant_step hok h hp) hok₂ hr₂ hI₁
  refine ⟨List.pairwise_iff_getElem.2 fun i j hi hj hij payloadStr ht hu => ?_,
    fun t ht payloadStr hspent u hu hpu a ha => ?_⟩
  · exact hI₂.alone i j _ _ payloadStr hij.ne (List.getElem?_eq_getElem hi) (List.getElem?_eq_getElem hj)
      (holds_of_spent hI₂ (List.getElem_mem hi) ht).1 (holds_of_spent hI₂ (List.getElem_mem hj) hu).1
  · obtain ⟨hh, hend, hpayload⟩ := holds_of_spent hI₁ ht hspent
    have hsince : UsedSince p₁.threads.length (mintedHash env payloadStr) p₂ := System.Keeps.induction
      (fun _ _ _ _ hp h => usedSince_step h hp) hok₂ hr₂
      ⟨used_of_holds hI₁ ht hh hend, System.eventsFrom_length⟩
    obtain ⟨token, r, hreq, rfl, hsettled⟩ :=
      settled_of_answer hI₂.traced hI₂.lawful (List.mem_of_mem_drop hu) hpu ha
    cases hsettled with
    | malformed hnone => exact absurd hnone hpayload
    | used => rfl
    | spent _ htakes =>
      have hminted := minted_of_takes hI₂.lawful (List.mem_of_mem_drop hu) hpu htakes
      obtain rfl := TokenTask.execute.inj (hreq.symm.trans hminted)
      obtain ⟨e, he, hfound⟩ := htakes
      obtain ⟨j, hj⟩ := List.mem_iff_getElem?.1 hu
      rw [List.getElem?_drop] at hj
      exact absurd hfound (hsince.2 _ u (Nat.le_add_right _ _) hj e he)

/-! ### Tokens that are used -/

/-- The payload of a token for a wallet, minted in the first second. -/
def walletPayload : JsString :=
  Env.signing.encodePayload ⟨js "w", none, none, tokenTtlSeconds⟩

/-- The token, as it was minted. -/
def walletToken : JsString := walletPayload ++ js "." ++ Env.signing.unsubscribeSign walletPayload

example : ((World.handle Env.signing).exec {} (generateSignedUnsubscribeUrl (js "w") none) World.blank).1.map
    (·.token Env.signing) = .ok walletToken := by decide +kernel

/-- The wallet's user, who has opted in to everything. -/
def walletStore : World :=
  { World.blank with portalUsers := [⟨js "w", none, true, true, true, true, 0⟩] }

/-- A replay of requests to the service. -/
def replayTokens (ls : List TokenLabel) : Option TokenPool :=
  (tokenService Env.signing).run (Pool.empty walletStore) ls

/-- A token that is minted, stored and used. -/
def mintedAndUsed : List TokenLabel :=
  .arrive (.mint (js "w") none none) :: proceeds 0 2 ++ .arrive (.execute walletToken) :: proceeds 1 7

/-- A token that is presented. -/
def presented : List TokenLabel := .arrive (.execute walletToken) :: proceeds 2 2

theorem tokens_used_once_presented :
    ∃ p₁ ∈ replayTokens mintedAndUsed, ∃ p₂ ∈ (tokenService Env.signing).run p₁ presented,
      SingleUse Env.signing p₁ p₂ ∧
      p₂.threads.map (spent? Env.signing) = [none, some walletPayload, none] := by
  obtain ⟨hok₁, p₁, h₁, hok₂, p₂, h₂, hspent⟩ :
      (tokenService Env.signing).Keeps (OneAtATime Env.signing) (Pool.empty walletStore) mintedAndUsed ∧
      ∃ p ∈ replayTokens mintedAndUsed,
        (tokenService Env.signing).Keeps (OneAtATime Env.signing) p presented ∧
        ∃ p₂ ∈ (tokenService Env.signing).run p presented,
          p₂.threads.map (spent? Env.signing) = [none, some walletPayload, none] := by
    decide +kernel
  exact ⟨p₁, h₁, p₂, h₂, tokens_used_once hok₁ h₁ hok₂ h₂, hspent⟩

/-- A token that dispatch has made, which is not stored, is used and used again. -/
def dispatchTokenTwice : List TokenLabel :=
  .arrive (.execute walletToken) :: proceeds 0 5 ++ .arrive (.execute walletToken) :: proceeds 1 5

/-- A token that was used is written otherwise, with padding, and used again. -/
def paddedTokenTwice : List TokenLabel :=
  mintedAndUsed ++ .arrive (.execute (walletToken ++ js "=")) :: proceeds 2 5

/-- Two requests look a stored token up before either marks it. -/
def bothLookUp : List TokenLabel :=
  .arrive (.mint (js "w") none none) :: proceeds 0 2 ++
    .arrive (.execute walletToken) :: .arrive (.execute walletToken) :: proceeds 1 2 ++ proceeds 2 7 ++
      proceeds 1 5

/-- A token is used before it is stored, and again. -/
def usedBeforeStored : List TokenLabel :=
  .arrive (.mint (js "w") none none) :: proceeds 0 1 ++ .arrive (.execute walletToken) :: proceeds 1 5 ++
    proceeds 0 1 ++ .arrive (.execute walletToken) :: proceeds 2 7

/-- A replay uses a token twice. -/
def UsedTwice (ls : List TokenLabel) : Prop :=
  ∃ p ∈ replayTokens ls, ¬ SingleUse Env.signing (Pool.empty walletStore) p

/-- Each is used twice. -/
theorem tokens_used_twice :
    [dispatchTokenTwice, paddedTokenTwice, bothLookUp, usedBeforeStored].Forall UsedTwice := by
  have twice : ∀ ls ∈ [dispatchTokenTwice, paddedTokenTwice, bothLookUp, usedBeforeStored],
      ∃ p ∈ replayTokens ls,
        ¬ p.threads.Pairwise fun t u => ∀ payloadStr ∈ spent? Env.signing t,
          payloadStr ∉ spent? Env.signing u := by
    decide +kernel
  refine List.forall_iff_forall_mem.2 fun ls hls => ?_
  obtain ⟨p, hp, hnot⟩ := twice ls hls
  exact ⟨p, hp, fun h => hnot h.once⟩

end HeraldGateway
