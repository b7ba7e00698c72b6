import HeraldGateway.Async.Budget
import HeraldGateway.Gateway.Proofs.ConsentProofs
import HeraldGateway.Gateway.Proofs.FootprintProofs
import HeraldGateway.Gateway.Proofs.WorldProofs
import HeraldGateway.Gateway.Consent
import HeraldGateway.Tokens.Proofs.CodecProofs

/-!
# When unsubscribe links work

A request that is answered with success changed the portal user of the token's wallet, if there is one and the
token's category has a flag, and otherwise nobody. The token is that of the job, whose category may have none
and whose hash may be missing.
-/

namespace HeraldGateway

open Async

variable {env : Env} {token walletHash : JsString} {category : JsValue}

/-! ### What a request calls -/

/-- A change of a portal user that opts him out of what a token's category stands for. -/
def Clears (category : JsValue) (u : PortalUser → PortalUser) : Prop :=
  ∀ user, (u user).walletHash = user.walletHash ∧ ∀ c, (category.truthy = true →
    category = .string (js "all") ∨ category = .string c) → (u user).optedOut c = true

/-- Portal users are changed as the token says. -/
def ChangesUser (env : Env) (token : JsString) : Op → Prop
  | .portalUserUpdate walletHash u => ∃ category, tokenTarget? env token = some (walletHash, category) ∧
      switchable category = true ∧ Clears category u
  | _ => True

/-- The call changes no portal user. -/
def Op.sparesUsers : Op → Bool
  | .portalUserUpdate .. => false
  | _ => true

/-- No portal user is found. -/
def FindsNone : Good
  | .portalUserFindUnique _, .ok found => found = none
  | _, _ => True

/-- Portal users are found, and none is changed. -/
def ChangesNone : Good
  | .portalUserFindUnique _, .ok found => found ≠ none
  | .portalUserUpdate .., .ok _ => False
  | _, _ => True

theorem switchable_of_all (h : (!category.truthy || category == .string (js "all")) = true) :
    switchable category = true := by
  rw [switchable, h, Bool.true_or]

theorem switchable_of_flagged {c : JsString} (h : c ∈ flaggedCategories) : switchable (.string c) = true := by
  rw [switchable, Bool.or_eq_true]
  exact .inr (List.any_eq_true.2 ⟨c, h, beq_self_eq_true _⟩)

/-- Who is opted out of everything is opted out of every category. -/
theorem clears_all {u : PortalUser → PortalUser}
    (h : ∀ user, (u user).walletHash = user.walletHash ∧ (u user).optInAll = false) : Clears category u := by
  refine fun user => ⟨(h user).1, fun c _ => ?_⟩
  rw [PortalUser.optedOut, (h user).2]
  rfl

/-- Who is opted out of a category is. -/
theorem clears_flag {c : JsString} {u : PortalUser → PortalUser}
    (htruthy : (JsValue.string c).truthy = true) (hc : c ≠ js "all")
    (h : ∀ user, (u user).walletHash = user.walletHash ∧ (u user).optInFlag c = some false) :
    Clears (.string c) u := by
  refine fun user => ⟨(h user).1, fun c' hcovers => ?_⟩
  rcases hcovers htruthy with hall | hsame
  · exact absurd (JsValue.string.inj hall) hc
  · rw [← JsValue.string.inj hsame, PortalUser.optedOut, (h user).2]
    exact Bool.or_true _

/-- What is changed when a wallet is unsubscribed from a category. -/
theorem within_unsubscribeWallet_target (htarget : tokenTarget? env token = some (walletHash, category)) :
    (unsubscribeWallet walletHash category).Within (ChangesUser env token) (fun _ _ => True) := by
  have change : ∀ clear : PortalUser → PortalUser, switchable category = true → (∀ now, Clears category
      fun user => { clear user with updatedAt := now }) →
      (optOut walletHash clear).Within (ChangesUser env token) (fun _ _ => True) := fun clear hs hclear =>
    Within.bind (within_call trivial) fun now => within_call ⟨category, htarget, hs, hclear now⟩
  refine Within.bind (within_call trivial) fun user => ?_
  cases user with
  | none => trivial
  | some _ =>
    refine Within.ite (fun hall => change _ (switchable_of_all hall) fun _ => clears_all fun _ => ⟨rfl, rfl⟩) fun _ => ?_
    refine Within.ite (fun hc => ?_) fun _ => Within.ite (fun hc => ?_) fun _ => Within.ite (fun hc => ?_)
      fun _ => .ret _
    all_goals
      subst hc
      refine change _ (switchable_of_flagged (by decide)) fun _ => clears_flag rfl (by decide) fun _ => ⟨rfl, rfl⟩

/-- A request is refused, or its payload is executed. -/
theorem validateAndExecute_cases (env : Env) (token : JsString) :
    (∃ error, validateAndExecute env token = .ret (.refused error)) ∨
      ∃ payload, validateAndExecute env token = executeUnexpired env token payload ∧
        tokenTarget? env token = payload.target? := by
  unfold validateAndExecute tokenTarget?
  rcases splitOn 46 token with _ | ⟨payloadStr, _ | ⟨signature, _ | ⟨part, parts⟩⟩⟩
  · exact .inl ⟨_, rfl⟩
  · exact .inl ⟨_, rfl⟩
  · by_cases hsig : env.base64url signature = env.base64url (env.unsubscribeSign payloadStr)
    · simp only [if_pos hsig]
      cases env.decodePayload payloadStr with
      | none => exact .inl ⟨_, rfl⟩
      | some payload => exact .inr ⟨payload, rfl, rfl⟩
    · simp only [if_neg hsig]
      exact .inl ⟨_, rfl⟩
  · exact .inl ⟨_, rfl⟩

theorem executeUnsubscribe_cases (payload : JsonPayload) :
    (∃ e, executeUnsubscribe payload = .throw e) ∨
      ∃ walletHash category, payload.target? = some (walletHash, category) ∧
        executeUnsubscribe payload = unsubscribeWallet walletHash category := by
  unfold executeUnsubscribe
  split
  · exact .inr ⟨_, _, rfl, rfl⟩
  · exact .inl ⟨_, rfl⟩

/-- What a request calls, if it is not about portal users, and what the unsubscribing of its wallet calls. -/
theorem within_request {A : Allowed} {G : Good}
    (hother : ∀ o : Op, (∀ h, o ≠ .portalUserFindUnique h) → o.sparesUsers = true → A o)
    (hwallet : ∀ walletHash category, tokenTarget? env token = some (walletHash, category) →
      (unsubscribeWallet walletHash category).Within A G) : (validateAndExecute env token).Within A G := by
  rcases validateAndExecute_cases env token with ⟨error, hcode⟩ | ⟨payload, hcode, htarget⟩
  · rw [hcode]
    trivial
  · rw [hcode]
    refine Within.bind (within_call (hother _ nofun rfl)) fun now => ?_
    have execute : (executeToken env token payload).Within A G := by
      refine Within.bind (within_call (hother _ nofun rfl))
        fun existing => Within.ite (fun _ => .ret _) fun _ => ?_
      refine Within.bind ?_ fun _ => Within.bind (Within.ite (fun _ => ?_) fun _ => .ret _) fun _ => .ret _
      · rcases executeUnsubscribe_cases payload with ⟨e, hthrow⟩ | ⟨walletHash, category, hpayload, hexecute⟩
        · rw [hthrow]
          trivial
        · rw [hexecute]
          exact hwallet walletHash category (htarget.trans hpayload)
      · exact Within.bind (within_call (hother _ nofun rfl)) fun _ => within_call (hother _ nofun rfl)
    split
    · trivial
    · exact execute
    · trivial

/-- A request changes portal users as its token says. -/
theorem changesUser_request :
    (validateAndExecute env token).Within (ChangesUser env token) (fun _ _ => True) := by
  refine within_request (fun o _ ho => ?_) fun _ _ => within_unsubscribeWallet_target
  cases o with
  | portalUserUpdate => cases ho
  | _ => trivial

/-- It changes none that it did not find. -/
theorem sparesUsers_request :
    (validateAndExecute env token).Within (fun o => o.sparesUsers = true) FindsNone := by
  refine within_request (fun _ _ ho => ho) fun walletHash category _ => ?_
  refine Within.perform_bind rfl fun found hnone => ?_
  obtain rfl : found = none := hnone
  trivial

/-- A call that looks up a portal user. -/
def Op.looksUpUser : Op → Nat
  | .portalUserFindUnique _ => 1
  | _ => 0

/-- It looks up one. -/
theorem looksUpUser_request : Budget (S := Calls) Op.looksUpUser 1 (validateAndExecute env token) := by
  have optOut : ∀ walletHash clear, Gateway.Within (fun o => o.looksUpUser = 0) (fun _ _ => True)
      (optOut walletHash clear) := fun _ _ => Within.bind (within_call rfl) fun _ => within_call rfl
  rcases validateAndExecute_cases env token with ⟨error, hcode⟩ | ⟨payload, hcode, -⟩
  · rw [hcode]
    trivial
  · rw [hcode]
    refine Budget.free_bind (within_call rfl) fun now => ?_
    have execute : Budget (S := Calls) Op.looksUpUser 1 (executeToken env token payload) := by
      refine Budget.free_bind (within_call rfl) fun existing => Budget.ite (fun _ => trivial) fun _ => ?_
      refine Budget.bind_free ?_ fun _ => Within.bind (Within.ite (fun _ => ?_) fun _ => .ret _)
        fun _ => .ret _
      · rcases executeUnsubscribe_cases payload with ⟨e, hthrow⟩ | ⟨walletHash, category, -, hexecute⟩
        · rw [hthrow]
          trivial
        · rw [hexecute]
          refine Budget.bind_free (Budget.perform le_rfl) fun user => ?_
          cases user with
          | none => trivial
          | some _ =>
            refine Within.ite (fun _ => optOut _ _) fun _ => Within.ite (fun _ => optOut _ _) fun _ => ?_
            exact Within.ite (fun _ => optOut _ _) fun _ => Within.ite (fun _ => optOut _ _) fun _ => .ret _
      · exact Within.bind (within_call rfl) fun _ => within_call rfl
    split
    · trivial
    · exact execute
    · trivial

/-- No success. -/
def IsFailure (r : Except Err UnsubscribeResult) : Prop := ∀ a, r = .ok a → a.success = false

theorem fails_error (e : Err) : IsFailure (.error e) := by
  intro a h
  cases h

theorem fails_refused (error : String) : IsFailure (.ok (.refused error)) := by
  rintro _ ⟨⟩
  rfl

theorem fails_optOut (walletHash : JsString) (clear : PortalUser → PortalUser) :
    Along (S := Calls) (fun _ => True) ChangesNone (fun r => ∀ a, r ≠ .ok a) (optOut walletHash clear) := by
  refine Along.bind (Along.perform trivial) (fun now _ => ?_) fun _ _ _ => nofun
  refine ⟨trivial, fun r hr => ?_⟩
  cases r with
  | ok a => exact hr.elim
  | error e => exact nofun

theorem fails_optOutCategory (hall : ¬(!category.truthy || category == .string (js "all")) = true)
    (hs : switchable category = true) :
    Along (S := Calls) (fun _ => True) ChangesNone (fun r => ∀ a, r ≠ .ok a)
    (optOutCategory walletHash category) := by
  rw [switchable, Bool.or_eq_true] at hs
  obtain ⟨c, hc, heq⟩ := List.any_eq_true.1 (hs.resolve_left hall)
  obtain rfl := eq_of_beq heq
  simp only [flaggedCategories, List.mem_cons, List.not_mem_nil, or_false] at hc
  rcases hc with rfl | rfl | rfl
  · exact fails_optOut _ _
  · exact fails_optOut _ _
  · exact fails_optOut _ _

/-- Unsubscribing a wallet does not come to its end without changing its portal user, if that is found and the
category has a flag. -/
theorem fails_unsubscribeWallet (hs : switchable category = true) :
    Along (S := Calls) (fun _ => True) ChangesNone (fun r => ∀ a, r ≠ .ok a)
    (unsubscribeWallet walletHash category) := by
  refine Along.bind (Along.perform trivial) (fun found hfound => ?_) fun _ _ _ => nofun
  cases found with
  | none => exact absurd rfl hfound
  | some user =>
    by_cases hall : (!category.truthy || category == .string (js "all")) = true
    · simp only [hall, if_true]
      exact fails_optOut _ _
    · simp only [hall]
      exact fails_optOutCategory hall hs

/-- A request does not succeed that changes no portal user, although its category has a flag and the portal
user is found. -/
theorem fails_request (hs : (tokenTarget? env token).any (fun target => switchable target.2) = true) :
    Along (S := Calls) (fun _ => True) ChangesNone IsFailure (validateAndExecute env token) := by
  rcases validateAndExecute_cases env token with ⟨error, hcode⟩ | ⟨payload, hcode, htarget⟩
  · rw [hcode]
    exact fails_refused error
  · rw [hcode]
    rw [htarget] at hs
    have unsubscribe : Along (S := Calls) (fun _ => True) ChangesNone (fun r => ∀ a, r ≠ .ok a)
        (executeUnsubscribe payload) := by
      rcases executeUnsubscribe_cases payload with ⟨e, hthrow⟩ | ⟨walletHash, category, hpayload, hexecute⟩
      · rw [hthrow]
        exact nofun
      · rw [hpayload] at hs
        rw [hexecute]
        exact fails_unsubscribeWallet hs
    have execute : Along (S := Calls) (fun _ => True) ChangesNone IsFailure (executeToken env token payload) := by
      refine Along.bind (Along.perform trivial) (fun existing _ => ?_) fun e _ => fails_error e
      by_cases hused : (existing.any (·.usedAt.isSome)) = true
      · simp only [hused, if_true]
        exact fails_refused _
      · simp only [hused]
        exact Along.bind unsubscribe (fun _ hok => absurd rfl (hok _)) fun e _ => fails_error e
    refine Along.bind (Along.perform trivial) (fun now _ => ?_) fun e _ => fails_error e
    cases payload.expired (now / 1000) with
    | none => exact fails_error _
    | some expired =>
      cases expired with
      | true => exact fails_refused _
      | false => exact execute

/-! ### Requests that were answered -/

variable {t u : GatewayThread} {e : GatewayEvent} {c : Choice} {s : World}

/-- The trace of a thread is one of its request. -/
abbrev RunsRequest (env : Env) (u : GatewayThread) : Prop :=
  Runs (World.handle env) (u.request.code env) u.trace u.prog

theorem followed?_eq_some (h : followed? u = some token) :
    u.request = .unsubscribe token ∧ ∃ r, u.prog = .ret (.unsubscribe r) ∧ r.success = true := by
  unfold followed? at h
  split at h
  · next token' r hrequest hresult =>
    split_ifs at h with hsuccess
    obtain rfl := Option.some.inj h
    refine ⟨hrequest, r, ?_, hsuccess⟩
    cases hprog : u.prog with
    | ret a =>
      rw [hprog] at hresult
      rw [Except.ok.inj (Option.some.inj hresult)]
    | _ =>
      rw [hprog] at hresult
      cases hresult
  · cases h

/-- A change that is heard of opts the portal user out. -/
theorem switchesOff_update {up : PortalUser → PortalUser} {a : Unit} {d : JsString}
    (hreply : (World.handle env c s (.portalUserUpdate walletHash up)).1 = .ok a)
    (hclears : Clears category up)
    (hcovers : category.truthy = true → category = .string (js "all") ∨ category = .string d) :
    switchesOff walletHash d ((World.handle env).event c s (.portalUserUpdate walletHash up)) = true := by
  have hserve := handle_ok hreply
  by_cases hany : s.portalUsers.any (·.walletHash == walletHash) = true
  · have hafter : (World.handle env c s (.portalUserUpdate walletHash up)).2.portalUsers =
        updateWhere (·.walletHash == walletHash) up s.portalUsers := by
      rw [hserve]
      simp only [World.serve, hany, if_true, World.reply]
    obtain ⟨user, huser, hhash⟩ := List.any_eq_true.1 hany
    have hmem : up user ∈ updateWhere (·.walletHash == walletHash) up s.portalUsers :=
      List.mem_map.2 ⟨user, huser, if_pos hhash⟩
    show (walletHash == walletHash && (World.handle env c s (.portalUserUpdate walletHash up)).2.portalUsers.any _) = true
    rw [hafter, beq_self_eq_true, Bool.true_and]
    refine List.any_eq_true.2 ⟨up user, hmem, ?_⟩
    rw [(hclears user).1, hhash, (hclears user).2 d hcovers]
    rfl
  · rw [hserve] at hreply
    simp only [World.serve, hany] at hreply
    cases hreply

/-- Who is found is there. -/
theorem findsUser_lookup {found : Option PortalUser}
    (hreply : (World.handle env c s (.portalUserFindUnique walletHash)).1 = .ok found) :
    found.isSome = findsUser ((World.handle env).event c s (.portalUserFindUnique walletHash)) := by
  rw [handle_ok hreply] at hreply
  obtain rfl := Except.ok.inj hreply
  show (s.portalUsers.find? (·.walletHash == walletHash)).isSome =
    s.portalUsers.any (·.walletHash == walletHash)
  rw [Bool.eq_iff_iff, List.find?_isSome, List.any_eq_true]

/-- A request that is answered with success changed the portal user of its wallet, if that is found and its
category has a flag. -/
theorem changes_of_followed (hr : RunsRequest env u) (hf : followed? u = some token)
    (hs : (tokenTarget? env token).any (fun target => switchable target.2) = true)
    (hfinds : ∀ e ∈ u.trace, findsUser e = true) :
    ∃ walletHash category, tokenTarget? env token = some (walletHash, category) ∧ switchable category = true ∧
      ∀ d, (category.truthy = true → category = .string (js "all") ∨ category = .string d) →
        ∃ e ∈ u.trace, switchesOff walletHash d e = true := by
  obtain ⟨hrequest, r, hprog, hsuccess⟩ := followed?_eq_some hf
  rw [RunsRequest, hrequest, hprog] at hr
  have hcode : Along (S := Calls) (fun _ => True) ChangesNone (fun r => ∀ a, r = .ok (.unsubscribe a) → a.success = false)
      ((Task.unsubscribe token).code env) := by
    refine Along.bind (fails_request hs) (fun a ha => ?_) fun e _ a h => by cases h
    rintro _ ⟨⟩
    exact ha a rfl
  have hchanged : ∃ e ∈ u.trace, ¬ChangesNone e.op e.reply := by
    by_contra hno
    push Not at hno
    have hfail := (hr.along hcode hno).1 r rfl
    rw [hsuccess] at hfail
    cases hfail
  obtain ⟨e, he, hchange⟩ := hchanged
  obtain ⟨c, s, o, rfl⟩ := hr.event e he
  have hallowed := (hr.along (Within.bind changesUser_request fun _ => .ret _) fun _ _ => trivial).2 _ he
  cases hreply : (World.handle env c s o).1 with
  | error err =>
    refine absurd ?_ hchange
    show ChangesNone o (World.handle env c s o).1
    rw [hreply]
    cases o <;> trivial
  | ok a =>
    replace hchange : ¬ChangesNone o (.ok a) := hreply ▸ hchange
    cases o with
    | portalUserFindUnique h =>
      refine absurd ?_ hchange
      rintro rfl
      have hfound := findsUser_lookup hreply
      rw [hfinds _ he] at hfound
      cases hfound
    | portalUserUpdate h up =>
      obtain ⟨category, htarget, hswitch, hclears⟩ := hallowed
      exact ⟨h, category, htarget, hswitch, fun d hcovers => ⟨_, he, switchesOff_update hreply hclears hcovers⟩⟩
    | _ => exact absurd trivial hchange

/-- A request that changed a portal user has a token whose category has a flag, and found the portal user. -/
theorem found_of_changes {up : PortalUser → PortalUser} (hr : RunsRequest env u)
    (hrequest : u.request = .unsubscribe token) (he : e ∈ u.trace)
    (hop : e.op = .portalUserUpdate walletHash up) :
    (∃ category, tokenTarget? env token = some (walletHash, category) ∧ switchable category = true) ∧
      ∀ e ∈ u.trace, findsUser e = true := by
  rw [RunsRequest, hrequest] at hr
  have hallowed := (hr.along (Within.bind changesUser_request fun _ => .ret _) fun _ _ => trivial).2 _ he
  rw [hop] at hallowed
  obtain ⟨category, htarget, hswitch, -⟩ := hallowed
  refine ⟨⟨category, htarget, hswitch⟩, fun e₂ he₂ => ?_⟩
  have hspares : ((Task.unsubscribe token).code env).Within (fun o => o.sparesUsers = true) FindsNone :=
    Within.bind sparesUsers_request fun _ => .ret _
  obtain ⟨e₁, he₁, hfound⟩ := hr.exists_reply_of_mem hspares he (by rw [hop]; exact Bool.false_ne_true)
  have hbudget : Budget (S := Calls) Op.looksUpUser 1 ((Task.unsubscribe token).code env) :=
    Budget.bind_free looksUpUser_request fun _ => .ret _
  obtain ⟨c, s, o, rfl⟩ := hr.event e₁ he₁
  cases o with
  | portalUserFindUnique h =>
    cases hreply : (World.handle env c s (.portalUserFindUnique h)).1 with
    | error err =>
      refine absurd ?_ hfound
      show FindsNone (.portalUserFindUnique h) (World.handle env c s (.portalUserFindUnique h)).1
      rw [hreply]
      trivial
    | ok found =>
      have hsome : found ≠ none := by
        rintro rfl
        refine hfound ?_
        show FindsNone (.portalUserFindUnique h) (World.handle env c s (.portalUserFindUnique h)).1
        rw [hreply]
        rfl
      cases hop₂ : e₂.op with
      | portalUserFindUnique h₂ =>
        -- there is one lookup
        obtain rfl := eq_of_traceCost (hr.budget hbudget).1 he₁ he₂ Nat.zero_lt_one (by
          rw [hop₂]
          exact Nat.zero_lt_one)
        rw [← findsUser_lookup hreply]
        exact Option.isSome_iff_ne_none.2 hsome
      | _ =>
        unfold findsUser
        rw [hop₂]
  | _ => exact absurd trivial hfound

/-! ### Links -/

/-- A link is that of a job with a wallet hash and a category. -/
def LinksTo (walletHash category : JsString) (o : Op) : Prop :=
  ∀ link ∈ o.link?, link.walletHash = walletHash ∧
    link.category = if truthy (some category) then some category else none

theorem linksTo_plain {d : JsString} {o : Op} (ho : o.plain = true) : LinksTo walletHash d o := by
  cases o with
  | render | sendEmail => cases ho
  | _ => exact nofun

theorem linksTo_dispatches {A : Allowed} {G : Good} {channels : DecryptedChannels}
    {job : NotificationJobData} (hother : ∀ o : Op, o.link? = none → A o)
    (hlink : ∀ o : Op, LinksTo (job.walletHash.getD []) job.category o → A o) :
    Dispatches A G channels job := by
  refine ⟨hother _ rfl, fun r hr => hlink _ ?_, fun _ _ m hm => hlink _ ?_, fun _ _ => hother _ rfl,
    fun _ => hother _ rfl⟩
  · rintro _ ⟨⟩
    exact hr
  · rintro _ ⟨⟩
    exact hm

/-- The links of a job are for its wallet hash and its category. -/
theorem linksTo_deliver (job : NotificationJobData) :
    ((Task.deliver job).code env).Within (LinksTo (job.walletHash.getD []) job.category)
    (fun _ _ => True) := by
  have hnone : ∀ o : Op, o.link? = none → LinksTo (job.walletHash.getD []) job.category o :=
    fun o ho link hlink => by
    rw [ho] at hlink
    cases hlink
  have hd : ∀ channels, Dispatches (LinksTo (job.walletHash.getD []) job.category) (fun _ _ => True) channels job :=
    fun _ => linksTo_dispatches hnone fun _ => id
  exact within_code (fun _ => linksTo_plain) ⟨fun _ => hnone _ rfl, hnone _ rfl, fun _ => hnone _ rfl,
    fun _ _ => hnone _ rfl, fun _ => hd _, fun _ _ _ _ _ => hd _⟩

/-- The links of a digest are for no wallet and the category of system notifications. -/
theorem linksTo_deliverDigest (data : DigestJobData) :
    ((Task.deliverDigest data).code env).Within (LinksTo [] (js "system")) (fun _ _ => True) := by
  refine within_code (fun _ => linksTo_plain)
    fun _ _ job _ hwallet hcategory => linksTo_dispatches (fun o ho link hlink => ?_) fun o ho => ?_
  · rw [ho] at hlink
    cases hlink
  · rwa [hwallet, hcategory] at ho

/-- The token of a link names what the link is for. -/
theorem tokenTarget?_token (henv : env.TokensRoundTrip) (link : UnsubscribeLink) :
    tokenTarget? env (link.token env) = some (link.walletHash, .ofNullable link.category) := by
  have hsplit : splitOn 46 (link.token env) = _ :=
    splitOn_signedToken henv ⟨link.walletHash, link.category, none, link.expiresAt⟩
  unfold tokenTarget?
  rw [hsplit]
  show (env.decodePayload _).bind _ = _
  rw [henv.decode_encode]
  rfl

/-! ### Runs -/

variable {p : GatewayPool} {ls : List GatewayLabel}

theorem switchesSomeOff_of {d : JsString} (hd : d ∈ flaggedCategories)
    (h : switchesOff walletHash d e = true) :
    switchesSomeOff e = true := by
  unfold switchesOff at h
  unfold switchesSomeOff
  cases hop : e.op with
  | portalUserUpdate h' up =>
    rw [hop] at h
    obtain ⟨hhash, hany⟩ := Bool.and_eq_true_iff.1 h
    refine List.any_eq_true.2 ⟨d, hd, ?_⟩
    rw [switchesOff, hop]
    exact Bool.and_eq_true_iff.2 ⟨beq_self_eq_true h', hany⟩
  | _ =>
    rw [hop] at h
    cases h

theorem op_of_switchesOff {d : JsString} (h : switchesOff walletHash d e = true) :
    ∃ up, e.op = .portalUserUpdate walletHash up := by
  unfold switchesOff at h
  cases hop : e.op with
  | portalUserUpdate h' up =>
    rw [hop] at h
    exact ⟨up, by rw [eq_of_beq (Bool.and_eq_true_iff.1 h).1]⟩
  | _ =>
    rw [hop] at h
    cases h

theorem op_of_switchesSomeOff (h : switchesSomeOff e = true) :
    ∃ walletHash up, e.op = .portalUserUpdate walletHash up := by
  unfold switchesSomeOff at h
  cases hop : e.op with
  | portalUserUpdate h' up => exact ⟨h', up, rfl⟩
  | _ =>
    rw [hop] at h
    cases h

/-- Some flagged category is covered by a category that has a flag, or none in particular. -/
theorem covers_flagged (h : switchable category = true) : ∃ d ∈ flaggedCategories, category.truthy = true →
    category = .string (js "all") ∨ category = .string d := by
  rw [switchable, Bool.or_eq_true, Bool.or_eq_true] at h
  rcases h with (hfalsy | hall) | hflagged
  · refine ⟨js "defi", by decide, fun htruthy => ?_⟩
    rw [htruthy] at hfalsy
    cases hfalsy
  · exact ⟨js "defi", by decide, fun _ => .inl (eq_of_beq hall)⟩
  · obtain ⟨d, hd, heq⟩ := List.any_eq_true.1 hflagged
    exact ⟨d, hd, fun _ => .inr (eq_of_beq heq)⟩

/-- A request whose effect was heard of had a target, and found it. -/
theorem served_of_work (hwork : LinksWork env p) (hruns : ∀ t ∈ p.threads, RunsRequest env t)
    (hu : u ∈ p.threads) (hf : followed? u = some token) :
    (tokenTarget? env token).any (fun target => switchable target.2) = true ∧
      ∀ e ∈ u.trace, findsUser e = true := by
  obtain ⟨e, he, hswitch⟩ := hwork.successes u hu token hf
  obtain ⟨walletHash, up, hop⟩ := op_of_switchesSomeOff hswitch
  obtain ⟨⟨category, htarget, hs⟩, hfinds⟩ := found_of_changes (hruns u hu) (followed?_eq_some hf).1 he hop
  rw [htarget]
  exact ⟨hs, hfinds⟩

/-- The link of an email that works is for its recipient. -/
theorem carriesHash_of_work (henv : env.TokensRoundTrip) (hwork : LinksWork env p)
    (hruns : ∀ t ∈ p.threads, RunsRequest env t) (ht : t ∈ p.threads) (he : e ∈ t.trace)
    {link : UnsubscribeLink} (hlink : link ∈ e.op.link?) (hu : u ∈ p.threads)
    (hf : followed? u = some (link.token env)) :
    t.request.carriesHash env = true := by
  have htrace := hruns t ht
  cases hrequest : t.request with
  | deliver job =>
    rw [RunsRequest, hrequest] at htrace
    have hto := (htrace.along (linksTo_deliver job) fun _ _ => trivial).2 e he link hlink
    obtain ⟨e', he', hswitch⟩ :=
      hwork.emails t ht (env.sha256 job.wallet, job.category) (by rw [hrequest]; rfl) e he
      link hlink u hu hf
    obtain ⟨up, hop⟩ := op_of_switchesOff hswitch
    obtain ⟨⟨category, htarget, -⟩, -⟩ := found_of_changes (hruns u hu) (followed?_eq_some hf).1 he' hop
    rw [tokenTarget?_token henv] at htarget
    have hhash : link.walletHash = env.sha256 job.wallet := congrArg Prod.fst (Option.some.inj htarget)
    exact beq_iff_eq.2 (hto.1.symm.trans hhash)
  | deliverDigest data =>
    -- the category of a digest has no flag
    rw [RunsRequest, hrequest] at htrace
    have hto := (htrace.along (linksTo_deliverDigest data) fun _ _ => trivial).2 e he link hlink
    have hs := (served_of_work hwork hruns hu hf).1
    rw [tokenTarget?_token henv, hto.2] at hs
    exact absurd (show switchable (.ofNullable (some (js "system"))) = true from hs) (by decide)
  | _ => rfl

/-- A link that can be served opts out whom the email went to. -/
theorem works_of_served (henv : env.TokensRoundTrip) (hserved : LinksServed env p)
    (hruns : ∀ t ∈ p.threads, RunsRequest env t) (ht : t ∈ p.threads) {a : JsString × JsString}
    (ha : a ∈ t.request.addressee? env) (he : e ∈ t.trace) {link : UnsubscribeLink}
    (hlink : link ∈ e.op.link?) (hu : u ∈ p.threads) (hf : followed? u = some (link.token env)) :
    ∃ e' ∈ u.trace, switchesOff a.1 a.2 e' = true := by
  have htrace := hruns t ht
  have hcarries := hserved.emails t ht e he link hlink u hu hf
  obtain ⟨hs, hfinds⟩ := hserved.successes u hu _ hf
  obtain ⟨walletHash, category, htarget, -, hcovers⟩ := changes_of_followed (hruns u hu) hf hs hfinds
  rw [tokenTarget?_token henv] at htarget
  obtain ⟨rfl, rfl⟩ := Prod.mk.inj (Option.some.inj htarget)
  cases hrequest : t.request with
  | deliver job =>
    rw [RunsRequest, hrequest] at htrace
    rw [hrequest] at ha hcarries
    obtain rfl := Option.some.inj ha
    obtain ⟨hhash, hcategory⟩ := (htrace.along (linksTo_deliver job) fun _ _ => trivial).2 e he link hlink
    rw [hhash, hcategory] at hcovers
    have hwallet : job.walletHash.getD [] = env.sha256 job.wallet := eq_of_beq hcarries
    rw [hwallet] at hcovers
    refine hcovers job.category fun htruthy => .inr ?_
    by_cases hc : truthy (some job.category) = true
    · rw [if_pos hc]
      rfl
    · rw [if_neg hc] at htruthy
      cases htruthy
  | deliverDigest data =>
    rw [hrequest] at hcarries
    cases hcarries
  | _ =>
    rw [hrequest] at ha
    cases ha

/-- Every link works exactly where links are followed that can be served. -/
theorem links_work_iff (henv : env.TokensRoundTrip) (hr : (gateway env).run (Pool.empty s) ls = some p) :
    LinksWork env p ↔ LinksServed env p := by
  have htraced := System.traced_of_run hr
  have hruns : ∀ t ∈ p.threads, RunsRequest env t := fun t ht => by
    obtain ⟨i, hi⟩ := List.mem_iff_getElem?.1 ht
    exact htraced i t hi
  refine ⟨fun hwork => ⟨?_, ?_⟩, fun hserved => ⟨?_, ?_⟩⟩
  · exact fun t ht e he link hlink u hu hf => carriesHash_of_work henv hwork hruns ht he hlink hu hf
  · exact fun u hu token hf => served_of_work hwork hruns hu hf
  · exact fun t ht a ha e he link hlink u hu hf => works_of_served henv hserved hruns ht ha he hlink hu hf
  · intro u hu token hf
    obtain ⟨hs, hfinds⟩ := hserved.successes u hu token hf
    obtain ⟨walletHash, category, -, hswitch, hcovers⟩ := changes_of_followed (hruns u hu) hf hs hfinds
    obtain ⟨d, hd, hcover⟩ := covers_flagged hswitch
    obtain ⟨e, he, hoff⟩ := hcovers d hcover
    exact ⟨e, he, switchesSomeOff_of hd hoff⟩

/-! ### Runs in which a link is followed -/

/-- A request about a category. -/
def requestAbout (category : JsString) : NotifyDto := { requestTo (js "w") with category := some category }

/-- The job of such a request. -/
def jobAbout (category : JsString) : NotificationJobData :=
  productionJob Env.signing (.uuid 0) (requestAbout category) (client .production)

/-- The token of its emails. -/
def tokenAbout (category : JsString) : JsString :=
  UnsubscribeLink.token Env.signing ⟨js "w", some category, 7 * 24 * 60 * 60⟩

/-- A request is delivered to `w`, who then follows the link of the email, which takes `n` calls. -/
def followedAbout (category : JsString) (n : Nat) : List GatewayLabel :=
  .arrive (.notify (requestAbout category) (client .production)) :: proceeds 0 3 ++
    .arrive (.deliver (jobAbout category)) :: proceeds 1 24 ++
    .arrive (.unsubscribe (tokenAbout category)) :: proceeds 2 n

theorem links_work_iff_followed :
    ∃ p ∈ (gateway Env.signing).run (Pool.empty consentWorld)
    (followedAbout (js "defi") 5), LinksWork Env.signing p ∧
      p.threads.map followed? = [none, none, some (tokenAbout (js "defi"))] := by
  obtain ⟨p, hp, hserved, hfollowed⟩ : ∃ p ∈ (gateway Env.signing).run (Pool.empty consentWorld)
      (followedAbout (js "defi") 5), LinksServed Env.signing p ∧
        p.threads.map followed? = [none, none, some (tokenAbout (js "defi"))] := by decide +kernel
  exact ⟨p, hp, (links_work_iff signing_tokensRoundTrip hp).2 hserved, hfollowed⟩

/-- Who follows the link of an email about security is told that it succeeded, and is opted out of nothing. -/
theorem security_link_idle :
    (gateway Env.signing).Keeps Legal (Pool.empty consentWorld) (followedAbout (js "security") 3) ∧
      ∃ p ∈ (gateway Env.signing).run (Pool.empty consentWorld) (followedAbout (js "security") 3),
        ¬LinksWork Env.signing p := by
  decide +kernel

end HeraldGateway
