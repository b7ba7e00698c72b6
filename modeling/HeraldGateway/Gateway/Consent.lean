import HeraldGateway.Gateway.Footprint

/-!
# What recipients decided

Suppressed emails, categories that a recipient opted out of, and unsubscribe links.
-/

namespace HeraldGateway

open Async

/-!
## Suppression

Once a wallet's email is suppressed, attempts that begin later send it none, and its suppression stays.
-/

/-- The email of a wallet is suppressed. -/
def World.suppressed (s : World) (walletHash : JsString) : Bool :=
  s.suppressions.any (·.walletHash == walletHash)

/-- The task delivers to a wallet. -/
def Task.deliversTo (walletHash : JsString) : Task → Bool
  | deliver job => job.walletHash == some walletHash
  | deliverDigest data => data.walletHash == walletHash
  | _ => false

/-- The task delivers a digest. -/
def Task.isDigest : Task → Bool
  | deliverDigest _ => true
  | _ => false

/-- The call hands a message to the mail provider. -/
def Op.mails : Op → Bool
  | .sendEmail _ => true
  | _ => false

/-- A wallet that is suppressed in `p₁` still is in `p₂`, and no attempt in between was sent to it. -/
def SuppressionRespected (walletHash : JsString) (p₁ p₂ : GatewayPool) : Prop :=
  p₁.store.suppressed walletHash = true → p₂.store.suppressed walletHash = true ∧
    ∀ t ∈ p₂.threads.drop p₁.threads.length, t.request.deliversTo walletHash = true →
      ∀ e ∈ t.trace, e.op.mails = false

instance (walletHash : JsString) (p₁ p₂ : GatewayPool) :
    Decidable (SuppressionRespected walletHash p₁ p₂) := by
  unfold SuppressionRespected; infer_instance

/-- A call that neither clears the suppression of a wallet that is suppressed in `p₁`, nor decrypts an
address for a digest to one. -/
def ClearsNone (env : Env) (p₁ : GatewayPool) (i : Nat) (fault : Fault) (task : Task) : Op → Prop
  | .suppressionDeleteMany walletHash =>
    fault.applies = true → p₁.store.suppressed walletHash = false
  | .decryptAllChannels identity =>
    p₁.threads.length ≤ i → task.isDigest = true → fault = .none →
      (∃ r ∈ p₁.store.suppressions, task.deliversTo r.walletHash = true) →
        truthy (env.decryptAllChannels identity).email = false
  | _ => True

instance (env : Env) (p₁ : GatewayPool) (i : Nat) (fault : Fault) (task : Task) (o : Op) :
    Decidable (ClearsNone env p₁ i fault task o) := by
  unfold ClearsNone; split <;> infer_instance

/-- A step in which no attempt clears the suppression of a wallet that is suppressed in `p₁`, and no
digest to one decrypts an address. -/
def LeavesSuppressed (env : Env) (p₁ p : GatewayPool) : GatewayLabel → Prop
  | .pick i c => ∀ t ∈ p.threads[i]?, ∀ o ∈ t.prog.next?, ClearsNone env p₁ i c.2.fault t.request o
  | _ => True

instance (env : Env) (p₁ p : GatewayPool) (l : GatewayLabel) :
    Decidable (LeavesSuppressed env p₁ p l) := by
  unfold LeavesSuppressed; split <;> infer_instance

/-!
## Consent

A production job reaches the dispatch to channels only if the identity that its attempt resolved did not
opt out of its category, and no unsubscribe of its wallet was recorded before the attempt began.
-/

/-- The flag that `checkOptIn` reads for a category, where there is one. -/
def IdentityAccount.optInFlag (identity : IdentityAccount) (category : JsString) : Option Bool :=
  if category = js "defi" then some identity.optInDefi
  else if category = js "governance" then some identity.optInGovernance
  else if category = js "marketing" then some identity.optInMarketing
  else none

/-- An identity opted out of a category. -/
def OptedOut (identity : IdentityAccount) (category : JsString) : Prop :=
  identity.optInAll = false ∨ identity.optInFlag category = some false

instance (identity : IdentityAccount) (category : JsString) : Decidable (OptedOut identity category) :=
  inferInstanceAs (Decidable (_ ∨ _))

/-- Where somebody opted out, `checkOptIn` says so. -/
theorem checkOptIn_of_optedOut {identity : IdentityAccount} {category : JsString}
    (h : OptedOut identity category) : checkOptIn identity category = false := by
  rcases h with h | h
  · simp [checkOptIn, h]
  · unfold IdentityAccount.optInFlag at h
    unfold checkOptIn
    grind

/-- An unsubscribe link covers a category. -/
def UnsubscribePayload.covers (payload : UnsubscribePayload) (category : JsString) : Bool :=
  !truthy payload.category || payload.category == some (js "all") || payload.category == some category

/-- What a request that was answered with success unsubscribed. -/
def GatewayThread.unsubscribed (t : GatewayThread) : Option UnsubscribePayload :=
  match t.prog.result? with
  | some (.ok (.unsubscribe r)) => if r.success then r.payload.bind (·.typed?) else none
  | _ => none

/-- The call changed the portal user of a wallet. -/
def optsOut (walletHash : JsString) (e : GatewayEvent) : Bool :=
  match e.op with
  | .portalUserUpdate h _ => h == walletHash && e.choice.fault == .none
  | _ => false

/-- A request unsubscribed the wallet of a job from its category, and that was recorded. -/
def Unsubscribes (t : GatewayThread) (job : NotificationJobData) : Prop :=
  ∃ payload ∈ t.unsubscribed, job.walletHash = some payload.walletHash ∧
    payload.covers job.category = true ∧ ∃ e ∈ t.trace, optsOut payload.walletHash e = true

instance (t : GatewayThread) (job : NotificationJobData) : Decidable (Unsubscribes t job) := by
  unfold Unsubscribes; infer_instance

/-- The call begins a dispatch. -/
def Op.dispatches : Op → Bool
  | .protocolAssetFindMany _ => true
  | _ => false

/-- The identity that was resolved, when it is handed to the enclave. -/
def Op.resolved? : Op → Option IdentityAccount
  | .decryptAllChannels identity => some identity
  | _ => none

/-- No production job was dispatched, in an attempt that began since `p₁`, whose wallet was unsubscribed
from its category in `p₁` or had opted out of it. -/
def ConsentRespected (p₁ p₂ : GatewayPool) : Prop :=
  ∀ t ∈ p₂.threads.drop p₁.threads.length, ∀ job ∈ t.request.job?, job.production = true →
    (∃ e ∈ t.trace, e.op.dispatches = true) →
      (∀ u ∈ p₁.threads, ¬ Unsubscribes u job) ∧
        ∀ e ∈ t.trace, ∀ identity ∈ e.op.resolved?, ¬ OptedOut identity job.category

instance (p₁ p₂ : GatewayPool) : Decidable (ConsentRespected p₁ p₂) := by
  unfold ConsentRespected; infer_instance

/-- A step in which an attempt of a production job that began since `p₁` decrypts no contact of somebody
who unsubscribed in `p₁` or had opted out. -/
def ReachesConsenting (env : Env) (p₁ p : GatewayPool) : GatewayLabel → Prop
  | .pick i c => p₁.threads.length ≤ i → c.2.fault = .none → ∀ t ∈ p.threads[i]?,
      ∀ job ∈ t.request.job?, job.production = true →
        ∀ o ∈ t.prog.next?, ∀ identity ∈ o.resolved?, (env.decryptAllChannels identity).hasAny = true →
          (∀ u ∈ p₁.threads, ¬ Unsubscribes u job) ∧ ¬ OptedOut identity job.category
  | _ => True

instance (env : Env) (p₁ p : GatewayPool) (l : GatewayLabel) :
    Decidable (ReachesConsenting env p₁ p l) := by
  unfold ReachesConsenting; split <;> infer_instance

/-!
## Unsubscribe links

The links of an email carry a token that names a wallet and a category. Where a request with the token is
answered with success, the recipient of the email should have opted out of its category.
-/

/-! ### Links -/

/-- The link that a call writes into an email: into its body, or into its header. -/
def Op.link? : Op → Option UnsubscribeLink
  | .render r => some r.unsubscribeUrl
  | .sendEmail m => some m.listUnsubscribe
  | _ => none

/-- Whom the emails of a task go to, by the hash of the wallet, and their category. -/
def Task.addressee? (env : Env) : Task → Option (JsString × JsString)
  | deliver job => some (env.sha256 job.wallet, job.category)
  | deliverDigest data => some (data.walletHash, js "system")
  | _ => none

/-- The token of an unsubscribe request that was answered with success. -/
def followed? (t : GatewayThread) : Option JsString :=
  match t.request, t.prog.result? with
  | .unsubscribe token, some (.ok (.unsubscribe r)) => if r.success then some token else none
  | _, _ => none

/-! ### Opting out -/

/-- The categories that have a flag. -/
def flaggedCategories : List JsString := [js "defi", js "governance", js "marketing"]

/-- The flag of a category, where there is one. -/
def PortalUser.optInFlag (user : PortalUser) (category : JsString) : Option Bool :=
  if category = js "defi" then some user.optInDefi
  else if category = js "governance" then some user.optInGovernance
  else if category = js "marketing" then some user.optInMarketing
  else none

/-- A portal user is opted out of a category. -/
def PortalUser.optedOut (user : PortalUser) (category : JsString) : Bool :=
  !user.optInAll || user.optInFlag category == some false

/-- The call changed the portal user of a wallet, who is opted out of a category after it. -/
def switchesOff (walletHash category : JsString) (e : GatewayEvent) : Bool :=
  match e.op with
  | .portalUserUpdate h _ =>
    h == walletHash && e.after.portalUsers.any fun user => user.walletHash == h && user.optedOut category
  | _ => false

/-- The call changed a portal user, who is opted out of something after it. -/
def switchesSomeOff (e : GatewayEvent) : Bool :=
  match e.op with
  | .portalUserUpdate h _ => flaggedCategories.any fun category => switchesOff h category e
  | _ => false

/-- Every link works: who follows one with success has the recipient opted out, and no request is answered
with success that opted nobody out. -/
structure LinksWork (env : Env) (p : GatewayPool) : Prop where
  emails : ∀ t ∈ p.threads, ∀ a ∈ t.request.addressee? env, ∀ e ∈ t.trace, ∀ link ∈ e.op.link?,
    ∀ u ∈ p.threads,
    followed? u = some (link.token env) → ∃ e' ∈ u.trace, switchesOff a.1 a.2 e' = true
  successes : ∀ u ∈ p.threads, ∀ token ∈ followed? u, ∃ e ∈ u.trace, switchesSomeOff e = true

/-! ### What links need -/

/-- The wallet and the category that a payload names. -/
def JsonPayload.target? : JsonPayload → Option (JsString × JsValue)
  | .value (.string walletHash) category _ _ => some (walletHash, category)
  | _ => none

/-- The wallet and the category that a token names. -/
def tokenTarget? (env : Env) (token : JsString) : Option (JsString × JsValue) :=
  match splitOn 46 token with
  | [payloadStr, _] => (env.decodePayload payloadStr).bind (·.target?)
  | _ => none

/-- A category that has a flag, or none in particular. -/
def switchable (category : JsValue) : Bool :=
  !category.truthy || category == .string (js "all") || flaggedCategories.any fun c => category == .string c

/-- The call looks up no portal user that does not exist. -/
def findsUser (e : GatewayEvent) : Bool :=
  match e.op with
  | .portalUserFindUnique h => e.before.portalUsers.any (·.walletHash == h)
  | _ => true

/-- The emails of a task carry the hash of their recipient's wallet. Those of a digest carry none. -/
def Task.carriesHash (env : Env) : Task → Bool
  | deliver job => job.walletHash.getD [] == env.sha256 job.wallet
  | deliverDigest _ => false
  | _ => true

/-- Links are followed whose token names a category with a flag, or none, while their wallet has a portal
user; and the emails that carry them are no digests, and carry the hash of their recipient's wallet. -/
structure LinksServed (env : Env) (p : GatewayPool) : Prop where
  emails : ∀ t ∈ p.threads, ∀ e ∈ t.trace, ∀ link ∈ e.op.link?, ∀ u ∈ p.threads,
    followed? u = some (link.token env) → t.request.carriesHash env = true
  successes : ∀ u ∈ p.threads, ∀ token ∈ followed? u,
    (tokenTarget? env token).any (fun target => switchable target.2) = true ∧
      ∀ e ∈ u.trace, findsUser e = true

instance (env : Env) (p : GatewayPool) : Decidable (LinksWork env p) :=
  decidable_of_iff (_ ∧ _) ⟨fun h => ⟨h.1, h.2⟩, fun h => ⟨h.1, h.2⟩⟩

instance (env : Env) (p : GatewayPool) : Decidable (LinksServed env p) :=
  decidable_of_iff (_ ∧ _) ⟨fun h => ⟨h.1, h.2⟩, fun h => ⟨h.1, h.2⟩⟩

end HeraldGateway
