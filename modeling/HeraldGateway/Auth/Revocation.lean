import HeraldGateway.Auth.ApiKeys

/-!
# Revocation

Whether a request is authenticated with a key that was revoked, that has expired, or whose protocol was
suspended. Answers are cached, so what counts is the database at some time before.
-/

namespace HeraldGateway

open Async

/-- A key may be used: it is not revoked and has not expired, and its protocol is not suspended. -/
def AuthStore.Usable (s : AuthStore) (keyHash : JsString) : Prop :=
  ∃ key ∈ s.keys, key.keyHash = keyHash ∧ key.isRevoked = false ∧ (∀ time ∈ key.expiresAt, s.now < time) ∧
    ∃ account ∈ s.accounts, account.id = key.protocolId ∧ account.isSuspended = false

instance (s : AuthStore) (keyHash : JsString) : Decidable (s.Usable keyHash) := by
  unfold AuthStore.Usable; infer_instance

/-- The hash of the key that a request presents. -/
def AuthTask.keyHash? (env : AuthEnv) : AuthTask → Option JsString
  | .authenticate header => (bearerKey header).map env.hashKey
  | .invalidateCache _ => none

/-- A request presented a key and was authenticated with a context. -/
def Authenticated (env : AuthEnv) (t : AuthThread) (keyHash : JsString) (context : KeyContext) : Prop :=
  t.request.keyHash? env = some keyHash ∧ t.answer? = some (some context)

/-- Every request that was authenticated could use its key at some time while it ran. -/
def UsableWhenAuthenticated (env : AuthEnv) (p : AuthPool) : Prop :=
  ∀ t ∈ p.threads, ∀ keyHash context, Authenticated env t keyHash context →
    ∃ e ∈ t.trace, e.before.Usable keyHash

/-- The call looked a key up in the database, and found it as it should be: not revoked, its protocol active
and not suspended, and, if it is a test key, not expired. -/
structure ChecksOut (keyHash : JsString) (context : KeyContext) (e : AuthEvent) (key : AuthKey)
    (account : AuthAccount) : Prop where
  op : e.op = .findKey keyHash
  stored : key ∈ e.before.keys ∧ key.keyHash = keyHash ∧ key.id = context.apiKeyId
  unrevoked : key.isRevoked = false
  owned : account ∈ e.before.accounts ∧ account.id = key.protocolId ∧ account.id = context.protocolId
  unsuspended : account.isSuspended = false
  active : account.isActive = true
  unexpired : key.isTestKey = true → ∀ time ∈ key.expiresAt, e.before.now ≤ time

/-- A request checked a key. -/
def Checked (keyHash : JsString) (context : KeyContext) (tr : List AuthEvent) : Prop :=
  ∃ e ∈ tr, ∃ key account, ChecksOut keyHash context e key account

/-- The call found a context in the cache. -/
def hit : (o : AuthOp) → Except Err o.Res → Option (JsString × KeyContext)
  | .cacheGet keyHash, .ok (some context) => some (keyHash, context)
  | _, _ => none

/-- A request found in the cache what another one cached less than 300 seconds before, having checked the
key. -/
structure FoundFresh (p : AuthPool) (keyHash : JsString) (context : KeyContext) (e : AuthEvent)
    (t' : AuthThread) (e' : AuthEvent) : Prop where
  hit : hit e.op e.reply = some (keyHash, context)
  writer : t' ∈ p.threads
  write : e' ∈ t'.trace ∧ e'.op = .cacheSetex keyHash CACHE_TTL_SECONDS context
  fresh : e'.before.now ≤ e.before.now ∧ e.before.now < e'.before.now + 1000 * CACHE_TTL_SECONDS
  checked : Checked keyHash context t'.trace

/-- Every request that was authenticated checked its key, or found in the cache what another one did. -/
def AuthenticatedByCheck (env : AuthEnv) (p : AuthPool) : Prop :=
  ∀ t ∈ p.threads, ∀ keyHash context, Authenticated env t keyHash context →
    Checked keyHash context t.trace ∨ ∃ e ∈ t.trace, ∃ t' e', FoundFresh p keyHash context e t' e'

end HeraldGateway
