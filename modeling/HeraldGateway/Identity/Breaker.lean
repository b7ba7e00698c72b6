import HeraldGateway.Identity.Failover

/-!
# The breaker of the RPC manager

The calls that `rpc-manager.service.ts` receives, each at its time, and what a lookup of a queued wallet
reports to it. Both URLs of the configuration are ones that `Connection` takes.
-/

namespace HeraldGateway

/-! ### Calls on the manager -/

/-- A call on the manager. -/
inductive ManagerCall where
  | getConnection
  | recordFailure
  | recordSuccess
  deriving DecidableEq, Repr

/-- A call and its time. -/
structure TimedCall where
  now : Millis
  call : ManagerCall
  deriving DecidableEq, Repr

/-- The manager that a call leaves. -/
def RpcManagerService.answer (config : RpcConfig) (m : RpcManagerService) (c : TimedCall) :
    RpcManagerService :=
  match c.call with
  | .getConnection => m.getConnection config c.now
  | .recordFailure => m.recordFailure config c.now
  | .recordSuccess => m.recordSuccess

/-- A manager, with what an observer of its calls notes down. -/
structure WatchedManager where
  manager : RpcManagerService
  /-- The failures less the successes, never below zero, since the breaker last opened or recovered. -/
  tally : Nat := 0
  /-- When the breaker last opened. -/
  openedAt : Option Millis := none
  deriving DecidableEq, Repr

namespace WatchedManager

/-- What a call makes of the tally. -/
def count (tally : Nat) : ManagerCall → Nat
  | .getConnection => tally
  | .recordFailure => tally + 1
  | .recordSuccess => tally - 1

/-- A call opens the breaker. -/
def Opens (config : RpcConfig) (m : RpcManagerService) (c : TimedCall) : Prop :=
  m.circuitBreakerOpen = false ∧ (m.answer config c).circuitBreakerOpen = true

instance (config : RpcConfig) (m : RpcManagerService) (c : TimedCall) : Decidable (Opens config m c) := by
  unfold Opens; infer_instance

/-- A watched call. -/
def step (config : RpcConfig) (w : WatchedManager) (c : TimedCall) : WatchedManager where
  manager := w.manager.answer config c
  tally :=
    if w.manager.circuitBreakerOpen = (w.manager.answer config c).circuitBreakerOpen then count w.tally c.call
    else 0
  openedAt := if Opens config w.manager c then some c.now else w.openedAt

/-- The manager after some calls. -/
def after (config : RpcConfig) (calls : List TimedCall) : WatchedManager :=
  calls.foldl (step config) { manager := .construct config }

end WatchedManager

/-- Each call of `getConnection` that a run makes more than half a minute after the breaker last opened
returns a primary connection. -/
def Recovers (config : RpcConfig) (calls : List TimedCall) : Prop :=
  ∀ pre now post, calls = pre ++ ⟨now, .getConnection⟩ :: post →
    ∀ t, (WatchedManager.after config pre).openedAt = some t → t + 30000 < now →
      ((WatchedManager.after config pre).manager.getConnection config now).activeEndpoint = config.primaryUrl

/-- The time of the last failure that some calls record. -/
def lastFailure (calls : List TimedCall) : Option Millis :=
  ((calls.filter fun c => c.call = .recordFailure).getLast?).map (·.now)

/-- Each call of `getConnection` that a run makes while the breaker has been open for more than half a minute
comes more than half a minute after the last failure. -/
def FailuresPause (config : RpcConfig) (calls : List TimedCall) : Prop :=
  ∀ pre now post, calls = pre ++ ⟨now, .getConnection⟩ :: post →
    (WatchedManager.after config pre).manager.circuitBreakerOpen = true →
    ∀ t, (WatchedManager.after config pre).openedAt = some t → t + 30000 < now →
      ∀ failed, lastFailure pre = some failed → failed + 30000 < now

/-! ### Lookups of queued wallets -/

/-- Who puts wallets on the notification queue. -/
inductive WalletSource where
  /-- `POST /v1/notify` and its batch form. -/
  | notify
  /-- `reconcilePendingJobs`, for `POST /v1/schedule` and `POST /v1/schedule/cron`. -/
  | scheduled
  /-- `enqueueCampaign`, for the wallets of the audience. -/
  | campaign
  /-- `queueBroadcast`, for the wallets of subscriptions. -/
  | broadcast
  deriving DecidableEq, Repr

/-- `IsSolanaPublicKey`: the text is a public key, and the one that `toBase58` gives. -/
def isSolanaPublicKey (config : RpcConfig) (toBase58 : JsString → JsString) (value : JsString) : Bool :=
  config.isPublicKey value && toBase58 value == value

/-- Whether a wallet may come onto the queue from there. `ScheduleOnceDto` and `InternalSubscribeDto` ask for
a string, and nothing checks the wallets of an audience. -/
def WalletSource.produces (config : RpcConfig) (toBase58 : JsString → JsString) :
    WalletSource → JsString → Bool
  | .notify, wallet => isSolanaPublicKey config toBase58 wallet
  | .scheduled, wallet => truthy (some wallet)
  | .campaign, _ => true
  | .broadcast, _ => true

/-- The wallet of a job on the queue. -/
structure QueuedWallet (config : RpcConfig) (toBase58 : JsString → JsString) where
  source : WalletSource
  wallet : JsString
  produced : source.produces config toBase58 wallet = true

/-- The lookup of a queued wallet. -/
structure QueuedLookup (config : RpcConfig) (toBase58 : JsString → JsString) where
  queued : QueuedWallet config toBase58
  now : Millis
  /-- Redis has the identity, or that there is none. -/
  cached : Bool
  /-- Whether a request to the endpoint succeeds. -/
  succeeds : Bool

namespace RpcManagerService

variable {config : RpcConfig} {toBase58 : JsString → JsString}

/-- What the outcome of a request changes, if one was sent. -/
def report (config : RpcConfig) (now : Millis) (m : RpcManagerService) : Option Bool → RpcManagerService
  | none => m
  | some true => m.recordSuccess
  | some false => m.recordFailure config now

/-- `fetchIdentityAccount`: the manager that it leaves, and the outcome of the request that it sent. The
wallet is parsed inside of the block whose errors are recorded. -/
def fetchIdentityAccount (config : RpcConfig) (now : Millis) (succeeds : Bool) (walletPubkey : JsString)
    (m : RpcManagerService) : RpcManagerService × Option Bool :=
  if !config.isPublicKey walletPubkey then (m.recordFailure config now, none)
  else if succeeds then (m.recordSuccess, some true)
  else (m.recordFailure config now, some false)

/-- `resolveIdentity`, likewise. -/
def resolveIdentity (l : QueuedLookup config toBase58) (m : RpcManagerService) :
    RpcManagerService × Option Bool :=
  if l.cached then (m, none) else m.fetchIdentityAccount config l.now l.succeeds l.queued.wallet

/-- The manager after some lookups. -/
def resolved (lookups : List (QueuedLookup config toBase58)) : RpcManagerService :=
  lookups.foldl (fun m l => (m.resolveIdentity l).1) (construct config)

end RpcManagerService

/-- Each lookup of a run changes the manager only by the outcome of a request that it sent. -/
def CountsOutcomes {config : RpcConfig} {toBase58 : JsString → JsString}
    (lookups : List (QueuedLookup config toBase58)) : Prop :=
  ∀ pre l post, lookups = pre ++ l :: post →
    ((RpcManagerService.resolved pre).resolveIdentity l).1 =
      (RpcManagerService.resolved pre).report config l.now ((RpcManagerService.resolved pre).resolveIdentity l).2

end HeraldGateway
