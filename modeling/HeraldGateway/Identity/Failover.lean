import HeraldGateway.Types

/-!
# Failover of the RPC endpoint

`rpc-manager.service.ts` switches from the primary endpoint to the fallback after repeated failures and back
after half a minute, and `solana.service.ts` looks identities up through a client that it made when it was
constructed. Lookups should go where the manager points.
-/

namespace HeraldGateway

/-- What the services are configured with. -/
structure RpcConfig where
  /-- `SOLANA_RPC_URL` -/
  primaryUrl : JsString
  /-- `SOLANA_FALLBACK_RPC_URL` -/
  fallbackUrl : Option JsString
  /-- Whether `new PublicKey(wallet)` accepts a wallet. -/
  isPublicKey : JsString → Bool

/-! ### The manager -/

/-- `RpcManagerService` -/
structure RpcManagerService where
  /-- `activeConnection.rpcEndpoint` -/
  activeEndpoint : JsString
  circuitBreakerOpen : Bool := false
  failureCount : Nat := 0
  lastFailureAt : Option Millis := none
  deriving DecidableEq, Repr

namespace RpcManagerService

/-- Its constructor. -/
def construct (config : RpcConfig) : RpcManagerService := { activeEndpoint := config.primaryUrl }

/-- The last failure is long enough ago to try the primary again. -/
def recoveryDue (now : Millis) (m : RpcManagerService) : Bool :=
  match m.lastFailureAt with
  | some t => decide (now > t + 30000)
  | none => false

/-- `getConnection`: the manager that it leaves, whose active connection it returns. -/
def getConnection (config : RpcConfig) (now : Millis) (m : RpcManagerService) : RpcManagerService :=
  if !m.circuitBreakerOpen then m
  else if m.recoveryDue now then
    { m with circuitBreakerOpen := false, failureCount := 0, activeEndpoint := config.primaryUrl }
  else m

/-- `recordFailure` -/
def recordFailure (config : RpcConfig) (now : Millis) (m : RpcManagerService) : RpcManagerService :=
  let m := { m with failureCount := m.failureCount + 1, lastFailureAt := some now }
  if m.failureCount > 5 && truthy config.fallbackUrl then
    { m with
      circuitBreakerOpen := true
      activeEndpoint := config.fallbackUrl.getD []
      failureCount := 0 }
  else m

/-- `recordSuccess` -/
def recordSuccess (m : RpcManagerService) : RpcManagerService :=
  if m.failureCount > 0 then { m with failureCount := m.failureCount - 1 } else m

end RpcManagerService

/-! ### The lookups -/

/-- `SolanaService` with its manager, at some time. -/
structure SolanaService where
  now : Millis
  rpcManager : RpcManagerService
  /-- The `rpcUrl` of its `ReadClient`, to which the client sends its requests. -/
  readClientUrl : JsString
  deriving DecidableEq, Repr

/-- What happens to the services. -/
inductive RpcEvent where
  /-- `fetchIdentityAccount` is called and sends its request. -/
  | fetchIdentityAccount (wallet : JsString)
  /-- The outcome of a request is reported. -/
  | reported (success : Bool)
  /-- Another method asks for the connection: `fetchAllIdentities` or `sendAndConfirm`. -/
  | connected
  /-- Time passes. -/
  | elapse (ms : Nat)
  deriving DecidableEq, Repr

namespace SolanaService

/-- Both constructors. -/
def construct (config : RpcConfig) (now : Millis) : SolanaService :=
  let m := (RpcManagerService.construct config).getConnection config now
  ⟨now, m, m.activeEndpoint⟩

/-- What an event leaves. A lookup of what is no public key fails before it sends anything. -/
def step (config : RpcConfig) (s : SolanaService) : RpcEvent → SolanaService
  | .fetchIdentityAccount wallet =>
    if config.isPublicKey wallet then s
    else { s with rpcManager := s.rpcManager.recordFailure config s.now }
  | .reported true => { s with rpcManager := s.rpcManager.recordSuccess }
  | .reported false => { s with rpcManager := s.rpcManager.recordFailure config s.now }
  | .connected => { s with rpcManager := s.rpcManager.getConnection config s.now }
  | .elapse ms => { s with now := s.now + ms }

/-- The services after some events. -/
def after (config : RpcConfig) (start : Millis) (events : List RpcEvent) : SolanaService :=
  events.foldl (step config) (construct config start)

/-- The endpoint that the manager designates. -/
def designated (config : RpcConfig) (s : SolanaService) : JsString :=
  (s.rpcManager.getConnection config s.now).activeEndpoint

/-- The manager designates the primary endpoint: it has not switched, or is about to switch back, or the
fallback is no other endpoint. -/
def OnPrimary (config : RpcConfig) (s : SolanaService) : Prop :=
  s.rpcManager.circuitBreakerOpen = false ∨ s.rpcManager.recoveryDue s.now = true ∨
    config.fallbackUrl = some config.primaryUrl

instance (config : RpcConfig) (s : SolanaService) : Decidable (s.OnPrimary config) := by
  unfold OnPrimary; infer_instance

end SolanaService

/-- The state in which each lookup of a run sends its request. -/
def AtLookups (config : RpcConfig) (start : Millis) (events : List RpcEvent) (P : SolanaService → Prop) :
    Prop :=
  ∀ pre wallet post, events = pre ++ .fetchIdentityAccount wallet :: post →
    config.isPublicKey wallet = true → P (SolanaService.after config start pre)

/-- Each lookup is sent to the endpoint that the manager designates at its time. -/
def FollowsManager (config : RpcConfig) (start : Millis) (events : List RpcEvent) : Prop :=
  AtLookups config start events fun s => s.readClientUrl = s.designated config

end HeraldGateway
