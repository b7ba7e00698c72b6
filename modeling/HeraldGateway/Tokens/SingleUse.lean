import HeraldGateway.Gateway.System
import HeraldGateway.Tokens.Codec

/-!
# Tokens are used once

The unsubscribe service marks a token that it has executed, if it finds it stored, under the hash of the
string that was presented. One might expect that a token is executed at most once.
-/

namespace HeraldGateway

open Async

/-- What is asked of the unsubscribe service. -/
inductive TokenTask where
  /-- `generateToken` -/
  | mint (walletHash : JsString) (category protocolId : Option JsString)
  /-- `validateAndExecute` -/
  | execute (token : JsString)
  deriving DecidableEq, Repr

/-- What it returns. -/
inductive TokenAnswer where
  | minted (token : JsString)
  | executed (r : UnsubscribeResult)
  deriving DecidableEq, Repr

/-- The program of a task. -/
def TokenTask.code (env : Env) : TokenTask → Gateway TokenAnswer
  | mint walletHash category protocolId =>
    (generateToken env walletHash category protocolId).bind fun token => .ret (.minted token)
  | execute token => (validateAndExecute env token).bind fun r => .ret (.executed r)

/-- What happens to the stores between the calls: anything, but nobody else writes stored tokens. -/
inductive TokenChange where
  | tick (ms : Nat)
  | configure (w : World)

/-- A change of the stores. -/
def TokenChange.apply (s : World) : TokenChange → World
  | tick ms => { s with now := s.now + ms }
  | configure w => { s.configured w with unsubscribeTokens := s.unsubscribeTokens }

/-- Any number of requests to the unsubscribe service. Dispatch makes its tokens without it. -/
def tokenService (env : Env) : System Calls Err TokenAnswer TokenTask World Choice TokenChange where
  handler := World.handle env
  code task _ := task.code env
  outside e s := some (e.apply s)

/-- A pool of requests. -/
abbrev TokenPool := Pool Calls Err TokenAnswer TokenTask World Choice

/-- A request that runs, or has run. -/
abbrev TokenThread := Thread Calls Err TokenAnswer TokenTask World Choice

/-- A step of a pool. -/
abbrev TokenLabel := Label TokenTask Choice TokenChange

/-- The signed part of a string that verifies. Strings with the same signed part encode one token. -/
def signedPart (env : Env) (token : JsString) : Option JsString :=
  match splitOn 46 token with
  | [payloadStr, signature] =>
    if env.base64url signature = env.base64url (env.unsubscribeSign payloadStr) then some payloadStr else none
  | _ => none

/-- The token that a task presents. -/
def TokenTask.presents? (env : Env) : TokenTask → Option JsString
  | mint .. => none
  | execute token => signedPart env token

/-- The token that a request executed with success. -/
def spent? (env : Env) (t : TokenThread) : Option JsString :=
  match t.answer? with
  | some (.executed r) => if r.success then t.request.presents? env else none
  | _ => none

/-- No token is executed twice with success, and those who present one that was executed in `p₁` later are
told so. -/
structure SingleUse (env : Env) (p₁ p₂ : TokenPool) : Prop where
  once : p₂.threads.Pairwise fun t u => ∀ payloadStr ∈ spent? env t, payloadStr ∉ spent? env u
  later : ∀ t ∈ p₁.threads, ∀ payloadStr ∈ spent? env t, ∀ u ∈ p₂.threads.drop p₁.threads.length,
    u.request.presents? env = some payloadStr →
      ∀ a ∈ u.answer?, a = .executed (.refused "Token already used")

/-- The call looks a token up. -/
def Op.looksUp : Op → Bool
  | .unsubscribeTokenFindUnique _ => true
  | _ => false

/-- A request presents a token, has looked it up and has not ended. -/
def InUse (env : Env) (payloadStr : JsString) (t : TokenThread) : Prop :=
  t.request.presents? env = some payloadStr ∧ t.prog.running = true ∧ ∃ e ∈ t.trace, e.op.looksUp = true

instance (env : Env) (payloadStr : JsString) (t : TokenThread) : Decidable (InUse env payloadStr t) := by
  unfold InUse; infer_instance

/-- A call for a token, after some others: it has not expired when the clock is read, and when it is looked
up it is stored, and written as it was minted. -/
def PresentedInOrder (env : Env) (task : TokenTask) (tr : List GatewayEvent) (s : World) : Op → Prop
  | .now => tr = [] → ∀ payloadStr ∈ task.presents? env, ∀ payload ∈ env.decodePayload payloadStr,
      payload.expired (s.now / 1000) ≠ some true
  | .unsubscribeTokenFindUnique tokenHash => s.unsubscribeTokens.any (·.tokenHash == tokenHash) = true ∧
      ∀ payloadStr ∈ task.presents? env,
        task = .execute (payloadStr ++ js "." ++ env.unsubscribeSign payloadStr)
  | _ => True

instance (env : Env) (task : TokenTask) (tr : List GatewayEvent) (s : World) (o : Op) :
    Decidable (PresentedInOrder env task tr s o) := by
  unfold PresentedInOrder; split <;> infer_instance

/-- A step in which a token is presented in order, and not looked up while another request uses it. -/
def OneAtATime (env : Env) (p : TokenPool) : TokenLabel → Prop
  | .pick i _ => ∀ t ∈ p.threads[i]?, ∀ o ∈ t.prog.next?, PresentedInOrder env t.request t.trace p.store o ∧
      (o.looksUp = true → ∀ payloadStr ∈ t.request.presents? env, ∀ j : Fin p.threads.length,
        j.val ≠ i → ¬ InUse env payloadStr p.threads[j])
  | _ => True

instance (env : Env) (p : TokenPool) (l : TokenLabel) : Decidable (OneAtATime env p l) := by
  unfold OneAtATime; split <;> infer_instance

end HeraldGateway
