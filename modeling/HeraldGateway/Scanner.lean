import HeraldGateway.Types
import HeraldGateway.Text.Patterns

/-!
# The content scanner

`content-scanner.service.ts`: weighted patterns that indicate phishing, and terms that lower the score.
All patterns ignore case; a letter of a pattern matches its two ASCII forms and nothing else, since
folding never maps a unit outside ASCII into it.
-/

namespace HeraldGateway.Scanner

open Text (Regex)

/-- A pattern over UTF-16 code units. -/
abbrev Pattern := Regex UInt16

/-- A code unit of a pattern, in either case. -/
def unit (c : UInt16) : Pattern :=
  .one fun u => u == c || (97 ≤ c && c ≤ 122 && u == c - 32)

/-- A literal part of a pattern, written in lower case. -/
def lit (s : String) : Pattern := .all ((js s).map unit)

/-- One of several literal parts. -/
def oneOf (ss : List String) : Pattern := .any (ss.map lit)

/-- `\s` -/
def space : Pattern := .one isSpace

/-- `\s+` -/
def spaces : Pattern := space.plus

/-- `\d` -/
def digit : Pattern := .one isDigit

/-- `.` -/
def dot : Pattern := .one fun u => u != 10 && u != 13 && u != 0x2028 && u != 0x2029

/-- A word followed by white space. -/
def word (s : String) : Pattern := .seq (lit s) spaces

/-- An entry of `SUSPICIOUS_PATTERNS`. -/
structure Suspicious where
  pattern : Pattern
  weight : Nat
  label : JsString

/-- `SUSPICIOUS_PATTERNS` -/
def suspiciousPatterns : List Suspicious :=
  [ { pattern := .all [word "claim", (word "your").opt, word "airdrop", lit "now"]
      weight := 35, label := js "fake_airdrop_urgency" },
    { pattern := .all [word "connect", (word "your").opt, word "wallet", word "to", lit "verify"]
      weight := 40, label := js "wallet_drainer_pattern" },
    { pattern := .all [word "verify", (word "your").opt, word "wallet", (word "to").opt,
        oneOf ["claim", "receive"]]
      weight := 35, label := js "verify_to_claim" },
    { pattern := .all [oneOf ["click", "tap"], spaces, oneOf ["here", "below"], spaces, word "to",
        oneOf ["claim", "collect", "receive"], spaces, oneOf ["free", "bonus"]]
      weight := 30, label := js "click_to_claim_free" },
    { pattern := .all [
        oneOf ["bit.ly", "tinyurl.com", "t.co", "goo.gl", "ow.ly", "is.gd", "buff.ly"],
        .one fun u => u == 92 || u == 47 || u == 63]
      weight := 25, label := js "url_shortener" },
    { pattern := .all [lit "urgent", .upTo 20 dot, lit "action", .upTo 20 dot, lit "required"]
      weight := 20, label := js "phishing_urgency" },
    { pattern := .all [word "your", oneOf ["account", "wallet", "funds"], spaces,
        (Regex.seq (word "has") (word "been")).opt, oneOf ["compromised", "hacked", "flagged"]]
      weight := 40, label := js "account_compromise_scare" },
    { pattern := .all [oneOf ["send", "transfer"], spaces, digit.plus, .star space,
        oneOf ["eth", "sol", "bnb", "usdc", "usdt"], spaces, word "to", (word "this").opt,
        oneOf ["address", "wallet"]]
      weight := 50, label := js "transfer_to_address" },
    { pattern := .all [oneOf ["metamask", "phantom", "trustwallet", "ledger"], spaces,
        oneOf ["support", "team", "official"], spaces, oneOf ["here", "is"]]
      weight := 45, label := js "wallet_impersonation" },
    { pattern := .all [
        .any [.seq (lit "double") (lit "d").opt, .seq (lit "multiplie") (lit "d").opt,
          .seq (lit "guarantee") (lit "d").opt],
        spaces, (word "your").opt, oneOf ["profit", "return", "investment"]]
      weight := 30, label := js "pump_dump_language" },
    { pattern := .all [
        .any [.seq (word "limited") (lit "time"), lit "exclusive",
          .all [word "only", digit.plus, spaces, lit "spot", (lit "s").opt]],
        spaces, lit "offer"]
      weight := 15, label := js "scarcity_manipulation" },
    { pattern := .any [.seq (word "seed") (lit "phrase"), .seq (word "private") (lit "key"),
        .seq (word "recovery") (lit "phrase"), lit "mnemonic"]
      weight := 60, label := js "seed_phrase_request" },
    { pattern := .all [oneOf ["enter", "provide", "confirm", "share"], spaces, (word "your").opt,
        oneOf ["password", "credentials", "login"]]
      weight := 30, label := js "credential_phishing" } ]

/-- `ALLOW_TERMS` -/
def allowTerms : List Pattern :=
  [ .any [.seq (word "liquidation") (lit "threshold"), .seq (word "health") (lit "factor"),
      .seq (word "collateral") (lit "ratio")],
    .any [.all [word "staking", lit "reward", (lit "s").opt], .seq (word "validator") (lit "epoch"),
      .seq (word "governance") (lit "proposal")],
    .any [.seq (word "price") (lit "alert"), .seq (word "market") (lit "order"),
      .seq (word "limit") (lit "order"), lit "slippage"],
    .seq (word "transaction") (oneOf ["confirmed", "failed", "pending"]),
    .any [.seq (word "your") (lit "position"), .seq (word "open") (lit "position"),
      .seq (word "close") (lit "position")] ]

/-- `ScanResult` -/
structure ScanResult where
  riskScore : Nat
  verdict : Verdict
  triggeredRules : List JsString
  deriving DecidableEq, Repr

/-- The text that is scanned. -/
def scanned (subject body : JsString) : JsString := subject ++ js "\n" ++ body

/-- The suspicious patterns that the text triggers. -/
def triggered (text : JsString) : List Suspicious :=
  suspiciousPatterns.filter fun p => p.pattern.test text

/-- The verdict of a capped score. -/
def verdictOf (score : Nat) : Verdict :=
  if score ≥ 70 then .block else if score ≥ 40 then .review else .pass

/-- `scan` -/
def scan (subject body : JsString) : ScanResult :=
  let text := scanned subject body
  let hits := triggered text
  let score := (hits.map (·.weight)).sum
  let score := allowTerms.foldl (fun n safe => if safe.test text then n - 10 else n) score
  let score := min 100 score
  { riskScore := score, verdict := verdictOf score, triggeredRules := hits.map (·.label) }

end HeraldGateway.Scanner
