import HeraldGateway.ChannelDispatch

/-!
# The BIMI selector of an email

`ses.provider.ts` recovers the sender's domain from the `From` header that dispatch wrote, to look up the BIMI
selector of the domain.
-/

namespace HeraldGateway

/-! ### The address in a header -/

/-- What the first alternative of `/<([^>]+)>|([^\s]+@[^\s]+)/` captures at the start of a text. -/
def bracketAt? : JsString → Option JsString
  | 60 :: s =>
    let run := s.takeWhile (· != 62)
    if run.isEmpty || !s.contains 62 then none else some run
  | _ => none

/-- What the second one captures: the word, if it has an at sign that neither begins nor ends it. -/
def wordAt? (s : JsString) : Option JsString :=
  let word := s.takeWhile fun u => !isSpace u
  if (word.drop 1).dropLast.contains 64 then some word else none

/-- What the leftmost match of the two captures. -/
def emailMatch? : JsString → Option JsString
  | [] => none
  | a :: s => bracketAt? (a :: s) <|> wordAt? (a :: s) <|> emailMatch? s

/-- `email.split('@')[1]` of the address in a header. -/
def headerDomain (sender : JsString) : Option JsString := (splitOn 64 ((emailMatch? sender).getD sender))[1]?

/-! ### The selector -/

/-- A row of `bimi_records`. -/
structure BimiRecord where
  protocolId : JsString
  domain : JsString
  isVerified : Bool
  selector : JsString
  deriving DecidableEq, Repr

/-- `heraldDomains` -/
def heraldDomains : List JsString := [js "useherald.xyz", js "herald.xyz", js "sandbox.useherald.xyz"]

/-- `getBimiConfig`: the selector, where `none` for the rows is a database that fails. -/
def getBimiConfig (rows : Option (List BimiRecord)) (sender : JsString) (protocolId : Option JsString) :
    Option JsString :=
  match headerDomain sender with
  | none | some [] => none
  | some domain => do
    let found := (← rows).find? fun r =>
      r.domain == domain && r.isVerified && (!truthy protocolId || protocolId == some r.protocolId)
    match found with
    | some bimi => return bimi.selector
    | none => if heraldDomains.contains domain then return js "herald" else none

/-! ### Names that look like addresses -/

/-- A part of a protocol's name that the pattern takes for an address. -/
inductive AddressPart where
  /-- An angle bracket, with the rest of the name behind it. -/
  | bracket (rest : JsString)
  /-- A word with an at sign inside. -/
  | word (w : JsString)
  deriving DecidableEq, Repr

/-- Such a part at the start of a text. A bracket counts unless it is closed at once. -/
def partAt? : JsString → Option AddressPart
  | 60 :: s => if s.head? = some 62 then (wordAt? (60 :: s)).map .word else some (.bracket s)
  | s => (wordAt? s).map .word

/-- The first such part of a name. -/
def leadingPart? : JsString → Option AddressPart
  | [] => none
  | a :: s => partAt? (a :: s) <|> leadingPart? s

/-- A domain stands in a text behind its first at sign, up to the next one or the end. -/
def Leads (s domain : JsString) : Prop :=
  ∃ loc rest, s = loc ++ 64 :: (domain ++ rest) ∧ 64 ∉ loc ∧ 64 ∉ domain ∧
    (rest = [] ∨ ∃ more, rest = 64 :: more)

/-- A domain without at signs and angle brackets. -/
def CleanDomain (domain : JsString) : Prop := 64 ∉ domain ∧ 62 ∉ domain

/-- The domain survives behind a name: no part of the name looks like an address, or only an open bracket
without at signs behind it, and the domain is clean; or the first part that looks like one leads to the very
domain. -/
def Survives (name domain : JsString) : Prop :=
  match leadingPart? name with
  | none => CleanDomain domain
  | some (.word w) => Leads w domain
  | some (.bracket rest) =>
    if 62 ∈ rest then Leads (rest.takeWhile (· != 62)) domain
    else if 64 ∈ rest then Leads (rest ++ js " via Herald <noreply") domain
    else CleanDomain domain

end HeraldGateway
