import HeraldGateway.Js

/-!
# What the request log keeps of a body

`sanitizeBody` of `request-log.interceptor.ts`: the values under sensitive keys are replaced at any depth.
-/

namespace HeraldGateway.RequestLog

/-- A value of JSON, whose numbers are of any type. The keys of an object are distinct. -/
inductive Json (ν : Type) where
  | null
  | bool (b : Bool)
  | number (n : ν)
  | string (s : JsString)
  | array (items : List (Json ν))
  | object (entries : List (JsString × Json ν))

variable {ν : Type}

def SENSITIVE_KEYS : List JsString :=
  [js "wallet", js "email", js "subject", js "body", js "authorization", js "password", js "secret"]

/-- `SENSITIVE_KEYS.has(k.toLowerCase())`. Only letters of ASCII become letters of these keys. -/
def isSensitive (k : JsString) : Bool := SENSITIVE_KEYS.contains (toLowerCase k)

/-- The key that an assignment to a plain object takes for its prototype. -/
def PROTO : JsString := js "__proto__"

mutual

/-- `sanitizeBody` -/
def sanitizeBody : Json ν → Json ν
  | .array items => .array (sanitizeItems items)
  | .object entries => .object (sanitizeEntries entries)
  | j => j

/-- `obj.map(sanitizeBody)` -/
def sanitizeItems : List (Json ν) → List (Json ν)
  | [] => []
  | item :: items => sanitizeBody item :: sanitizeItems items

/-- The loop over the entries. `result[k] = …` adds an entry, but where it sets the prototype. -/
def sanitizeEntries : List (JsString × Json ν) → List (JsString × Json ν)
  | [] => []
  | (k, v) :: entries =>
    if k = PROTO then sanitizeEntries entries
    else (k, if isSensitive k then .string (js "[redacted]") else sanitizeBody v) :: sanitizeEntries entries

end

/-! ## Values that differ under sensitive keys -/

mutual

/-- Two values are the same but for what is stored under sensitive keys. -/
inductive SameBut : Json ν → Json ν → Prop where
  | null : SameBut .null .null
  | bool (b : Bool) : SameBut (.bool b) (.bool b)
  | number (n : ν) : SameBut (.number n) (.number n)
  | string (s : JsString) : SameBut (.string s) (.string s)
  | array {items items' : List (Json ν)} (h : SameItems items items') : SameBut (.array items) (.array items')
  | object {entries entries' : List (JsString × Json ν)} (h : SameEntries entries entries') :
      SameBut (.object entries) (.object entries')

/-- The same of items. -/
inductive SameItems : List (Json ν) → List (Json ν) → Prop where
  | nil : SameItems [] []
  | cons {item item' : Json ν} {items items' : List (Json ν)} (h : SameBut item item')
      (hs : SameItems items items') : SameItems (item :: items) (item' :: items')

/-- The same of entries. -/
inductive SameEntries : List (JsString × Json ν) → List (JsString × Json ν) → Prop where
  | nil : SameEntries [] []
  /-- Under a sensitive key there may be any two values. -/
  | sensitive {k : JsString} {v v' : Json ν} {entries entries' : List (JsString × Json ν)}
      (h : isSensitive k = true) (hs : SameEntries entries entries') :
      SameEntries ((k, v) :: entries) ((k, v') :: entries')
  | other {k : JsString} {v v' : Json ν} {entries entries' : List (JsString × Json ν)} (h : SameBut v v')
      (hs : SameEntries entries entries') : SameEntries ((k, v) :: entries) ((k, v') :: entries')

end

/-- The log of a body does not tell what is stored under sensitive keys, and has all else as it was. -/
structure LoggedRight (j : Json ν) : Prop where
  hides : ∀ j', SameBut j j' → sanitizeBody j = sanitizeBody j'
  keeps : SameBut j (sanitizeBody j)

mutual

/-- Some object outside of the sensitive values has an entry of the name `__proto__`. -/
def NamesProto : Json ν → Prop
  | .array items => ItemsNameProto items
  | .object entries => EntriesNameProto entries
  | _ => False

/-- The same of items. -/
def ItemsNameProto : List (Json ν) → Prop
  | [] => False
  | item :: items => NamesProto item ∨ ItemsNameProto items

/-- The same of entries. -/
def EntriesNameProto : List (JsString × Json ν) → Prop
  | [] => False
  | (k, v) :: entries => k = PROTO ∨ (isSensitive k = false ∧ NamesProto v) ∨ EntriesNameProto entries

end

end HeraldGateway.RequestLog
