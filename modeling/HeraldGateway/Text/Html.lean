import HeraldGateway.Text.Json
import HeraldGateway.Text.Uri

/-!
# Tags of HTML

A reader of HTML goes from sign to sign and gives the start tags that it meets, as the tokenizer of the
standard does. What it reads of a text depends on the text before only by where it stands.
-/

namespace Text

namespace Html

/-- A start tag: its name and its attributes, whose names are in lower case. -/
structure Tag where
  name : List UInt16
  attrs : List (List UInt16 × List UInt16) := []
  deriving DecidableEq, Repr

/-- Where a reader stands. -/
inductive State where
  | text
  /-- Behind `<`. -/
  | opened
  /-- Behind `</`. -/
  | closing
  | name (close : Bool) (name : List UInt16)
  | between (close : Bool) (tag : Tag)
  | attribute (close : Bool) (tag : Tag) (name : List UInt16)
  /-- Behind the name of an attribute and a blank. -/
  | named (close : Bool) (tag : Tag) (name : List UInt16)
  /-- Behind `=`. -/
  | value (close : Bool) (tag : Tag) (name : List UInt16)
  | quoted (close : Bool) (tag : Tag) (name : List UInt16) (quote : UInt16) (value : List UInt16)
  | unquoted (close : Bool) (tag : Tag) (name value : List UInt16)
  /-- Behind `<!`, and behind `<!-`. -/
  | declaration (dash : Bool)
  /-- Behind `<!--`, and behind a dash after it. -/
  | commentStart (dash : Bool)
  /-- In a comment, behind so many dashes. -/
  | comment (dashes : Nat)
  /-- In a comment, behind `--!`. -/
  | commentBang
  /-- In what is skipped up to the next `>`. -/
  | bogus
  /-- In an element whose text is no markup, behind what may be its end. -/
  | raw (name seen : List UInt16)
  deriving DecidableEq, Repr

/-- A blank. -/
def isBlank (u : UInt16) : Bool := u == 9 || u == 10 || u == 12 || u == 13 || u == 32

/-- Elements whose text is no markup. -/
def rawNames : List (List UInt16) :=
  ["script", "style", "textarea", "title", "xmp", "iframe", "noembed", "noframes"].map Json.ascii

/-- A tag with one more attribute. -/
def Tag.add (t : Tag) (name value : List UInt16) : Tag := { t with attrs := t.attrs ++ [(name, value)] }

/-- A tag ends. -/
def emit (close : Bool) (tag : Tag) : State × List Tag :=
  if close then (.text, [])
  else if tag.name ∈ rawNames then (.raw tag.name [], [tag])
  else (.text, [tag])

/-- Read a sign between the attributes of a tag. -/
def stepBetween (close : Bool) (tag : Tag) (u : UInt16) : State × List Tag :=
  if isBlank u || u == 47 then (.between close tag, [])
  else if u = 62 then emit close tag
  else (.attribute close tag [Url.lower u], [])

/-- Read a sign of the text of an element that is no markup. -/
def stepRaw (name seen : List UInt16) (u : UInt16) : State :=
  let ending : List UInt16 := 60 :: 47 :: name
  if seen = ending ∧ u = 62 then .text
  else if seen = ending ∧ (isBlank u = true ∨ u = 47) then .between true { name := name }
  else if u = 60 then .raw name [60]
  else if (seen ++ [Url.lower u]).isPrefixOf ending then .raw name (seen ++ [Url.lower u])
  else .raw name []

/-- Read a sign. -/
def step : State → UInt16 → State × List Tag
  | .text, u => (if u = 60 then .opened else .text, [])
  | .opened, u =>
    (if Url.isLetter u then .name false [Url.lower u]
    else if u = 33 then .declaration false
    else if u = 47 then .closing
    else if u = 63 then .bogus
    else if u = 60 then .opened
    else .text, [])
  | .closing, u => (if Url.isLetter u then .name true [Url.lower u] else if u = 62 then .text else .bogus, [])
  | .name close n, u =>
    if isBlank u || u == 47 then (.between close { name := n }, [])
    else if u = 62 then emit close { name := n }
    else (.name close (n ++ [Url.lower u]), [])
  | .between close tag, u => stepBetween close tag u
  | .attribute close tag n, u =>
    if isBlank u then (.named close tag n, [])
    else if u = 47 then (.between close (tag.add n []), [])
    else if u = 62 then emit close (tag.add n [])
    else if u = 61 then (.value close tag n, [])
    else (.attribute close tag (n ++ [Url.lower u]), [])
  | .named close tag n, u =>
    if isBlank u then (.named close tag n, [])
    else if u = 61 then (.value close tag n, [])
    else stepBetween close (tag.add n []) u
  | .value close tag n, u =>
    if isBlank u then (.value close tag n, [])
    else if u = 34 ∨ u = 39 then (.quoted close tag n u [], [])
    else if u = 62 then emit close (tag.add n [])
    else (.unquoted close tag n [u], [])
  | .quoted close tag n quote v, u =>
    if u = quote then (.between close (tag.add n v), []) else (.quoted close tag n quote (v ++ [u]), [])
  | .unquoted close tag n v, u =>
    if isBlank u then (.between close (tag.add n v), [])
    else if u = 62 then emit close (tag.add n v)
    else (.unquoted close tag n (v ++ [u]), [])
  | .declaration dash, u =>
    (if u = 45 then (if dash then .commentStart false else .declaration true)
    else if u = 62 then .text
    else .bogus, [])
  | .commentStart dash, u =>
    (if u = 45 then (if dash then .comment 2 else .commentStart true)
    else if u = 62 then .text
    else .comment 0, [])
  | .comment dashes, u =>
    (if u = 45 then .comment (dashes + 1)
    else if u = 62 ∧ 2 ≤ dashes then .text
    else if u = 33 ∧ 2 ≤ dashes then .commentBang
    else .comment 0, [])
  | .commentBang, u => (if u = 45 then .comment 1 else if u = 62 then .text else .comment 0, [])
  | .bogus, u => (if u = 62 then .text else .bogus, [])
  | .raw n seen, u => (stepRaw n seen u, [])

/-- Read a text: where the reader stands then, and the tags that it met. -/
def run : State → List UInt16 → State × List Tag
  | st, [] => (st, [])
  | st, u :: s => ((run (step st u).1 s).1, (step st u).2 ++ (run (step st u).1 s).2)

/-- The reader stands in a start tag, behind the first sign of its name. -/
def State.inTag : State → Bool
  | .name close _ | .between close _ | .attribute close _ _ | .named close _ _ | .value close _ _
  | .quoted close _ _ _ _ | .unquoted close _ _ _ => !close
  | _ => false

/-- The start tags that begin in a part of a text, where `rest` follows the part. -/
def begun (part rest : List UInt16) : List Tag :=
  let reader := run .text part
  reader.2 ++ if reader.1.inTag then (run reader.1 rest).2.take 1 else []

/-- What the references for the signs of markup stand for. -/
def decodeReferences : List UInt16 → List UInt16
  | 38 :: 97 :: 109 :: 112 :: 59 :: s => 38 :: decodeReferences s
  | 38 :: 108 :: 116 :: 59 :: s => 60 :: decodeReferences s
  | 38 :: 103 :: 116 :: 59 :: s => 62 :: decodeReferences s
  | 38 :: 113 :: 117 :: 111 :: 116 :: 59 :: s => 34 :: decodeReferences s
  | 38 :: 35 :: 48 :: 51 :: 57 :: 59 :: s => 39 :: decodeReferences s
  | u :: s => u :: decodeReferences s
  | [] => []

/-! ### Rules -/

variable {st : State} {s t : List UInt16}

/-- A text is read from where the reader stands behind the text before. -/
theorem run_append : run st (s ++ t) = ((run (run st s).1 t).1, (run st s).2 ++ (run (run st s).1 t).2) := by
  induction s generalizing st with
  | nil => rfl
  | cons u s ih =>
    rw [List.cons_append, run, ih]
    simp only [run, List.append_assoc]

/-- A text without `<` has no markup. -/
theorem run_text (h : ∀ u ∈ s, u ≠ 60) : run .text s = (.text, []) := by
  induction s with
  | nil => rfl
  | cons u s ih =>
    have hstep : step .text u = (.text, []) := by
      rw [step, if_neg (h u List.mem_cons_self)]
    rw [run, hstep, ih fun v hv => h v (List.mem_cons_of_mem u hv)]
    rfl

/-- A text without the quote is read as part of the value. -/
theorem run_quoted {close : Bool} {tag : Tag} {n v : List UInt16} {quote : UInt16} (h : ∀ u ∈ s, u ≠ quote) :
    run (.quoted close tag n quote v) s = (.quoted close tag n quote (v ++ s), []) := by
  induction s generalizing v with
  | nil => rw [List.append_nil, run]
  | cons u s ih =>
    have hstep : step (.quoted close tag n quote v) u = (.quoted close tag n quote (v ++ [u]), []) := by
      rw [step, if_neg (h u List.mem_cons_self)]
    rw [run, hstep, ih fun w hw => h w (List.mem_cons_of_mem u hw), List.append_assoc]
    rfl

/-- The tags of a text are those that begin in a part of it, and those of the rest. -/
theorem run_begun : ∃ others, (run .text (s ++ t)).2 = begun s t ++ others := by
  rw [run_append, begun]
  by_cases htag : (run .text s).1.inTag = true
  · refine ⟨(run (run .text s).1 t).2.drop 1, ?_⟩
    simp only [htag, if_true, List.append_assoc, List.take_append_drop]
  · refine ⟨(run (run .text s).1 t).2, ?_⟩
    simp only [htag, Bool.false_eq_true, if_false, List.append_nil]

end Html

end Text
