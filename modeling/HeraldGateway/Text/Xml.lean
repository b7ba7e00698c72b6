import HeraldGateway.Text.Html

/-!
# Tags of XML

A reader of XML gives the start tags of a document, with their names as they are spelled. Comments, CDATA
sections, instructions and the document type are skipped. Whatever it gives stands in the document.
-/

namespace Text

namespace Xml

/-- A start tag, or one of an empty element. -/
structure Tag where
  name : List UInt16
  attrs : List (List UInt16 × List UInt16) := []
  deriving DecidableEq, Repr

/-- A tag with one more attribute. -/
def Tag.add (t : Tag) (name value : List UInt16) : Tag := { t with attrs := t.attrs ++ [(name, value)] }

/-- Where a reader stands. -/
inductive State where
  | text
  /-- Behind `<`. -/
  | opened
  /-- In an end tag. -/
  | closing
  | name (name : List UInt16)
  | between (tag : Tag)
  | attr (tag : Tag) (name : List UInt16)
  /-- Behind the name of an attribute and a blank. -/
  | named (tag : Tag) (name : List UInt16)
  /-- Behind `=`. -/
  | value (tag : Tag) (name : List UInt16)
  | quoted (tag : Tag) (name : List UInt16) (quote : UInt16) (value : List UInt16)
  /-- Behind `<!` and what may begin a comment or a CDATA section. -/
  | declared (seen : List UInt16)
  /-- In a comment, behind so many dashes. -/
  | comment (dashes : Nat)
  /-- In a CDATA section, behind so many brackets. -/
  | cdata (brackets : Nat)
  /-- In the document type, or between the brackets of its declarations. -/
  | doctype (bracketed : Bool)
  /-- In an instruction, and whether behind `?`. -/
  | instruction (mark : Bool)
  deriving DecidableEq, Repr

/-- What begins a CDATA section behind `<!`. -/
def cdataStart : List UInt16 := Json.ascii "[CDATA["

/-- Read a sign behind `<!`. -/
def stepDeclared (seen : List UInt16) : State :=
  if seen = [45, 45] then .comment 0
  else if seen = cdataStart then .cdata 0
  else if seen.isPrefixOf [45, 45] || seen.isPrefixOf cdataStart then .declared seen
  else if seen.getLast? = some 62 then .text
  else .doctype (seen.getLast? = some 91)

/-- Read a sign. -/
def step : State → UInt16 → State × List Tag
  | .text, u => (if u = 60 then .opened else .text, [])
  | .opened, u =>
    (if u = 33 then .declared []
    else if u = 47 then .closing
    else if u = 63 then .instruction false
    else if Html.isBlank u || u == 62 then .text
    else .name [u], [])
  | .closing, u => (if u = 62 then .text else .closing, [])
  | .name n, u =>
    if Html.isBlank u || u == 47 then (.between { name := n }, [])
    else if u = 62 then (.text, [{ name := n }])
    else (.name (n ++ [u]), [])
  | .between tag, u =>
    if Html.isBlank u || u == 47 then (.between tag, [])
    else if u = 62 then (.text, [tag])
    else (.attr tag [u], [])
  | .attr tag n, u =>
    if Html.isBlank u then (.named tag n, [])
    else if u = 61 then (.value tag n, [])
    else if u = 62 then (.text, [tag.add n []])
    else (.attr tag (n ++ [u]), [])
  | .named tag n, u =>
    if Html.isBlank u then (.named tag n, [])
    else if u = 61 then (.value tag n, [])
    else if u = 62 then (.text, [tag.add n []])
    else (.attr (tag.add n []) [u], [])
  | .value tag n, u =>
    if Html.isBlank u then (.value tag n, [])
    else if u = 34 ∨ u = 39 then (.quoted tag n u [], [])
    else if u = 62 then (.text, [tag.add n []])
    else (.attr (tag.add n []) [u], [])
  | .quoted tag n quote v, u =>
    if u = quote then (.between (tag.add n v), []) else (.quoted tag n quote (v ++ [u]), [])
  | .declared seen, u => (stepDeclared (seen ++ [u]), [])
  | .comment dashes, u =>
    (if u = 45 then .comment (dashes + 1) else if u = 62 ∧ 2 ≤ dashes then .text else .comment 0, [])
  | .cdata brackets, u =>
    (if u = 93 then .cdata (brackets + 1) else if u = 62 ∧ 2 ≤ brackets then .text else .cdata 0, [])
  | .doctype bracketed, u =>
    (if u = 91 then .doctype true
    else if u = 93 then .doctype false
    else if u = 62 ∧ bracketed = false then .text
    else .doctype bracketed, [])
  | .instruction mark, u =>
    (if u = 63 then .instruction true else if u = 62 ∧ mark = true then .text else .instruction false, [])

/-- The tags that a reader gives of a text. -/
def tagsFrom : State → List UInt16 → List Tag
  | _, [] => []
  | st, u :: s => (step st u).2 ++ tagsFrom (step st u).1 s

/-- The tags of a document. -/
def tags (s : List UInt16) : List Tag := tagsFrom .text s

/-- A name without its prefix. -/
def localName (n : List UInt16) : List UInt16 := (n.reverse.takeWhile (· != 58)).reverse

/-! ### What stands in a document -/

/-- A tag stands in a text: its name behind an opening bracket, and the names of its attributes. -/
structure Tag.StandsIn (t : Tag) (s : List UInt16) : Prop where
  name : 60 :: t.name <:+: s
  attrs : ∀ a ∈ t.attrs, a.1 <:+: s

/-- What a reader has of a tag stands in what it has read. -/
def State.Holds (s : List UInt16) : State → Prop
  | .opened => ∃ before, s = before ++ [60]
  | .name n => ∃ before, s = before ++ 60 :: n
  | .between tag => tag.StandsIn s
  | .attr tag n => tag.StandsIn s ∧ n <:+ s
  | .named tag n | .value tag n | .quoted tag n _ _ => tag.StandsIn s ∧ n <:+: s
  | _ => True

variable {st : State} {s t : List UInt16} {tag : Tag} {n v : List UInt16} {u : UInt16}

theorem Tag.StandsIn.append (h : tag.StandsIn s) (t : List UInt16) : tag.StandsIn (s ++ t) :=
  ⟨h.name.trans (List.infix_append_left ..), fun a ha => (h.attrs a ha).trans (List.infix_append_left ..)⟩

theorem Tag.StandsIn.add (h : tag.StandsIn s) (hn : n <:+: s) (v : List UInt16) :
    (tag.add n v).StandsIn s := by
  refine ⟨h.name, fun a ha => ?_⟩
  rcases List.mem_append.1 ha with hold | hnew
  · exact h.attrs a hold
  · rw [List.mem_singleton.1 hnew]
    exact hn

theorem holds_stepDeclared (seen : List UInt16) : (stepDeclared seen).Holds s := by
  unfold stepDeclared
  repeat' split
  all_goals trivial

/-- A tag that ends stands in what was read, if it stood there before its last sign. -/
theorem ended (h : tag.StandsIn s) : ∀ t ∈ [tag], t.StandsIn s := fun _ ht => List.mem_singleton.1 ht ▸ h

/-- Reading a sign keeps what the reader has in what it has read. -/
theorem holds_step (h : st.Holds s) (u : UInt16) :
    (step st u).1.Holds (s ++ [u]) ∧ ∀ t ∈ (step st u).2, t.StandsIn (s ++ [u]) := by
  have hnone : ∀ t ∈ ([] : List Tag), t.StandsIn (s ++ [u]) := fun _ ht => absurd ht List.not_mem_nil
  cases st with
  | text =>
    refine ⟨?_, hnone⟩
    rw [step]
    by_cases hu : u = 60
    · rw [if_pos hu, hu]
      exact ⟨s, rfl⟩
    · rw [if_neg hu]
      trivial
  | opened =>
    refine ⟨?_, hnone⟩
    obtain ⟨before, rfl⟩ := h
    rw [step]
    repeat' split
    all_goals first
      | trivial
      | exact ⟨before, by rw [List.append_assoc]; rfl⟩
  | closing | comment | cdata | doctype | instruction =>
    refine ⟨?_, hnone⟩
    rw [step]
    repeat' split
    all_goals trivial
  | declared seen => exact ⟨holds_stepDeclared _, hnone⟩
  | name n =>
    obtain ⟨before, rfl⟩ := h
    have hstands : ({ name := n } : Tag).StandsIn (before ++ 60 :: n ++ [u]) :=
      ⟨⟨before, [u], rfl⟩, fun _ ha => absurd ha List.not_mem_nil⟩
    rw [step]
    split
    · exact ⟨hstands, hnone⟩
    · split
      · exact ⟨trivial, ended hstands⟩
      · exact ⟨⟨before, by simp⟩, hnone⟩
  | between tag =>
    have hstands : tag.StandsIn (s ++ [u]) := Tag.StandsIn.append h [u]
    rw [step]
    split
    · exact ⟨hstands, hnone⟩
    · split
      · exact ⟨trivial, ended hstands⟩
      · exact ⟨⟨hstands, List.suffix_append s [u]⟩, hnone⟩
  | attr tag n =>
    have hstands : tag.StandsIn (s ++ [u]) := Tag.StandsIn.append h.1 [u]
    have hname : n <:+: s ++ [u] := h.2.isInfix.trans List.infix_append_left
    rw [step]
    split
    · exact ⟨⟨hstands, hname⟩, hnone⟩
    · split
      · exact ⟨⟨hstands, hname⟩, hnone⟩
      · split
        · exact ⟨trivial, ended (hstands.add hname [])⟩
        · obtain ⟨before, hbefore⟩ := h.2
          exact ⟨⟨hstands, before, by rw [← hbefore, List.append_assoc]⟩, hnone⟩
  | named tag n | value tag n =>
    have hstands : tag.StandsIn (s ++ [u]) := Tag.StandsIn.append h.1 [u]
    have hname : n <:+: s ++ [u] := h.2.trans List.infix_append_left
    rw [step]
    split
    · exact ⟨⟨hstands, hname⟩, hnone⟩
    · split
      · exact ⟨⟨hstands, hname⟩, hnone⟩
      · split
        · exact ⟨trivial, ended (hstands.add hname [])⟩
        · exact ⟨⟨hstands.add hname [], List.suffix_append s [u]⟩, hnone⟩
  | quoted tag n quote v =>
    have hstands : tag.StandsIn (s ++ [u]) := Tag.StandsIn.append h.1 [u]
    have hname : n <:+: s ++ [u] := h.2.trans List.infix_append_left
    rw [step]
    split
    · exact ⟨hstands.add hname v, hnone⟩
    · exact ⟨⟨hstands, hname⟩, hnone⟩

theorem stands_tagsFrom (h : st.Holds s) : ∀ tag ∈ tagsFrom st t, tag.StandsIn (s ++ t) := by
  induction t generalizing s st with
  | nil => exact fun _ ht => absurd ht List.not_mem_nil
  | cons u t ih =>
    intro tag htag
    obtain ⟨hnext, hemitted⟩ := holds_step h u
    rcases List.mem_append.1 htag with hnow | hlater
    · have hstands := (hemitted tag hnow).append t
      rwa [List.append_assoc] at hstands
    · have hstands := ih hnext tag hlater
      rwa [List.append_assoc] at hstands

/-- The tags of a document stand in it. -/
theorem stands_tags : ∀ tag ∈ tags s, tag.StandsIn s := by
  intro tag htag
  have hholds : State.text.Holds [] := trivial
  exact stands_tagsFrom hholds tag htag

end Xml

end Text
