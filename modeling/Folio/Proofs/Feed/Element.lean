import Folio.Proofs.Feed.Markup

/-!
# A document is read as the tree it is written for

The elements that are open form a stack. What the tokens of an element do with it is to put that
element, whole, into the innermost open one; this carries the induction over the tree. Layout adds
blank content to elements that hold elements, and is dropped when they are closed. So a document is
read as its tree with any indent, and its tags do not depend on the indent at all.
-/

namespace Folio.Feed.Xml

open Folio.Text (escapeWith isBlank unescape unescape_of_not_mem xmlEscapes)

mutual

/-- What a reader sees of an element. -/
def element : Xml → Element
  | .parent name attributes children => { name, attributes, children := elements children }
  | .leaf name attributes => { name, attributes }
  | .text name content | .cdata name content => { name, content }

/-- What a reader sees of elements. -/
def elements : List Xml → List Element
  | [] => []
  | first :: rest => first.element :: elements rest

end

/-- Elements are seen one by one. -/
theorem elements_eq_map (children : List Xml) : elements children = children.map element := by
  induction children with
  | nil => rfl
  | cons first rest ih => rw [elements, ih, List.map_cons]

mutual

/-- The tags of an element. -/
def marks : Xml → List Mark
  | .parent name _ children => .opened name :: marksAll children ++ [.closed name]
  | .leaf name _ => [.empty name]
  | .text name _ | .cdata name _ => [.opened name, .closed name]

/-- The tags of elements. -/
def marksAll : List Xml → List Mark
  | [] => []
  | first :: rest => first.marks ++ marksAll rest

end

/-- Elements have their tags one after the other. -/
theorem marksAll_eq_flatMap (children : List Xml) : marksAll children = children.flatMap marks := by
  induction children with
  | nil => rfl
  | cons first rest ih => rw [marksAll, ih, List.flatMap_cons]

/-- A text between tags is no tag. -/
theorem marks_textToken (text : List Char) : (textToken text).filterMap Token.mark? = [] := by
  rw [textToken]
  split <;> rfl

/-- Sections are no tags. -/
theorem marks_verbatim (pieces : List (List Char)) :
    (pieces.map Token.verbatim).filterMap Token.mark? = [] := by
  induction pieces with
  | nil => rfl
  | cons piece pieces ih => exact ih

mutual

/-- The tags among the tokens of an element do not depend on the indent. -/
theorem marks_tokens (indent : Option Nat) (depth : Nat) : ∀ xml : Xml,
    (xml.tokens indent depth).filterMap Token.mark? = xml.marks
  | .parent name attributes children => by
    rw [tokens, marks, ← marks_tokensAll indent (depth + 1) children]
    simp [Token.mark?, marks_textToken]
  | .leaf name attributes => by simp [tokens, marks, Token.mark?]
  | .text name content => by simp [tokens, marks, Token.mark?, marks_textToken]
  | .cdata name content => by
    rw [tokens, marks]
    simp only [List.cons_append, List.filterMap_cons, List.filterMap_append, marks_verbatim]
    simp [Token.mark?]

/-- The tags among the tokens of elements do not depend on the indent. -/
theorem marks_tokensAll (indent : Option Nat) (depth : Nat) : ∀ children : List Xml,
    (tokensAll indent depth children).filterMap Token.mark? = marksAll children
  | [] => rfl
  | first :: rest => by
    rw [tokensAll, marksAll, List.filterMap_append, List.filterMap_append, marks_textToken,
      marks_tokens indent depth first, marks_tokensAll indent depth rest, List.nil_append]

end

/-- A document has the tags of its outermost element. -/
theorem marks?_document (indent : Option Nat) {root : Xml} (hsound : root.isSound = true) :
    marks? (document indent root) = some root.marks := by
  rw [marks?, tokens?_document indent hsound, Option.map_some, List.filterMap_append,
    marks_textToken, marks_tokens, List.nil_append]

/-- Tokens make one stack of open elements another one. -/
def Builds (stack : List Element) (made : List Token) (last : List Element) : Prop :=
  made.foldlM Element.take stack = some last

variable {stack middle last : List Element} {made more : List Token}

/-- One token makes of a stack what taking it gives. -/
theorem builds_single {token : Token} (h : Element.take stack token = some last) :
    Builds stack [token] last := by
  rw [Builds, List.foldlM_cons, h]
  rfl

/-- Tokens behind others go on with the stack that these leave. -/
theorem Builds.append (hfirst : Builds stack made middle) (hnext : Builds middle more last) :
    Builds stack (made ++ more) last := by
  rw [Builds] at hfirst hnext ⊢
  rw [List.foldlM_append, hfirst]
  exact hnext

/-- An element that is told nothing stays the same. -/
theorem say_nil (top : Element) : top.say [] = top := by
  cases top
  rw [Element.say, String.ofList_nil, String.append_empty]

/-- An element that is told two things is told both together. -/
theorem say_say (top : Element) (s t : List Char) : (top.say s).say t = top.say (s ++ t) := by
  simp [Element.say, String.append_assoc]

/-- What is written in a tag makes an element with its name and its attributes. -/
theorem ofTag_written (name : String) (attributes : List (String × String)) :
    Element.ofTag name.toList (writtenAttributes attributes) = { name, attributes } := by
  have hread (value : String) :
      String.ofList (unescape (escapeWith xmlEscapes value.toList)) = value := by
    rw [Text.readable_xmlEscapes.unescape_escapeWith, String.ofList_toList]
  simp [Element.ofTag, writtenAttributes, Function.comp_def, hread]

/-- A text between tags is told to the innermost open element. -/
theorem builds_textToken (top : Element) (outer : List Element) (text : List Char) :
    Builds (top :: outer) (textToken text) (top.say (unescape text) :: outer) := by
  rw [textToken]
  split
  case isTrue hempty =>
    rw [List.isEmpty_iff.mp hempty, unescape, say_nil]
    rfl
  case isFalse => exact builds_single rfl

/-- Sections are told to the innermost open element one after the other. -/
theorem builds_verbatim (top : Element) (outer : List Element) (pieces : List (List Char)) :
    Builds (top :: outer) (pieces.map .verbatim) (top.say pieces.flatten :: outer) := by
  induction pieces generalizing top with
  | nil =>
    rw [List.flatten_nil, say_nil]
    rfl
  | cons piece pieces ih =>
    have hfirst : Builds (top :: outer) [.verbatim piece] (top.say piece :: outer) :=
      builds_single rfl
    have hall := hfirst.append (ih (top.say piece))
    rwa [say_say] at hall

/-- What stands between the tags of an element makes that element, and its closing tag puts it into
the one around it. -/
theorem builds_between {name : String} {attributes : List (String × String)} {child top : Element}
    {outer : List Element}
    (h : Builds ({ name, attributes } :: top :: outer) made (child :: top :: outer))
    (hname : child.name = name) :
    Builds (top :: outer)
      (.opened name.toList (writtenAttributes attributes) :: made ++ [.closed name.toList])
      (top.hold child.tidy :: outer) := by
  have hopened : Builds (top :: outer) [.opened name.toList (writtenAttributes attributes)]
      ({ name, attributes } :: top :: outer) := by
    rw [← ofTag_written]
    exact builds_single rfl
  have hclosed : Builds (child :: top :: outer) [.closed name.toList]
      (top.hold child.tidy :: outer) := by
    refine builds_single ?_
    rw [Element.take, String.ofList_toList, if_pos hname]
  exact (hopened.append h).append hclosed

/-- An element that is told a text between its tags has that text, blank or not. -/
theorem builds_told {name content : String} {top : Element} {outer : List Element}
    (h : Builds ({ name } :: top :: outer) made
      (Element.say { name } content.toList :: top :: outer)) :
    Builds (top :: outer) (.opened name.toList [] :: made ++ [.closed name.toList])
      (top.hold { name, content } :: outer) := by
  have htold : (Element.say { name } content.toList).tidy = { name, content } := by
    simp [Element.tidy, Element.say]
  rw [← htold]
  exact builds_between h rfl

/-- An element with more elements in it. -/
def Element.holdAll (element : Element) (children : List Element) : Element :=
  { element with children := element.children ++ children }

/-- Without the layout that it was told, an element is what its tag and the elements in it say. -/
theorem tidy_holdAll (name : String) (attributes : List (String × String)) {layout : List Char}
    (hblank : layout.all isBlank = true) {children : List Element} (hchildren : children ≠ []) :
    ((Element.say { name, attributes } layout).holdAll children).tidy =
      { name, attributes, children } := by
  simp [Element.tidy, Element.holdAll, Element.say, hchildren, hblank]

/-- Layout stands for itself. -/
theorem unescape_lineStart (indent : Option Nat) (depth : Nat) :
    unescape (lineStart indent depth) = lineStart indent depth := by
  refine unescape_of_not_mem ?_
  cases indent with
  | none => exact List.not_mem_nil
  | some width => simp [lineStart]

/-- Layout is blank. -/
theorem all_isBlank_lineStart (indent : Option Nat) (depth : Nat) :
    (lineStart indent depth).all isBlank = true := by
  cases indent with
  | none => rfl
  | some width =>
    rw [lineStart, List.all_cons, List.all_replicate]
    simp [isBlank]

/-- Layout is told to the innermost open element. -/
theorem builds_lineStart (indent : Option Nat) (depth : Nat) (top : Element)
    (outer : List Element) :
    Builds (top :: outer) (textToken (lineStart indent depth))
      (top.say (lineStart indent depth) :: outer) := by
  have htext := builds_textToken top outer (lineStart indent depth)
  rwa [unescape_lineStart] at htext

mutual

/-- The tokens of an element put it into the innermost open element. -/
theorem builds_tokens (indent : Option Nat) (depth : Nat) : ∀ xml : Xml, xml.isSound = true →
    ∀ top outer, Builds (top :: outer) (xml.tokens indent depth) (top.hold xml.element :: outer)
  | .parent name attributes children, hsound, top, outer => by
    simp only [isSound, Bool.and_eq_true] at hsound
    obtain ⟨⟨-, hsome⟩, hchildren⟩ := hsound
    have helements : elements children ≠ [] := by
      simpa [elements_eq_map] using hsome
    obtain ⟨layout, hblank, hall⟩ :=
      builds_tokensAll indent (depth + 1) children hchildren { name, attributes } (top :: outer)
    have hlast := builds_lineStart indent depth
      ((Element.say { name, attributes } layout).holdAll (elements children)) (top :: outer)
    have hbetween := builds_between (hall.append hlast) rfl
    have hlayout : (layout ++ lineStart indent depth).all isBlank = true := by
      rw [List.all_append, hblank, all_isBlank_lineStart, Bool.and_true]
    -- The layout before the closing tag is told last, and both layouts are dropped together.
    have htidy := tidy_holdAll name attributes hlayout helements
    rw [← say_say] at htidy
    rw [tokens, element, ← htidy, List.cons_append]
    exact hbetween
  | .leaf name attributes, _, top, outer => by
    rw [tokens, element, ← ofTag_written]
    exact builds_single rfl
  | .text name content, _, top, outer => by
    have htext := builds_textToken { name } (top :: outer) (escapeWith xmlEscapes content.toList)
    rw [Text.readable_xmlEscapes.unescape_escapeWith] at htext
    exact builds_told htext
  | .cdata name content, _, top, outer => by
    have hpieces := builds_verbatim { name } (top :: outer) (sections [] content.toList)
    rw [flatten_sections, List.nil_append] at hpieces
    exact builds_told hpieces

/-- The tokens of elements put them into the innermost open element, which is told some layout. -/
theorem builds_tokensAll (indent : Option Nat) (depth : Nat) : ∀ children : List Xml,
    allSound children = true → ∀ top outer, ∃ layout, layout.all isBlank = true ∧
      Builds (top :: outer) (tokensAll indent depth children)
        ((top.say layout).holdAll (elements children) :: outer)
  | [], _, top, outer => by
    refine ⟨[], rfl, ?_⟩
    rw [say_nil, elements, Element.holdAll, List.append_nil]
    cases top
    rfl
  | first :: rest, hsound, top, outer => by
    rw [allSound, Bool.and_eq_true] at hsound
    have hfirst := (builds_lineStart indent depth top outer).append
      (builds_tokens indent depth first hsound.1 _ outer)
    obtain ⟨layout, hblank, hrest⟩ := builds_tokensAll indent depth rest hsound.2 _ outer
    refine ⟨lineStart indent depth ++ layout, ?_, ?_⟩
    · rw [List.all_append, all_isBlank_lineStart, hblank, Bool.and_true]
    · have hall := hfirst.append hrest
      rw [tokensAll, elements, ← say_say]
      simpa [Element.holdAll, Element.hold, Element.say] using hall

end

/-- The tokens of an element behind layout make that element. -/
theorem ofTokens?_tokens (indent : Option Nat) (depth : Nat) {root : Xml}
    (hsound : root.isSound = true) :
    Element.ofTokens? (textToken (lineStart indent depth) ++ root.tokens indent depth) =
      some root.element := by
  have hall := (builds_lineStart indent depth { name := "" } []).append
    (builds_tokens indent depth root hsound _ [])
  rw [Builds] at hall
  rw [Element.ofTokens?, hall]
  simp only [Element.hold, Element.say, String.empty_append, List.nil_append,
    String.toList_ofList, all_isBlank_lineStart, if_true]

/-- A document is read as the tree of its outermost element, with any indent. -/
theorem read?_document (indent : Option Nat) {root : Xml} (hsound : root.isSound = true) :
    Element.read? (document indent root) = some root.element := by
  rw [Element.read?, tokens?_document indent hsound, Option.bind_some,
    ofTokens?_tokens indent 0 hsound]

end Folio.Feed.Xml
