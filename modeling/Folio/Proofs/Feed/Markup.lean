import Folio.Feed.Xml
import Folio.Proofs.Feed.Reading

/-!
# What is written for elements is read as their tags and texts

Names and keys are words, texts and attribute values hold no angle bracket and no quote, and a
section ends only where its text is cut. So the reader makes of a written element the tokens of the
element, whatever its texts are. With an indent, layout stands between them.
-/

namespace Folio.Feed.Xml

open Folio.Text (Machine escapeWith xmlEscapes not_mem_escapeWith_xmlEscapes)

/-- A text takes the reader from one state to another and makes tokens on the way. -/
abbrev Reads := Machine.Takes step

variable {s : List Char} {tag : Tag}

/-- A text without an angle bracket goes on with a text between tags. -/
theorem reads_content (h : '<' ∉ s) (text : List Char) :
    Reads (.content text) s (.content (text ++ s)) [] := by
  refine Machine.takes_of_step (fun c hc read => ?_) text
  rw [step, if_neg fun hbracket : c = '<' => h (hbracket ▸ hc)]

/-- An angle bracket ends the text before it. -/
theorem reads_bracket (text : List Char) : Reads (.content text) ['<'] .bracket (textToken text) :=
  Machine.takes_step rfl

/-- Where each character of names goes on with what is read, a text of them does. -/
theorem reads_nameChars {f : List Char → Reading}
    (hf : ∀ read c, isNameChar c = true → step (f read) c = (f (read ++ [c]), []))
    (h : ∀ c ∈ s, isNameChar c = true) (read : List Char) :
    Reads (f read) s (f (read ++ s)) [] :=
  Machine.takes_of_step (fun c hc read => hf read c (h c hc)) read

/-- A text without its quote and without an angle bracket goes on with the value of an attribute. -/
theorem reads_value {quote : Char} (hquote : quote ∉ s) (hbracket : '<' ∉ s) (tag : Tag)
    (key value : List Char) :
    Reads (.value tag key quote value) s (.value tag key quote (value ++ s)) [] := by
  refine Machine.takes_of_step (f := Reading.value tag key quote) (fun c hc read => ?_) value
  rw [step, if_neg fun h : c = quote => hquote (h ▸ hc),
    if_neg fun h : c = '<' => hbracket (h ▸ hc)]

/-- A text that can be a name or a key. -/
def isWord (s : String) : Bool := !s.isEmpty && s.toList.all isNameChar

/-- The characters of a word, of which there is at least one. -/
theorem chars_of_isWord {s : String} (h : isWord s = true) :
    ∃ c rest, s.toList = c :: rest ∧ isNameChar c = true ∧ ∀ d ∈ rest, isNameChar d = true := by
  obtain ⟨c, rest, hs, hall⟩ := Text.chars_of_all h
  exact ⟨c, rest, hs, List.forall_mem_cons.mp hall⟩

/-- Attributes as they are written. -/
def writtenAttributes (attributes : List (String × String)) : List (List Char × List Char) :=
  attributes.map fun (key, value) => (key.toList, escapeWith xmlEscapes value.toList)

/-- A reader is behind the name of a tag or behind an attribute of it. -/
inductive Reading.IsBehind : Reading → Tag → Prop
  | name (read : List Char) : IsBehind (.name read) { name := read }
  | valued (tag : Tag) : IsBehind (.valued tag) tag

/-- Behind a name and behind an attribute, what is not part of a name leads to the same. -/
theorem Reading.IsBehind.reads {reading : Reading} (h : reading.IsBehind tag) {c : Char}
    (hc : isNameChar c = false) : Reads reading [c] (tag.next c).1 (tag.next c).2 := by
  cases h with
  | name read => exact Machine.takes_step (by rw [step, if_neg (Bool.eq_false_iff.mp hc)])
  | valued tag => exact Machine.takes_step rfl

/-- An attribute is read behind a name or another attribute. -/
theorem reads_attribute {key : String} (hkey : isWord key = true) (value : String)
    {reading : Reading} (h : reading.IsBehind tag) :
    Reads reading
      (' ' :: key.toList ++ ['=', '"'] ++ escapeWith xmlEscapes value.toList ++ ['"'])
      (.valued (tag.add key.toList (escapeWith xmlEscapes value.toList))) [] := by
  obtain ⟨c, rest, hchars, hc, hrest⟩ := chars_of_isWord hkey
  have hblank : Reads reading [' '] (.inside tag) [] := h.reads (by decide)
  have hfirst : Reads (.inside tag) [c] (.key tag [c]) [] :=
    Machine.takes_step (by rw [step, if_pos hc])
  have hrest := reads_nameChars (f := Reading.key tag)
    (fun read d hd => by rw [step, if_pos hd]) hrest [c]
  have hword := hfirst.append hrest
  rw [List.singleton_append, ← hchars] at hword
  have hassigned : Reads (.key tag key.toList) ['=', '"'] (.value tag key.toList '"' []) [] := rfl
  have hvalue := reads_value (not_mem_escapeWith_xmlEscapes (Or.inr rfl) value.toList)
    (not_mem_escapeWith_xmlEscapes (Or.inl rfl) value.toList) tag key.toList []
  have hquote : Reads (.value tag key.toList '"' (escapeWith xmlEscapes value.toList)) ['"']
      (.valued (tag.add key.toList (escapeWith xmlEscapes value.toList))) [] := rfl
  exact (((hblank.append hword).append hassigned).append hvalue).append hquote

/-- Attributes are read one after the other. -/
theorem reads_attributes {attributes : List (String × String)}
    (hkeys : ∀ entry ∈ attributes, isWord entry.1 = true) {reading : Reading}
    (h : reading.IsBehind tag) :
    ∃ last : Reading,
      last.IsBehind { tag with attributes := tag.attributes ++ writtenAttributes attributes } ∧
      Reads reading
        (attributes.flatMap fun (key, value) =>
          ' ' :: key.toList ++ ['=', '"'] ++ escapeWith xmlEscapes value.toList ++ ['"'])
        last [] := by
  induction attributes generalizing reading tag with
  | nil =>
    refine ⟨reading, ?_, .refl _⟩
    rwa [writtenAttributes, List.map_nil, List.append_nil]
  | cons entry attributes ih =>
    obtain ⟨key, value⟩ := entry
    obtain ⟨hkey, hrest⟩ := List.forall_mem_cons.mp hkeys
    obtain ⟨last, hlast, hreads⟩ := ih hrest (.valued (tag.add key.toList _))
    refine ⟨last, ?_, (reads_attribute hkey value h).append hreads⟩
    simpa [Tag.add, writtenAttributes] using hlast

/-- A tag is read up to its end, and it ends the text before it. -/
theorem reads_openTag {name : String} (hname : isWord name = true)
    {attributes : List (String × String)} (hkeys : ∀ entry ∈ attributes, isWord entry.1 = true)
    (text : List Char) :
    ∃ last : Reading,
      last.IsBehind { name := name.toList, attributes := writtenAttributes attributes } ∧
      Reads (.content text) (openTag name attributes) last (textToken text) := by
  obtain ⟨c, rest, hchars, hc, hrest⟩ := chars_of_isWord hname
  have hfirst : Reads .bracket [c] (.name [c]) [] :=
    Machine.takes_step (by rw [step, if_pos hc])
  have hrest := reads_nameChars (f := Reading.name)
    (fun read d hd => by rw [step, if_pos hd]) hrest [c]
  have hword := hfirst.append hrest
  rw [List.singleton_append, ← hchars] at hword
  obtain ⟨last, hlast, hattributes⟩ := reads_attributes hkeys (.name name.toList)
  have hall := ((reads_bracket text).append hword).append hattributes
  simp only [List.append_nil] at hall
  exact ⟨last, hlast, hall⟩

/-- A tag that opens an element is read. -/
theorem reads_opened {name : String} (hname : isWord name = true)
    {attributes : List (String × String)} (hkeys : ∀ entry ∈ attributes, isWord entry.1 = true)
    (text : List Char) :
    Reads (.content text) (openTag name attributes ++ ['>']) (.content [])
      (textToken text ++ [.opened name.toList (writtenAttributes attributes)]) := by
  obtain ⟨last, hlast, hreads⟩ := reads_openTag hname hkeys text
  exact hreads.append (hlast.reads (by decide))

/-- A tag that opens an element and closes it is read. -/
theorem reads_empty {name : String} (hname : isWord name = true)
    {attributes : List (String × String)} (hkeys : ∀ entry ∈ attributes, isWord entry.1 = true)
    (text : List Char) :
    Reads (.content text) (openTag name attributes ++ ['/', '>']) (.content [])
      (textToken text ++ [.empty name.toList (writtenAttributes attributes)]) := by
  obtain ⟨last, hlast, hreads⟩ := reads_openTag hname hkeys text
  have hslash := hlast.reads (c := '/') (by decide)
  have hend : Reads (.slashed ⟨name.toList, writtenAttributes attributes⟩) ['>'] (.content [])
      [.empty name.toList (writtenAttributes attributes)] := rfl
  exact hreads.append (hslash.append hend)

/-- A tag that closes an element is read, and it ends the text before it. -/
theorem reads_closeTag {name : String} (hname : isWord name = true) (text : List Char) :
    Reads (.content text) (closeTag name) (.content [])
      (textToken text ++ [.closed name.toList]) := by
  obtain ⟨c, rest, hchars, hc, hrest⟩ := chars_of_isWord hname
  have hslash : Reads .bracket ['/'] (.closing []) [] := rfl
  have hname : ∀ d ∈ name.toList, isNameChar d = true := by
    rw [hchars]
    exact List.forall_mem_cons.mpr ⟨hc, hrest⟩
  have hword := reads_nameChars (f := Reading.closing)
    (fun read d hd => by rw [step, if_pos hd]) hname []
  have hend : Reads (.closing name.toList) ['>'] (.content []) [.closed name.toList] := by
    rw [hchars]
    rfl
  exact (reads_bracket text).append (hslash.append (hword.append hend))

/-- The sections in which a text is written, of which the first one begins with what was read. -/
def sections : List Char → List Char → List (List Char)
  | read, ']' :: ']' :: '>' :: rest => (read ++ [']', ']']) :: sections ['>'] rest
  | read, c :: rest => sections (read ++ [c]) rest
  | read, [] => [read]

/-- Sections together are the text. -/
theorem flatten_sections (read s : List Char) : (sections read s).flatten = read ++ s := by
  fun_induction sections read s with
  | case1 read rest ih => rw [List.flatten_cons, ih]; simp
  | case2 read c rest _ ih => rw [ih]; simp
  | case3 read => simp

/-- No end mark of a section begins in what was read and ends in what follows. -/
def Apart (read s : List Char) : Prop :=
  ∀ before rest, read ++ s = before ++ [']', ']', '>'] ++ rest → read.length ≤ before.length

/-- What follows begins no end mark in what is then read. -/
theorem Apart.next {read rest : List Char} {c : Char} (h : Apart read (c :: rest))
    (hmark : ∀ after, c :: rest ≠ [']', ']', '>'] ++ after) : Apart (read ++ [c]) rest := by
  intro before after heq
  rw [List.append_assoc, List.singleton_append] at heq
  have hle := h before after heq
  rw [List.length_append, List.length_singleton]
  refine Nat.lt_of_le_of_ne hle fun hlength => ?_
  rw [List.append_assoc] at heq
  exact hmark after (List.append_inj heq hlength).2

/-- A section goes on with a character that ends no end mark. -/
theorem step_verbatim {read rest : List Char} {c : Char} (h : Apart read (c :: rest)) :
    step (.verbatim read) c = (.verbatim (read ++ [c]), []) := by
  rw [step]
  split
  case isFalse => rfl
  case isTrue hbracket =>
    split
    · next content hcontent =>
      rw [Text.dropEnd?_eq_some_iff] at hcontent
      have hle : content.length + 2 ≤ content.length := by
        simpa [hcontent] using h content rest (by simp [hcontent, hbracket])
      omega
    · rfl

/-- Square brackets go on with a section. -/
theorem reads_brackets (content : List Char) :
    Reads (.verbatim content) [']', ']'] (.verbatim (content ++ [']', ']'])) [] := by
  refine Machine.takes_of_step (fun c hc read => ?_) content
  have hbracket : c ≠ '>' := by
    rintro rfl
    simp at hc
  rw [step, if_neg hbracket]

/-- An end mark ends a section. -/
theorem reads_endMark (content : List Char) :
    Reads (.verbatim content) [']', ']', '>'] (.content []) [.verbatim content] := by
  have hend : Reads (.verbatim (content ++ [']', ']'])) ['>'] (.content [])
      [.verbatim content] := by
    refine Machine.takes_step ?_
    rw [step, if_pos rfl, Text.dropEnd?_eq_some_iff.mpr rfl]
  exact (reads_brackets content).append hend

/-- What is left of the beginning of a section is read. -/
theorem reads_marker {left : List Char} (h : left ≠ []) :
    Reads (.marker left) left (.verbatim []) [] := by
  induction left with
  | nil => exact absurd rfl h
  | cons c left ih =>
    by_cases hleft : left = []
    · subst hleft
      exact Machine.takes_step (by rw [step, if_pos rfl])
    · have hfirst : Reads (.marker (c :: left)) [c] (.marker left) [] :=
        Machine.takes_step (by simp [step, hleft])
      exact hfirst.append (ih hleft)

/-- A section begins, and it ends the text before it. -/
theorem reads_startMark (text : List Char) :
    Reads (.content text) ('<' :: '!' :: startMark) (.verbatim []) (textToken text) := by
  have hfirst : Reads .bracket ['!'] (.marker startMark) [] := rfl
  have hall := (reads_bracket text).append
    (hfirst.append (reads_marker (List.cons_ne_nil _ _)))
  simpa using hall

/-- Where the end mark occurs in a text, its section ends and the next one begins with the rest of
the mark. -/
theorem sectionText_endMark (rest : List Char) :
    sectionText (']' :: ']' :: '>' :: rest) =
      [']', ']'] ++
        ([']', ']', '>'] ++ ('<' :: '!' :: startMark ++ (['>'] ++ sectionText rest))) := by
  have hcut : "]]]]><![CDATA[>".toList =
      [']', ']'] ++ ([']', ']', '>'] ++ ('<' :: '!' :: startMark ++ ['>'])) := rfl
  have hfirst : sectionText (']' :: ']' :: '>' :: rest) =
      "]]]]><![CDATA[>".toList ++ sectionText rest := by
    rw [sectionText.eq_def]
    rfl
  rw [hfirst, hcut]
  simp only [List.append_assoc]

/-- A character that begins no end mark is written as it is. -/
theorem sectionText_cons {c : Char} {rest : List Char}
    (h : ∀ after, c = ']' → rest = ']' :: '>' :: after → False) :
    sectionText (c :: rest) = c :: sectionText rest := by
  rw [sectionText.eq_def]
  split
  case h_1 heq =>
    obtain ⟨rfl, rfl⟩ := List.cons.inj heq
    exact (h _ rfl rfl).elim
  case h_2 heq =>
    cases heq
    rfl
  case h_3 heq => cases heq

/-- What is written for a text in a marked section is read as its sections. -/
theorem reads_sectionText (read s : List Char) (h : Apart read s) :
    Reads (.verbatim read) (sectionText s ++ [']', ']', '>']) (.content [])
      ((sections read s).map .verbatim) := by
  fun_induction sections read s with
  | case1 read rest ih =>
    -- The next section begins with the last character of the mark, which begins no mark.
    have hnext : Apart ['>'] rest := by
      intro before after heq
      cases before with
      | nil => simp at heq
      | cons c before => simp
    have hrest : Reads (.verbatim []) ['>'] (.verbatim ['>']) [] := rfl
    have hcut := (reads_brackets read).append ((reads_endMark _).append
      ((reads_startMark []).append (hrest.append (ih hnext))))
    rw [sectionText_endMark]
    simpa [textToken] using hcut
  | case2 read c rest hmark ih =>
    have hnext : Apart (read ++ [c]) rest := h.next fun after heq => by
      obtain ⟨rfl, rfl⟩ := List.cons.inj heq
      exact hmark after rfl rfl
    rw [sectionText_cons hmark]
    exact (Machine.takes_step (step_verbatim h)).append (ih hnext)
  | case3 read => exact reads_endMark read

mutual

/-- Whether an element is read as it is written: its names and keys are words, and if it is one that
holds elements it holds at least one. -/
def isSound : Xml → Bool
  | .parent name attributes children =>
    isWord name && attributes.all (fun entry => isWord entry.1) && !children.isEmpty &&
      allSound children
  | .leaf name attributes => isWord name && attributes.all fun entry => isWord entry.1
  | .text name _ | .cdata name _ => isWord name

/-- Whether all elements are such. -/
def allSound : List Xml → Bool
  | [] => true
  | element :: rest => element.isSound && allSound rest

end

/-- Elements are all sound exactly if each is. -/
theorem allSound_iff {elements : List Xml} :
    allSound elements = true ↔ ∀ element ∈ elements, element.isSound = true := by
  induction elements with
  | nil => simp [allSound]
  | cons element rest ih => rw [allSound, Bool.and_eq_true, ih, List.forall_mem_cons]

mutual

/-- The tokens of an element at some depth. -/
def tokens (indent : Option Nat) (depth : Nat) : Xml → List Token
  | .parent name attributes children =>
    .opened name.toList (writtenAttributes attributes) :: tokensAll indent (depth + 1) children ++
      textToken (lineStart indent depth) ++ [.closed name.toList]
  | .leaf name attributes => [.empty name.toList (writtenAttributes attributes)]
  | .text name content =>
    .opened name.toList [] :: textToken (escapeWith xmlEscapes content.toList) ++
      [.closed name.toList]
  | .cdata name content =>
    .opened name.toList [] :: (sections [] content.toList).map .verbatim ++ [.closed name.toList]

/-- The tokens of elements at some depth, each behind the layout before it. -/
def tokensAll (indent : Option Nat) (depth : Nat) : List Xml → List Token
  | [] => []
  | element :: rest =>
    textToken (lineStart indent depth) ++ element.tokens indent depth ++
      tokensAll indent depth rest

end

/-- Layout goes on with a text between tags. -/
theorem reads_lineStart (indent : Option Nat) (depth : Nat) :
    Reads (.content []) (lineStart indent depth) (.content (lineStart indent depth)) [] := by
  refine reads_content ?_ []
  cases indent with
  | none => exact List.not_mem_nil
  | some width => simp [lineStart]

mutual

/-- What is written for an element is read as its tokens, behind the text that came before. -/
theorem reads_write (indent : Option Nat) (depth : Nat) : ∀ xml : Xml, xml.isSound = true →
    ∀ before, Reads (.content before) (xml.write indent depth) (.content [])
      (textToken before ++ xml.tokens indent depth)
  | .parent name attributes children, hsound, before => by
    simp only [isSound, Bool.and_eq_true, List.all_eq_true] at hsound
    obtain ⟨⟨⟨hname, hkeys⟩, -⟩, hchildren⟩ := hsound
    have hall := (((reads_opened hname hkeys before).append
      (reads_writeAll indent (depth + 1) children hchildren)).append
        (reads_lineStart indent depth)).append (reads_closeTag hname _)
    rw [write, tokens]
    simpa using hall
  | .leaf name attributes, hsound, before => by
    simp only [isSound, Bool.and_eq_true, List.all_eq_true] at hsound
    exact reads_empty hsound.1 hsound.2 before
  | .text name content, hsound, before => by
    have htext := reads_content (not_mem_escapeWith_xmlEscapes (Or.inl rfl) content.toList) []
    have hall := ((reads_opened hsound (List.forall_mem_nil _) before).append htext).append
      (reads_closeTag hsound _)
    rw [write, tokens]
    simpa [writtenAttributes] using hall
  | .cdata name content, hsound, before => by
    have hapart : Apart [] content.toList := fun _ _ _ => Nat.zero_le _
    have hall := (((reads_opened hsound (List.forall_mem_nil _) before).append
      (reads_startMark [])).append (reads_sectionText [] _ hapart)).append
        (reads_closeTag hsound [])
    have hstart : "<![CDATA[".toList = '<' :: '!' :: startMark := rfl
    have hend : "]]>".toList = [']', ']', '>'] := rfl
    rw [write, tokens, hstart, hend]
    simpa [writtenAttributes, textToken] using hall

/-- What is written for elements is read as their tokens. -/
theorem reads_writeAll (indent : Option Nat) (depth : Nat) : ∀ elements : List Xml,
    allSound elements = true →
      Reads (.content []) (writeAll indent depth elements) (.content [])
        (tokensAll indent depth elements)
  | [], _ => .refl _
  | element :: rest, hsound => by
    rw [allSound, Bool.and_eq_true] at hsound
    exact ((reads_lineStart indent depth).append
      (reads_write indent depth element hsound.1 _)).append
        (reads_writeAll indent depth rest hsound.2)

end

/-- What is read up to the end of a text between tags has the tokens that were made and that
text. -/
theorem tokens?_of_reads {text : List Char} {made : List Token}
    (h : Reads (.content []) s (.content text) made) :
    tokens? s = some (made ++ textToken text) := by
  rw [Reads, Machine.Takes] at h
  rw [tokens?, h]

/-- An instruction is read and passed over. -/
theorem reads_instruction (h : '>' ∉ s) (hlast : s.getLast? = some '?') :
    Reads (.content []) ('<' :: '?' :: s ++ ['>']) (.content []) [] := by
  have hfirst : Reads (.content []) ['<', '?'] (.instruction []) [] := rfl
  have hread : Reads (.instruction []) s (.instruction s) [] :=
    Machine.takes_of_step (fun c hc read => by
      have hbracket : c ≠ '>' := fun hbracket => h (hbracket ▸ hc)
      simp [step, hbracket]) []
  have hend : Reads (.instruction s) ['>'] (.content []) [] :=
    Machine.takes_step (by simp [step, hlast])
  exact (hfirst.append hread).append hend

/-- The declaration of a document is passed over. -/
theorem reads_declaration :
    Reads (.content []) "<?xml version=\"1.0\" encoding=\"utf-8\"?>".toList (.content []) [] := by
  have hmark : "<?xml version=\"1.0\" encoding=\"utf-8\"?>".toList =
      '<' :: '?' :: "xml version=\"1.0\" encoding=\"utf-8\"?".toList ++ ['>'] := by decide +kernel
  rw [hmark]
  exact reads_instruction (by decide) (by decide)

/-- A document has the tokens of its outermost element, behind a line break at most. -/
theorem tokens?_document (indent : Option Nat) {root : Xml} (hsound : root.isSound = true) :
    tokens? (document indent root) =
      some (textToken (lineStart indent 0) ++ root.tokens indent 0) := by
  have hall := (reads_declaration.append (reads_lineStart indent 0)).append
    (reads_write indent 0 root hsound _)
  exact (tokens?_of_reads hall).trans (congrArg some (List.append_nil _))

end Folio.Feed.Xml
