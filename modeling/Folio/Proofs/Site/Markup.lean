import Folio.Proofs.Text.Escape
import Folio.Proofs.Text.Machine
import Folio.Site.Html

/-!
# Reading markup

Markup is read character by character as tags and the texts between them. What is written for a tree
of elements and texts is read as that tree: its names and keys are words, its texts begin no tag,
and its attribute values do not end before their closing quotes. So a text never opens or closes an
element, whatever it holds.
-/

namespace Folio.Site

open Folio.Text (Machine)

/-- A tag, or a text between tags; names, keys, values and texts are as they are written. -/
inductive Token where
  | opened (name : List Char) (attributes : List (List Char × List Char))
  | closed (name : List Char)
  | text (content : List Char)
  deriving Repr, DecidableEq

/-- A tag as far as it was read. The name of one that closes an element begins with a slash. -/
structure Tag where
  name : List Char
  attributes : List (List Char × List Char) := []
  deriving Repr, DecidableEq

/-- A tag that was read to its end. -/
def Tag.token (tag : Tag) : Token :=
  match tag.name with
  | '/' :: name => .closed name
  | name => .opened name tag.attributes

/-- A tag with one more attribute. -/
def Tag.add (tag : Tag) (key value : List Char) : Tag :=
  { tag with attributes := tag.attributes ++ [(key, value)] }

/-- What a reader is in the middle of. -/
inductive Reading where
  | content (text : List Char)
  | name (name : List Char)
  | inside (tag : Tag)
  | key (tag : Tag) (key : List Char)
  /-- Behind the sign of equality of an attribute. -/
  | assigned (tag : Tag) (key : List Char)
  /-- In the value of an attribute, which ends with its quote if it has one. -/
  | value (tag : Tag) (key : List Char) (quote : Option Char) (value : List Char)
  deriving Repr, DecidableEq

/-- The token of a text between tags, if there is any. -/
def textToken (text : List Char) : List Token := if text.isEmpty then [] else [.text text]

namespace Reading

/-- Read one character. -/
def step : Reading → Char → Reading × List Token
  | .content read, c => if c = '<' then (.name [], textToken read) else (.content (read ++ [c]), [])
  | .name read, c =>
    if c = '>' then (.content [], [Tag.token { name := read }])
    else if c = ' ' then (.inside { name := read }, [])
    else (.name (read ++ [c]), [])
  | .inside tag, c =>
    if c = '>' then (.content [], [tag.token])
    else if c = ' ' then (.inside tag, [])
    else (.key tag [c], [])
  | .key tag read, c =>
    if c = '=' then (.assigned tag read, [])
    else if c = '>' then (.content [], [(tag.add read []).token])
    else if c = ' ' then (.inside (tag.add read []), [])
    else (.key tag (read ++ [c]), [])
  | .assigned tag word, c =>
    if c = '"' || c = '\'' then (.value tag word (some c) [], [])
    else if c = '>' then (.content [], [(tag.add word []).token])
    else if c = ' ' then (.assigned tag word, [])
    else (.value tag word none [c], [])
  | .value tag word quote read, c =>
    if quote = some c then (.inside (tag.add word read), [])
    else if quote = none && c = '>' then (.content [], [(tag.add word read).token])
    else if quote = none && c = ' ' then (.inside (tag.add word read), [])
    else (.value tag word quote (read ++ [c]), [])

/-- Read characters one after the other. -/
def run : Reading → List Char → Reading × List Token
  | reading, [] => (reading, [])
  | reading, c :: rest =>
    ((run (reading.step c).1 rest).1, (reading.step c).2 ++ (run (reading.step c).1 rest).2)

/-- What is left at the end: a text, but no tag that is not complete. -/
def finish : Reading → List Token
  | .content text => textToken text
  | _ => []

end Reading

/-- The tags and texts of markup. -/
def tokens (s : List Char) : List Token :=
  (Reading.run (.content []) s).2 ++ (Reading.run (.content []) s).1.finish

/-- A text takes a reader from one state to another and makes tokens on the way. -/
def Reads (start : Reading) (s : List Char) (last : Reading) (made : List Token) : Prop :=
  start.run s = (last, made)

variable {start middle last : Reading} {s t : List Char} {made more : List Token}

/-- The reader is a machine that makes tokens. -/
theorem Reading.run_eq (start : Reading) (s : List Char) :
    start.run s = Machine.run Reading.step start s := by
  induction s generalizing start with
  | nil => rfl
  | cons c s ih => rw [Reading.run, Machine.run, ih]

/-- What a text does with the reader is what it does with that machine. -/
theorem reads_iff_takes :
    Reads start s last made ↔ Machine.Takes Reading.step start s last made := by
  rw [Reads, Reading.run_eq, Machine.Takes]

/-- Nothing is read of nothing. -/
theorem Reads.refl (start : Reading) : Reads start [] start [] := rfl

/-- One character is read. -/
theorem Reads.single (start : Reading) (c : Char) :
    Reads start [c] (start.step c).1 (start.step c).2 :=
  reads_iff_takes.mpr (Machine.takes_single Reading.step start c)

/-- What is read of one text and then of another one is read of both together. -/
theorem Reads.append (hs : Reads start s middle made) (ht : Reads middle t last more) :
    Reads start (s ++ t) last (made ++ more) :=
  reads_iff_takes.mpr ((reads_iff_takes.mp hs).append (reads_iff_takes.mp ht))

/-- The tokens of a text that is read to the end of a text between tags. -/
theorem tokens_of_reads {text : List Char} (h : Reads (.content []) s (.content text) made) :
    tokens s = made ++ textToken text := by
  rw [Reads] at h
  rw [tokens, h, Reading.finish]

/-- Characters that each go on with what a reader is in the middle of. -/
theorem reads_of_step {f : List Char → Reading}
    (h : ∀ c ∈ s, ∀ read, (f read).step c = (f (read ++ [c]), [])) (read : List Char) :
    Reads (f read) s (f (read ++ s)) [] :=
  reads_iff_takes.mpr (Machine.takes_of_step h read)

/-- A text without an angle bracket goes on with a text between tags. -/
theorem reads_content (h : '<' ∉ s) (text : List Char) :
    Reads (.content text) s (.content (text ++ s)) [] := by
  refine reads_of_step (fun c hc read => ?_) text
  rw [Reading.step, if_neg fun hbracket : c = '<' => h (hbracket ▸ hc)]

/-- The characters of names and keys: letters, digits and hyphens. -/
def isNameChar (c : Char) : Bool := c.isAlphanum || c = '-'

/-- A character that is not part of names and keys is none of their characters. -/
theorem ne_of_isNameChar {c d : Char} (hc : isNameChar c = true) (hd : isNameChar d = false) :
    c ≠ d := by
  rintro rfl
  rw [hc] at hd
  cases hd

/-- The characters of a name are read. -/
theorem reads_name (h : ∀ c ∈ s, isNameChar c = true) (name : List Char) :
    Reads (.name name) s (.name (name ++ s)) [] := by
  refine reads_of_step (fun c hc read => ?_) name
  rw [Reading.step, if_neg (ne_of_isNameChar (h c hc) (by decide)),
    if_neg (ne_of_isNameChar (h c hc) (by decide))]

/-- The characters of a key are read. -/
theorem reads_key (h : ∀ c ∈ s, isNameChar c = true) (tag : Tag) (key : List Char) :
    Reads (.key tag key) s (.key tag (key ++ s)) [] := by
  refine reads_of_step (fun c hc read => ?_) key
  rw [Reading.step, if_neg (ne_of_isNameChar (h c hc) (by decide)),
    if_neg (ne_of_isNameChar (h c hc) (by decide)), if_neg (ne_of_isNameChar (h c hc) (by decide))]

/-- A text without its quote goes on with the value of an attribute. -/
theorem reads_value {quote : Char} (h : quote ∉ s) (tag : Tag) (key value : List Char) :
    Reads (.value tag key (some quote) value) s (.value tag key (some quote) (value ++ s)) [] := by
  refine reads_of_step (f := .value tag key (some quote)) (fun c hc read => ?_) value
  have hquote : quote ≠ c := fun hquote => h (hquote ▸ hc)
  simp [Reading.step, hquote]

/-- A text that can be a name or a key. -/
def isWord (s : String) : Bool := !s.isEmpty && s.toList.all isNameChar

/-- The characters of a word, of which there is at least one. -/
theorem chars_of_isWord {s : String} (h : isWord s = true) :
    ∃ c rest, s.toList = c :: rest ∧ ∀ d ∈ c :: rest, isNameChar d = true :=
  Text.chars_of_all h

/-- Attributes as they are written. -/
def writtenAttributes (attributes : List (String × String)) : List (List Char × List Char) :=
  attributes.map fun (key, value) =>
    (key.toList, Text.escapeWith Text.attributeEscapes value.toList)

/-- A tag with more attributes. -/
def Tag.addAll (tag : Tag) (attributes : List (List Char × List Char)) : Tag :=
  { tag with attributes := tag.attributes ++ attributes }

/-- An attribute is read behind the blank before it. -/
theorem reads_attribute {key : String} (h : isWord key = true) (tag : Tag) (value : String) :
    Reads (.inside tag)
      (key.toList ++ (['=', '"'] ++ (Text.escapeWith Text.attributeEscapes value.toList ++ ['"'])))
      (.inside (tag.add key.toList (Text.escapeWith Text.attributeEscapes value.toList))) [] := by
  obtain ⟨c, rest, hkey, hchars⟩ := chars_of_isWord h
  have hc : isNameChar c = true := hchars c List.mem_cons_self
  have hfirst : Reads (.inside tag) [c] (.key tag [c]) [] := by
    have hstep := Reads.single (.inside tag) c
    rwa [Reading.step, if_neg (ne_of_isNameChar hc (by decide)),
      if_neg (ne_of_isNameChar hc (by decide))] at hstep
  have hrest := reads_key (fun d hd => hchars d (List.mem_cons_of_mem c hd)) tag [c]
  have hassigned : Reads (.key tag key.toList) ['=', '"']
      (.value tag key.toList (some '"') []) [] := rfl
  have hvalue := reads_value (Text.not_mem_escapeWith_attributeEscapes (Or.inr rfl) value.toList)
    tag key.toList []
  have hquote := Reads.single (.value tag key.toList (some '"')
    (Text.escapeWith Text.attributeEscapes value.toList)) '"'
  rw [Reading.step, if_pos rfl] at hquote
  rw [List.singleton_append, ← hkey] at hrest
  rw [hkey]
  exact hfirst.append (hkey ▸ hrest.append (hassigned.append (hvalue.append hquote)))

/-- Attributes are read one after the other. -/
theorem reads_attributes {attributes : List (String × String)}
    (h : ∀ entry ∈ attributes, isWord entry.1 = true) (tag : Tag) :
    Reads (.inside tag) (Html.writeAttributes attributes)
      (.inside (tag.addAll (writtenAttributes attributes))) [] := by
  induction attributes generalizing tag with
  | nil =>
    rw [writtenAttributes, List.map_nil, Tag.addAll, List.append_nil]
    exact .refl _
  | cons entry attributes ih =>
    obtain ⟨key, value⟩ := entry
    have hblank : Reads (.inside tag) [' '] (.inside tag) [] := rfl
    have hfirst := hblank.append (reads_attribute (h _ List.mem_cons_self) tag value)
    have hrest := ih (fun other hother => h other (List.mem_cons_of_mem _ hother))
      (tag.add key.toList (Text.escapeWith Text.attributeEscapes value.toList))
    have hall := hfirst.append hrest
    simpa [Html.writeAttributes, writtenAttributes, Tag.add, Tag.addAll] using hall

/-- A blank ends the name of a tag, and its attributes follow. -/
theorem reads_attributes_of_name {attributes : List (String × String)}
    (h : ∀ entry ∈ attributes, isWord entry.1 = true) (name : List Char) :
    Reads (.name name) (Html.writeAttributes attributes ++ ['>']) (.content [])
      [Tag.token { name, attributes := writtenAttributes attributes }] := by
  cases attributes with
  | nil => exact rfl
  | cons entry attributes =>
    -- Behind a name and between attributes a blank leads to the same.
    have hblank (rest : List Char) (last : Reading) (made : List Token) :
        Reads (.inside { name }) (' ' :: rest) last made →
          Reads (.name name) (' ' :: rest) last made := id
    have hattributes := reads_attributes h { name }
    have hend : Reads (.inside (Tag.addAll { name } (writtenAttributes (entry :: attributes))))
        ['>'] (.content [])
        [(Tag.addAll { name } (writtenAttributes (entry :: attributes))).token] := rfl
    exact hblank _ _ _ (hattributes.append hend)

/-- An opening tag. -/
def openTag (name : String) (attributes : List (String × String)) : List Char :=
  '<' :: (name.toList ++ (Html.writeAttributes attributes ++ ['>']))

/-- A closing tag. -/
def closeTag (name : String) : List Char := '<' :: '/' :: (name.toList ++ ['>'])

/-- An element is written between its tags. -/
theorem write_element (name : String) (attributes : List (String × String))
    (children : List Html) :
    (Html.element name attributes children).write =
      openTag name attributes ++ (Html.writeAll children ++ closeTag name) := by
  simp [Html.write, openTag, closeTag]

/-- An element without parts is its tag. -/
theorem write_void (name : String) (attributes : List (String × String)) :
    (Html.void name attributes).write = openTag name attributes := by
  simp [Html.write, openTag]

/-- An opening tag ends the text before it. -/
theorem reads_open {name : String} (hname : isWord name = true)
    {attributes : List (String × String)}
    (h : ∀ entry ∈ attributes, isWord entry.1 = true) (text : List Char) :
    Reads (.content text) (openTag name attributes) (.content [])
      (textToken text ++ [.opened name.toList (writtenAttributes attributes)]) := by
  obtain ⟨c, rest, hchars, hword⟩ := chars_of_isWord hname
  have hbracket : Reads (.content text) ['<'] (.name []) (textToken text) := by
    have hstep := Reads.single (.content text) '<'
    rwa [Reading.step, if_pos rfl] at hstep
  have hread := reads_name (hchars ▸ hword) []
  have hslash : c ≠ '/' := ne_of_isNameChar (hword c List.mem_cons_self) (by decide)
  have htoken : Tag.token { name := name.toList, attributes := writtenAttributes attributes } =
      .opened name.toList (writtenAttributes attributes) := by
    rw [Tag.token, hchars]
    split
    · next heq =>
      rw [List.cons.injEq] at heq
      exact absurd heq.1 hslash
    · rfl
  have htag := hread.append (reads_attributes_of_name h ([] ++ name.toList))
  rw [List.nil_append, List.nil_append, htoken] at htag
  exact hbracket.append htag

/-- A closing tag ends the text before it. -/
theorem reads_close {name : String} (hname : isWord name = true) (text : List Char) :
    Reads (.content text) (closeTag name) (.content [])
      (textToken text ++ [.closed name.toList]) := by
  obtain ⟨c, rest, hchars, hword⟩ := chars_of_isWord hname
  have hbracket : Reads (.content text) ['<', '/'] (.name ['/']) (textToken text) := by
    have hstep := Reads.single (.content text) '<'
    rw [Reading.step, if_pos rfl] at hstep
    have hslash : Reads (.name []) ['/'] (.name ['/']) [] := rfl
    have hboth := hstep.append hslash
    rwa [List.append_nil] at hboth
  have hread := reads_name (hchars ▸ hword) ['/']
  have hend : Reads (.name ('/' :: name.toList)) ['>'] (.content []) [.closed name.toList] := rfl
  exact hbracket.append (hread.append hend)

/-- The name of an element inside the main part of a page. -/
def isInnerName (name : String) : Bool := isWord name && name ≠ "main"

mutual

/-- Whether a part can stand inside the main part of a page and is read as it is written: its names
and keys are words, and it has no markup of its own. -/
def Html.isInner : Html → Bool
  | .element name attributes children =>
    isInnerName name && attributes.all (fun entry => isWord entry.1) && allInner children
  | .void name attributes => isInnerName name && attributes.all fun entry => isWord entry.1
  | .text _ => true
  | .markup _ => false

/-- Whether all parts are such. -/
def Html.allInner : List Html → Bool
  | [] => true
  | part :: rest => part.isInner && allInner rest

end

/-- Parts behind others are all inner ones if both are. -/
theorem allInner_append (first second : List Html) :
    Html.allInner (first ++ second) = (Html.allInner first && Html.allInner second) := by
  induction first with
  | nil => rfl
  | cons part first ih => rw [List.cons_append, Html.allInner, Html.allInner, ih, Bool.and_assoc]

/-- Parts that are made in one way are all inner ones if each is. -/
theorem allInner_map {α : Type} {f : α → Html} (h : ∀ a, (f a).isInner = true) (items : List α) :
    Html.allInner (items.map f) = true := by
  induction items with
  | nil => rfl
  | cons a items ih => rw [List.map_cons, Html.allInner, h a, ih, Bool.and_true]

/-- The name of an inner element is a word. -/
theorem isWord_of_isInnerName {name : String} (h : isInnerName name = true) :
    isWord name = true := by
  rw [isInnerName, Bool.and_eq_true] at h
  exact h.1

/-- Whether a part is a text. -/
def Html.isText : Html → Bool
  | .text _ => true
  | _ => false

/-- Whether parts begin with a text. -/
def startsText : List Html → Bool
  | part :: _ => part.isText
  | [] => false

mutual

/-- Whether no text within a part follows another one, with which it would be read as one. -/
def Html.isSpaced : Html → Bool
  | .element _ _ children => allSpaced children
  | _ => true

/-- Whether no text among parts and within them follows another one. -/
def Html.allSpaced : List Html → Bool
  | [] => true
  | part :: rest => part.isSpaced && !(part.isText && startsText rest) && allSpaced rest

end

/-- No text follows another one among elements that are made in one way. -/
theorem allSpaced_map {α : Type} {f : α → Html} (h : ∀ a, (f a).isSpaced = true)
    (htext : ∀ a, (f a).isText = false) (items : List α) :
    Html.allSpaced (items.map f) = true := by
  induction items with
  | nil => rfl
  | cons a items ih => rw [List.map_cons, Html.allSpaced, h a, htext a, ih]; rfl

mutual

/-- The tokens of a part. -/
def Html.tokens : Html → List Token
  | .element name attributes children =>
    .opened name.toList (writtenAttributes attributes) ::
      (tokensAll children ++ [.closed name.toList])
  | .void name attributes => [.opened name.toList (writtenAttributes attributes)]
  | .text content => [.text (writeText content)]
  | .markup _ => []

/-- The tokens of parts one after the other. -/
def Html.tokensAll : List Html → List Token
  | [] => []
  | part :: rest => part.tokens ++ tokensAll rest

end

/-- The tokens of parts that are made in one way. -/
theorem tokensAll_map {α : Type} (f : α → Html) (items : List α) :
    Html.tokensAll (items.map f) = items.flatMap fun a => (f a).tokens := by
  induction items with
  | nil => rfl
  | cons a items ih => rw [List.map_cons, Html.tokensAll, ih, List.flatMap_cons]

/-- A text between tags begins no tag. -/
theorem not_mem_writeText (content : String) : '<' ∉ Html.writeText content := by
  rw [Html.writeText]
  split
  · decide
  · exact Text.not_mem_escapeWith_textEscapes _

/-- Something is written for every text. -/
theorem textToken_writeText (content : String) :
    textToken (Html.writeText content) = [.text (Html.writeText content)] := by
  have hne : Html.writeText content ≠ [] := by
    rw [Html.writeText]
    split
    · exact List.cons_ne_nil _ _
    · next hcontent =>
      intro hnil
      have hread := Text.readable_textEscapes.unescape_escapeWith content.toList
      rw [hnil] at hread
      exact hcontent (String.isEmpty_iff.mpr (String.toList_eq_nil_iff.mp hread.symm))
  rw [textToken, if_neg (by simpa using hne)]

mutual

/-- What is written for an inner part other than a text is read as its tokens, behind the text that
came before. -/
theorem reads_write : ∀ html : Html, html.isInner = true → html.isSpaced = true →
    html.isText = false → ∀ text,
      Reads (.content text) html.write (.content []) (textToken text ++ html.tokens)
  | .element name attributes children, hinner, hspaced, _, text => by
    rw [Html.isInner, Bool.and_eq_true, Bool.and_eq_true, List.all_eq_true] at hinner
    rw [Html.isSpaced] at hspaced
    have hname := isWord_of_isInnerName hinner.1.1
    have hopen := reads_open hname hinner.1.2 text
    obtain ⟨last, made, hchildren, hmade⟩ :=
      reads_writeAll children hinner.2 hspaced [] (Or.inl rfl)
    have hall := hopen.append (hchildren.append (reads_close hname last))
    rw [← List.append_assoc made, hmade] at hall
    rw [write_element]
    simpa [Html.tokens, textToken] using hall
  | .void name attributes, hinner, _, _, text => by
    rw [Html.isInner, Bool.and_eq_true, List.all_eq_true] at hinner
    rw [write_void]
    exact reads_open (isWord_of_isInnerName hinner.1) hinner.2 text
  | .text _, _, _, htext, _ => nomatch htext
  | .markup _, hinner, _, _, _ => nomatch hinner

/-- What is written for inner parts is read as their tokens, up to a text that is still being read
at the end. No text may come before if the parts begin with one. -/
theorem reads_writeAll : ∀ parts : List Html, Html.allInner parts = true →
    Html.allSpaced parts = true → ∀ text, text = [] ∨ startsText parts = false →
      ∃ last made, Reads (.content text) (Html.writeAll parts) (.content last) made ∧
        made ++ textToken last = textToken text ++ Html.tokensAll parts
  | [], _, _, text, _ =>
    ⟨text, [], .refl _, by rw [Html.tokensAll, List.append_nil, List.nil_append]⟩
  | part :: rest, hinner, hspaced, text, hstart => by
    rw [Html.allInner, Bool.and_eq_true] at hinner
    rw [Html.allSpaced, Bool.and_eq_true, Bool.and_eq_true] at hspaced
    cases hpart : part.isText with
    | false =>
      have hfirst := reads_write part hinner.1 hspaced.1.1 hpart text
      obtain ⟨last, made, hrest, hmade⟩ :=
        reads_writeAll rest hinner.2 hspaced.2 [] (Or.inl rfl)
      refine ⟨last, _, hfirst.append hrest, ?_⟩
      rw [List.append_assoc, hmade, Html.tokensAll, List.append_assoc]
      rfl
    | true =>
      cases part with
      | text content =>
        have hnone : text = [] := hstart.resolve_right (by simp [startsText, Html.isText])
        have hnext : startsText rest = false := by simpa [Html.isText] using hspaced.1.2
        have hfirst := reads_content (not_mem_writeText content) text
        obtain ⟨last, made, hrest, hmade⟩ :=
          reads_writeAll rest hinner.2 hspaced.2 (Html.writeText content) (Or.inr hnext)
        rw [hnone, List.nil_append] at hfirst
        rw [hnone]
        refine ⟨last, _, hfirst.append hrest, ?_⟩
        rw [List.nil_append, hmade, textToken_writeText, Html.tokensAll, Html.tokens]
        rfl
      | element | void | markup => cases hpart

end

/-- What is written for inner parts has their tokens. -/
theorem tokens_writeAll {parts : List Html} (hinner : Html.allInner parts = true)
    (hspaced : Html.allSpaced parts = true) :
    tokens (Html.writeAll parts) = Html.tokensAll parts := by
  obtain ⟨last, made, hreads, hmade⟩ := reads_writeAll parts hinner hspaced [] (Or.inl rfl)
  rw [tokens_of_reads hreads, hmade]
  rfl

end Folio.Site
