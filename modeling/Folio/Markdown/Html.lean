import Folio.Text.Escape
import Folio.Text.Percent
import Folio.Markdown.Event

/-!
# Articles as HTML

Events are written from left to right. A block's tag starts on a line of its own, so the writer
keeps whether the last character was a line feed. Footnotes are numbered in the order of their
first mention.
-/

namespace Folio.Markdown

/-- The state of the writer. -/
structure HtmlWriter where
  /-- The text so far, in reverse. -/
  output : List Char
  /-- Whether a block's tag needs no line feed in front. -/
  fresh : Bool
  inHead : Bool
  cell : Nat
  alignments : List Alignment
  /-- The footnotes mentioned so far, in order. -/
  notes : List (List Char)
  /-- In the text of an image: the number of elements open inside it, and its title. -/
  image : Option (Nat × List Char)

namespace HtmlWriter

/-- Nothing is written yet. -/
def initial : HtmlWriter := ⟨[], true, false, 0, [], [], none⟩

/-- Add characters, and keep the note about line feeds as it is. -/
def append (s : List Char) (writer : HtmlWriter) : HtmlWriter :=
  { writer with output := s.reverse ++ writer.output }

/-- Add markup. -/
def put (s : String) (writer : HtmlWriter) : HtmlWriter :=
  if s.isEmpty then writer
  else { writer.append s.toList with fresh := s.toList.getLast? = some '\n' }

/-- Add a block's markup on a line of its own. -/
def putBlock (s : String) (writer : HtmlWriter) : HtmlWriter :=
  if writer.fresh then writer.put s else (writer.put "\n").put s

/-- Add an attribute's value. -/
def attributeText (s : List Char) (writer : HtmlWriter) : HtmlWriter :=
  writer.append (Text.escapeWith Text.quoteEscapes s)

/-- Characters that stay as they are in an address. -/
def inAddress (c : Char) : Bool :=
  c.isAlphanum || "!#$%()*+,-./:;=?@_~".toList.contains c

/-- Add an address. -/
def address (s : List Char) (writer : HtmlWriter) : HtmlWriter :=
  writer.append
    (s.flatMap fun c =>
      if inAddress c then [c]
      else if c = '&' then "&amp;".toList
      else if c = '\'' then "&#x27;".toList
      else Text.percentChar c)

/-- The number of a footnote. -/
def number (label : List Char) (writer : HtmlWriter) : Nat × HtmlWriter :=
  let index := writer.notes.idxOf label
  if index < writer.notes.length then (index + 1, writer)
  else (index + 1, { writer with notes := writer.notes ++ [label] })

/-- Add a number. -/
def decimal (n : Nat) (writer : HtmlWriter) : HtmlWriter := writer.append (Nat.toDigits 10 n)

/-- The class of a notice. -/
def noticeClass : Option Notice → String
  | none => ""
  | some notice => " class=\"markdown-alert-" ++ notice.tag ++ "\""

/-- Add a title attribute if there is a title. -/
def title (s : List Char) (writer : HtmlWriter) : HtmlWriter :=
  if s.isEmpty then writer else (writer.put "\" title=\"").attributeText s

/-- The name of an element that marks stress. -/
def stressName : Stress → String
  | .emphasis => "em"
  | .strong => "strong"
  | .strikethrough => "del"
  | .subscript => "sub"
  | .superscript => "sup"

/-- Add the attributes of a heading. -/
def headingAttributes (attributes : HeadingAttributes) (writer : HtmlWriter) : HtmlWriter :=
  let writer :=
    match attributes.id with
    | some id => ((writer.put " id=\"").attributeText id).put "\""
    | none => writer
  let writer :=
    match attributes.classes with
    | [] => writer
    | first :: rest =>
      let writer := (writer.put " class=\"").attributeText first
      (rest.foldl (fun writer name => (writer.put " ").attributeText name) writer).put "\""
  attributes.others.foldl
    (fun writer (key, value) =>
      ((((writer.put " ").attributeText key).put "=\"").attributeText (value.getD [])).put "\"")
    writer

/-- Write the start of an element. -/
def start (tag : Tag) (writer : HtmlWriter) : HtmlWriter :=
  match tag with
  | .paragraph => writer.putBlock "<p>"
  | .heading level attributes =>
    (((writer.putBlock "<h").decimal level).headingAttributes attributes).put ">"
  | .quote notice => writer.putBlock ("<blockquote" ++ noticeClass notice ++ ">\n")
  | .code info =>
    let writer := writer.putBlock "<pre>"
    match (info.getD []).takeWhile (· ≠ ' ') with
    | [] => writer.put "<code>"
    | language => ((writer.put "<code class=\"language-").attributeText language).put "\">"
  | .list none => writer.putBlock "<ul>\n"
  | .list (some first) =>
    if first = 1 then writer.putBlock "<ol>\n"
    else ((writer.putBlock "<ol start=\"").decimal first).put "\">\n"
  | .item => writer.putBlock "<li>"
  | .definitions => writer.putBlock "<dl>\n"
  | .title => writer.putBlock "<dt>"
  | .definition => writer.putBlock "<dd>"
  | .footnote label =>
    let writer := (writer.putBlock "<div class=\"footnote-definition\" id=\"").attributeText label
    let (n, writer) := (writer.put "\"><sup class=\"footnote-definition-label\">").number label
    (writer.decimal n).put "</sup>"
  | .table alignments => { writer.put "<table>" with alignments }
  | .tableHead => { writer.put "<thead><tr>" with inHead := true, cell := 0 }
  | .tableRow => { writer.put "<tr>" with cell := 0 }
  | .tableCell =>
    let writer := writer.put (if writer.inHead then "<th" else "<td")
    match writer.alignments[writer.cell]? with
    | some .left => writer.put " style=\"text-align: left\">"
    | some .center => writer.put " style=\"text-align: center\">"
    | some .right => writer.put " style=\"text-align: right\">"
    | _ => writer.put ">"
  | .stress kind => writer.put ("<" ++ stressName kind ++ ">")
  | .link .image target =>
    { ((writer.put "<img src=\"").address target.destination).put "\" alt=\"" with
      image := some (0, target.title) }
  | .link kind target =>
    let scheme := if kind = .mail then "mailto:" else ""
    (((writer.put ("<a href=\"" ++ scheme)).address target.destination).title target.title).put
      "\">"

/-- Write the end of an element. -/
def finish (tag : Tag) (writer : HtmlWriter) : HtmlWriter :=
  match tag with
  | .paragraph => writer.put "</p>\n"
  | .heading level _ => ((writer.put "</h").decimal level).put ">\n"
  | .quote _ => writer.put "</blockquote>\n"
  | .code _ => writer.put "</code></pre>\n"
  | .list none => writer.put "</ul>\n"
  | .list (some _) => writer.put "</ol>\n"
  | .item => writer.put "</li>\n"
  | .definitions => writer.put "</dl>\n"
  | .title => writer.put "</dt>\n"
  | .definition => writer.put "</dd>\n"
  | .footnote _ => writer.put "</div>\n"
  | .table _ => writer.put "</tbody></table>\n"
  | .tableHead => { writer.put "</tr></thead><tbody>\n" with inHead := false }
  | .tableRow => writer.put "</tr>\n"
  | .tableCell =>
    { writer.put (if writer.inHead then "</th>" else "</td>") with cell := writer.cell + 1 }
  | .stress kind => writer.put ("</" ++ stressName kind ++ ">")
  | .link _ _ => writer.put "</a>"

/-- Write an event outside images. -/
def event (e : Event) (writer : HtmlWriter) : HtmlWriter :=
  match e with
  | .start tag => writer.start tag
  | .finish tag => writer.finish tag
  | .text s =>
    { writer.append (Text.escapeWith Text.textEscapes s) with fresh := s.getLast? = some '\n' }
  | .code s =>
    ((writer.put "<code>").append (Text.escapeWith Text.textEscapes s)).put "</code>"
  | .math display s =>
    let kind := if display then "display" else "inline"
    ((writer.put ("<span class=\"math math-" ++ kind ++ "\">")).attributeText s).put "</span>"
  | .html s =>
    if s.isEmpty then writer else { writer.append s with fresh := s.getLast? = some '\n' }
  | .softBreak => writer.put "\n"
  | .hardBreak => writer.put "<br />\n"
  | .rule => writer.putBlock "<hr />\n"
  | .footnoteReference label =>
    let writer :=
      ((writer.put "<sup class=\"footnote-reference\"><a href=\"#").attributeText label).put "\">"
    let (n, writer) := writer.number label
    (writer.decimal n).put "</a></sup>"
  | .task true => writer.put "<input disabled=\"\" type=\"checkbox\" checked=\"\"/>\n"
  | .task false => writer.put "<input disabled=\"\" type=\"checkbox\"/>\n"

/-- Write an event in the text of an image: without markup. -/
def imageEvent (e : Event) (depth : Nat) (imageTitle : List Char) (writer : HtmlWriter) :
    HtmlWriter :=
  match e with
  | .start _ => { writer with image := some (depth + 1, imageTitle) }
  | .finish _ =>
    if depth = 0 then { ((writer.title imageTitle).put "\" />") with image := none }
    else { writer with image := some (depth - 1, imageTitle) }
  | .text s | .code s | .html s =>
    { writer.attributeText s with fresh := s.getLast? = some '\n' }
  | .math display s =>
    let mark := if display then "$$" else "$"
    ((writer.put mark).attributeText s).put mark
  | .softBreak | .hardBreak | .rule => writer.put " "
  | .footnoteReference label =>
    let (n, writer) := writer.number label
    ((writer.append ['[']).decimal n).append [']']
  | .task true => writer.put "[x]"
  | .task false => writer.put "[ ]"

/-- Write an event. -/
def write (writer : HtmlWriter) (e : Event) : HtmlWriter :=
  match writer.image with
  | none => writer.event e
  | some (depth, imageTitle) => writer.imageEvent e depth imageTitle

end HtmlWriter

/-- The HTML of a list of events. -/
def html (events : List Event) : List Char :=
  (events.foldl HtmlWriter.write HtmlWriter.initial).output.reverse

end Folio.Markdown
