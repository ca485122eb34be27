import Std.Data.HashMap
import Folio.Text.CodePoints
import Folio.Markdown.EntityTable

/-!
# Character references

`&name;`, `&#decimal;` and `&#xhex;` stand for characters. A number that is zero or no code point
stands for the replacement character.
-/

namespace Folio.Markdown

/-- The names and values of a table in which they alternate. -/
def pairUp : List (List Char) → List (String × List Char)
  | name :: codes :: rest =>
    let first := Text.hexNumber (codes.takeWhile (· ≠ '-'))
    let value :=
      match codes.dropWhile (· ≠ '-') with
      | [] => [Char.ofNat first]
      | _ :: second => [Char.ofNat first, Char.ofNat (Text.hexNumber second)]
    (String.ofList name, value) :: pairUp rest
  | _ => []

/-- The named characters. -/
def namedEntities : Std.HashMap String (List Char) :=
  Std.HashMap.ofList (pairUp (Text.CodePoints.words entityTable.toList []))

/-- The character with a number, or the replacement character. -/
def numberedChar (n : Nat) : Char :=
  if n ≠ 0 && n.isValidChar then Char.ofNat n else '\ufffd'

/-- A character reference at the start of a text: what it stands for, and the text after it. -/
def entity? (s : List Char) : Option (List Char × List Char) :=
  match s with
  | '&' :: '#' :: rest =>
    let (digits, tail, base) :=
      match rest with
      | c :: more =>
        if c = 'x' || c = 'X' then
          let digits := (more.take 6).takeWhile fun d => (Text.hexDigit? d).isSome
          (digits, more.drop digits.length, 16)
        else
          let digits := (rest.take 7).takeWhile Char.isDigit
          (digits, rest.drop digits.length, 10)
      | [] => ([], [], 10)
    match digits, tail with
    | [], _ => none
    | _, ';' :: after =>
      let n := digits.foldl (fun n d => base * n + (Text.hexDigit? d).getD 0) 0
      some ([numberedChar n], after)
    | _, _ => none
  | '&' :: rest =>
    let name := rest.takeWhile Char.isAlphanum
    match rest.drop name.length with
    | ';' :: after => (namedEntities[String.ofList name]?).map fun value => (value, after)
    | _ => none
  | _ => none

end Folio.Markdown
