import Folio.Text.CharSet

/-!
# Regular expressions

A regular expression is what a pattern means once its settings are applied: in each part the case
of letters, the meaning of a dot and the meaning of the conditions are fixed.

Expressions are put together by `ofSet`, `concat`, `oneOf` and `times`, which keep them in simple
form: a set of one character is a text, neighbouring texts are one text, sequences stand in no
sequence and alternatives in no alternatives, and what all branches begin with stands before them.
The size of an expression is that of its simple form.
-/

namespace Folio.Pattern

open Folio.Text (CharSet)

/-- A condition on a place between two characters of a text. -/
inductive Look where
  | textStart
  | textEnd
  | lineStart (crlf : Bool)
  | lineEnd (crlf : Bool)
  | boundary (wide : Bool)
  | noBoundary (wide : Bool)
  | wordStart (wide : Bool)
  | wordEnd (wide : Bool)
  | wordStartHalf (wide : Bool)
  | wordEndHalf (wide : Bool)
  deriving Repr, DecidableEq

/-- A regular expression. -/
inductive Regex where
  | empty
  | text (chars : List Char)
  | one (set : CharSet)
  | look (condition : Look)
  | repeated (least : Nat) (most : Option Nat) (body : Regex)
  | group (body : Regex)
  | seq (parts : List Regex)
  | alt (branches : List Regex)
  deriving Repr

namespace Regex

mutual

/-- Whether an expression matches no text but the empty one. The empty set matches not even that. -/
def isBlank : Regex → Bool
  | .empty => true
  | .text _ => false
  | .one _ => false
  | .look _ => true
  | .repeated _ _ body => body.isBlank
  | .group body => body.isBlank
  | .seq parts => allBlank parts
  | .alt branches => allBlank branches

/-- Whether some expressions match no text but the empty one. -/
def allBlank : List Regex → Bool
  | [] => true
  | r :: rest => r.isBlank && allBlank rest

end

mutual

/-- Whether two expressions are written alike. Two groups are never the same, as each has a place
of its own. -/
def same : Regex → Regex → Bool
  | .empty, .empty => true
  | .text s, .text t => s = t
  | .one s, .one t => s = t
  | .look a, .look b => a = b
  | .repeated l m r, .repeated l' m' r' => l = l' && m = m' && r.same r'
  | .seq rs, .seq rs' => allSame rs rs'
  | .alt rs, .alt rs' => allSame rs rs'
  | _, _ => false

/-- Whether two lists of expressions are written alike. -/
def allSame : List Regex → List Regex → Bool
  | [], [] => true
  | r :: rs, r' :: rs' => r.same r' && allSame rs rs'
  | _, _ => false

end

mutual

/-- How many expressions an expression is made of. -/
def size : Regex → Nat
  | .repeated _ _ body => body.size + 1
  | .group body => body.size + 1
  | .seq parts => totalSize parts + 1
  | .alt branches => totalSize branches + 1
  | _ => 1

/-- How many expressions some expressions are made of. -/
def totalSize : List Regex → Nat
  | [] => 0
  | r :: rest => r.size + totalSize rest

end

/-- Any character of a set; code points that are no characters do not count. -/
def ofSet (set : CharSet) : Regex :=
  let set := set.diff ⟨[⟨0xD800, 0xDFFF⟩]⟩
  match set.ranges with
  | [r] => if r.lo = r.hi then .text [Char.ofNat r.lo] else .one set
  | _ => .one set

/-- A repetition. What matches only the empty text need not be repeated. -/
def times (least : Nat) (most : Option Nat) (r : Regex) : Regex :=
  let (least, most) :=
    if r.isBlank then (min least 1, some (min (most.getD 1) 1)) else (least, most)
  if most = some 0 then .empty
  else if least = 1 && most = some 1 then r
  else .repeated least most r

/-- The parts of an expression in a sequence. -/
def parts : Regex → List Regex
  | .empty => []
  | .seq parts => parts
  | r => [r]

/-- Make neighbouring texts one text. -/
def joinTexts : List Regex → List Regex
  | [] => []
  | .text s :: rest =>
    match joinTexts rest with
    | .text t :: more => .text (s ++ t) :: more
    | more => .text s :: more
  | r :: rest => r :: joinTexts rest

/-- Expressions one after the other. -/
def concat (rs : List Regex) : Regex :=
  match joinTexts (rs.flatMap parts) with
  | [] => .empty
  | [r] => r
  | rs => .seq rs

/-- The branches of an expression in an alternation. -/
def branches : Regex → List Regex
  | .alt branches => branches
  | r => [r]

/-- The character that an expression is. -/
def char? : Regex → Option Char
  | .text [c] => some c
  | _ => none

/-- The set that an expression is. -/
def set? : Regex → Option CharSet
  | .one set => some set
  | _ => none

/-- The parts of a sequence. -/
def sequence? : Regex → Option (List Regex)
  | .seq parts => some parts
  | _ => none

/-- How many parts two sequences begin with alike. -/
def sharedLength : List Regex → List Regex → Nat
  | r :: rs, r' :: rs' => if r.same r' then sharedLength rs rs' + 1 else 0
  | _, _ => 0

/-- Any of some expressions. What sequences begin with alike is taken out of them, at most `fuel`
times one within the other. -/
def oneOfWithin : Nat → List Regex → Regex
  | 0, rs => .alt rs
  | fuel + 1, rs =>
    match rs.flatMap branches with
    | [] => .one .empty
    | [r] => r
    | rs =>
      match rs.mapM char?, rs.mapM set?, rs.mapM sequence? with
      | some chars, _, _ => ofSet (.unions (chars.map fun c => .single c.toNat))
      | _, some sets, _ => ofSet (.unions sets)
      | _, _, some (first :: others) =>
        let shared := others.foldl (fun n parts => min n (sharedLength first parts)) first.length
        if shared = 0 then .alt rs
        else
          let tails := (first :: others).map fun parts => concat (parts.drop shared)
          concat (first.take shared ++ [oneOfWithin fuel tails])
      | _, _, _ => .alt rs

/-- Any of some expressions. -/
def oneOf (rs : List Regex) : Regex := oneOfWithin (totalSize rs + 1) rs

end Regex

end Folio.Pattern
