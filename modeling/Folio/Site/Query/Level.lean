import Folio.Text.Quoted

/-!
# What a query says

A query says of each name what it stands for: a text, a list, a list by numbers, or a group of
names. What a name stands for is settled when it is given first; where it is given again in another
way, it becomes invalid, and so does an entry that is given twice. Numbered entries stand in the
order of their numbers, named ones in that of their names.
-/

namespace Folio.Site

/-- Why a part of a query is invalid. -/
inductive Misfit where
  | repeatedName (name : String)
  | repeatedNumber
  | notGroup
  | notList
  deriving Repr, DecidableEq

/-- The text of the reason. -/
def Misfit.message : Misfit → String
  | .repeatedName name => "Multiple values for one key: \"" ++ name ++ "\""
  | .repeatedNumber => "Multiple values for one key"
  | .notGroup => "Attempted to insert map value into non-map structure"
  | .notList => "Attempted to insert seq value into non-seq structure"

/-- What a query says of a name. -/
inductive Level where
  | unset
  | text (value : String)
  | items (values : List String)
  | numbered (entries : List (Nat × Level))
  | group (entries : List (String × Level))
  | invalid (reason : Misfit)
  deriving Repr, Inhabited

namespace Level

/-- Put an entry at its place among others, each before those with a greater key. -/
def put {α : Type} (less : α → α → Bool) (key : α) (level : Level) :
    List (α × Level) → List (α × Level)
  | [] => [(key, level)]
  | (k, old) :: rest =>
    if less key k then (key, level) :: (k, old) :: rest
    else if less k key then (k, old) :: put less key level rest
    else (key, level) :: rest

/-- Put an entry at its place among others by name. -/
def putName : String → Level → List (String × Level) → List (String × Level) :=
  put fun a b => a < b

/-- Put an entry at its place among others by number. -/
def putNumber : Nat → Level → List (Nat × Level) → List (Nat × Level) :=
  put fun a b => a < b

/-- Give a text to a name. -/
def insertName (name value : String) : Level → Level
  | .unset => .group [(name, .text value)]
  | .group entries =>
    .group (putName name
      (if (entries.lookup name).isSome then .invalid (.repeatedName name) else .text value) entries)
  | _ => .invalid .notGroup

/-- Give a text to a number. -/
def insertNumber (number : Nat) (value : String) : Level → Level
  | .unset => .numbered [(number, .text value)]
  | .numbered entries =>
    .numbered (putNumber number
      (if (entries.lookup number).isSome then .invalid .repeatedNumber else .text value) entries)
  | _ => .invalid .notList

/-- Add a text at the end of a list. -/
def insertItem (value : String) : Level → Level
  | .unset => .items [value]
  | .items values => .items (values ++ [value])
  | _ => .invalid .notList

/-- A text in quotes. -/
def quoted (s : String) : String := String.ofList (Text.quotedText s.toList)

mutual

/-- A level as it is shown in a report. -/
def describe : Level → String
  | .unset => "Uninitialised"
  | .text value => "Flat(" ++ quoted value ++ ")"
  | .items values =>
    "Sequence([" ++ ", ".intercalate (values.map fun v => "Flat(" ++ quoted v ++ ")") ++ "])"
  | .numbered entries => "OrderedSeq(\x7b" ++ ", ".intercalate (describeNumbered entries) ++ "\x7d)"
  | .group entries => "Nested(\x7b" ++ ", ".intercalate (describeNamed entries) ++ "\x7d)"
  | .invalid reason => "Invalid(" ++ quoted reason.message ++ ")"

/-- Numbered entries as they are shown. -/
def describeNumbered : List (Nat × Level) → List String
  | [] => []
  | (number, level) :: rest => (toString number ++ ": " ++ level.describe) :: describeNumbered rest

/-- Named entries as they are shown. -/
def describeNamed : List (String × Level) → List String
  | [] => []
  | (name, level) :: rest => (quoted name ++ ": " ++ level.describe) :: describeNamed rest

end

mutual

/-- The first reason for which a level or one within it is invalid. -/
def misfit? : Level → Option Misfit
  | .invalid reason => some reason
  | .numbered entries => misfitNumbered? entries
  | .group entries => misfitNamed? entries
  | _ => none

/-- The first reason among numbered entries. -/
def misfitNumbered? : List (Nat × Level) → Option Misfit
  | [] => none
  | (_, level) :: rest => level.misfit?.or (misfitNumbered? rest)

/-- The first reason among named entries. -/
def misfitNamed? : List (String × Level) → Option Misfit
  | [] => none
  | (_, level) :: rest => level.misfit?.or (misfitNamed? rest)

end

end Level

end Folio.Site
