import Folio.Highlight.Lexeme

/-!
# YAML

Keys, sequence items, scalars and flow collections. A plain scalar is read to its end before it is
told whether it is a key, a number or another constant.
-/

namespace Folio.Highlight.Yaml

open Probe Rule

/-- The contexts of the grammar. -/
inductive Context where
  | block
  | flow (closing : String)
  | double (role : Role)
  | single (role : Role)

/-- The end of a mapping key: a colon before a blank or the end of the line. -/
def keyEnd : Probe := seq (lit ":") (or lineEnd (one fun c => c = ' ' || c = '\t' || c = '\n'))

/-- A plain scalar's characters up to its end; `inFlow` makes brackets and commas end it. -/
def plainScalar (inFlow : Bool) : Probe := fun _ rest =>
  match go (rest.length + 1) rest with
  | 0 => none
  | n => some n
where
  /-- The length of the scalar, given a bound for its steps. -/
  go : Nat → List Char → Nat
    | 0, _ => 0
    | steps + 1, rest =>
      match rest with
      | [] | '\n' :: _ => 0
      | c :: more =>
        if (keyEnd none rest).isSome then 0
        else if inFlow && "[]{},".toList.contains c then 0
        else if c = ' ' || c = '\t' then
          let gap := rest.takeWhile fun c => c = ' ' || c = '\t'
          match rest.drop gap.length with
          | [] | '\n' :: _ | '#' :: _ => 0
          | next =>
            if (keyEnd none next).isSome then 0
            else
              match go steps next with
              | 0 => 0
              | n => gap.length + n
        else 1 + go steps more

/-- That a plain scalar may start here. -/
def scalarStart : Probe := fun _ rest =>
  match rest with
  | c :: next =>
    if "-?:".toList.contains c then
      if next.head?.all fun d => d = ' ' || d = '\n' then none else some 0
    else if c = ' ' || c = '\n' || ",[]{}#&*!|>'\"%@\x60".toList.contains c then none
    else some 0
  | [] => none

/-- A probe that accepts a whole plain scalar. -/
def whole (inFlow : Bool) (probe : Probe) : Probe := fun before rest => do
  let n ← seq scalarStart (plainScalar inFlow) before rest
  let m ← probe before (rest.take n)
  if m = n then some n else none

/-- A plain scalar for a truth value or for nothing. -/
def constantScalar : Probe :=
  oneOf ["null", "Null", "NULL", "~", "true", "True", "TRUE", "false", "False", "FALSE", "yes",
    "Yes", "YES", "no", "No", "NO", "on", "On", "ON", "off", "Off", "OFF"]

/-- A plain scalar for a number. -/
def numberScalar : Probe :=
  seq (maybe (oneOf ["-", "+"]))
    (or basedNumber (or (seq decimalNumber (notAhead (one fun _ => true))) fractionNumber))

/-- The rest of a key in quotes. -/
def quotedKey (quote : Char) : Probe :=
  chain [many (fun c => c ≠ quote && c ≠ '\n'), one (· = quote), blanks, keyEnd]

/-- Scalars and other nodes; `inFlow` makes brackets and commas end a plain scalar. -/
def nodes (inFlow : Bool) : List (Rule Context) :=
  [token .comment (seq (after fun c => c = ' ' || c = '\t') (seq (lit "#") restOfLine)),
    opens .plain (seq (lit "\"") (ahead (quotedKey '"'))) (.double .tag),
    opens .plain (seq (lit "'") (ahead (quotedKey '\''))) (.single .tag),
    opens .plain (lit "\"") (.double .string), opens .plain (lit "'") (.single .string),
    ⟨[⟨seq scalarStart (plainScalar inFlow), some .tag⟩, ⟨ahead (seq blanks keyEnd), none⟩], .stay⟩,
    token .constant (whole inFlow constantScalar), token .constant (whole inFlow numberScalar),
    ⟨[⟨oneOf ["&", "*"], none⟩, ⟨run fun c => !"[]{}, \t\n".toList.contains c, some .plain⟩],
      .stay⟩,
    token .keyword (seq (lit "!") (many fun c => !"[]{}, \t\n".toList.contains c)),
    opens .plain (lit "[") (.flow "]"), opens .plain (lit "\x7b") (.flow "\x7d"),
    token .string (seq scalarStart (plainScalar inFlow)),
    mark (run "-?:,|>+".toList.contains)]

/-- The rules of each context. -/
def rules : Context → List (Rule Context)
  | .block =>
    [mark (chain [lineStart, oneOf ["---", "..."], ahead (or lineEnd (lit " "))]),
      token .keyword (chain [lineStart, lit "%", restOfLine])] ++ nodes false
  | .flow closing => closes .plain (lit closing) :: nodes true
  | .double _ =>
    [closes .plain (lit "\""), token .escape anyEscape]
  | .single _ => [token .escape (lit "''"), closes .plain (lit "'")]

/-- The role of text that no rule gives one. -/
def ground : Context → Option Role
  | .double role | .single role => some role
  | _ => none

/-- The grammar. -/
def grammar : Grammar := ⟨Context, .block, ground, rules⟩

end Folio.Highlight.Yaml
