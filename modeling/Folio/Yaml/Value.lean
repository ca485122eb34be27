/-!
# YAML values

A plain scalar without a tag is read by its spelling: `null` and `~`, `true` and `false`, integers
of 64 bits in decimal, octal and hexadecimal, and decimal fractions; all else is text.
-/

namespace Folio.Yaml

/-- A value. Fractions keep their spelling. -/
inductive Value where
  | null
  | bool (b : Bool)
  | int (n : Int)
  | real (spelling : List Char)
  | text (s : List Char)
  | list (items : List Value)
  | map (entries : List (Value × Value))
  /-- What a tag says does not fit, or an alias of a value that is not complete. -/
  | bad
  deriving Repr, Inhabited

namespace Value

mutual

/-- Whether two values are equal; the order of a map's entries counts. -/
def same : Value → Value → Bool
  | .null, .null => true
  | .bad, .bad => true
  | .bool a, .bool b => a = b
  | .int a, .int b => a = b
  | .real a, .real b => a = b
  | .text a, .text b => a = b
  | .list a, .list b => sameList a b
  | .map a, .map b => sameEntries a b
  | _, _ => false

/-- Whether two lists of values are equal. -/
def sameList : List Value → List Value → Bool
  | [], [] => true
  | a :: as, b :: bs => same a b && sameList as bs
  | _, _ => false

/-- Whether two lists of entries are equal. -/
def sameEntries : List (Value × Value) → List (Value × Value) → Bool
  | [], [] => true
  | (k, v) :: as, (l, w) :: bs => same k l && same v w && sameEntries as bs
  | _, _ => false

end

/-- The value of digits in a base, if there is at least one and all are digits. -/
def digits? (base : Nat) (s : List Char) : Option Nat :=
  if s.isEmpty then none
  else
    s.foldlM
      (fun n c =>
        let d :=
          if c.isDigit then c.toNat - 48
          else if 'a' ≤ c && c ≤ 'f' then c.toNat - 87
          else if 'A' ≤ c && c ≤ 'F' then c.toNat - 55
          else base
        if d < base then some (base * n + d) else none)
      0

/-- An integer of 64 bits in a base, with an optional sign. -/
def integer? (base : Nat) (s : List Char) : Option Int :=
  match s with
  | '-' :: rest =>
    (digits? base rest).bind fun n => if n ≤ Nat.pow 2 63 then some (-(n : Int)) else none
  | '+' :: rest =>
    (digits? base rest).bind fun n => if n < Nat.pow 2 63 then some (n : Int) else none
  | _ => (digits? base s).bind fun n => if n < Nat.pow 2 63 then some (n : Int) else none

/-- A text without the sign in front of it. -/
def withoutSign : List Char → List Char
  | '-' :: rest => rest
  | '+' :: rest => rest
  | rest => rest

/-- Whether a text is a decimal number: digits with an optional point among or around them, and an
optional exponent. -/
def isDecimal (s : List Char) : Bool :=
  let s := withoutSign s
  let whole := s.takeWhile Char.isDigit
  let s := s.drop whole.length
  let (fraction, s) :=
    match s with
    | '.' :: rest =>
      let digits := rest.takeWhile Char.isDigit
      (digits, rest.drop digits.length)
    | rest => ([], rest)
  let exponent :=
    match s with
    | [] => true
    | e :: rest =>
      (e = 'e' || e = 'E') &&
        (let rest := withoutSign rest
        !rest.isEmpty && rest.all Char.isDigit)
  (!whole.isEmpty || !fraction.isEmpty) && exponent

/-- The spellings of infinities and of the value that is no number, with a point. -/
def specialReals : List String :=
  [".inf", ".Inf", ".INF", "+.inf", "+.Inf", "+.INF", "-.inf", "-.Inf", "-.INF", ".nan", ".NAN"]

/-- Whether a text is one of the names of infinity or of the value that is no number, in letters of
any case. -/
def isNamedReal (s : List Char) : Bool :=
  ["inf", "infinity", "nan"].contains (String.ofList ((withoutSign s).map Char.toLower))

/-- Whether a text is a number with a fraction. -/
def isReal (s : List Char) : Bool :=
  specialReals.contains (String.ofList s) || isNamedReal s || isDecimal s

/-- The value that a plain scalar spells. -/
def ofPlain (s : List Char) : Value :=
  let prefixed :=
    match s with
    | '0' :: 'x' :: rest => integer? 16 rest
    | '0' :: 'o' :: rest => integer? 8 rest
    | '+' :: rest => integer? 10 rest
    | _ => none
  match prefixed with
  | some n => .int n
  | none =>
    if s = [] || s = ['~'] || s = "null".toList then .null
    else if s = "true".toList then .bool true
    else if s = "false".toList then .bool false
    else
      match integer? 10 s with
      | some n => .int n
      | none => if isReal s then .real s else .text s

/-- The value of a plain scalar with a tag of the core schema. -/
def ofTagged (suffix : String) (s : List Char) : Value :=
  match suffix with
  | "bool" =>
    if s = "true".toList then .bool true else if s = "false".toList then .bool false else .bad
  | "int" => match integer? 10 s with | some n => .int n | none => .bad
  | "float" => if isReal s then .real s else .bad
  | "null" => if s = ['~'] || s = "null".toList then .null else .bad
  | _ => .text s

end Value

end Folio.Yaml
