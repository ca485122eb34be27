import Folio.Highlight.Lexeme

/-!
# SQL

Statements in letters of either case. Names without a meaning of their own stay plain.
-/

namespace Folio.Highlight.Sql

open Probe Rule

/-- The contexts of the grammar. -/
inductive Context where
  | statement
  | comment
  | text (quote : String)

/-- Words that are keywords in every place. -/
def keywords : List String :=
  ["select", "distinct", "insert", "ignore", "into", "update", "delete", "from", "set", "where",
    "group", "by", "or", "like", "and", "union", "all", "having", "order", "limit", "offset",
    "inner", "cross", "join", "straight_join", "left", "right", "outer", "natural", "on", "is",
    "not", "null", "values", "begin", "start", "transaction", "commit", "rollback", "grant",
    "revoke", "in", "asc", "desc", "as", "case", "when", "then", "else", "end", "primary", "key",
    "foreign", "references", "unique", "check", "constraint", "default", "cascade", "drop",
    "truncate", "alter", "add", "column", "exists", "between", "with", "if"]

/-- Words for what a statement creates. -/
def things : List String :=
  ["aggregate", "conversion", "database", "domain", "function", "group", "index", "language",
    "operator", "rule", "schema", "sequence", "table", "tablespace", "trigger", "type", "user",
    "view"]

/-- Types of columns. -/
def types : List String :=
  ["bigint", "bigserial", "bit", "boolean", "box", "bytea", "cidr", "circle", "date", "double",
    "precision", "inet", "int", "integer", "line", "lseg", "macaddr", "money", "oid", "path",
    "point", "polygon", "real", "serial", "smallint", "sysdate", "text", "character", "varying",
    "varchar", "char", "decimal", "numeric", "float", "time", "timestamp", "timestamptz",
    "datetime"]

/-- Functions that gather rows. -/
def aggregates : List String :=
  ["avg", "checksum_agg", "count", "count_big", "grouping", "max", "min", "stdev", "stdevp", "sum",
    "var", "varp", "lower", "upper", "concat", "replace", "trim", "current_date", "current_time",
    "current_timestamp", "current_user"]

/-- The rules of each context. -/
def rules : Context → List (Rule Context)
  | .statement =>
    [lineComment ["--", "#"], opens .comment (lit "/*") .comment,
      parts [(.keyword, wordAnyCase ["create"]), (.plain, blanks), (.keyword, wordAnyCase things),
        (.plain, blanks), (.function, identifier)],
      token .keyword (wordAnyCase ["create"]), token .keyword (wordAnyCase keywords),
      token .keyword (wordAnyCase things), token .keyword (wordAnyCase types),
      parts [(.library, wordAnyCase aggregates), (.plain, ahead (seq blanks (lit "(")))],
      token .constant (wordAnyCase ["true", "false"]),
      token .constant digits, token .variable (lit "*"),
      opens .plain (lit "'") (.text "'"), opens .plain (lit "\"") (.text "\""),
      opens .plain (lit "\x60") (.text "\x60"), sign]
  | .comment => [closes .comment (lit "*/")]
  | .text quote => [token .escape anyEscape, closes .plain (lit quote)]

/-- The role of text that no rule gives one. -/
def ground : Context → Option Role
  | .statement => none
  | .comment => some .comment
  | .text _ => some .string

/-- The grammar. -/
def grammar : Grammar := ⟨Context, .statement, ground, rules⟩

end Folio.Highlight.Sql
