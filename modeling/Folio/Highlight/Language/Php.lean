import Folio.Highlight.Language.Markup

/-!
# PHP

Code between its marks inside a page of HTML.
-/

namespace Folio.Highlight.Php

open Probe Rule

/-- The contexts of the grammar. -/
inductive Context where
  | page (inner : Markup.Context)
  | code
  | comment
  | function
  | parameters
  | classHead
  | inherited
  | double
  | single

/-- Words that are keywords in every place. -/
def keywords : List String :=
  ["abstract", "as", "break", "case", "catch", "const", "continue", "declare", "default", "do",
    "else", "elseif", "enddeclare", "endfor", "endforeach", "endif", "endswitch", "endwhile",
    "extends", "final", "finally", "for", "foreach", "global", "goto", "if", "implements",
    "include", "include_once", "namespace", "new", "private", "protected", "public", "require",
    "require_once", "return", "static", "switch", "throw", "try", "use", "var", "while", "yield"]

/-- Constructs that print or test. -/
def constructs : List String :=
  ["echo", "print", "isset", "unset", "eval", "empty", "list", "exit", "die"]

/-- Functions that are always at hand. -/
def library : List String :=
  ["array_keys", "array_map", "array_merge", "array_pop", "array_push", "array_values", "count",
    "date", "explode", "file_get_contents", "file_put_contents", "header", "htmlspecialchars",
    "implode", "in_array", "intval", "is_array", "is_null", "is_string", "json_decode",
    "json_encode", "preg_match", "preg_replace", "print_r", "printf", "sprintf", "str_replace",
    "strlen", "strpos", "strtolower", "strtoupper", "substr", "trim", "var_dump"]

/-- A variable with its sign. -/
def signedName : Rule Context := parts [(.plain, lit "$"), (.variable, identifier)]

/-- The rules of each context. -/
def rules : Context → List (Rule Context)
  | .page inner =>
    opens .embedding (or (lit "<?php") (lit "<?=")) .code ::
      (Markup.rules true inner).map (Rule.map .page)
  | .code =>
    [closes .embedding (lit "?>"), lineComment ["//", "#"], opens .comment (lit "/*") .comment,
      opens .plain (lit "\"") .double, opens .plain (lit "'") .single, signedName,
      parts [(.plain, lit "->"), (.function, seq identifier (ahead (lit "(")))],
      parts [(.plain, lit "->"), (.variable, identifier)],
      opens .keyword (wordAnyCase ["function"]) .function,
      opens .keyword (wordAnyCase ["class", "interface", "trait"]) .classHead,
      token .constant number, token .constant (wordAnyCase ["true", "false", "null"]),
      token .library (wordAnyCase constructs), token .keyword (wordAnyCase keywords),
      token .library (seq (word library) (ahead (seq blanks (lit "(")))),
      token .function (seq identifier (ahead (seq blanks (lit "(")))),
      token .constant identifier, sign]
  | .comment => [closes .comment (lit "*/")]
  | .function =>
    [token .function identifier, (token .plain (lit "(")).thenTurn (.swap [.parameters]), sign]
  | .parameters => [closes .plain (lit ")"), signedName, token .constant number, sign]
  | .classHead =>
    [leave (lit "\x7b"), opens .keyword (word ["extends", "implements"]) .inherited,
      token .className identifier, sign]
  | .inherited => [leave (or (lit "\x7b") (word ["implements"])), token .string identifier, sign]
  | .double =>
    [closes .plain (lit "\""), token .escape anyEscape, signedName]
  | .single => [closes .plain (lit "'"), token .escape (oneOf ["\\'", "\\\\"])]

/-- The role of text that no rule gives one. -/
def ground : Context → Option Role
  | .page inner => Markup.ground inner
  | .comment => some .comment
  | .classHead => some .classBody
  | .double | .single => some .string
  | _ => none

/-- The grammar. -/
def grammar : Grammar := ⟨Context, .page .text, ground, rules⟩

end Folio.Highlight.Php
