import Folio.Blog.Listing
import Folio.Store.Table

/-!
# The posts of the site

The files that the site is built with. A slug names the Markdown file with its name; those in
folders are found by their slugs but are not listed.
-/

namespace Folio.Blog.Archive

open Folio.Store (Table)

/-- The lines of the overview of constrained decoding. -/
def constrainedDecodingLines : List String :=
  ["---",
   "title: \"Constrained Decoding: A Quick Overview\"",
   "description: \"How structured output from language models works, from JSON schema to a token mask.\"",
   "author: Arnab",
   "date: 2025-01-12T00:00:00Z",
   "tags:",
   "  - llm",
   "  - parsing",
   "  - python",
   "---",
   "",
   "Ask a language model for JSON and most of the time you get JSON. *Most of the time* is the",
   "problem. Constrained decoding removes the guesswork: at every step the sampler is only allowed",
   "to pick tokens that keep the output a valid prefix of something the schema accepts.",
   "",
   "## The pipeline",
   "",
   "1. Compile the JSON schema into a regular expression.",
   "2. Compile the regular expression into a finite state machine.",
   "3. At every decoding step, ask the machine which tokens are allowed next and mask the rest.",
   "",
   "The schema-to-regex step is the easiest to show. Objects become a sequence of key/value",
   "patterns, strings become quoted runs, integers become digit runs:",
   "",
   "```python",
   "def schema_to_regex(schema: dict) -> str:",
   "    if schema.get(\"type\") != \"object\":",
   "        return \"\"",
   "    patterns = []",
   "    for key, value in schema.get(\"properties\", \x7b\x7d).items():",
   "        if value.get(\"type\") == \"string\":",
   "            patterns.append(f'\"\x7bkey\x7d\"\\\\s*:\\\\s*\"[^\"]*\"')",
   "        elif value.get(\"type\") == \"integer\":",
   "            patterns.append(f'\"\x7bkey\x7d\"\\\\s*:\\\\s*\\\\d+')",
   "    inner = \"\\\\s*,\\\\s*\".join(patterns)",
   "    return f\"\\\\\x7b\x7b\\\\s*\x7binner\x7d\\\\s*\\\\\x7d\x7d\"",
   "```",
   "",
   "## The state machine",
   "",
   "Real implementations precompute, for every state of the automaton, which vocabulary tokens lead",
   "to a live state. A toy version can get away with testing candidate characters one at a time and",
   "checking whether the result is still a viable prefix. It is slow, but it shows the idea.",
   "",
   "The complete toy implementation is in",
   "[simplified_fsm.py](/posts/constrained_decoding_overview/simplified_fsm.py).",
   "",
   "## Takeaways",
   "",
   "- Constrained decoding guarantees *syntax*, not *semantics*. A valid JSON object can still be",
   "  nonsense.",
   "- The expensive part is building the token index, not applying the mask. Cache it per schema.",
   "- Tight constraints can push the model into low probability tokens, so keep schemas as loose as",
   "  the consumer allows."]

/-- The Markdown files of the site by their paths. A file that is no text has none. -/
def files : Table (Option String) where
  entries :=
    [("constrained_decoding_overview.md",
      some (String.join (constrainedDecodingLines.map (· ++ "\n"))))]
  nodup_keys := by simp

/-- The path of the source of a slug. -/
def pathOf (slug : String) : String := slug ++ ".md"

/-- The slug of a path: that of a Markdown file in no folder is its name without the ending. -/
def slugOf? (path : String) : Option String :=
  match Text.dropEnd? ".md".toList path.toList with
  | some slug => if slug.contains '/' then none else some (String.ofList slug)
  | none => none

/-- The slugs of all sources, drafts included, in the order of the files. -/
def slugs : List String := files.entries.filterMap fun file => slugOf? file.1

/-- The source of a slug, or the fault that there is none or that it is no text. -/
def raw (slug : String) : Except Fault String :=
  match files.get? (pathOf slug) with
  | some (some raw) => .ok raw
  | some none => .error (.encoding slug)
  | none => .error (.notFound slug)

/-- The source of a slug as a listing takes it. -/
def source (slug : String) : Source :=
  match raw slug with
  | .ok raw => .readable slug raw
  | .error fault => .broken fault

/-- The sources as a listing takes them. -/
def found : List Source := slugs.map source

end Folio.Blog.Archive
