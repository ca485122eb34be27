import Folio.Blog.Post
import Folio.Pattern.Search

/-!
# Listings

A listing has what the front matter of each source says, the newest post first; posts of one date
stay in the order of their sources. A pattern narrows it to the sources that match, the front matter
included. Drafts are left out. The first source that cannot be read, or that matches and has no
front matter, is the fault of the whole listing.
-/

namespace Folio.Blog

open Folio.Pattern (Regex)

/-- A source as it is found: with its text, or with the fault that it could not be read. -/
inductive Source where
  | readable (slug raw : String)
  | broken (fault : Fault)
  deriving Repr, DecidableEq

/-- Whether a text is part of a search. Everything is part of the search for nothing. -/
structure Search where
  pattern : String
  regex : Regex

namespace Search

/-- The search for a pattern, or the fault that it is none. -/
def ofPattern (pattern : String) : Except Fault Search :=
  match Pattern.compile pattern.toList with
  | .ok regex => .ok { pattern, regex }
  | .error reason => .error (.badPattern reason)

/-- Whether a text is found. -/
def finds (s : Search) (raw : String) : Bool := s.pattern.isEmpty || s.regex.matchesIn raw.toList

end Search

/-- What a source adds to the listing of a search: nothing if it is not found or a draft. -/
def Source.entry? (search : Search) : Source → Except Fault (Option Meta)
  | .broken fault => .error fault
  | .readable slug raw =>
    if search.finds raw then do
      let (front, _) ← readSource slug raw
      return if front.draft then none else some (front.summary slug)
    else .ok none

/-- What sources add to the listing of a search, in their order. -/
def entries (search : Search) : List Source → Except Fault (List Meta)
  | [] => .ok []
  | source :: rest => do
    let entry ← source.entry? search
    return entry.toList ++ (← entries search rest)

/-- Whether a post may stand in front of another: it is of the same date or of a later one. -/
def Meta.leads (a b : Meta) : Bool := b.date.le a.date

/-- Entries sorted by date, the newest first. -/
def newestFirst (posts : List Meta) : List Meta := posts.mergeSort Meta.leads

/-- The listing of the sources that a pattern matches. -/
def index (sources : List Source) (pattern : String) : Except Fault (List Meta) := do
  let search ← Search.ofPattern pattern
  return newestFirst (← entries search sources)

end Folio.Blog
