/-!
# Badges

A badge shows a technology: a glyph of an icon font, a title, and a size and padding that are the
same for all of them.
-/

namespace Folio.Site

/-- A technology and the glyph it is shown by. -/
structure Badge where
  key : String
  /-- The class of the glyph in the icon font. -/
  glyph : String
  title : String
  size : String := "5em"
  padding : String := "5px"
  deriving Repr, DecidableEq, Inhabited

namespace Badge

/-- All badges. -/
def all : List Badge :=
  [{ key := "javascript", glyph := "devicon-javascript-plain", title := "javascript" },
   { key := "python", glyph := "devicon-python-plain", title := "python" },
   { key := "cpp", glyph := "devicon-cplusplus-plain", title := "c++" },
   { key := "graphql", glyph := "devicon-graphql-plain", title := "graphQL" },
   { key := "nodejs", glyph := "devicon-nodejs-plain", title := "node.js" },
   { key := "django", glyph := "devicon-django-plain", title := "django" },
   { key := "react", glyph := "devicon-react-original", title := "react" },
   { key := "apollo", glyph := "devicon-apollographql-plain", title := "apollo" },
   { key := "aws", glyph := "devicon-amazonwebservices-plain-wordmark", title := "aws" },
   { key := "git", glyph := "devicon-git-plain", title := "git" },
   { key := "docker", glyph := "devicon-docker-plain", title := "docker" },
   { key := "sql", glyph := "extra-database", title := "sql" }]

/-- The badge of a key. -/
def ofKey? (key : String) : Option Badge := all.find? fun badge => badge.key = key

/-- The keys of all badges in order. -/
def keys : List String := (all.map Badge.key).mergeSort fun a b => a ≤ b

/-- The style of a badge: its size, and its padding on both sides. -/
def style (badge : Badge) : String :=
  "font-size: " ++ badge.size ++ "; padding-left: " ++ badge.padding ++ "; padding-right: " ++
    badge.padding ++ ";"

end Badge

end Folio.Site
