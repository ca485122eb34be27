import Folio.Text.Percent
import Folio.Text.Symbol
import Folio.Text.Blank

/-!
# Addresses

A request asks for an address: a path of segments between slashes, and a query. Which pages there
are is decided twice. The path as it is written decides whether there is a page at all; the page
that is shown follows from the path once its dot segments are resolved, where a slash at the end
does not count.
-/

namespace Folio.Site

/-- A page of the site. -/
inductive Page where
  | home
  | listing
  | post (slug : String)
  deriving Repr, DecidableEq

/-- The text that a percent-encoded text stands for. Bytes that are no character are replaced. -/
def decodeText (s : List Char) : List Char := Text.lossy ((Text.percentDecode s).map UInt8.toNat)

/-- The path of an address, without its query and its fragment. -/
def pathOf (address : List Char) : List Char := address.takeWhile fun c => c ≠ '?' && c ≠ '#'

/-- The paths under which there is a page: the front page, the listing, and under it one segment for
each post. -/
def isPagePath (path : List Char) : Bool :=
  path = ['/'] || path = "/blog".toList ||
    match Text.dropStart? "/blog/".toList path with
    | some slug => !slug.isEmpty && !slug.contains '/'
    | none => false

/-- Whether a segment stands for the place itself; a dot may be percent-encoded. -/
def isDot (segment : List Char) : Bool :=
  segment = ['.'] || segment.map Char.toLower = "%2e".toList

/-- Whether a segment stands for the place above. -/
def isDoubleDot (segment : List Char) : Bool :=
  let s := segment.map Char.toLower
  s = "..".toList || s = ".%2e".toList || s = "%2e.".toList || s = "%2e%2e".toList

/-- Segments without dot segments: those that stand for the place itself, which `dot` tells, and
those that stand for the place above, which `dots` tells; `above` are the segments before them, the
last first. -/
def resolveDots (dot dots : List Char → Bool) (above : List (List Char)) :
    List (List Char) → List (List Char)
  | [] => above.reverse
  | [last] =>
    if dots last then ([] :: above.drop 1).reverse
    else if dot last then ([] :: above).reverse
    else (last :: above).reverse
  | segment :: rest =>
    if dots segment then resolveDots dot dots (above.drop 1) rest
    else if dot segment then resolveDots dot dots above rest
    else resolveDots dot dots (segment :: above) rest

/-- The segments of a path behind its first slash, dot segments resolved. A backslash counts as a
slash here. -/
def segmentsOf (path : List Char) : List (List Char) :=
  let path := path.map fun c => if c = '\\' then '/' else c
  resolveDots isDot isDoubleDot [] (Text.splitAt '/' (path.drop 1))

/-- The page that segments lead to. The slug of a post is decoded twice. -/
def pageOf? : List (List Char) → Option Page
  | [[]] => some .home
  | [first] => if first = "blog".toList then some .listing else none
  | [first, []] => if first = "blog".toList then some .listing else none
  | [first, slug] => postAt first slug
  | [first, slug, []] => if slug.isEmpty then none else postAt first slug
  | _ => none
where
  /-- The post of a slug under the listing. -/
  postAt (first slug : List Char) : Option Page :=
    if first = "blog".toList then some (.post (String.ofList (decodeText (decodeText slug))))
    else none

/-- The segments of a link, from the empty one before its first slash on. Only dots that are written
as such are resolved. -/
def linkSegments (link : List Char) : List (List Char) :=
  [] :: resolveDots (· = ['.']) (· = ['.', '.']) [] ((Text.splitAt '/' (pathOf link)).drop 1)

/-- Whether a link is marked as leading to where one is: its segments, with dot segments resolved,
and those of the place agree as far as both go, and the place goes at least as far. From the third
segment on, an empty one of the link agrees with any. -/
def isCurrent (segments : List (List Char)) (link : String) : Bool :=
  let link := linkSegments link.toList
  let here := [] :: segments
  let agree := (here.zip link).zipIdx.all fun ((place, part), i) =>
    place = part || part.isEmpty && 1 < i
  agree && match link.drop here.length with
    | [] => true
    | next :: _ => next.isEmpty

end Folio.Site
