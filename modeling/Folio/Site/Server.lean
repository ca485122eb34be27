import Folio.Site.Response

/-!
# Who answers a request

Beside the pages there are files. The folders of listed posts that have one are served under
addresses of their own, and what is neither a page nor lies in such a folder is looked for among
the files of the site; only where there is none, a page says so. What a file service replies is its
own affair, and keeps nothing. A request is a method and an address here; the addresses of calls
from the browser are not among them.
-/

namespace Folio.Site

open Folio.Blog (Cache Meta)

/-- What a file service replies. -/
structure FileReply where
  status : Nat
  content : List UInt8
  deriving Repr, DecidableEq, Inhabited

/-- The file services. -/
structure FileServices where
  /-- Whether a post has a folder beside its source. -/
  isFolder : String → Bool
  /-- The reply for the folder of a post to a method and a path, which starts at the folder. -/
  inFolder : String → String → List Char → FileReply
  /-- The reply for the files of the site to a path. A file is read whatever the method is. -/
  atRoot : List Char → FileReply

/-- The file services where there are no files. -/
def FileServices.empty : FileServices where
  isFolder _ := false
  inFolder _ _ _ := { status := 404, content := [] }
  atRoot _ := { status := 404, content := [] }

/-- The listed posts with a folder, as found when the server starts; none if there is no listing. -/
def FileServices.attachments (files : FileServices) : List String :=
  let posts := (Cache.empty.list "").1.toOption.getD []
  (posts.map Meta.slug).filter files.isFolder

/-- The address of the folder of a post. -/
def folderAddress (slug : String) : String := "/posts/" ++ slug

/-- The path from the folder of a post on, if a path is that of the folder or goes on behind it. -/
def fromFolder? (slug : String) (path : List Char) : Option (List Char) :=
  match Text.dropStart? (folderAddress slug).toList path with
  | some [] => some ['/']
  | some (c :: rest) => if c = '/' then some (c :: rest) else none
  | none => none

/-- The folder that a path lies in, and the path from that folder on. -/
def FileServices.folderAt? (files : FileServices) (path : List Char) :
    Option (String × List Char) :=
  files.attachments.findSome? fun slug => (fromFolder? slug path).map (slug, ·)

/-- An answer of the server: a page, or what a file service replies. -/
inductive Served where
  | page (response : Response)
  | file (reply : FileReply)
  deriving Repr, Inhabited

namespace Served

/-- The status of an answer. -/
def status : Served → Nat
  | .page response => response.status
  | .file reply => reply.status

/-- The document of an answer, if it is a page with one. -/
def document : Served → Option Document
  | .page response => response.document
  | .file _ => none

end Served

/-- Answer a request with the page of its address, or with the page that there is none. -/
def servePage (portfolio : Portfolio) (built method address : String) (cache : Cache) :
    Served × Cache :=
  let (response, cache) := respond portfolio built method address cache
  (.page response, cache)

/-- Answer a request for an address: with the page there, from the folder that it lies in, or with a
file of the site. -/
def serve (files : FileServices) (portfolio : Portfolio) (built method address : String)
    (cache : Cache) : Served × Cache :=
  let path := pathOf address.toList
  if isPagePath path then servePage portfolio built method address cache
  else
    match files.folderAt? path with
    | some (slug, rest) => (.file (files.inFolder slug method rest), cache)
    | none =>
      let reply := files.atRoot path
      if reply.status = 200 then (.file reply, cache)
      else servePage portfolio built method address cache

end Folio.Site
