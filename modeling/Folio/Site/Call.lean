import Folio.Site.Query
import Folio.Site.Response

/-!
# Calls from the browser

The browser asks for listings and posts by calls with one argument in the query. An answer is the
JSON of the result; a fault is written behind its kind.
-/

namespace Folio.Site

open Folio.Blog (Cache Fault)
open Folio.Json (Record)

/-- What can be called. -/
inductive Call where
  | listPosts
  | getPost
  deriving Repr, DecidableEq

/-- The name of the argument of a call. -/
def Call.argument : Call → String
  | .listPosts => "pattern"
  | .getPost => "slug"

/-- The status and the text of an answer. -/
structure Reply where
  status : Nat
  body : String
  deriving Repr, DecidableEq, Inhabited

/-- The reply to a call with a result, and the status if it is a fault. -/
def Reply.ofResult {α : Type} [Record α] (failure : Nat) : Except Fault α → Reply
  | .ok a => { status := 200, body := String.ofList (Record.print a) }
  | .error fault => { status := failure, body := "ServerError|" ++ fault.message }

/-- The reply to a call with a query. A post that is not there has a status of its own. -/
def Call.reply (call : Call) (query : String) (cache : Cache) : Reply × Cache :=
  match readArgument call.argument query with
  | .error fault => ({ status := 500, body := "Args|" ++ fault.message }, cache)
  | .ok argument =>
    match call with
    | .listPosts =>
      let (result, cache) := cache.list argument
      (.ofResult 500 result, cache)
    | .getPost =>
      let (result, cache) := cache.find argument
      (.ofResult (if isMissing result then 404 else 500) result, cache)

end Folio.Site
