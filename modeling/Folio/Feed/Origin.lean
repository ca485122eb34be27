import Folio.Content.Profile
import Folio.Text.Blank

/-!
# The origin of a feed

A feed needs the address of the site, so that its links lead somewhere, and the name of the owner.
An address that is given goes before the one in the profile, even if it is blank.
-/

namespace Folio.Feed

/-- Where a feed comes from. -/
structure Origin where
  url : String
  owner : String
  deriving Repr, DecidableEq

/-- Why there is no feed. -/
inductive Fault where
  | noSiteUrl
  | noOwner
  deriving Repr, DecidableEq

/-- The text of a fault. -/
def Fault.message : Fault → String
  | .noSiteUrl => "no site url: set SITE_URL or site_url in profile.json"
  | .noOwner => "no site owner: profile.json has an empty name"

/-- A text without blanks at its ends. -/
def trimmed (s : String) : String := String.ofList (Text.trim s.toList)

/-- The origin of the feed of a profile. -/
def Origin.of (siteUrl : Option String) (profile : Content.Profile) : Except Fault Origin :=
  let url := trimmed (siteUrl.getD profile.siteUrl)
  let owner := trimmed profile.name
  if url.isEmpty then .error .noSiteUrl
  else if owner.isEmpty then .error .noOwner
  else .ok { url, owner }

end Folio.Feed
