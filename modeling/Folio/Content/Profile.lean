import Folio.Content.Markup

/-!
# The profile

The owner of the site, where the site and related pages are, and the slides of the front page.
-/

namespace Folio.Content

open Folio.Json (Record Shape Value)
open Folio.Json.Record (defaulted required field?)

/-- A slide of the front page. -/
structure HeroSlide where
  heading : List String
  linkLabel : String
  href : String
  icon : String
  background : String
  /-- Whether the link leaves the site. -/
  outside : Bool
  deriving Repr, DecidableEq, Inhabited

/-- The profile. -/
structure Profile where
  name : String
  siteUrl : String
  github : String
  resume : String
  legacyBlog : String
  slides : List HeroSlide
  deriving Repr, DecidableEq, Inhabited

instance : Record HeroSlide where
  shape :=
    .record
      [required "heading" (.list .anyText), required "link_label" .anyText,
        required "href" .anyText, required "icon" .anyText, required "background" .anyText,
        defaulted "external" .flag (.flag false)]
  write slide :=
    .object
      [("heading", .texts slide.heading), ("link_label", .text slide.linkLabel),
        ("href", .text slide.href), ("icon", .text slide.icon),
        ("background", .text slide.background), ("external", .flag slide.outside)]
  read? value := do
    return {
      heading := ← field? (Value.listOf? Value.text?) "heading" value
      linkLabel := ← field? Value.text? "link_label" value
      href := ← field? Value.text? "href" value
      icon := ← field? Value.text? "icon" value
      background := ← field? Value.text? "background" value
      outside := ← field? Value.flag? "external" value }

instance : Record Profile where
  shape :=
    .record
      [required "name" .anyText, required "site_url" .anyText, required "github" .anyText,
        required "resume" .anyText, required "legacy_blog" .anyText,
        defaulted "slides" (Record.shape (List HeroSlide)) (.list [])]
  write profile :=
    .object
      [("name", .text profile.name), ("site_url", .text profile.siteUrl),
        ("github", .text profile.github), ("resume", .text profile.resume),
        ("legacy_blog", .text profile.legacyBlog), ("slides", Record.write profile.slides)]
  read? value := do
    return {
      name := ← field? Value.text? "name" value
      siteUrl := ← field? Value.text? "site_url" value
      github := ← field? Value.text? "github" value
      resume := ← field? Value.text? "resume" value
      legacyBlog := ← field? Value.text? "legacy_blog" value
      slides := ← field? Record.read? "slides" value }

end Folio.Content
