import Folio.Content.Profile
import Folio.Site.Address
import Folio.Site.Html
import Folio.Site.Section

/-!
# The sidebar

The name of the owner, the menu, and links to the owner's other pages. It is part of every page.
-/

namespace Folio.Site

/-- The mark of a link to where one is. -/
def currentMark (segments : List (List Char)) (href : String) : List (String × String) :=
  if isCurrent segments href then [("aria-current", "page")] else []

/-- An entry of the menu that leads to a section. -/
def Section.menuItem (s : Section) : Html :=
  .element "li" []
    [.element "a" [("href", s.href), ("data-nav-section", s.anchor)] [.text s.label]]

/-- A link with an icon that leads away. -/
def iconLink (href label glyph : String) : Html :=
  .element "li" []
    [.element "a" (("href", href) :: Html.outside ++ [("aria-label", label)]) [.icon glyph]]

/-- The sidebar; `built` is the date on which the site was built. -/
def sidebar (profile : Content.Profile) (segments : List (List Char)) (built : String) : Html :=
  let blog := Html.element "a" (("href", "/blog") :: currentMark segments "/blog") [.text "Blog"]
  .element "aside"
    [("id", "template-aside"), ("role", "complementary"), ("class", "text-center")]
    [.element "h1" [("id", "template-logo"), ("class", "text-2xl font-bold my-8")]
        [.element "a" [("href", "/")] [.text profile.name]],
      .element "nav" [("id", "template-main-menu"), ("role", "navigation")]
        [.element "ul" [] (Section.all.map Section.menuItem ++ [.element "li" [] [blog]])],
      .div "template-footer text-sm mt-8"
        [.element "ul" [("class", "flex justify-center gap-3 text-2xl")]
            [iconLink profile.github "GitHub Profile" "devicon-github-plain",
              iconLink profile.resume "Resume" "icon-document"],
          .element "p" [("class", "mt-4 text-muted")]
            [.element "small" [] [.text "Last built ", .text built]]]]

end Folio.Site
