import Folio.Content.Bio
import Folio.Content.Career
import Folio.Content.Profile
import Folio.Site.Badge
import Folio.Site.Html
import Folio.Site.Particles
import Folio.Site.Section

/-!
# The front page

One section below the other: the slides, the bio with the badges, the jobs, the skills, the degrees
and the achievements. Markup from the content files is shown as it is.
-/

namespace Folio.Site

open Folio.Content

/-- The records that the front page shows. -/
structure Portfolio where
  profile : Profile
  about : About
  skills : List Skill
  experience : List Experience
  education : List Education
  achievements : List Achievement
  deriving Repr, DecidableEq, Inhabited

/-- The attributes that mark a section. -/
def Section.attributes (s : Section) (style : String) : List (String × String) :=
  [("id", s.anchor), ("data-section", s.anchor), ("class", style)]

/-- A section below the slides: a small heading, a large one, and its parts. -/
def Section.frame (s : Section) (small large : String) (children : List Html) : Html :=
  .element "section" (s.attributes "template-section py-16 section-content")
    [.div "template-narrow-content max-w-4xl mx-auto px-8"
      (.span "heading-meta" small ::
        .element "h2" [("class", "template-heading")] [.text large] :: children)]

/-- The lines of a heading. -/
def headingLines (lines : List String) : List Html :=
  (lines.map Html.text).intersperse (.void "br" [])

/-- A slide. -/
def slideView (slide : HeroSlide) : Html :=
  let target := if slide.outside then Html.outside else []
  .element "li" [("style", "background-image: url(" ++ slide.background ++ ");;")]
    [.div "overlay" [],
      .div "container-fluid"
        [.div "js-fullheight slider-text"
          [.div "slider-text-inner js-fullheight"
            [.div "desc"
              [.element "h1" [] (headingLines slide.heading),
                .element "p" []
                  [.element "a"
                    (("href", slide.href) :: target ++ [("class", "btn btn-primary btn-learn")])
                    [.text slide.linkLabel, .text " ", .icon slide.icon]]]]]]]

/-- The slides, in front of the field of particles. -/
def heroView (slides : List HeroSlide) : Html :=
  .element "section" (Section.home.attributes "js-fullheight relative")
    [.div "flexslider js-fullheight"
      [.element "div"
          [("id", ParticleField.elementId), ("class", "particles absolute inset-0")] [],
        .element "ul" [("class", "slides")] (slides.map slideView)]]

/-- A badge. -/
def Badge.view (badge : Badge) : Html :=
  .element "span"
    [("title", badge.title), ("class", "inline-block"), ("style", badge.style ++ ";")]
    [.element "i" [("aria-hidden", "true"), ("class", badge.glyph)] [],
      .span "sr-only" badge.title]

/-- A group of badges; icons without a badge are left out. -/
def techView (group : TechGroup) : Html :=
  .element "div" []
    (.div "heading-meta" [.text group.heading] ::
      (group.icons.filterMap Badge.ofKey?).map Badge.view)

/-- A paragraph of markup. -/
def fragmentView (style : String) (fragment : TrustedHtml) : Html :=
  .element "p" [("class", style)] [.markup fragment.text]

/-- The bio and the badges. -/
def aboutView (about : About) : Html :=
  Section.about.frame "About" "Who Am I?"
    [.div "about-desc" ((visibleFragments about.sections).map (fragmentView "about")),
      .div "heading-meta"
        [.paragraph "font-black text-[15px]" "Tech I have worked with:"],
      .div "tech-stack" (about.techStack.map techView)]

/-- An entry of a list of jobs, degrees or achievements. -/
def entryView (title : String) (subtitle period : Option String)
    (description : List TrustedHtml) : Html :=
  .div "space-y-2"
    (.div "flex items-start justify-between"
      (.div "text-left"
        (.element "strong" [] [.text title] ::
          subtitle.toList.map fun s => .element "div" [] [.text s]) ::
        period.toList.map fun p => .div "shrink-0 text-right font-bold" [.text p]) ::
      description.map (fragmentView "text-base leading-relaxed"))

/-- A section of entries. -/
def entriesView (s : Section) (small large : String) (entries : List Html) : Html :=
  s.frame small large [.div "grid gap-y-6" entries]

/-- A bar that shows how well a skill is mastered. -/
def skillView (skill : Skill) : Html :=
  let percent := toString skill.percent.toNat
  .div "progress-wrap"
    [.element "h3" [("class", "font-bold mb-1")] [.text skill.name],
      .div "progress h-2 rounded bg-muted/30"
        [.element "div"
          [("role", "progressbar"), ("aria-valuenow", percent), ("aria-valuemin", "0"),
            ("aria-valuemax", "100"), ("class", "progress-bar h-2 rounded bg-cyan"),
            ("style", "width: " ++ percent ++ "%;;")] []],
      .span "text-sm text-muted" (percent ++ "%")]

/-- The skills. -/
def skillsView (skills : List Skill) : Html :=
  Section.skills.frame "My Specialty" "My Skills"
    [.div "grid grid-cols-1 md:grid-cols-2 gap-x-8 gap-y-4" (skills.map skillView)]

/-- A section of the front page. -/
def Section.view (portfolio : Portfolio) : Section → Html
  | .home => heroView portfolio.profile.slides
  | .about => aboutView portfolio.about
  | .experience =>
    entriesView .experience "Experience" "Work Experience" <| portfolio.experience.map fun job =>
      entryView job.role (some job.company) job.period job.description
  | .skills => skillsView portfolio.skills
  | .education =>
    entriesView .education "Education" "Education" <| portfolio.education.map fun school =>
      entryView school.institution (some school.degree) school.period school.description
  | .achievements =>
    entriesView .achievements "Achievements" "Achievements" <|
      portfolio.achievements.map fun achievement =>
        entryView achievement.title none achievement.period achievement.description

/-- The front page. -/
def Portfolio.view (portfolio : Portfolio) : List Html := Section.all.map (Section.view portfolio)

end Folio.Site
