/-!
# Sections of the front page
-/

namespace Folio.Site

/-- A section of the front page. -/
inductive Section where
  | home
  | about
  | experience
  | skills
  | education
  | achievements
  deriving Repr, DecidableEq

namespace Section

/-- The sections from top to bottom. -/
def all : List Section := [.home, .about, .experience, .skills, .education, .achievements]

/-- The name of a section in links. -/
def anchor : Section → String
  | .home => "home"
  | .about => "about"
  | .experience => "experience"
  | .skills => "skills"
  | .education => "education"
  | .achievements => "achievements"

/-- The name of a section in the menu. -/
def label : Section → String
  | .home => "Home"
  | .about => "About"
  | .experience => "Experience"
  | .skills => "Skills"
  | .education => "Education"
  | .achievements => "Achievements"

/-- The link to a section. -/
def href (s : Section) : String := "/#" ++ s.anchor

end Section

end Folio.Site
