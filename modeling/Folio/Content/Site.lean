import Folio.Content.Bio
import Folio.Content.Career
import Folio.Content.Profile

/-!
# The content of the site

The records that the site is built with.
-/

namespace Folio.Content.Site

/-- The profile of the owner. -/
def profile : Profile :=
  { name := "Arnab"
    siteUrl := "https://trifiasco.github.io"
    github := "https://github.com/trifiasco"
    resume := "/trifiasco-resume.pdf"
    legacyBlog := "https://trifiasco.wordpress.com/"
    slides :=
      [{ heading := ["Hi!", "I'm Arnab"]
         linkLabel := "View Resume"
         href := "/trifiasco-resume.pdf"
         icon := "icon-document"
         background := "images/about1.jpg"
         outside := true },
       { heading := ["I love building", "THINGS !!"]
         linkLabel := "View Projects"
         href := "https://github.com/trifiasco"
         icon := "icon-briefcase3"
         background := "images/img_bg.jpg"
         outside := true },
       { heading := ["I often", "Write ..."]
         linkLabel := "View Blog"
         href := "/blog"
         icon := "icon-book"
         background := "images/img_bg.jpg"
         outside := false }] }

/-- The about section. -/
def about : About :=
  { sections :=
      [{ label := "current work"
         description :=
           [⟨"Currently I am working at <strong>Craftsmen Ltd</strong>, a startup, as a " ++
              "Software Development Engineer. My responsibilities involve fullstack software " ++
              "development."⟩,
            ⟨"I work on a web application which is a digitized newsroom platform, where I " ++
              "developed multiple application wide features."⟩]
         excluded := none },
       { label := "background"
         description :=
           [⟨"I completed my B.Sc in Computer Science and Engineering from Military Institute " ++
              "of Science &amp; Technology (MIST). While doing so I was mostly into Competitive " ++
              "Programming and Problem Solving."⟩,
            ⟨"I have solved around 800 programming problems using several data-structures and " ++
              "algorithms in different online judges, and participated in several online and " ++
              "onsite national programming contests including two ACM-ICPC regionals."⟩]
         excluded := none },
       { label := "side projects"
         description :=
           [⟨"Notes on half finished side projects live in the <a " ++
              "href=\"https://github.com/trifiasco\">GitHub</a> profile."⟩]
         excluded := none }]
    techStack :=
      [{ heading := "languages", icons := ["javascript", "python", "cpp", "graphql"] },
       { heading := "Web Technologies", icons := ["nodejs", "react", "django"] },
       { heading := "Cloud", icons := ["aws"] },
       { heading := "Tools", icons := ["git", "docker"] }] }

/-- The skills. -/
def skills : List Skill :=
  [{ name := "Problem Solving", level := 90 },
   { name := "Python", level := 85 },
   { name := "JavaScript", level := 80 },
   { name := "C++", level := 80 },
   { name := "GraphQL", level := 70 },
   { name := "Docker", level := 65 }]

/-- The jobs. -/
def experience : List Experience :=
  [{ role := "Software Development Engineer"
     company := "Craftsmen Ltd"
     period := none
     description :=
       [⟨"Fullstack development on a digitized newsroom platform."⟩,
        ⟨"Built several application wide features across the <em>Node.js</em>, <em>React</em> " ++
          "and <em>GraphQL</em> stack."⟩] }]

/-- The degrees. -/
def education : List Education :=
  [{ degree := "B.Sc in Computer Science and Engineering"
     institution := "Military Institute of Science & Technology (MIST)"
     period := none
     description :=
       [⟨"Spent most of the undergraduate years on competitive programming and problem " ++
          "solving."⟩] }]

/-- The achievements. -/
def achievements : List Achievement :=
  [{ title := "ACM-ICPC Asia Regional Contestant"
     period := none
     description :=
       [⟨"Participated in two ACM-ICPC regional contests alongside several national programming " ++
          "contests."⟩] },
   { title := "Competitive Programming"
     period := none
     description :=
       [⟨"Solved around 800 problems across different online judges."⟩] }]

end Folio.Content.Site
