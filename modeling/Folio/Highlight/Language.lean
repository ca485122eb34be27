import Folio.Highlight.Language.C
import Folio.Highlight.Language.Css
import Folio.Highlight.Language.Diff
import Folio.Highlight.Language.Go
import Folio.Highlight.Language.Haskell
import Folio.Highlight.Language.Java
import Folio.Highlight.Language.JavaScript
import Folio.Highlight.Language.Json
import Folio.Highlight.Language.Lua
import Folio.Highlight.Language.Make
import Folio.Highlight.Language.Markdown
import Folio.Highlight.Language.Markup
import Folio.Highlight.Language.Php
import Folio.Highlight.Language.Python
import Folio.Highlight.Language.Ruby
import Folio.Highlight.Language.Rust
import Folio.Highlight.Language.Shell
import Folio.Highlight.Language.Sql
import Folio.Highlight.Language.Yaml

/-!
# Languages

A language has names and a grammar. A fence's information names a language when it equals one of
its names, in letters of either case; code without a known language is shown plain.
-/

namespace Folio.Highlight

/-- A language: the names that it answers to, in lower case, and its grammar. -/
structure Language where
  names : List String
  grammar : Grammar

/-- The languages with a grammar. -/
def languages : List Language :=
  [⟨["c", "h"], C.grammar⟩,
    ⟨["cpp", "cc", "cp", "cxx", "c++", "hh", "hpp", "hxx", "h++", "inl", "ipp"], C.classGrammar⟩,
    ⟨["py", "py3", "pyw", "pyi", "rpy", "cpy", "python"], Python.grammar⟩,
    ⟨["rs", "rust"], Rust.grammar⟩,
    ⟨["js", "htc", "javascript"], JavaScript.grammar⟩,
    ⟨["json", "sublime-settings", "sublime-menu", "sublime-keymap", "sublime-mousemap",
      "sublime-theme", "sublime-build", "sublime-project", "sublime-completions",
      "sublime-commands", "sublime-macro", "sublime-color-scheme", "ipynb", "gltf", "avsc"],
      Json.grammar⟩,
    ⟨["yaml", "yml", "sublime-syntax"], Yaml.grammar⟩,
    ⟨["css", "css.erb", "css.liquid"], Css.grammar⟩,
    ⟨["html", "htm", "shtml", "xhtml", "inc", "tmpl", "tpl"], Markup.html⟩,
    ⟨["xml", "xsd", "xslt", "tld", "dtml", "rss", "opml", "svg"], Markup.xml⟩,
    ⟨["sh", "bash", "zsh", "fish", ".bash_aliases", ".bash_profile", ".bashrc", ".profile",
      "ebuild", "eclass", ".zshrc", "bourne again shell (bash)", "shell-unix-generic"],
      Shell.grammar⟩,
    ⟨["sql", "ddl", "dml"], Sql.grammar⟩,
    ⟨["go"], Go.grammar⟩,
    ⟨["java", "bsh"], Java.grammar⟩,
    ⟨["rb", "ruby", "appfile", "appraisals", "berksfile", "brewfile", "capfile", "cgi",
      "cheffile", "config.ru", "deliverfile", "fastfile", "fcgi", "gemfile", "gemspec",
      "guardfile", "irbrc", "jbuilder", "podspec", "prawn", "rabl", "rake", "rakefile", "rantfile",
      "rbx", "rjs", "ruby.rail", "scanfile", "simplecov", "snapfile", "thor", "thorfile",
      "vagrantfile"], Ruby.grammar⟩,
    ⟨["md", "mdown", "markdown", "markdn"], Markdown.grammar⟩,
    ⟨["diff", "patch"], Diff.grammar⟩,
    ⟨["lua"], Lua.grammar⟩,
    ⟨["hs", "haskell"], Haskell.grammar⟩,
    ⟨["php", "php3", "php4", "php5", "php7", "phps", "phpt", "phtml"], Php.grammar⟩,
    ⟨["make", "gnumakefile", "makefile", "ocamlmakefile", "mak", "mk"], Make.grammar⟩]

/-- The language with a name. -/
def language? (name : List Char) : Option Language :=
  let lower := String.ofList (name.map Char.toLower)
  languages.find? fun language => language.names.contains lower

/-- The listing of a code block with the information of its fence, if it has one. -/
def listingFor (info : Option (List Char)) (code : List Char) : List Char :=
  match info.bind language? with
  | some language => listing (language.grammar.cut code)
  | none => plainListing code

end Folio.Highlight
