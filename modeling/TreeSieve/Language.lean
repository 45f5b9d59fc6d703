import TreeSieve.Text.Blank
import TreeSieve.Text.Case

/-!
# Source languages

The languages a syntax tree can come from, with their names, file extensions
and treatment of letter case.  A language is found by its tag, by one of its
names or by a file extension.
-/

namespace TreeSieve

/-- A source language. -/
inductive Language where
  | csharp
  | java
  | php
  | javascript
  | html
  | aspx
  | plsql
  | tsql
  | mysql
  | c
  | cpp
  | objectivec
  | swift
  | python
  | go
  deriving DecidableEq, Inhabited

/-- What is known about a language. -/
structure LanguageProfile where
  title : String
  extensions : List String
  /-- Identifiers compare without regard to case. -/
  caseInsensitive : Bool := false
  /-- Languages embedded in this one. -/
  embedded : List Language := []
  /-- Patterns may be written for this language. -/
  hasPatterns : Bool := true

namespace Language

/-- Every language, in declaration order. -/
def all : List Language :=
  [csharp, java, php, javascript, html, aspx, plsql, tsql, mysql, c, cpp, objectivec, swift,
    python, go]

/-- What is known about each language. -/
def profile : Language → LanguageProfile
  | csharp => { title := "C#", extensions := ["cs"] }
  | java => { title := "Java", extensions := ["java"] }
  | php =>
      { title := "PHP", extensions := ["php"], caseInsensitive := true,
        embedded := [javascript, html] }
  | javascript => { title := "JavaScript", extensions := ["js", "mjs", "cjs"] }
  | html =>
      { title := "HTML", extensions := ["html", "htm"], caseInsensitive := true,
        embedded := [javascript], hasPatterns := false }
  | aspx =>
      { title := "Aspx", extensions := ["aspx", "ascx"], embedded := [csharp, javascript],
        hasPatterns := false }
  | plsql => { title := "PL/SQL", extensions := ["sql", "pks", "pkb"], caseInsensitive := true }
  | tsql => { title := "T-SQL", extensions := ["sql"], caseInsensitive := true }
  | mysql => { title := "MySQL", extensions := ["sql"], caseInsensitive := true }
  | c => { title := "C", extensions := ["c", "h"] }
  | cpp => { title := "C++", extensions := ["cpp", "cc", "cxx", "hpp", "hh"] }
  | objectivec => { title := "Objective-C", extensions := ["m", "mm"] }
  | swift => { title := "Swift", extensions := ["swift"] }
  | python => { title := "Python", extensions := ["py"] }
  | go => { title := "Go", extensions := ["go"] }

/-- The name shown to people. -/
def title (language : Language) : String :=
  language.profile.title

/-- Whether identifiers of the language compare without regard to case. -/
def caseInsensitive (language : Language) : Bool :=
  language.profile.caseInsensitive

/-- The name used in data. -/
def tag : Language → String
  | csharp => "csharp"
  | java => "java"
  | php => "php"
  | javascript => "javascript"
  | html => "html"
  | aspx => "aspx"
  | plsql => "plsql"
  | tsql => "tsql"
  | mysql => "mysql"
  | c => "c"
  | cpp => "cpp"
  | objectivec => "objectivec"
  | swift => "swift"
  | python => "python"
  | go => "go"

/-- The language with this tag. -/
def ofTag? (tag : String) : Option Language :=
  all.find? (·.tag == tag)

/-- Names a language also answers to, beside its tag. -/
def aliases : Language → List String
  | csharp => ["c#", "cs"]
  | javascript => ["js"]
  | plsql => ["pl/sql"]
  | tsql => ["t-sql"]
  | cpp => ["c++"]
  | objectivec => ["objective-c", "objc"]
  | python => ["py"]
  | go => ["golang"]
  | _ => []

/-- The language a person names, whatever the case and the blanks around. -/
def ofName? (name : String) : Option Language :=
  let wanted := Case.lower (trimmed name)
  all.find? fun language => language.tag == wanted || language.aliases.contains wanted

/-- The first language that declares a file extension. -/
def ofExtension? (extension : String) : Option Language :=
  let wanted := Case.lower extension
  all.find? (·.profile.extensions.contains wanted)

theorem mem_all (language : Language) : language ∈ all := by
  cases language <;> decide

end Language

/-- A set of languages, listed in declaration order. -/
structure LanguageSet where
  members : List Language
  ordered : members = Language.all.filter (members.contains ·)
  deriving DecidableEq

namespace LanguageSet

/-- The set of the languages of a list. -/
def ofList (languages : List Language) : LanguageSet where
  members := Language.all.filter (languages.contains ·)
  ordered := by
    apply List.filter_congr
    intro language member
    simp [member]

/-- The empty set. -/
def empty : LanguageSet :=
  ofList []

/-- Whether a language belongs to the set. -/
def contains (set : LanguageSet) (language : Language) : Bool :=
  set.members.contains language

/-- Whether the set has no members. -/
def isEmpty (set : LanguageSet) : Bool :=
  set.members.isEmpty

/-- The languages of either set. -/
def union (left right : LanguageSet) : LanguageSet :=
  ofList (left.members ++ right.members)

/-- The languages that patterns can be written for. -/
def patternLanguages : LanguageSet :=
  ofList (Language.all.filter (·.profile.hasPatterns))

/-- The tags of the members. -/
def tags (set : LanguageSet) : List String :=
  set.members.map Language.tag

end LanguageSet

end TreeSieve
