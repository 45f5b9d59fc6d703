import TreeSieve.Catalogue.Basic

/-!
# Built-in rules

The rules that come with the program: data from the page in event handlers,
weak hashes, weak random numbers, swallowed exceptions and passwords in the
source.
-/

namespace TreeSieve.Catalogue

/-- An identifier that a regular expression matches. -/
def nameLike (source : String) : Option Pattern :=
  (TextRegex.ofSource? source).map .idRegex

/-- A chain of names joined by dots; the first pattern is the leftmost. -/
def dotted (first : Pattern) (names : List Pattern) : Pattern :=
  names.foldl .memberReference first

/-- Values of a page that come from outside: its address, its cookies, the
page it was reached from and the name of its window. -/
def pageData : Option Pattern := do
  let word ← nameLike "\\w+"
  return .disjunction
    [ dotted (.idToken "document") [← nameLike "^(URL|referrer|cookie)$"],
      dotted (.idToken "document")
        [.idToken "location", ← nameLike "^(pathname|href|search|hash)$"],
      dotted (.idToken "window") [.idToken "name"],
      dotted (.idToken "window") [← nameLike "^(top|frames)$", .idToken "document", word, word] ]

/-- Data from outside in the event handler of an element. -/
def eventHandler : Option RuleDraft := do
  return {
    key := "js-event-handler-dom-data"
    name := "AttributesCodeInsideElementEvent"
    description := "DOM-controlled data assigned to an element event handler attribute"
    cwe := some "CWE-79"
    languages := .ofList [.javascript]
    pattern :=
      .assignment (.memberReference .anyExpression (← nameLike "^on"))
        (some (.anywhere (← pageData))) }

/-- A weak hash function of a database. -/
def databaseHash : Option RuleDraft := do
  return {
    key := "mysql-weak-hash"
    name := "Weak Cryptographic Hash (MD2, MD4, MD5, RIPEMD-160, and SHA-1)"
    cwe := some "CWE-328"
    languages := .ofList [.mysql]
    pattern := .invocation (← nameLike "sha1") [.any] }

/-- A weak random number of a database. -/
def databaseRandom : Option RuleDraft := do
  return {
    key := "mysql-insecure-random"
    name := "Insecure Randomness"
    cwe := some "CWE-330"
    languages := .ofList [.mysql]
    pattern := .invocation (← nameLike "RAND") [] }

/-- An exception that is caught and forgotten. -/
def emptyCatch : Option RuleDraft :=
  some {
    key := "empty-catch-block"
    name := "Poor Error Handling: Empty Catch Block"
    description := "An exception is caught and silently discarded"
    cwe := some "CWE-390"
    languages := .ofList [.csharp, .java, .php, .javascript]
    pattern := .tryCatch [] true }

/-- A call of a weak hash function. -/
def weakHash : Option RuleDraft := do
  let name ← nameLike "^(md2|md4|md5|sha1|ripemd160|MD2|MD4|MD5|SHA1|RIPEMD160)$"
  return {
    key := "weak-hash-invocation"
    name := "Weak Cryptographic Hash"
    cwe := some "CWE-328"
    languages := .ofList [.php, .python, .javascript]
    pattern :=
      .invocation (.disjunction [name, .memberReference .anyExpression name]) [.anyExpression] }

/-- A password written into the source. -/
def hardcodedPassword : Option RuleDraft := do
  let name ← nameLike "^\\w*([Pp]assword|PASSWORD|[Pp]asswd|PASSWD|[Pp]wd|PWD)$"
  let text := Pattern.stringRegex (← TextRegex.ofSource? ".")
  return {
    key := "hardcoded-password"
    name := "Password Management: Hardcoded Password"
    cwe := some "CWE-259"
    pattern :=
      .disjunction
        [ .assignment (.disjunction [name, .memberReference .anyExpression name]) (some text),
          .variableDeclaration none name (some text) ] }

/-- The drafts of the built-in rules. -/
def builtinDrafts : List RuleDraft :=
  [eventHandler, databaseHash, databaseRandom, emptyCatch, weakHash, hardcodedPassword].filterMap
    id

/-- The catalogue of the built-in rules. -/
def builtin : Catalogue :=
  addAll {} (builtinDrafts.filterMap (·.build.toOption))

end TreeSieve.Catalogue
