import TreeSieve.Files.Disk
import TreeSieve.Json.ReadError
import TreeSieve.Rule.Wildcard
import TreeSieve.Ust.Tree

/-!
# Failures

Everything that can go wrong in a run, and how it is put into words.
-/

namespace TreeSieve

/-- Why a record does not become a rule. -/
inductive RuleFault where
  | missingKey
  | noKnownLanguage
  | unreadablePattern (error : Json.ReadError)
  | unsupportedFormat (format : String)
  | invalidWildcard (error : WildcardError)

/-- Why settings are refused. -/
inductive SettingsFault where
  | noRuleKeys
  | noRuleSource

/-- What can go wrong. -/
inductive Failure where
  | ruleLoad (key : String) (fault : RuleFault)
  | invalidRegex (source : String)
  | conversion (file : String) (fault : TreeFault)
  | interrupted (file : String)
  | timedOut (file : String)
  | settings (fault : SettingsFault)
  | disk (fault : DiskFault)
  | serialization (error : Json.ReadError)
  | toml
  | wildcard (error : WildcardError)

/-- The wording of an invalid wildcard. -/
def invalidWildcardMessage (error : WildcardError) : String :=
  "Invalid filename wildcard: " ++ error.message

/-- The wording of the fault of a record. -/
def RuleFault.reason : RuleFault → String
  | missingKey => "missing Key"
  | noKnownLanguage => "no known language in Languages"
  | unreadablePattern error => "invalid pattern JSON: " ++ error.message
  | unsupportedFormat format => "Unsupported pattern data format: " ++ format
  | invalidWildcard error => invalidWildcardMessage error

/-- The wording of refused settings. -/
def SettingsFault.reason : SettingsFault → String
  | noRuleKeys => "matching.pattern_ids is empty; omit it to run every pattern"
  | noRuleSource => "no pattern source: built-ins disabled and no pattern files given"

namespace Failure

/-- The wording of a failure. -/
def message : Failure → String
  | ruleLoad key fault => "Pattern " ++ key ++ " could not be loaded: " ++ fault.reason
  | invalidRegex source => Json.invalidRegexMessage source
  | conversion file fault => "UST conversion failed for " ++ file ++ ": " ++ fault.reason
  | interrupted file => "Matching interrupted for " ++ file
  | timedOut file => "Matching timed out for " ++ file ++ " after N ms"
  | settings fault => "Configuration error: " ++ fault.reason
  | disk fault => "IO error: " ++ fault.message
  | serialization error => "Serialization error: " ++ error.message
  | toml => "TOML parsing error"
  | wildcard error => invalidWildcardMessage error

/-- Whether the failure stopped the search of a file on its way. -/
def isInterruption : Failure → Bool
  | interrupted _ => true
  | timedOut _ => true
  | _ => false

end Failure

/-- Read a document and accept its tree. -/
def Ust.ofText (text : String) : Except Failure Ust := do
  let document ← (Document.ofText text).mapError .serialization
  (Ust.ofDocument document).mapError (.conversion document.file.path)

end TreeSieve
