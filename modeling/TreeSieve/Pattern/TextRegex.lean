import TreeSieve.Regex.Parser

/-!
# Regular expressions of patterns

The regular expression of a pattern is kept in two forms, one for languages
that tell upper from lower case and one for those that do not.  Both come from
the same source, so two of them are equal when their sources are.
-/

namespace TreeSieve

/-- A regular expression read from its source in both treatments of case. -/
structure TextRegex where
  source : String
  sensitive : Regex.Expr
  insensitive : Regex.Expr
  compiled :
    Regex.compile false source = some sensitive ∧ Regex.compile true source = some insensitive

namespace TextRegex

/-- The regular expression with this source, if it is one. -/
def ofSource? (source : String) : Option TextRegex :=
  match sensitive : Regex.compile false source, insensitive : Regex.compile true source with
  | some first, some second => some ⟨source, first, second, sensitive, insensitive⟩
  | _, _ => none

/-- The form for a treatment of case. -/
def expr (regex : TextRegex) (caseInsensitive : Bool) : Regex.Expr :=
  if caseInsensitive then regex.insensitive else regex.sensitive

/-- Whether the regular expression matches somewhere in a text. -/
def occursIn (regex : TextRegex) (caseInsensitive : Bool) (text : String) : Bool :=
  (regex.expr caseInsensitive).occursIn text

theorem eq_of_source_eq {left right : TextRegex} (same : left.source = right.source) :
    left = right := by
  obtain ⟨source, sensitive, insensitive, compiled⟩ := left
  obtain ⟨source', sensitive', insensitive', compiled'⟩ := right
  cases same
  have first := compiled.1.symm.trans compiled'.1
  have second := compiled.2.symm.trans compiled'.2
  cases first
  cases second
  rfl

theorem ofSource?_source (regex : TextRegex) : ofSource? regex.source = some regex := by
  unfold ofSource?
  split
  · exact congrArg some (eq_of_source_eq rfl)
  · rename_i missing
    exact absurd regex.compiled.2 (missing _ _ regex.compiled.1)

instance : DecidableEq TextRegex := fun left right =>
  if same : left.source = right.source then .isTrue (eq_of_source_eq same)
  else .isFalse fun equal => same (equal ▸ rfl)

end TextRegex

end TreeSieve
