import TreeSieve.Regex.CharClass

/-!
# Regular expressions

A regular expression and the question whether it matches somewhere in a text.
An expression is moved along the text one character at a time: `residuals`
gives what remains to be matched after a character, and `acceptsEmpty` says
whether nothing remains.  Both look at the characters on either side, so that
an assertion needs no text of its own.
-/

namespace TreeSieve.Regex

/-! ## Assertions -/

/-- What an assertion demands of the place where it stands. -/
inductive Boundary where
  | word
  | notWord
  | wordStart
  | wordEnd
  /-- No word character before. -/
  | wordStartHalf
  /-- No word character after. -/
  | wordEndHalf
  deriving DecidableEq

/-- A condition on a place in a text. -/
inductive Assertion where
  | textStart
  | textEnd
  | lineStart
  | lineEnd
  /-- Line starts and ends where a carriage return ends a line too. -/
  | anyLineStart
  | anyLineEnd
  /-- A condition on words, of ASCII or of all characters. -/
  | boundary (boundary : Boundary) (ascii : Bool)
  deriving DecidableEq

/-- Whether a boundary lies between what is and is not a word. -/
def Boundary.holds : Boundary → (before after : Bool) → Bool
  | word, before, after => before != after
  | notWord, before, after => before == after
  | wordStart, before, after => !before && after
  | wordEnd, before, after => before && !after
  | wordStartHalf, before, _ => !before
  | wordEndHalf, _, after => !after

/-- Whether an assertion holds between two characters; at either end of the
text there is none. -/
def Assertion.holds (before after : Option Char) : Assertion → Bool
  | textStart => before.isNone
  | textEnd => after.isNone
  | lineStart => before.isNone || before == some '\n'
  | lineEnd => after.isNone || after == some '\n'
  | anyLineStart =>
      before.isNone || before == some '\n' || (before == some '\r' && after != some '\n')
  | anyLineEnd =>
      after.isNone || after == some '\r' || (after == some '\n' && before != some '\r')
  | boundary kind ascii =>
      let isIn := fun (place : Option Char) =>
        (place.map (if ascii then isAsciiWord else isWord)).getD false
      kind.holds (isIn before) (isIn after)

/-! ## Expressions -/

/-- A regular expression. -/
inductive Expr where
  | empty
  | char (set : CharClass)
  | assertion (condition : Assertion)
  | sequence (first second : Expr)
  | choice (left right : Expr)
  /-- The body repeated at least `least` times, and at most `greatest` times
  where that is given. -/
  | repetition (body : Expr) (least : Nat) (greatest : Option Nat)
  deriving DecidableEq

namespace Expr

/-- Whether the expression matches no text between two characters. -/
def acceptsEmpty (before after : Option Char) : Expr → Bool
  | empty => true
  | char _ => false
  | assertion condition => condition.holds before after
  | sequence first second => first.acceptsEmpty before after && second.acceptsEmpty before after
  | choice left right => left.acceptsEmpty before after || right.acceptsEmpty before after
  | repetition body least _ => least = 0 || body.acceptsEmpty before after

/-- What remains of a sequence whose first part has become `first`. -/
def andThen (first second : Expr) : Expr :=
  if first = empty then second else sequence first second

/-- What may remain to be matched after a character that stands behind
`before`.  Where the body of a repetition matches nothing here, the repetitions
that are still owed can be spent before the character. -/
def residuals (before : Option Char) (character : Char) : Expr → List Expr
  | empty => []
  | char set => if set.contains character then [empty] else []
  | assertion _ => []
  | sequence first second =>
      (residuals before character first).map (andThen · second) ++
        if first.acceptsEmpty before (some character) then residuals before character second
        else []
  | choice left right => residuals before character left ++ residuals before character right
  | repetition body least greatest =>
      if greatest = some 0 then []
      else
        let owed := if body.acceptsEmpty before (some character) then 0 else least - 1
        let rest := repetition body owed (greatest.map (· - 1))
        (residuals before character body).map (andThen · rest)

/-- Whether some expression of `live`, or `start` beginning here or later,
matches in what is left of a text. -/
def occursFrom (start : Expr) : (before : Option Char) → (live : List Expr) → List Char → Bool
  | before, live, [] => (start :: live).any (acceptsEmpty before none)
  | before, live, character :: rest =>
      let live := live.insert start
      live.any (acceptsEmpty before (some character)) ||
        occursFrom start (some character)
          (live.flatMap (residuals before character)).eraseDups rest

/-- Whether the expression matches somewhere in a text. -/
def occursIn (expr : Expr) (text : String) : Bool :=
  expr.occursFrom none [] text.toList

/-- The expressions one after the other. -/
def ofSequence : List Expr → Expr
  | [] => empty
  | [expr] => expr
  | expr :: rest => sequence expr (ofSequence rest)

/-- Any one of the expressions. -/
def ofChoice : List Expr → Expr
  | [] => empty
  | [expr] => expr
  | expr :: rest => choice expr (ofChoice rest)

end Expr

end TreeSieve.Regex
