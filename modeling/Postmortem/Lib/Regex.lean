import Mathlib.Data.List.Basic
import Mathlib.Tactic.Lemma

/-!
# Patterns

Regular expressions with the two assertions `\b` and `^`, matched by the positions a match may end
at. Without captures, whether a pattern is found does not depend on the order in which a backtracking
matcher tries its branches, so `search` is a test on the text alone.
-/

/-- A pattern. -/
inductive Regex where
  | eps
  | char (p : Char → Bool)
  | seq (r s : Regex)
  | alt (r s : Regex)
  | star (r : Regex)
  /-- `\b` -/
  | wordBoundary
  /-- `^` in multi-line mode -/
  | lineStart

namespace Regex

/-- A place in a text: the character before it and the text after it. -/
abbrev Place := Option Char × List Char

/-- Where repetitions of `f` may end, `n` of them at most. -/
def repeats (f : Place → List Place) : Nat → Place → List Place
  | 0, at' => [at']
  | n + 1, at' => at' :: (f at').flatMap (repeats f n)

/-- Where a match that starts at the place may end; `word` is the class `\w`. -/
def ends (word : Char → Bool) : Regex → Place → List Place
  | eps, at' => [at']
  | char p, (_, rest) =>
    match rest with
    | [] => []
    | c :: rest => if p c then [(some c, rest)] else []
  | seq r s, at' => (ends word r at').flatMap (ends word s)
  | alt r s, at' => ends word r at' ++ ends word s at'
  -- a repetition that consumes nothing leads nowhere, so the length of the rest bounds their number
  | star r, at' => repeats (ends word r) at'.2.length at'
  | wordBoundary, at' =>
    if (at'.1.any word) != (at'.2.head?.any word) then [at'] else []
  | lineStart, at' => if at'.1 = none ∨ at'.1 = some '\n' then [at'] else []

/-- The pattern matches at some place of the text. -/
def found (word : Char → Bool) (r : Regex) : Option Char → List Char → Bool
  | before, [] => !(ends word r (before, [])).isEmpty
  | before, c :: rest => !(ends word r (before, c :: rest)).isEmpty || found word r (some c) rest

/-- `re.search(pattern, text)` finds a match. -/
def search (word : Char → Bool) (r : Regex) (text : String) : Bool := found word r none text.toList

/-- `r?` -/
def optional (r : Regex) : Regex := alt r eps

/-- `r+` -/
def plus (r : Regex) : Regex := seq r (star r)

/-- One pattern after the other. -/
def all (rs : List Regex) : Regex := rs.foldr seq eps

/-- `(a|b|…)`, of at least one pattern. -/
def any (r : Regex) (rs : List Regex) : Regex := rs.foldl alt r

end Regex
