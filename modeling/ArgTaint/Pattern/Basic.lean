/-
ArgTaint.Pattern.Basic — regular expressions.

* `CharSet` — what one character may be.
* `Assertion` — a condition on the characters on the two sides of a place.
* `Pattern` — regular expressions, with repetition in terms of the others.
-/
import ArgTaint.Text.Printable
import ArgTaint.Text.CaseFold

namespace ArgTaint

/-- A part of a character set: the characters of some ranges, or, when
negated, all the others. When `folded`, case does not count. -/
structure CharGroup where
  ranges : List (Nat × Nat)
  negated : Bool := false
  folded : Bool := false
  deriving DecidableEq, Repr

def CharGroup.holds (g : CharGroup) (c : Char) : Bool :=
  let found :=
    if g.folded then (Text.caseVariants c.toNat).any (Text.inRanges g.ranges)
    else Text.inRanges g.ranges c.toNat
  found != g.negated

/-- A set of characters: the union of some groups, or its complement. -/
structure CharSet where
  groups : List CharGroup
  negated : Bool := false
  deriving DecidableEq, Repr

def CharSet.holds (s : CharSet) (c : Char) : Bool :=
  (s.groups.any fun g => g.holds c) != s.negated

def CharSet.single (n : Nat) (folded : Bool) : CharSet :=
  ⟨[{ ranges := [(n, n)], folded := folded }], false⟩

def CharSet.any : CharSet := ⟨[], true⟩

def CharSet.notLineFeed : CharSet := ⟨[{ ranges := [(10, 10)] }], true⟩

/-- A condition on a place in a text. -/
inductive Assertion where
  | textStart
  | textEnd
  | lineStart
  | lineEnd
  | wordBoundary
  | noWordBoundary
  deriving DecidableEq, Repr

namespace Assertion

def isWord (c : Option Char) : Bool :=
  match c with
  | some c => c.isAlphanum || c == '_'
  | none => false

/-- Does the assertion hold between the characters `before` and `after`? -/
def holds (before after : Option Char) : Assertion → Bool
  | .textStart => before.isNone
  | .textEnd => after.isNone
  | .lineStart => before.isNone || before == some '\n'
  | .lineEnd => after.isNone || after == some '\n'
  | .wordBoundary => isWord before != isWord after
  | .noWordBoundary => isWord before == isWord after

end Assertion

/-- A regular expression. -/
inductive Pattern where
  /-- Matches the empty text. -/
  | nothing
  | oneOf (s : CharSet)
  | look (a : Assertion)
  | cat (p q : Pattern)
  | alt (p q : Pattern)
  | star (p : Pattern)
  deriving DecidableEq, Repr

namespace Pattern

def andThen (q : Pattern) : Pattern → Pattern
  | .nothing => q
  | p => .cat p q

/-! ## Repetition -/

def times (p : Pattern) : Nat → Pattern
  | 0 => .nothing
  | 1 => p
  | n + 1 => .cat p (p.times n)

def atMost (p : Pattern) : Nat → Pattern
  | 0 => .nothing
  | n + 1 => .alt (.cat p (p.atMost n)) .nothing

/-- `p` at least `least` times, and at most `most` times when there is such a
bound. -/
def repeated (p : Pattern) (least : Nat) (most : Option Nat) : Pattern :=
  match most with
  | none => .cat (p.times least) (.star p)
  | some most => .cat (p.times least) (p.atMost (most - least))

end Pattern

end ArgTaint
