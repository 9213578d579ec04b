/-
ArgTaint.Pattern.Machine — where a pattern matches.

A pattern is laid out as a machine: numbered steps, each of which reads a
character, looks at a place, forks, or ends a match. All the ways to go
through the machine are followed at once, so that matching takes time
proportional to the size of the machine for each character.

* `Step`, `Machine` — machines.
* `Pattern.layOut`, `Pattern.machine` — the machine of a pattern.
* `Machine.settle` — what can be done at one place.
* `Machine.occursIn`, `Pattern.occursIn` — does a match lie in a text?
-/
import ArgTaint.Pattern.Basic

namespace ArgTaint

/-- A step of a machine; `next` numbers the step after it. -/
inductive Step where
  /-- The match is complete. -/
  | done
  | read (s : CharSet) (next : Nat)
  | look (a : Assertion) (next : Nat)
  | fork (left right : Nat)
  deriving DecidableEq, Repr

/-- A machine: its steps by number, and the number of the first one. -/
structure Machine where
  steps : Array Step
  start : Nat
  deriving Repr

/-! ## Laying out -/

/-- Add the steps of a pattern that is followed by the step `next`; the answer
is the steps and the number of the first one. -/
def Pattern.layOut : Pattern → Nat → Array Step → Array Step × Nat
  | .nothing, next, steps => (steps, next)
  | .oneOf s, next, steps => (steps.push (.read s next), steps.size)
  | .look a, next, steps => (steps.push (.look a next), steps.size)
  | .cat p q, next, steps =>
    let (steps, middle) := q.layOut next steps
    p.layOut middle steps
  | .alt p q, next, steps =>
    let (steps, left) := p.layOut next steps
    let (steps, right) := q.layOut next steps
    (steps.push (.fork left right), steps.size)
  | .star p, next, steps =>
    let again := steps.size
    let (steps, body) := p.layOut again (steps.push .done)
    (steps.setIfInBounds again (.fork body next), again)

/-- The machine of a pattern; its step zero ends a match. -/
def Pattern.machine (p : Pattern) : Machine :=
  let (steps, start) := p.layOut 0 #[.done]
  ⟨steps, start⟩

/-! ## Running -/

namespace Machine

/-- What can be done at a place. -/
structure Reached where
  /-- Which steps have been met. -/
  seen : Array Bool
  /-- The sets that the next character is read by, and the steps after
  them. -/
  reads : List (CharSet × Nat) := []
  /-- Is a match complete? -/
  complete : Bool := false

/-- Follow the steps that take no character, from the ones given, between the
characters `before` and `after`; `bound` is the number of steps that may
still be looked at. -/
def settle (m : Machine) (before after : Option Char) : Nat → List Nat → Reached → Reached
  | 0, _, r => r
  | _ + 1, [], r => r
  | bound + 1, i :: rest, r =>
    if r.seen.getD i true then m.settle before after bound rest r
    else
      let r := { r with seen := r.seen.setIfInBounds i true }
      match m.steps.getD i .done with
      | .done => m.settle before after bound rest { r with complete := true }
      | .read s next =>
        m.settle before after bound rest { r with reads := (s, next) :: r.reads }
      | .look a next =>
        m.settle before after bound (if a.holds before after then next :: rest else rest) r
      | .fork left right => m.settle before after bound (left :: right :: rest) r

/-- What can be done at a place that the given steps were reached at. Each
step is looked at once and leads to at most two others. -/
def reached (m : Machine) (before after : Option Char) (steps : List Nat) : Reached :=
  m.settle before after (2 * m.steps.size + steps.length + 1) steps
    { seen := Array.replicate m.steps.size false }

/-- Does a match that starts in the text, or one of those under way, end in
the text? -/
def search (m : Machine) : Option Char → List Nat → List Char → Bool
  | before, underway, [] => (m.reached before none (m.start :: underway)).complete
  | before, underway, c :: rest =>
    let r := m.reached before (some c) (m.start :: underway)
    r.complete ||
      m.search (some c) (r.reads.filterMap fun (s, next) =>
        if s.holds c then some next else none) rest

def occursIn (m : Machine) (text : String) : Bool := m.search none [] text.toList

end Machine

/-- Does the pattern match somewhere in the text? -/
def Pattern.occursIn (p : Pattern) (text : String) : Bool := p.machine.occursIn text

end ArgTaint
