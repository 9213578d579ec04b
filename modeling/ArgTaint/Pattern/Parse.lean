/-
ArgTaint.Pattern.Parse — reading a pattern from its written form.

The written form is read from left to right. A frame holds what has been read
of a group; an opening parenthesis puts the frame under way aside, a closing
one takes it up again. Flags hold until the group ends.

* `Pattern.Piece` — a part of a pattern, with its size, which is limited.
* `Pattern.Flags`, `Pattern.Frame`, `Pattern.Reading` — what has been read.
* `Pattern.readStep?` — one element of a pattern.
* `Pattern.parse?` — the pattern of a text, if the text is well-formed.
-/
import ArgTaint.Pattern.Class

namespace ArgTaint.Pattern

/-- How the elements of a pattern are read. -/
structure Flags where
  /-- Case does not count. -/
  folded : Bool := false
  /-- `^` and `$` match at line ends too. -/
  multiline : Bool := false
  /-- `.` matches a line feed too. -/
  dotAll : Bool := false
  deriving DecidableEq, Repr

/-- How a piece can be joined with its neighbours. -/
inductive Form where
  /-- Characters that stand for themselves; `folded` is whether case does not
  count. -/
  | literal (folded : Bool)
  /-- Pieces one after the other. -/
  | sequence
  /-- Alternatives. -/
  | choice
  | other
  deriving DecidableEq, Repr

/-- A pattern, and how large it is. -/
structure Piece where
  pattern : Pattern
  form : Form := .other
  /-- Does it match exactly one character? -/
  single : Bool := false
  /-- The product of the repetition counts that are nested in it. -/
  counts : Nat := 1
  /-- How deeply it is nested. -/
  height : Nat := 1
  /-- The number of steps that it takes when repetitions are written out. -/
  size : Nat := 1
  deriving Repr

namespace Piece

def maxHeight : Nat := 1000

def maxSize : Nat := 3355443

def within? (p : Piece) : Option Piece :=
  if p.height ≤ maxHeight ∧ p.size ≤ maxSize then some p else none

/-- The depth that a piece adds below a piece of the given form, which takes
in pieces of its own form. -/
def heightIn (p : Piece) (form : Form) : Nat := if p.form = form then p.height - 1 else p.height

/-- The piece as a group that is remembered. -/
def remembered (p : Piece) : Piece :=
  { p with form := .other, single := false, height := p.height + 1, size := p.size + 2 }

/-- Two pieces one after the other. Characters that stand for themselves make
one piece. -/
def andThen (p q : Piece) : Piece :=
  let joined := Pattern.andThen q.pattern p.pattern
  let counts := max p.counts q.counts
  match p.form, q.form with
  | .literal a, .literal b =>
    if a = b then
      { pattern := joined, form := .literal a, counts := counts, size := p.size + q.size }
    else
      { pattern := joined
        form := .sequence
        counts := counts
        height := 2
        size := p.size + q.size }
  | _, _ =>
    { pattern := joined
      form := .sequence
      counts := counts
      height := max (p.heightIn .sequence) (q.heightIn .sequence) + 1
      size := p.size + q.size }

/-- Two alternatives. Those of one character make one set. -/
def orElse (p q : Piece) : Piece :=
  let joined := Pattern.alt p.pattern q.pattern
  let counts := max p.counts q.counts
  if p.single && q.single then { pattern := joined, single := true, counts := counts }
  else
    { pattern := joined
      form := .choice
      counts := counts
      height := max (p.heightIn .choice) (q.heightIn .choice) + 1
      size := p.size + q.size + 1 }

/-- The size of a repetition that is written out. -/
def repeatedSize (size least : Nat) (most : Option Nat) : Nat :=
  match most with
  | some most => most * size + (most - least)
  | none => if least = 0 then size + 2 else least * size + 1

end Piece

/-- What has been read of a group. -/
structure Frame where
  /-- The alternatives that are complete, last first. -/
  alternatives : List Piece := []
  /-- The pieces of the alternative under way, last first. -/
  pieces : List Piece := []
  /-- The flags that hold after the group. -/
  flagsAfter : Flags := {}
  /-- Is what the group matches remembered? -/
  remembers : Bool := false
  deriving Repr

namespace Frame

/-- The pieces of the alternative under way, as one. -/
def sequence (f : Frame) : Piece :=
  match f.pieces.reverse with
  | [] => { pattern := .nothing }
  | p :: rest => rest.foldl Piece.andThen p

/-- The frame at the start of its next alternative. -/
def nextAlternative (f : Frame) : Frame :=
  { f with alternatives := f.sequence :: f.alternatives, pieces := [] }

def push (f : Frame) (p : Piece) : Frame := { f with pieces := p :: f.pieces }

/-- The whole group as one piece. -/
def close (f : Frame) : Piece :=
  let all := f.alternatives.foldl (fun acc p => p.orElse acc) f.sequence
  if f.remembers then all.remembered else all

end Frame

/-- What has been read of a pattern. -/
structure Reading where
  /-- The frame of the innermost group. -/
  frame : Frame := {}
  /-- The frames that are put aside, innermost first. -/
  outer : List Frame := []
  flags : Flags := {}
  /-- Was the last element a repetition? -/
  repeated : Bool := false
  deriving Repr

namespace Reading

def push (r : Reading) (p : Piece) : Reading :=
  { r with frame := r.frame.push p, repeated := false }

def look (r : Reading) (a : Assertion) : Reading := r.push { pattern := .look a }

def oneOf (r : Reading) (s : CharSet) : Reading :=
  r.push { pattern := .oneOf s, single := true }

def literal (r : Reading) (n : Nat) : Reading :=
  r.push
    { pattern := .oneOf (.single n r.flags.folded)
      form := .literal r.flags.folded
      single := true }

/-- The reading at the start of a group in which `flags` hold. -/
def openGroup (r : Reading) (flags : Flags) (remembers : Bool) : Reading where
  frame := { flagsAfter := r.flags, remembers := remembers }
  outer := r.frame :: r.outer
  flags := flags

def closeGroup? (r : Reading) : Option Reading :=
  match r.outer with
  | [] => none
  | f :: outer =>
    r.frame.close.within?.map fun p =>
      { frame := f.push p, outer := outer, flags := r.frame.flagsAfter }

/-- The largest product of nested repetition counts. -/
def maxCounts : Nat := 1000

/-- The reading in which the last element is repeated. A repetition cannot be
repeated at once. -/
def repeatLast? (r : Reading) (least : Nat) (most : Option Nat) : Option Reading :=
  match r.repeated, r.frame.pieces with
  | false, p :: rest =>
    let times :=
      match most with
      | some 0 => 0
      | some most => most
      | none => least
    let counts := if most = some 0 then 1 else max times 1 * p.counts
    if maxCounts < counts then none
    else
      let piece : Piece :=
        { pattern := p.pattern.repeated least most
          counts := counts
          height := p.height + 1
          size := max 1 (Piece.repeatedSize p.size least most) }
      piece.within?.map fun piece =>
        { r with frame := { r.frame with pieces := piece :: rest }, repeated := true }
  | _, _ => none

end Reading

/-! ## Repetition counts -/

/-- A decimal number without superfluous zeros, and the rest. -/
def readCount? (cs : List Char) : Option (Nat × List Char) :=
  let digits := cs.takeWhile Char.isDigit
  match digits with
  | [] => none
  | '0' :: _ :: _ => none
  | _ => some (digits.foldl (fun n d => n * 10 + (d.toNat - 48)) 0, cs.dropWhile Char.isDigit)

/-- The bounds of a counted repetition, given what follows its opening brace,
and the rest; none when the brace is just a character. -/
def readCounts? (cs : List Char) : Option ((Nat × Option Nat) × List Char) := do
  let (least, rest) ← readCount? cs
  match rest with
  | '\x7d' :: rest => return ((least, some least), rest)
  | ',' :: '\x7d' :: rest => return ((least, none), rest)
  | ',' :: rest =>
    let (most, rest) ← readCount? rest
    match rest with
    | '\x7d' :: rest => return ((least, some most), rest)
    | _ => none
  | _ => none

/-- Are the bounds in order, and not too large? -/
def boundsFit (least : Nat) (most : Option Nat) : Bool :=
  decide (least ≤ Reading.maxCounts) &&
    match most with
    | none => true
    | some most => decide (most ≤ Reading.maxCounts) && decide (least ≤ most)

/-- The text after a repetition without the mark that makes it match as
little as it can, which does not change where a pattern matches. -/
def dropLazy : List Char → List Char
  | '?' :: rest => rest
  | cs => cs

/-! ## Groups -/

/-- The flags that a group sets, given what follows its `(?`, then whether a
group opens, and the rest. `on` is whether flags are being set; `bare` is
whether the minus sign has no flag yet. -/
def readFlags? (flags : Flags) (on bare : Bool) : List Char → Option (Flags × Bool × List Char)
  | [] => none
  | 'i' :: rest => readFlags? { flags with folded := on } on false rest
  | 'm' :: rest => readFlags? { flags with multiline := on } on false rest
  | 's' :: rest => readFlags? { flags with dotAll := on } on false rest
  | 'U' :: rest => readFlags? flags on false rest
  | '-' :: rest => if on then readFlags? flags false true rest else none
  | ':' :: rest => if bare then none else some (flags, true, rest)
  | ')' :: rest => if bare then none else some (flags, false, rest)
  | _ => none

def skipName? (cs : List Char) : Option (List Char) := do
  let (name, rest) ← upTo? '>' cs
  if !name.isEmpty && name.all (fun c => Assertion.isWord (some c)) then some rest else none

/-- The reading after what starts with `(?`, and the rest. -/
def readGroupStart? (r : Reading) (cs : List Char) : Option (Reading × List Char) :=
  match cs with
  | 'P' :: '<' :: rest | '<' :: rest =>
    (skipName? rest).map fun rest => (r.openGroup r.flags true, rest)
  | _ =>
    (readFlags? r.flags true false cs).map fun (flags, opens, rest) =>
      if opens then (r.openGroup flags false, rest)
      else ({ r with flags := flags, repeated := false }, rest)

/-! ## Elements -/

/-- The reading after text that stands for itself up to `\E`, and the rest. -/
def readVerbatim (r : Reading) : List Char → Reading × List Char
  | [] => (r, [])
  | '\\' :: 'E' :: rest => (r, rest)
  | c :: rest => readVerbatim (r.literal c.toNat) rest

/-- The reading after a backslash and what belongs to it, and the rest. -/
def readBackslash? (r : Reading) (cs : List Char) : Option (Reading × List Char) :=
  let group (g : CharGroup) : Reading := r.oneOf ⟨[g], false⟩
  match cs with
  | 'A' :: rest => some (r.look .textStart, rest)
  | 'z' :: rest => some (r.look .textEnd, rest)
  | 'b' :: rest => some (r.look .wordBoundary, rest)
  | 'B' :: rest => some (r.look .noWordBoundary, rest)
  | 'Q' :: rest => some (readVerbatim { r with repeated := false } rest)
  | 'p' :: rest =>
    (readProperty? false r.flags.folded rest).map fun (g, rest) => (group g, rest)
  | 'P' :: rest => (readProperty? true r.flags.folded rest).map fun (g, rest) => (group g, rest)
  | letter :: rest =>
    match letterClass? letter r.flags.folded with
    | some g => some (group g, rest)
    | none => (readEscape? cs).map fun (n, rest) => (r.literal n, rest)
  | [] => none

/-- The reading after one more element, which starts with `c`, and the
rest. -/
def readStep? (r : Reading) (c : Char) (rest : List Char) : Option (Reading × List Char) :=
  match c with
  | '(' =>
    match rest with
    | '?' :: rest => readGroupStart? r rest
    | _ => some (r.openGroup r.flags true, rest)
  | ')' => r.closeGroup?.map fun r => (r, rest)
  | '|' => some ({ r with frame := r.frame.nextAlternative, repeated := false }, rest)
  | '^' => some (r.look (if r.flags.multiline then .lineStart else .textStart), rest)
  | '$' => some (r.look (if r.flags.multiline then .lineEnd else .textEnd), rest)
  | '.' => some (r.oneOf (if r.flags.dotAll then .any else .notLineFeed), rest)
  | '[' => (readClass? r.flags.folded rest).map fun (s, rest) => (r.oneOf s, rest)
  | '*' => (r.repeatLast? 0 none).map fun r => (r, dropLazy rest)
  | '+' => (r.repeatLast? 1 none).map fun r => (r, dropLazy rest)
  | '?' => (r.repeatLast? 0 (some 1)).map fun r => (r, dropLazy rest)
  | '\x7b' =>
    match readCounts? rest with
    | none => some (r.literal c.toNat, rest)
    | some ((least, most), rest) =>
      if boundsFit least most then
        (r.repeatLast? least most).map fun r => (r, dropLazy rest)
      else none
  | '\\' => readBackslash? r rest
  | c => some (r.literal c.toNat, rest)

/-- The reading of a text, element by element; every element takes at least
one character, so `bound` is at first the length of the text. -/
def readAll? : Nat → Reading → List Char → Option Reading
  | _, r, [] => some r
  | 0, _, _ :: _ => none
  | bound + 1, r, c :: rest =>
    match readStep? r c rest with
    | none => none
    | some (r, rest) => readAll? bound r rest

/-- The pattern of a text; none when the text is not well-formed. -/
def parse? (text : String) : Option Pattern :=
  match readAll? text.length {} text.toList with
  | none => none
  | some r => if r.outer.isEmpty then r.frame.close.within?.map Piece.pattern else none

end ArgTaint.Pattern
