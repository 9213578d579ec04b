/-
ArgTaint.Pattern.Class — character classes and escapes of patterns.

* `namedRanges?` — the classes with a name, as in `[[:alpha:]]`.
* `letterClass?` — the classes with a letter, as in `\d`.
* `readProperty?` — the classes of a Unicode property, as in `\pL`.
* `readEscape?` — the escapes that stand for one character.
* `readClass?` — a class between brackets.
-/
import ArgTaint.Pattern.Basic
import ArgTaint.Text.Property
import ArgTaint.Text.Quoted

namespace ArgTaint.Pattern

/-! ## Classes with a name -/

def digitRanges : List (Nat × Nat) := [(0x30, 0x39)]

/-- The blanks and line ends that `\s` stands for. -/
def blankRanges : List (Nat × Nat) := [(0x9, 0xa), (0xc, 0xd), (0x20, 0x20)]

def wordRanges : List (Nat × Nat) := [(0x30, 0x39), (0x41, 0x5a), (0x5f, 0x5f), (0x61, 0x7a)]

def namedRanges? (name : String) : Option (List (Nat × Nat)) :=
  match name with
  | "alnum" => some [(0x30, 0x39), (0x41, 0x5a), (0x61, 0x7a)]
  | "alpha" => some [(0x41, 0x5a), (0x61, 0x7a)]
  | "ascii" => some [(0x0, 0x7f)]
  | "blank" => some [(0x9, 0x9), (0x20, 0x20)]
  | "cntrl" => some [(0x0, 0x1f), (0x7f, 0x7f)]
  | "digit" => some digitRanges
  | "graph" => some [(0x21, 0x7e)]
  | "lower" => some [(0x61, 0x7a)]
  | "print" => some [(0x20, 0x7e)]
  | "punct" => some [(0x21, 0x2f), (0x3a, 0x40), (0x5b, 0x60), (0x7b, 0x7e)]
  | "space" => some [(0x9, 0xd), (0x20, 0x20)]
  | "upper" => some [(0x41, 0x5a)]
  | "word" => some wordRanges
  | "xdigit" => some [(0x30, 0x39), (0x41, 0x46), (0x61, 0x66)]
  | _ => none

/-- The class of the letter of an escape; a capital letter stands for the
complement. -/
def letterClass? (letter : Char) (folded : Bool) : Option CharGroup :=
  match letter with
  | 'd' => some ⟨digitRanges, false, folded⟩
  | 'D' => some ⟨digitRanges, true, folded⟩
  | 's' => some ⟨blankRanges, false, folded⟩
  | 'S' => some ⟨blankRanges, true, folded⟩
  | 'w' => some ⟨wordRanges, false, folded⟩
  | 'W' => some ⟨wordRanges, true, folded⟩
  | _ => none

/-- The text before the first occurrence of a character, and the text after
it. -/
def upTo? (stop : Char) : List Char → Option (List Char × List Char)
  | [] => none
  | c :: rest =>
    if c = stop then some ([], rest)
    else (upTo? stop rest).map fun (before, after) => (c :: before, after)

/-- The text before the first `:]`, and the text after it; `before` holds the
characters passed already, last first. -/
def upToNameEnd? (before : List Char) : List Char → Option (List Char × List Char)
  | ':' :: ']' :: rest => some (before.reverse, rest)
  | c :: rest => upToNameEnd? (c :: before) rest
  | [] => none

/-- The group that the name in `[:name:]` stands for, given what follows the
opening `[:`, and the rest. The outer answer is none when there is no closing
`:]`, the inner one when there is no such class. -/
def readNamed? (folded : Bool) (cs : List Char) : Option (Option (CharGroup × List Char)) :=
  (upToNameEnd? [] cs).map fun (name, rest) =>
    let (negated, name) :=
      match name with
      | '^' :: name => (true, name)
      | name => (false, name)
    (namedRanges? (String.ofList name)).map fun ranges => (⟨ranges, negated, folded⟩, rest)

/-- The group of a Unicode property, given what follows the letter `p`, and
the rest. -/
def readProperty? (negated folded : Bool) (cs : List Char) :
    Option (CharGroup × List Char) := do
  let (name, rest) ←
    match cs with
    | [] => none
    | '\x7b' :: more => upTo? '\x7d' more
    | c :: more => some ([c], more)
  let (negated, name) :=
    match name with
    | '^' :: name => (!negated, name)
    | name => (negated, name)
  let found ← Text.property? (String.ofList name)
  return (⟨found.ranges, negated != found.negated, folded⟩, rest)

/-! ## Escapes -/

def isOctal (c : Char) : Bool := decide ('0' ≤ c) && decide (c ≤ '7')

/-- The number of at most `width` more octal digits, and the rest. -/
def readOctal : Nat → Nat → List Char → Nat × List Char
  | 0, n, cs => (n, cs)
  | _ + 1, n, [] => (n, [])
  | width + 1, n, c :: rest =>
    if isOctal c then readOctal width (n * 8 + (c.toNat - 48)) rest else (n, c :: rest)

def hexCode? (digits : List Char) : Option Nat := do
  let values ← digits.mapM Text.hexValue?
  let n := values.foldl (fun n v => n * 16 + v) 0
  if digits.isEmpty || 0x10ffff < n then none else some n

/-- The code point of an escape, given what follows its backslash, and the
rest. A single octal digit other than zero would refer back to a group, which
patterns cannot do. -/
def readEscape? : List Char → Option (Nat × List Char)
  | [] => none
  | 'a' :: rest => some (7, rest)
  | 'f' :: rest => some (12, rest)
  | 'n' :: rest => some (10, rest)
  | 'r' :: rest => some (13, rest)
  | 't' :: rest => some (9, rest)
  | 'v' :: rest => some (11, rest)
  | '0' :: rest => some (readOctal 2 0 rest)
  | 'x' :: '\x7b' :: rest => do
    let (digits, rest) ← upTo? '\x7d' rest
    return (← hexCode? digits, rest)
  | 'x' :: rest => Text.readHex? 2 0 rest
  | c :: rest =>
    if isOctal c then
      if (rest.head?.map isOctal).getD false then some (readOctal 2 (c.toNat - 48) rest)
      else none
    else if c.toNat < 0x80 && !c.isAlphanum then some (c.toNat, rest)
    else none

/-! ## Classes between brackets -/

def readMember? : List Char → Option (Nat × List Char)
  | [] => none
  | '\\' :: rest => readEscape? rest
  | c :: rest => some (c.toNat, rest)

/-- One character of a class, or a range of them, and the rest. -/
def readRange? (folded : Bool) (cs : List Char) : Option (CharGroup × List Char) := do
  let (lo, rest) ← readMember? cs
  match rest with
  | '-' :: c :: more =>
    if c = ']' then return (⟨[(lo, lo)], false, folded⟩, rest)
    else
      let (hi, rest) ← readMember? (c :: more)
      if hi < lo then none else return (⟨[(lo, hi)], false, folded⟩, rest)
  | _ => return (⟨[(lo, lo)], false, folded⟩, rest)

def readGroup? (folded : Bool) (cs : List Char) : Option (CharGroup × List Char) :=
  match cs with
  | '[' :: ':' :: rest =>
    match readNamed? folded rest with
    | some found => found
    | none => readRange? folded cs
  | '\\' :: 'p' :: rest => readProperty? false folded rest
  | '\\' :: 'P' :: rest => readProperty? true folded rest
  | '\\' :: letter :: rest =>
    match letterClass? letter folded with
    | some group => some (group, rest)
    | none => readRange? folded cs
  | _ => readRange? folded cs

/-- The groups up to the closing bracket, and the rest; `bound` is the number
of groups that may still be read. A bracket that comes first is a member. -/
def readGroups? (folded : Bool) : Nat → Bool → List Char → Option (List CharGroup × List Char)
  | 0, _, _ => none
  | bound + 1, first, cs =>
    match cs with
    | [] => none
    | c :: rest =>
      if c = ']' && !first then some ([], rest)
      else do
        let (group, rest) ← readGroup? folded (c :: rest)
        let (groups, rest) ← readGroups? folded bound false rest
        return (group :: groups, rest)

/-- A class, given what follows its opening bracket, and the rest. -/
def readClass? (folded : Bool) (cs : List Char) : Option (CharSet × List Char) :=
  let (negated, cs) :=
    match cs with
    | '^' :: rest => (true, rest)
    | _ => (false, cs)
  (readGroups? folded (cs.length + 1) true cs).map fun (groups, rest) =>
    (⟨groups, negated⟩, rest)

end ArgTaint.Pattern
