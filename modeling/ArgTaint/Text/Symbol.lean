/-
ArgTaint.Text.Symbol — texts whose bytes need not be well-formed UTF-8.

Names and comments of an analysed program reach the tool as bytes. A `Text`
is what a reader of UTF-8 sees in them: well-formed characters, and the bytes
that are part of none.

* `Symbol` — a character or a stray byte.
* `Text.ofBytes` — the symbols of a byte string; the longest-possible,
  surrogate-free, in-range reading of each lead byte.
* `Text.ofString` — the symbols of a string, all of them characters.
* `Symbol.bytes` — the bytes a symbol stands for.
* `Text.display`, `Text.string?` — a text as a string.
-/

namespace ArgTaint

/-- One unit of a byte text: a well-formed character, or a byte that is part
of none. -/
inductive Symbol where
  | char (c : Char)
  | stray (b : UInt8)
  deriving DecidableEq, Repr

/-- A byte text, read as UTF-8. -/
abbrev Text := List Symbol

namespace Symbol

def bytes : Symbol → List UInt8
  | .char c => String.utf8EncodeChar c
  | .stray b => [b]

end Symbol

namespace Text

/-- Is the byte a continuation byte, `10xxxxxx`? -/
def isContinuation (b : UInt8) : Bool := decide (0x80 ≤ b) && decide (b ≤ 0xBF)

def payload (b : UInt8) : Nat := b.toNat % 64

/-- The least and the greatest second byte after the lead byte of a
three-byte character: no overlong form, no surrogate. -/
def secondOfThree (a : UInt8) : UInt8 × UInt8 :=
  if a = 0xE0 then (0xA0, 0xBF)
  else if a = 0xED then (0x80, 0x9F)
  else (0x80, 0xBF)

/-- The least and the greatest second byte after the lead byte of a
four-byte character: no overlong form, nothing above U+10FFFF. -/
def secondOfFour (a : UInt8) : UInt8 × UInt8 :=
  if a = 0xF0 then (0x90, 0xBF)
  else if a = 0xF4 then (0x80, 0x8F)
  else (0x80, 0xBF)

def within (bounds : UInt8 × UInt8) (b : UInt8) : Bool :=
  decide (bounds.1 ≤ b) && decide (b ≤ bounds.2)

/-- The character that the bytes start with, and how many bytes after the
first belong to it. -/
def leadingChar? (a : UInt8) (rest : List UInt8) : Option (Char × Nat) :=
  if a < 0x80 then some (Char.ofNat a.toNat, 0)
  else if a < 0xC2 then none
  else if a < 0xE0 then
    match rest with
    | b :: _ =>
      if isContinuation b then
        some (Char.ofNat ((a.toNat % 32) * 64 + payload b), 1)
      else none
    | [] => none
  else if a < 0xF0 then
    match rest with
    | b :: c :: _ =>
      if within (secondOfThree a) b && isContinuation c then
        some (Char.ofNat (((a.toNat % 16) * 64 + payload b) * 64 + payload c), 2)
      else none
    | _ => none
  else if a < 0xF5 then
    match rest with
    | b :: c :: d :: _ =>
      if within (secondOfFour a) b && isContinuation c && isContinuation d then
        some (Char.ofNat
          ((((a.toNat % 8) * 64 + payload b) * 64 + payload c) * 64 + payload d), 3)
      else none
    | _ => none
  else none

/-- The symbols of a byte string: a byte that starts no well-formed character
is a stray, and reading goes on at the next byte. -/
def ofBytes : List UInt8 → Text
  | [] => []
  | a :: rest =>
    match leadingChar? a rest with
    | some (c, n) => .char c :: ofBytes (rest.drop n)
    | none => .stray a :: ofBytes rest
termination_by bs => bs.length
decreasing_by
  all_goals simp only [List.length_drop, List.length_cons]; omega

def ofString (s : String) : Text := s.toList.map .char

def toBytes (t : Text) : List UInt8 := t.flatMap Symbol.bytes

/-- The character that a symbol is; none for a stray byte. -/
def char? : Symbol → Option Char
  | .char c => some c
  | .stray _ => none

/-- The text as it is shown: a stray byte is shown as U+FFFD. -/
def display (t : Text) : String :=
  String.ofList (t.map fun s => (char? s).getD (Char.ofNat 0xfffd))

/-- The string that a text is; none when it has a stray byte. -/
def string? (t : Text) : Option String := (t.mapM char?).map String.ofList

end Text

end ArgTaint
