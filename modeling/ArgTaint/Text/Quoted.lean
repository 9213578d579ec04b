/-
ArgTaint.Text.Quoted — texts between double quotes.

Writing shows printable characters as they are, puts a backslash before a
double quote and before a backslash, and escapes everything else: the seven
short escapes of the line controls, two hexadecimal digits below U+0080 and
for a stray byte, four digits below U+10000, eight digits above.

* `Text.escape` — the written text without its outer quotes.
* `Text.quote` — the written text between double quotes.
* `Text.unescape?`, `Text.unquote?` — reading back: the bytes a written text
  stands for, without or with its quotes.
* `Text.isQuoted` — is a string a well-formed quoted text?
-/
import ArgTaint.Text.Symbol
import ArgTaint.Text.Printable

namespace ArgTaint

namespace Text

/-- The hexadecimal digit of a number below sixteen, in lower case. -/
def hexDigit (n : Nat) : Char :=
  if n < 10 then Char.ofNat (48 + n) else Char.ofNat (87 + n)

/-- The last `width` hexadecimal digits of `n`, most significant first. -/
def hexDigits : Nat → Nat → List Char
  | 0, _ => []
  | width + 1, n => hexDigits width (n / 16) ++ [hexDigit (n % 16)]

def shortEscape? (c : Char) : Option Char :=
  match c.toNat with
  | 7 => some 'a'
  | 8 => some 'b'
  | 9 => some 't'
  | 10 => some 'n'
  | 11 => some 'v'
  | 12 => some 'f'
  | 13 => some 'r'
  | _ => none

/-- A character as it is written between double quotes. -/
def escapeChar (c : Char) : List Char :=
  if c = '"' ∨ c = '\\' then ['\\', c]
  else if isPrintable c then [c]
  else
    match shortEscape? c with
    | some letter => ['\\', letter]
    | none =>
      if c.toNat < 0x80 then '\\' :: 'x' :: hexDigits 2 c.toNat
      else if c.toNat < 0x10000 then '\\' :: 'u' :: hexDigits 4 c.toNat
      else '\\' :: 'U' :: hexDigits 8 c.toNat

def escapeSymbol : Symbol → List Char
  | .char c => escapeChar c
  | .stray b => '\\' :: 'x' :: hexDigits 2 b.toNat

/-- The text as it is written between double quotes, without them. -/
def escape (t : Text) : List Char := t.flatMap escapeSymbol

def quote (t : Text) : String := String.ofList ('"' :: escape t ++ ['"'])

/-- The quoted form without its quotes: a text that is safe to print. -/
def sanitize (t : Text) : String := String.ofList (escape t)

/-! ## Reading back -/

def hexValue? (c : Char) : Option Nat :=
  if c.isDigit then some (c.toNat - 48)
  else if 'a' ≤ c ∧ c ≤ 'f' then some (c.toNat - 87)
  else if 'A' ≤ c ∧ c ≤ 'F' then some (c.toNat - 55)
  else none

/-- The number written by exactly `width` hexadecimal digits, and the rest. -/
def readHex? : Nat → Nat → List Char → Option (Nat × List Char)
  | 0, acc, cs => some (acc, cs)
  | width + 1, acc, c :: cs =>
    match hexValue? c with
    | some v => readHex? width (acc * 16 + v) cs
    | none => none
  | _ + 1, _, [] => none

/-- The number written by exactly three octal digits, and the rest. -/
def readOctal? : List Char → Option (Nat × List Char)
  | a :: b :: c :: cs =>
    if ('0' ≤ a ∧ a ≤ '7') ∧ ('0' ≤ b ∧ b ≤ '7') ∧ ('0' ≤ c ∧ c ≤ '7') then
      some ((a.toNat - 48) * 64 + (b.toNat - 48) * 8 + (c.toNat - 48), cs)
    else none
  | _ => none

/-- The bytes of the character with the given code point, if there is one. -/
def scalarBytes? (n : Nat) : Option (List UInt8) :=
  if n < 0xD800 ∨ (0xDFFF < n ∧ n < 0x110000) then
    some (String.utf8EncodeChar (Char.ofNat n))
  else none

/-- The bytes of one escape, given what follows its backslash, and the
rest. -/
def readEscape? : List Char → Option (List UInt8 × List Char)
  | [] => none
  | 'a' :: cs => some ([7], cs)
  | 'b' :: cs => some ([8], cs)
  | 't' :: cs => some ([9], cs)
  | 'n' :: cs => some ([10], cs)
  | 'v' :: cs => some ([11], cs)
  | 'f' :: cs => some ([12], cs)
  | 'r' :: cs => some ([13], cs)
  | '\\' :: cs => some ([92], cs)
  | '"' :: cs => some ([34], cs)
  | 'x' :: cs => (readHex? 2 0 cs).map fun (n, rest) => ([n.toUInt8], rest)
  | 'u' :: cs =>
    (readHex? 4 0 cs).bind fun (n, rest) => (scalarBytes? n).map fun bs => (bs, rest)
  | 'U' :: cs =>
    (readHex? 8 0 cs).bind fun (n, rest) => (scalarBytes? n).map fun bs => (bs, rest)
  | cs =>
    (readOctal? cs).bind fun (n, rest) => if n < 256 then some ([n.toUInt8], rest) else none

/-- Reading with a bound on the number of symbols that are read. -/
def unescapeUpTo? : Nat → List Char → Option (List UInt8)
  | _, [] => some []
  | 0, _ :: _ => none
  | bound + 1, '\\' :: cs =>
    (readEscape? cs).bind fun (bs, rest) => (unescapeUpTo? bound rest).map (bs ++ ·)
  | bound + 1, c :: cs =>
    if c = '"' ∨ c = '\n' then none
    else (unescapeUpTo? bound cs).map (String.utf8EncodeChar c ++ ·)

/-- The bytes that a text written between double quotes stands for; none when
it has a bare quote, a bare line feed or an escape that does not exist. -/
def unescape? (cs : List Char) : Option (List UInt8) := unescapeUpTo? cs.length cs

/-- The bytes that a text with its double quotes stands for. -/
def unquote? (s : String) : Option (List UInt8) :=
  match s.toList with
  | '"' :: rest =>
    match rest.reverse with
    | '"' :: body => unescape? body.reverse
    | _ => none
  | _ => none

def isQuoted (s : String) : Bool := (unquote? s).isSome

end Text

end ArgTaint
