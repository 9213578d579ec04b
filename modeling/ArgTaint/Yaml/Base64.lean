/-
ArgTaint.Yaml.Base64 — the texts of scalars tagged as binary.

Every four characters stand for three bytes; the last group may be padded
with equal signs. Line ends between characters do not count.

* `decodeBase64?` — the text that a scalar stands for.
* `encodeBase64` — the scalar for a text.
-/
import ArgTaint.Text.Symbol

namespace ArgTaint.Yaml

/-! ## Reading -/

def sextet? (c : Char) : Option Nat :=
  if 'A' ≤ c && c ≤ 'Z' then some (c.toNat - 65)
  else if 'a' ≤ c && c ≤ 'z' then some (c.toNat - 71)
  else if c.isDigit then some (c.toNat + 4)
  else if c == '+' then some 62
  else if c == '/' then some 63
  else none

/-- The bytes of groups of four characters; only the last one is padded. -/
def base64Bytes? : List Char → Option (List UInt8)
  | [] => some []
  | [a, b, '=', '='] =>
    match sextet? a, sextet? b with
    | some a, some b => some [(a * 4 + b / 16).toUInt8]
    | _, _ => none
  | [a, b, c, '='] =>
    match sextet? a, sextet? b, sextet? c with
    | some a, some b, some c => some [(a * 4 + b / 16).toUInt8, (b % 16 * 16 + c / 4).toUInt8]
    | _, _, _ => none
  | a :: b :: c :: d :: rest =>
    match sextet? a, sextet? b, sextet? c, sextet? d, base64Bytes? rest with
    | some a, some b, some c, some d, some bytes =>
      some ((a * 4 + b / 16).toUInt8 :: (b % 16 * 16 + c / 4).toUInt8 ::
        (c % 4 * 64 + d).toUInt8 :: bytes)
    | _, _, _, _, _ => none
  | _ => none

/-- The text that a scalar tagged as binary stands for. -/
def decodeBase64? (text : String) : Option Text :=
  (base64Bytes? (text.toList.filter fun c => c != '\n' && c != '\r')).map Text.ofBytes

/-! ## Writing -/

def base64Char (n : Nat) : Char :=
  if n < 26 then Char.ofNat (n + 65)
  else if n < 52 then Char.ofNat (n + 71)
  else if n < 62 then Char.ofNat (n - 4)
  else if n = 62 then '+'
  else '/'

/-- The characters of groups of three bytes; the last one is padded. -/
def base64Chars : List UInt8 → List Char
  | [] => []
  | [a] => [base64Char (a.toNat / 4), base64Char (a.toNat % 4 * 16), '=', '=']
  | [a, b] =>
    [base64Char (a.toNat / 4), base64Char (a.toNat % 4 * 16 + b.toNat / 16),
      base64Char (b.toNat % 16 * 4), '=']
  | a :: b :: c :: rest =>
    base64Char (a.toNat / 4) :: base64Char (a.toNat % 4 * 16 + b.toNat / 16) ::
      base64Char (b.toNat % 16 * 4 + c.toNat / 64) :: base64Char (c.toNat % 64) ::
      base64Chars rest

/-- The number of characters in a line. -/
def base64Line : Nat := 70

/-- The characters in lines, each with a line feed; `bound` is the number of
lines that may still be made. -/
def base64Lines : Nat → List Char → List Char
  | 0, _ => []
  | _ + 1, [] => []
  | bound + 1, cs => cs.take base64Line ++ '\n' :: base64Lines bound (cs.drop base64Line)

/-- The scalar for a text. What is shorter than a line has no line feed. -/
def encodeBase64 (t : Text) : String :=
  let cs := base64Chars t.toBytes
  String.ofList (if cs.length < base64Line then cs else base64Lines cs.length cs)

end ArgTaint.Yaml
