/-
ArgTaint.Yaml.Number — numbers written as plain scalars.

* `integer?` — whole numbers of at most 64 bits, in base ten, or in another
  base with `0x`, `0o`, `0b` or a leading zero.
* `decimal?` — numbers with a fraction or an exponent, as the double that is
  nearest to them.
-/

namespace ArgTaint.Yaml

/-! ## Whole numbers -/

def digitValue? (c : Char) : Option Nat :=
  if c.isDigit then some (c.toNat - 48)
  else if 'a' ≤ c && c ≤ 'f' then some (c.toNat - 87)
  else if 'A' ≤ c && c ≤ 'F' then some (c.toNat - 55)
  else none

/-- The number with the given digits in a base; `n` is that of the digits
before them. -/
def digits? (base : Nat) (n : Nat) : List Char → Option Nat
  | [] => some n
  | c :: rest =>
    match digitValue? c with
    | some d => if d < base then digits? base (n * base + d) rest else none
    | none => none

/-- The number with the given digits in a base, at least one of them. -/
def someDigits? (base : Nat) : List Char → Option Nat
  | [] => none
  | cs => digits? base 0 cs

/-- The number with the given digits, in the base that they start with. -/
def magnitude? : List Char → Option Nat
  | '0' :: x :: c :: rest =>
    if x == 'x' || x == 'X' then digits? 16 0 (c :: rest)
    else if x == 'o' || x == 'O' then digits? 8 0 (c :: rest)
    else if x == 'b' || x == 'B' then digits? 2 0 (c :: rest)
    else digits? 8 0 (x :: c :: rest)
  | '0' :: rest => digits? 8 0 rest
  | cs => someDigits? 10 cs

/-- The number with a sign in front, if 64 bits hold it: as a signed number,
or as an unsigned one when there is no sign. -/
def signed? (read? : List Char → Option Nat) (cs : List Char) : Option Int :=
  match cs with
  | '-' :: rest =>
    match read? rest with
    | some n => if n ≤ Nat.pow 2 63 then some (-(n : Int)) else none
    | none => none
  | '+' :: rest =>
    match read? rest with
    | some n => if n < Nat.pow 2 63 then some n else none
    | none => none
  | _ =>
    match read? cs with
    | some n => if n < Nat.pow 2 64 then some n else none
    | none => none

/-- A number of base two or eight whose sign may follow the mark of the
base. -/
def markedInteger? (cs : List Char) : Option Int :=
  match cs with
  | '0' :: 'b' :: rest => signed? (someDigits? 2) rest
  | '-' :: '0' :: 'b' :: rest => signed? (someDigits? 2) ('-' :: rest)
  | '0' :: 'o' :: rest => signed? (someDigits? 8) rest
  | '-' :: '0' :: 'o' :: rest => signed? (someDigits? 8) ('-' :: rest)
  | _ => none

def integer? (cs : List Char) : Option Int := signed? magnitude? cs

/-! ## Numbers with a fraction -/

/-- A number with a fraction, as far as whole numbers can tell. -/
inductive Real where
  | nan
  | infinite (negative : Bool)
  /-- The whole part, toward zero. -/
  | finite (whole : Int)
  deriving DecidableEq, Repr

/-- The quotient rounded to the nearest whole number, to the even one of
two. -/
def roundDiv (num den : Nat) : Nat :=
  let q := num / den
  let r := num % den
  if 2 * r < den then q else if den < 2 * r then q + 1 else q + q % 2

/-- The whole part of the double nearest to a quotient; none when the double
is out of range. -/
def wholeOfQuotient? (num den : Nat) : Option Nat :=
  let q := num / den
  if q < Nat.pow 2 53 then
    let scale := if q = 0 then 53 else 52 - q.log2
    some (roundDiv (num * Nat.pow 2 scale) den / Nat.pow 2 scale)
  else
    let unit := Nat.pow 2 (q.log2 - 52)
    let n := roundDiv num (den * unit) * unit
    if n < Nat.pow 2 1024 then some n else none

/-- The double nearest to a whole number of 64 bits. -/
def Real.ofInt (n : Int) : Real :=
  let m := ((wholeOfQuotient? n.natAbs 1).getD 0 : Int)
  .finite (if n < 0 then -m else m)

/-- The whole part of the double nearest to `m` times ten to the `e`, where
`m` has at most `width` digits. -/
def wholeOfDecimal? (m width : Nat) (e : Int) : Option Nat :=
  if m = 0 then some 0
  else if (width : Int) + e < -1 then some 0
  else
    match e with
    | .ofNat e => if 400 < e then none else wholeOfQuotient? (m * Nat.pow 10 e) 1
    | .negSucc e => wholeOfQuotient? m (Nat.pow 10 (e + 1))

/-- The exponent of a number, given what follows its mantissa. -/
def exponent? : List Char → Option Int
  | [] => some 0
  | c :: rest =>
    if c == 'e' || c == 'E' then
      match rest with
      | '-' :: ds => (someDigits? 10 ds).map fun n => -(n : Int)
      | '+' :: ds => (someDigits? 10 ds).map fun n => (n : Int)
      | ds => (someDigits? 10 ds).map fun n => (n : Int)
    else none

/-- A number without a sign: its whole part as a double. -/
def unsignedDecimal? (cs : List Char) : Option Nat :=
  let whole := cs.takeWhile Char.isDigit
  let rest := cs.dropWhile Char.isDigit
  let (fraction, rest) :=
    match rest with
    | '.' :: more => (more.takeWhile Char.isDigit, more.dropWhile Char.isDigit)
    | _ => ([], rest)
  let digits := whole ++ fraction
  match someDigits? 10 digits, exponent? rest with
  | some m, some e => wholeOfDecimal? m digits.length (e - fraction.length)
  | _, _ => none

/-- A number with a fraction or an exponent. -/
def decimal? (cs : List Char) : Option Real :=
  match cs with
  | '-' :: rest => (unsignedDecimal? rest).map fun n => .finite (-(n : Int))
  | '+' :: rest => (unsignedDecimal? rest).map fun n => .finite n
  | _ => (unsignedDecimal? cs).map fun n => .finite n

/-- Does every underscore stand between two digits? -/
def underscoresFit : Bool → List Char → Bool
  | _, [] => true
  | afterDigit, '_' :: rest =>
    afterDigit && (rest.head?.map Char.isDigit).getD false && underscoresFit false rest
  | _, c :: rest => underscoresFit c.isDigit rest

/-- The 64-bit number that a number with a fraction counts as: its whole part.
What is too small becomes the least number, and so does two to the 63; what
is larger than that counts as none. -/
def Real.toInt64? : Real → Option Int
  | .nan => none
  | .infinite negative => if negative then some (-Int.pow 2 63) else none
  | .finite whole =>
    if Int.pow 2 63 < whole then none
    else if whole = Int.pow 2 63 || whole < -Int.pow 2 63 then some (-Int.pow 2 63)
    else some whole

end ArgTaint.Yaml
