/-
ArgTaint.Yaml.KeyOrder — the order of the keys of a written mapping.

Keys are compared at their first difference. Two letters compare by code
point. Of a letter and something else the latter comes first, unless digits
stand before, where the letter does. Otherwise the numbers that start there
compare, then their lengths, then the characters; where nothing differs, the
shorter key comes first.
-/
import ArgTaint.Text.Letter

namespace ArgTaint.Yaml

/-- Does a number that ends here have a digit other than zero? The
characters before are given last first. -/
def afterNonzero : List Char → Bool
  | [] => false
  | c :: rest => Text.isDecimal c && (c != '0' || afterNonzero rest)

/-- The number of a run of digits, with `n` in front, in 64 bits. -/
def runValue (n : Int64) (digits : List Char) : Int64 :=
  digits.foldl (fun n c => n * 10 + (Int64.ofNat c.toNat - 48)) n

/-- Does the key that goes on with `a` and `as` come before the one that goes
on with `b` and `bs`, where the two differ here for the first time? The
characters before are given last first. -/
def differsBefore (before : List Char) (a : Char) (as : List Char) (b : Char) (bs : List Char) :
    Bool :=
  match Text.isLetter a, Text.isLetter b with
  | true, true => decide (a < b)
  | true, false => (before.head?.map Text.isDecimal).getD false
  | false, true => !(before.head?.map Text.isDecimal).getD false
  | false, false =>
    let start : Int64 := if (a == '0' || b == '0') && afterNonzero before then 1 else 0
    let da := (a :: as).takeWhile Text.isDecimal
    let db := (b :: bs).takeWhile Text.isDecimal
    let na := runValue start da
    let nb := runValue start db
    if na ≠ nb then decide (na < nb)
    else if da.length ≠ db.length then decide (da.length < db.length)
    else decide (a < b)

/-- Does the first key come before the second one? The characters that both
start with are given last first. -/
def keyBefore (before : List Char) : List Char → List Char → Bool
  | [], [] => false
  | [], _ :: _ => true
  | _ :: _, [] => false
  | a :: as, b :: bs =>
    if a = b then keyBefore (a :: before) as bs else differsBefore before a as b bs

def sortByKey {α : Type} (entries : List (String × α)) : List (String × α) :=
  entries.mergeSort fun a b => !keyBefore [] b.1.toList a.1.toList

end ArgTaint.Yaml
