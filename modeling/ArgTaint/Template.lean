/-
ArgTaint.Template — texts with places for one argument.

A place starts with a percent sign and ends with a letter that says how the
argument is written. In between may stand flags, the number of the argument
in brackets, a width, and a precision after a point. Whatever does not fit
the argument, or the number of arguments, is said in the output.

* `Place` — how the argument is written in a place.
* `Place.write` — the argument in a place.
* `readPlace` — the place at the start of a text.
* `fill` — a template with its places filled.
-/
import ArgTaint.Text.Quoted

namespace ArgTaint.Template

/-! ## Places -/

/-- How the argument is written in a place. -/
structure Place where
  sharp : Bool := false
  zero : Bool := false
  plus : Bool := false
  minus : Bool := false
  space : Bool := false
  /-- The number of characters that are written at least. -/
  width : Nat := 0
  /-- The number of characters of the argument that are written at most. -/
  precision : Option Nat := none
  deriving DecidableEq, Repr

namespace Place

/-- What fills up a place of which `length` characters are taken: spaces, or
zeros on the left. -/
def filling (p : Place) (length : Nat) : String :=
  String.ofList (List.replicate (p.width - length) (if p.zero && !p.minus then '0' else ' '))

def pad (p : Place) (text : String) : String :=
  if p.minus then text ++ p.filling text.length else p.filling text.length ++ text

/-- The start of the text that the precision leaves. -/
def cut (p : Place) (text : String) : String :=
  match p.precision with
  | some n => String.ofList (text.toList.take n)
  | none => text

def plain (p : Place) (text : String) : String := p.pad (p.cut text)

/-- Can the text stand between back quotes, on one line? -/
def fitsBackQuotes (text : String) : Bool :=
  text.toList.all fun c =>
    (0x20 ≤ c.toNat || c == '\t') && c.toNat != 0x60 && c.toNat != 0x7f && c.toNat != 0xfeff

/-- A character between double quotes, in ASCII. -/
def escapeToAscii (c : Char) : List Char :=
  if c.toNat < 0x80 then Text.escapeChar c
  else if c.toNat < 0x10000 then '\\' :: 'u' :: Text.hexDigits 4 c.toNat
  else '\\' :: 'U' :: Text.hexDigits 8 c.toNat

def quoted (p : Place) (text : String) : String :=
  let text := p.cut text
  if p.sharp && fitsBackQuotes text then p.pad ("`" ++ text ++ "`")
  else if p.plus then
    p.pad (String.ofList ('"' :: text.toList.flatMap escapeToAscii ++ ['"']))
  else p.pad (Text.quote (Text.ofString text))

/-- The bytes of the argument in hexadecimal digits: `mark` in front of all,
or, with spaces, in front of each. The precision counts bytes. -/
def hexadecimal (p : Place) (digit : Nat → Char) (mark text : String) : String :=
  let bytes := text.toUTF8.toList
  let bytes :=
    match p.precision with
    | some n => bytes.take n
    | none => bytes
  if bytes.isEmpty then p.filling 0
  else
    let mark := if p.sharp then mark else ""
    let pairs := bytes.map fun b => String.ofList [digit (b.toNat / 16), digit (b.toNat % 16)]
    p.pad (mark ++ (if p.space then " " ++ mark else "").intercalate pairs)

/-- The letter with the argument behind it, where the letter does not fit. -/
def misfit (p : Place) (letter : Char) (text : String) : String :=
  "%!" ++ String.singleton letter ++ "(string=" ++ p.plain text ++ ")"

def write (p : Place) (letter : Char) (text : String) : String :=
  match letter with
  | 's' => p.plain text
  | 'v' =>
    if p.sharp then { p with sharp := false, plus := false }.quoted text else p.plain text
  | 'w' =>
    if p.sharp then
      "%!w(string=" ++ { p with sharp := false, plus := false }.quoted text ++ ")"
    else p.misfit 'w' text
  | 'q' => p.quoted text
  | 'x' => p.hexadecimal Text.hexDigit "0x" text
  | 'X' => p.hexadecimal (fun n => (Text.hexDigit n).toUpper) "0X" text
  | 'T' => p.plain "string"
  | letter => p.misfit letter text

end Place

/-! ## Reading places -/

/-- The number at the start of a text, if there is one, and the rest. What
follows a number above a million is lost. -/
def readNumber (value : Option Nat) : List Char → Option Nat × List Char
  | [] => (value, [])
  | c :: rest =>
    if c.isDigit then
      if 1000000 < value.getD 0 then (none, [])
      else readNumber (some (value.getD 0 * 10 + (c.toNat - 48))) rest
    else (value, c :: rest)

/-- What has been read of a place. -/
structure Reading where
  place : Place := {}
  rest : List Char
  /-- Has the argument been written? -/
  used : Bool
  /-- Has an argument been asked for by its number? -/
  numbered : Bool
  /-- Do the numbers fit? -/
  good : Bool := true
  /-- Did a number of an argument come last? -/
  afterNumber : Bool := false
  /-- What the output says about the place. -/
  said : String := ""
  deriving Repr

namespace Reading

def flags (r : Reading) : List Char → Reading
  | '#' :: rest => { r with place := { r.place with sharp := true } }.flags rest
  | '0' :: rest => { r with place := { r.place with zero := true } }.flags rest
  | '+' :: rest => { r with place := { r.place with plus := true } }.flags rest
  | '-' :: rest => { r with place := { r.place with minus := true } }.flags rest
  | ' ' :: rest => { r with place := { r.place with space := true } }.flags rest
  | rest => { r with rest := rest }

/-- The reading after the number of an argument in brackets, if there is one.
There is one argument. -/
def number (r : Reading) : Reading :=
  match r.rest with
  | '[' :: rest =>
    let r := { r with numbered := true }
    if rest.contains ']' && 2 ≤ rest.length then
      let inside := rest.takeWhile (· != ']')
      let r := { r with rest := rest.drop (inside.length + 1) }
      match readNumber none inside with
      | (some n, []) =>
        if n = 1 then { r with used := false, afterNumber := true }
        else { r with good := false, afterNumber := true }
      | _ => { r with good := false, afterNumber := false }
    else { r with rest := rest, good := false, afterNumber := false }
  | _ => { r with afterNumber := false }

/-- The reading after the width. A width that is asked for from the arguments
takes up the argument, which is no number. -/
def width (r : Reading) : Reading :=
  match r.rest with
  | '*' :: rest =>
    { r with
      rest := rest
      used := true
      afterNumber := false
      said := r.said ++ "%!(BADWIDTH)" }
  | _ =>
    match readNumber none r.rest with
    | (some n, rest) =>
      { r with
        place := { r.place with width := n }
        rest := rest
        good := r.good && !r.afterNumber }
    | (none, rest) => { r with rest := rest }

def precision (r : Reading) : Reading :=
  match r.rest with
  | '.' :: rest =>
    let r := { r with rest := rest, good := r.good && !r.afterNumber }.number
    match r.rest with
    | '*' :: rest =>
      { r with
        rest := rest
        used := true
        afterNumber := false
        said := r.said ++ "%!(BADPREC)" }
    | _ =>
      let (n, rest) := readNumber none r.rest
      { r with place := { r.place with precision := some (n.getD 0) }, rest := rest }
  | _ => r

end Reading

/-- The place at the start of a text, up to its letter. -/
def readPlace (used numbered : Bool) (cs : List Char) : Reading :=
  let r := ({ rest := cs, used := used, numbered := numbered } : Reading).flags cs
  let r := r.number.width.precision
  if r.afterNumber then r else r.number

/-! ## Filling -/

/-- What the output says when the argument was not written. -/
def extra (text : String) (used numbered : Bool) : String :=
  if used || numbered then "" else "%!(EXTRA string=" ++ text ++ ")"

/-- The template with `text` in its places. `used` says that the text has been
written already, `numbered` that it was asked for by number; `bound` is the
number of characters and places that may still be read. -/
def fillFrom (text : String) : Nat → Bool → Bool → List Char → String
  | 0, _, _, _ => ""
  | _ + 1, used, numbered, [] => extra text used numbered
  | bound + 1, used, numbered, '%' :: rest =>
    let r := readPlace used numbered rest
    match r.rest with
    | [] => r.said ++ "%!(NOVERB)" ++ extra text r.used r.numbered
    | '%' :: rest => r.said ++ "%" ++ fillFrom text bound r.used r.numbered rest
    | letter :: rest =>
      if !r.good then
        r.said ++ "%!" ++ String.singleton letter ++ "(BADINDEX)" ++
          fillFrom text bound r.used r.numbered rest
      else if r.used then
        r.said ++ "%!" ++ String.singleton letter ++ "(MISSING)" ++
          fillFrom text bound true r.numbered rest
      else
        r.said ++ r.place.write letter text ++ fillFrom text bound true r.numbered rest
  | bound + 1, used, numbered, c :: rest =>
    String.singleton c ++ fillFrom text bound used numbered rest

def fill (template text : String) : String :=
  fillFrom text (template.length + 1) false false template.toList

end ArgTaint.Template
