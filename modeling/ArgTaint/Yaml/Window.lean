/-
ArgTaint.Yaml.Window — a text that is taken in block by block.

A text is taken in as far as its reader looks ahead. A block has 512 bytes,
or up to three fewer where a character would be cut. A block with a character
that may not stand in a text cannot be taken in, so such a character matters
only if the reader comes near it.

* `isAllowed` — which characters may stand in a text.
* `Window` — what has been taken in, and what follows.
* `Window.ofText` — the window at the start of a text.
* `Window.reach?` — taking in what is needed.
-/

namespace ArgTaint.Yaml

/-- May the character stand in a text? -/
def isAllowed (c : Char) : Bool :=
  let n := c.toNat
  n == 0x9 || n == 0xa || n == 0xd || (decide (0x20 ≤ n) && decide (n ≤ 0x7e)) || n == 0x85 ||
    (decide (0xa0 ≤ n) && decide (n ≤ 0xfffd)) || decide (0x10000 ≤ n)

def isOrderMark (c : Char) : Bool := c.toNat == 0xfeff

def blockSize : Nat := 512

/-- What has been taken in of a text, seen from a place in it. -/
structure Window where
  /-- The number of characters from the place on that have been taken in. The
  end of the text counts as any number of characters. -/
  ahead : Nat := 0
  /-- The numbers of characters in the blocks that follow. -/
  blocks : List Nat := []
  /-- Does a block follow that cannot be taken in? -/
  broken : Bool := false
  /-- Did a byte order mark stand at the place where blocks were last taken
  in? -/
  marked : Bool := false
  deriving DecidableEq, Repr

namespace Window

/-- The numbers of characters in the blocks of a text, up to one that cannot
be taken in, and whether there is one. The block under way has `count`
characters, and room for `room` more bytes. -/
def measure (room count : Nat) : List Char → List Nat × Bool
  | [] => (if count = 0 then [] else [count], false)
  | c :: rest =>
    if c.utf8Size ≤ room then
      if isAllowed c then measure (room - c.utf8Size) (count + 1) rest else ([], true)
    else if isAllowed c then
      let (blocks, broken) := measure (blockSize - c.utf8Size) 1 rest
      (count :: blocks, broken)
    else ([count], true)

/-- The window at the start of a text; `skipped` bytes of it are left out in
front. -/
def ofText (skipped : Nat) (text : List Char) : Window :=
  let (blocks, broken) := measure (blockSize - skipped) 0 text
  { blocks := blocks, broken := broken }

/-- Take in blocks until there are `n` characters, or until the end of the
text. -/
def fill? (n : Nat) (broken : Bool) : Nat → List Nat → Option (Nat × List Nat)
  | ahead, [] => if broken then none else some (ahead + 1, [])
  | ahead, block :: rest =>
    if n ≤ ahead + block then some (ahead + block, rest)
    else fill? n broken (ahead + block) rest

/-- The window with at least `n` characters taken in; `here` is the character
at the place. -/
def reach? (w : Window) (n : Nat) (here : Option Char) : Option Window :=
  if n ≤ w.ahead then some w
  else
    (fill? n w.broken w.ahead w.blocks).map fun (ahead, blocks) =>
      { w with
        ahead := ahead
        blocks := blocks
        marked := (here.map isOrderMark).getD false }

def pass (w : Window) (n : Nat) : Window := { w with ahead := w.ahead - n }

end Window

end ArgTaint.Yaml
