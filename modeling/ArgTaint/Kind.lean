/-
ArgTaint.Kind — the kinds of instructions.

The enumeration is closed: `unknown` is the kind of whatever has no better
classification. A host may still hand over a code outside the enumeration;
`other` holds such a code, with the proof that it is outside, so each code is
exactly one kind.

* `Kind.code`, `Kind.ofCode` — kinds as integer codes, in declaration order.
* `Kind.name`, `Kind.parse` — kinds by name; a name that no kind has is a
  `Kind.Error`.
* `Kind.all` — the enumeration.
-/
import ArgTaint.Text.Quoted

namespace ArgTaint

/-- The kind of an instruction. -/
inductive Kind where
  | unknown
  | load
  | store
  | phi
  | ret
  | branch
  | cast
  | select
  | binaryOp
  | compare
  | extractElement
  | insertElement
  | shuffleVector
  | extractValue
  | insertValue
  | getElementPointer
  | call
  | invoke
  | landingPad
  | funcletPad
  | catchSwitch
  | resume
  | unreachable
  | fence
  | atomicCompareExchange
  | atomicReadModifyWrite
  | alloca
  | variableArgumentAccess
  /-- A code outside the enumeration. -/
  | other (code : Int) (outside : code < 0 ∨ 28 ≤ code)
  deriving DecidableEq, Repr

namespace Kind

/-- The kinds of the enumeration, in declaration order. -/
def all : List Kind :=
  [.unknown, .load, .store, .phi, .ret, .branch, .cast, .select, .binaryOp, .compare,
   .extractElement, .insertElement, .shuffleVector, .extractValue, .insertValue,
   .getElementPointer, .call, .invoke, .landingPad, .funcletPad, .catchSwitch, .resume,
   .unreachable, .fence, .atomicCompareExchange, .atomicReadModifyWrite, .alloca,
   .variableArgumentAccess]

/-- The integer code of a kind: its position in the enumeration. -/
def code : Kind → Int
  | .unknown => 0
  | .load => 1
  | .store => 2
  | .phi => 3
  | .ret => 4
  | .branch => 5
  | .cast => 6
  | .select => 7
  | .binaryOp => 8
  | .compare => 9
  | .extractElement => 10
  | .insertElement => 11
  | .shuffleVector => 12
  | .extractValue => 13
  | .insertValue => 14
  | .getElementPointer => 15
  | .call => 16
  | .invoke => 17
  | .landingPad => 18
  | .funcletPad => 19
  | .catchSwitch => 20
  | .resume => 21
  | .unreachable => 22
  | .fence => 23
  | .atomicCompareExchange => 24
  | .atomicReadModifyWrite => 25
  | .alloca => 26
  | .variableArgumentAccess => 27
  | .other code _ => code

def ofCode (n : Int) : Kind :=
  if outside : n < 0 ∨ 28 ≤ n then .other n outside
  else all.getD n.toNat .unknown

def isMember : Kind → Bool
  | .other _ _ => false
  | _ => true

def name : Kind → String
  | .unknown => "unknown"
  | .load => "load"
  | .store => "store"
  | .phi => "phi"
  | .ret => "return"
  | .branch => "branch"
  | .cast => "cast"
  | .select => "select"
  | .binaryOp => "binary-op"
  | .compare => "compare"
  | .extractElement => "extract-element"
  | .insertElement => "insert-element"
  | .shuffleVector => "shuffle-vector"
  | .extractValue => "extract-value"
  | .insertValue => "insert-value"
  | .getElementPointer => "get-element-pointer"
  | .call => "call"
  | .invoke => "invoke"
  | .landingPad => "landing-pad"
  | .funcletPad => "funclet-pad"
  | .catchSwitch => "catch-switch"
  | .resume => "resume"
  | .unreachable => "unreachable"
  | .fence => "fence"
  | .atomicCompareExchange => "atomic-compare-exchange"
  | .atomicReadModifyWrite => "atomic-read-modify-write"
  | .alloca => "alloca"
  | .variableArgumentAccess => "variable-argument-access"
  | .other code _ => "kind(" ++ toString code ++ ")"

/-- Why a name is refused: no kind of the enumeration has it. -/
structure Error where
  name : Text
  deriving DecidableEq, Repr

def Error.message (e : Error) : String := "unknown instruction kind " ++ e.name.quote

def parse (name : Text) : Except Error Kind :=
  match all.find? fun k => Text.ofString k.name = name with
  | some k => .ok k
  | none => .error ⟨name⟩

/-- The kind that replaces `old` when `name` is read into it: a name that is
refused leaves the old kind in place. -/
def readInto (old : Kind) (name : Text) : Kind × Option Error :=
  match parse name with
  | .ok k => (k, none)
  | .error e => (old, some e)

end Kind

end ArgTaint
