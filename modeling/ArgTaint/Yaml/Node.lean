/-
ArgTaint.Yaml.Node — the tree that a YAML text stands for.

A node has a line, counted from one, and a short tag. A reference holds the
number of the anchored node that it stands for; anchored nodes are listed
with the document.

* `Node`, `Document` — trees.
* `Document.target?` — the node that a reference stands for.
-/
import ArgTaint.Yaml.Scalar

namespace ArgTaint.Yaml

/-- A node of a document. -/
inductive Node where
  | scalar (line : Nat) (tag : String) (text : String)
  | sequence (line : Nat) (tag : String) (items : List Node)
  | mapping (line : Nat) (tag : String) (entries : List (Node × Node))
  /-- A reference to the anchored node with the given number; `serial` tells
  references apart. -/
  | reference (line : Nat) (name : String) (serial anchor : Nat)
  deriving Repr, Inhabited

/-- The shape of a node. -/
inductive Shape where
  | scalar
  | sequence
  | mapping
  | reference
  deriving DecidableEq, Repr

namespace Node

def line : Node → Nat
  | .scalar line _ _ => line
  | .sequence line _ _ => line
  | .mapping line _ _ => line
  | .reference line _ _ _ => line

/-- The tag of a node; a reference has none. -/
def tag : Node → String
  | .scalar _ tag _ => tag
  | .sequence _ tag _ => tag
  | .mapping _ tag _ => tag
  | .reference .. => ""

def shape : Node → Shape
  | .scalar .. => .scalar
  | .sequence .. => .sequence
  | .mapping .. => .mapping
  | .reference .. => .reference

/-- The text of a scalar, or the name in a reference. -/
def text : Node → String
  | .scalar _ _ text => text
  | .reference _ name _ _ => name
  | _ => ""

def empty (line : Nat) : Node := .scalar line Scalar.null.tag ""

/-- Is the node the key that merges other mappings? -/
def isMerge : Node → Bool
  | .scalar _ tag text => text == "<<" && tag == Scalar.merge.tag
  | _ => false

end Node

/-- A document: its root, and its anchored nodes by number. -/
structure Document where
  root : Node
  anchored : List (Nat × Node) := []
  deriving Repr

def Document.target? (d : Document) (anchor : Nat) : Option Node := d.anchored.lookup anchor

end ArgTaint.Yaml
