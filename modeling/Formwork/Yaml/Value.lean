import Formwork.Yaml.Atom
import Formwork.Yaml.Graph

/-!
# The value of a document

The whole document is read and checked, but of a nested collection only its kind is kept: what is
wanted is a mapping whose values are atoms, and any other value is reported by its kind.

Scalars are read where they stand.  A collection is put on a list and opened after those that were
met before it, and each is opened once however many aliases refer to it; so the document is
checked from the outside in.
-/

namespace Formwork.Yaml

/-- A value, with nothing said of what is in a collection. -/
inductive Value where
  | atom (a : Atom)
  | list
  | mapping
  | set
  deriving Repr, DecidableEq

/-- A key of a mapping.  What is no number is the same key nowhere but at its node, unless it is
spelled `.nan`; so that node belongs to the key. -/
structure Key where
  atom : Atom
  node : Option Nat
  deriving Repr, DecidableEq

def Key.same (a b : Key) : Bool := a.node == b.node && a.atom.sameKey b.atom

/-- The progress of a reading. -/
structure Reading where
  nodes : Nodes
  /-- The collections met so far. -/
  met : List Nat := []
  /-- Those of them that are not opened yet, in order. -/
  waiting : List Nat := []

namespace Reading

/-- The text of a node that should be a scalar.  A mapping may have one under the key that stands
for it as a whole. -/
def textOf (depth : Nat) (ns : Nodes) (n : Nat) : Except Refusal Text :=
  match depth with
  | 0 => .error .malformed
  | depth + 1 =>
    match ns.get n with
    | .scalar _ text => .ok text
    | .sequence _ _ => .error .malformed
    | .mapping _ pairs =>
      match pairs.find? fun p => ns.tag p.1 == .value with
      | some (_, v) => textOf depth ns v
      | none => .error .malformed

def meet (r : Reading) (n : Nat) : Reading :=
  if r.met.contains n then r else { r with met := n :: r.met, waiting := r.waiting ++ [n] }

/-- The value of a node by its tag. -/
def valueOf (r : Reading) (n : Nat) : Except Refusal (Value × Reading) :=
  match r.nodes.tag n with
  | .sequence => .ok (.list, r.meet n)
  | .orderedMapping => .ok (.list, r.meet n)
  | .pairs => .ok (.list, r.meet n)
  | .mapping => .ok (.mapping, r.meet n)
  | .set => .ok (.set, r.meet n)
  | .merge => .error .malformed
  | .value => .error .malformed
  | .unknown => .error .malformed
  | tag => do
    let text ← textOf (r.nodes.size + 1) r.nodes n
    match tag, r.nodes.get n with
    | .timestamp, .mapping _ _ => throw .timestampOfMapping
    | _, _ => return (.atom (← Atom.read tag text), r)

def pairOf (r : Reading) (p : Nat × Nat) : Except Refusal ((Value × Value) × Reading) := do
  let (k, r) ← r.valueOf p.1
  let (v, r) ← r.valueOf p.2
  return ((k, v), r)

def keyOf (r : Reading) (n : Nat) (a : Atom) : Key :=
  match a, textOf (r.nodes.size + 1) r.nodes n with
  | .real .nan, .ok text => ⟨a, if Atom.spellsNan text then none else some n⟩
  | _, _ => ⟨a, none⟩

/-- Enters a value under a key: the same key keeps its first form and place. -/
def enter (entries : List (Key × Value)) (key : Key) (value : Value) : List (Key × Value) :=
  match entries with
  | [] => [(key, value)]
  | e :: rest => if e.1.same key then (e.1, value) :: rest else e :: enter rest key value

/-- The entries of a mapping, whose keys must be atoms. -/
def entriesOf (r : Reading) (entries : List (Key × Value)) :
    List (Nat × Nat) → Except Refusal (List (Key × Value) × Reading)
  | [] => .ok (entries, r)
  | (k, v) :: ps => do
    match ← r.valueOf k with
    | (.atom key, r) =>
      let (value, r) ← r.valueOf v
      r.entriesOf (enter entries (r.keyOf k key) value) ps
    | _ => throw .malformed

/-- Reads the only pair of each item. -/
def singlePairs (r : Reading) : List Nat → Except Refusal Reading
  | [] => .ok r
  | item :: items =>
    match r.nodes.get item with
    | .mapping _ [p] => do
      let (_, r) ← r.pairOf p
      r.singlePairs items
    | _ => .error .malformed

def itemsOf (r : Reading) : List Nat → Except Refusal Reading
  | [] => .ok r
  | item :: items => do
    let (_, r) ← r.valueOf item
    r.itemsOf items

/-- Opens a collection.  The entries of a mapping are returned; the keys of a set are entries
too. -/
def openNode (r : Reading) (n : Nat) : Except Refusal (List (Key × Value) × Reading) :=
  match r.nodes.get n with
  | .scalar _ _ => .error .malformed
  | .sequence tag items =>
    match tag with
    | .sequence => (r.itemsOf items).map fun r => ([], r)
    | .orderedMapping => (r.singlePairs items).map fun r => ([], r)
    | .pairs => (r.singlePairs items).map fun r => ([], r)
    | _ => .error .malformed
  | .mapping tag _ =>
    if tag == .mapping || tag == .set then do
      let ns ← (r.nodes.flatten n).mapError .unreadable
      { r with nodes := ns }.entriesOf [] (ns.pairs n)
    else .error .malformed

/-- Opens the collections that wait, and those that are met on the way.  As many rounds as there
are nodes suffice, since each is opened once. -/
def openAll (r : Reading) : (rounds : Nat) → Except Refusal Unit
  | 0 => .ok ()
  | rounds + 1 =>
    match r.waiting with
    | [] => .ok ()
    | n :: rest => do
      let (_, r) ← { r with waiting := rest }.openNode n
      r.openAll rounds

end Reading

/-- What the document of a text is. -/
inductive Document where
  | mapping (entries : List (Atom × Value))
  | other (value : Value)
  deriving Repr

/-- Reads the document of a text; a text without one stands for nothing. -/
def Document.read (s : Text) : Except Refusal Document := do
  match ← (readNodes s).mapError .unreadable with
  | none => return .other (.atom .null)
  | some (root, nodes) =>
    let r : Reading := { nodes }
    match ← r.valueOf root with
    | (.mapping, r) =>
      let (entries, r) ← { r with waiting := [] }.openNode root
      r.openAll nodes.size
      return .mapping (entries.map fun (key, value) => (key.atom, value))
    | (value, r) =>
      r.openAll nodes.size
      return .other value

end Formwork.Yaml
