import Formwork.Yaml.Tree

/-!
# From the tree of a document to its graph

Aliases make a graph of the tree: a node may have several places, and may even contain itself.
The nodes are numbered, and a collection names its parts by their numbers.

An anchor stands for one node of the document.  It is known from the beginning of its node on, so
an alias may refer to a collection that it lies in.
-/

namespace Formwork.Yaml

/-- A node whose parts are given by their numbers. -/
inductive Node where
  | scalar (tag : Tag) (text : Text)
  | sequence (tag : Tag) (items : List Nat)
  | mapping (tag : Tag) (pairs : List (Nat × Nat))
  deriving Repr, DecidableEq

def Node.tag : Node → Tag
  | scalar tag _ => tag
  | sequence tag _ => tag
  | mapping tag _ => tag

/-- The numbered nodes of a document. -/
abbrev Nodes := Array Node

namespace Nodes

def get (ns : Nodes) (n : Nat) : Node := ns[n]?.getD (.scalar .unknown [])

def tag (ns : Nodes) (n : Nat) : Tag := (ns.get n).tag

def pairs (ns : Nodes) (n : Nat) : List (Nat × Nat) :=
  match ns.get n with
  | .mapping _ ps => ps
  | _ => []

def setPairs (ns : Nodes) (n : Nat) (ps : List (Nat × Nat)) : Nodes :=
  ns.setIfInBounds n (.mapping (ns.tag n) ps)

def setTag (ns : Nodes) (n : Nat) (tag : Tag) : Nodes :=
  match ns.get n with
  | .scalar _ text => ns.setIfInBounds n (.scalar tag text)
  | .sequence _ items => ns.setIfInBounds n (.sequence tag items)
  | .mapping _ ps => ns.setIfInBounds n (.mapping tag ps)

end Nodes

/-- A graph under construction: its nodes, and the nodes that anchors stand for. -/
structure Graph where
  nodes : Nodes := #[]
  anchors : List (Text × Nat) := []

namespace Graph

/-- Adds a node, which may have an anchor that no other node has. -/
def push (g : Graph) (anchor : Option Text) (node : Node) : Lexed (Nat × Graph) :=
  let n := g.nodes.size
  match anchor with
  | none => .ok (n, { g with nodes := g.nodes.push node })
  | some name =>
    if g.anchors.any fun a => a.1 == name then .error .malformed
    else .ok (n, { nodes := g.nodes.push node, anchors := (name, n) :: g.anchors })

/-- Gives a node its final form. -/
def set (g : Graph) (n : Nat) (node : Node) : Graph :=
  { g with nodes := g.nodes.setIfInBounds n node }

mutual

/-- Adds the nodes of a tree; the number is that of its root. -/
def add (g : Graph) : Tree → Lexed (Nat × Graph)
  | .alias name =>
    match g.anchors.find? fun a => a.1 == name with
    | some (_, n) => .ok (n, g)
    | none => .error .malformed
  | .scalar anchor tag text => g.push anchor (.scalar tag text)
  | .sequence anchor tag items => do
    let (n, g) ← g.push anchor (.sequence tag [])
    let (ns, g) ← g.addAll items
    return (n, g.set n (.sequence tag ns))
  | .mapping anchor tag pairs => do
    let (n, g) ← g.push anchor (.mapping tag [])
    let (ps, g) ← g.addPairs pairs
    return (n, g.set n (.mapping tag ps))

def addAll (g : Graph) : List Tree → Lexed (List Nat × Graph)
  | [] => .ok ([], g)
  | t :: ts => do
    let (n, g) ← g.add t
    let (ns, g) ← g.addAll ts
    return (n :: ns, g)

def addPairs (g : Graph) : List (Tree × Tree) → Lexed (List (Nat × Nat) × Graph)
  | [] => .ok ([], g)
  | (k, v) :: ps => do
    let (m, g) ← g.add k
    let (n, g) ← g.add v
    let (ns, g) ← g.addPairs ps
    return ((m, n) :: ns, g)

end

end Graph

/-- The numbered nodes of a document and the number of its root; a text without a document has
none. -/
def readNodes (s : Text) : Lexed (Option (Nat × Nodes)) := do
  match ← Tree.ofTokens (Token.scan s) with
  | none => return none
  | some t =>
    let (root, g) ← Graph.add {} t
    return some (root, g.nodes)

/-! ## Merge keys -/

/-- The pair of the first merge key: its value, and the other pairs. -/
def Nodes.takeMerge? (ns : Nodes) : List (Nat × Nat) → Option (Nat × List (Nat × Nat))
  | [] => none
  | p :: ps =>
    if ns.tag p.1 == .merge then some (p.2, ps)
    else (ns.takeMerge? ps).map fun (source, rest) => (source, p :: rest)

/-- A key that is a bare equals sign becomes a text. -/
def Nodes.nameValueKeys (ns : Nodes) (ps : List (Nat × Nat)) : Nodes :=
  ps.foldl (fun ns p => if ns.tag p.1 == .value then ns.setTag p.1 .text else ns) ns

/-- Removes the merge keys of a mapping one by one and puts the entries of the mappings that they
refer to in front of its own, after those `merged` before.  A mapping may refer to itself on some
way; then it is met without the merge keys removed so far.  Each step removes a merge key, and
`steps` bounds how many there are. -/
def flattenFrom (steps : Nat) (merged : List (Nat × Nat)) (ns : Nodes) (n : Nat) : Lexed Nodes :=
  match steps with
  | 0 => .error .malformed
  | steps + 1 =>
    match ns.takeMerge? (ns.pairs n) with
    | none =>
      let own := ns.pairs n
      .ok ((ns.nameValueKeys own).setPairs n (merged ++ own))
    | some (source, rest) => do
      let (ns, found) ← sourceOf steps (ns.setPairs n rest) source
      flattenFrom steps (merged ++ found) ns n
where
  /-- The entries that a merge key refers to: those of a mapping, or of the mappings of a
  sequence, where the last comes first. -/
  sourceOf (steps : Nat) (ns : Nodes) (source : Nat) : Lexed (Nodes × List (Nat × Nat)) := do
    match ns.get source with
    | .mapping _ _ =>
      let ns ← flattenFrom steps [] ns source
      return (ns, ns.pairs source)
    | .sequence _ items =>
      let (ns, lists) ← items.foldlM (fun (ns, lists) item => do
        match ns.get item with
        | .mapping _ _ =>
          let ns ← flattenFrom steps [] ns item
          return (ns, ns.pairs item :: lists)
        | _ => throw .malformed) (ns, [])
      return (ns, lists.flatten)
    | .scalar _ _ => throw .malformed

/-- The nodes after the merge keys of a mapping, and of those that it refers to, are removed. -/
def Nodes.flatten (ns : Nodes) (n : Nat) : Lexed Nodes :=
  let count := ns.foldl (fun k node =>
    match node with
    | .mapping _ ps => k + ps.length
    | _ => k) 0
  flattenFrom (count + 1) [] ns n

end Formwork.Yaml
