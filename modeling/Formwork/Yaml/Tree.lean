import Formwork.Yaml.Layout
import Formwork.Yaml.Tag

/-!
# From tokens to the tree of a document

The tokens of a document are read by recursive descent, with a function for each kind of
collection.  A collection in block style ends where its layout ends, one in flow style at its
bracket.  Entries, keys and values may be left out, and an empty scalar stands for them.

Every function returns the tokens that it leaves, and goes on only with fewer tokens than it was
given; that bounds the recursion.  Aliases are kept as they are, but each must have its anchor in
front of it, and no two anchors may have the same name.

A text holds at most one document.  Of two faults the one that is met first counts, and so it
matters that no function looks further ahead than at the next token.
-/

namespace Formwork.Yaml

/-- A node as it is written: each node has its tag, and possibly an anchor by which aliases refer
to it. -/
inductive Tree where
  | alias (name : Text)
  | scalar (anchor : Option Text) (tag : Tag) (text : Text)
  | sequence (anchor : Option Text) (tag : Tag) (items : List Tree)
  | mapping (anchor : Option Text) (tag : Tag) (pairs : List (Tree × Tree))

namespace Tree

/-- What stands in place of a node that is left out. -/
def empty : Tree := .scalar none (Tag.ofForm []) []

/-! ## Faults -/

/-- Refuses the next token: because reading fails there, or because it should not stand there. -/
def refuse {α : Type} : List Token → Lexed α
  | .failure cause :: _ => .error cause
  | _ => .error .malformed

/-- The tokens after which a fault is met, unless reading fails there anyway. -/
def faultAfter : List Token → List Token
  | .failure cause :: _ => [.failure cause]
  | _ => [.failure .malformed]

/-- The tokens up to the first alias without an anchor or the first anchor whose name is taken.
The latter is met with the content of its node, so a tag after it is read before. -/
def checkAnchors (taken : List Text) : List Token → List Token
  | [] => []
  | .alias name :: ts =>
    if taken.contains name then .alias name :: checkAnchors taken ts else [.failure .malformed]
  | .anchor name :: ts =>
    if taken.contains name then
      match ts with
      | .tag handle suffix :: rest => .anchor name :: .tag handle suffix :: faultAfter rest
      | rest => .anchor name :: faultAfter rest
    else .anchor name :: checkAnchors (name :: taken) ts
  | t :: ts => t :: checkAnchors taken ts

/-! ## Directives -/

/-- What tag handles stand for. -/
abbrev Handles := List (Text × Text)

/-- The handles that need no directive. -/
def Handles.standard : Handles := [(['!'], ['!']), (['!', '!'], Tag.repository)]

/-- The directives in front of a document: a version may be given once, and must be one of the
first major version, and a handle may be given once. -/
def directives (versioned : Bool) (given : Handles) : List Token → Lexed (Handles × List Token)
  | .directive (.version major) :: ts =>
    if versioned || major != 1 then .error .malformed else directives true given ts
  | .directive (.tag handle stem) :: ts =>
    if given.any fun h => h.1 == handle then .error .malformed
    else directives versioned ((handle, stem) :: given) ts
  | .directive .other :: ts => directives versioned given ts
  | ts => .ok (given ++ Handles.standard, ts)

/-! ## Properties -/

/-- What a node has in front of its content.  The tag `!` alone says that the form of a scalar
decides, however it is written. -/
structure Properties where
  anchor : Option Text := none
  tag : Option Text := none

def fullTag (h : Handles) (handle : Option Text) (suffix : Text) : Lexed Text :=
  match handle with
  | none => .ok suffix
  | some handle =>
    match h.find? fun e => e.1 == handle with
    | some (_, stem) => .ok (stem ++ suffix)
    | none => .error .malformed

/-- The properties at the front of the tokens, in either order, and how many tokens they take. -/
def properties (h : Handles) : List Token → Lexed (Properties × Nat)
  | .anchor a :: .tag t s :: _ => do return (⟨some a, some (← fullTag h t s)⟩, 2)
  | .anchor a :: _ => .ok (⟨some a, none⟩, 1)
  | .tag t s :: .anchor a :: _ => do return (⟨some a, some (← fullTag h t s)⟩, 2)
  | .tag _ _ :: .failure cause :: _ => .error cause
  | .tag t s :: _ => do return (⟨none, some (← fullTag h t s)⟩, 1)
  | _ => .ok ({}, 0)

/-- The tag that decides by form. -/
def byForm : Text := ['!']

/-- The tag of a node with these properties, where `default` is taken if none is given. -/
def Properties.tagOr (p : Properties) (default : Tag) : Tag :=
  match p.tag with
  | none => default
  | some name => if name = byForm then default else Tag.ofName name

def Properties.scalar (p : Properties) (text : Text) (plain : Bool) : Tree :=
  let formed := match p.tag with
    | none => plain
    | some name => name = byForm
  .scalar p.anchor (p.tagOr (if formed then Tag.ofForm text else .text)) text

/-! ## Nodes -/

/-- What may stand in place of the content of a node, besides scalars and flow collections. -/
structure Place where
  /-- Block collections. -/
  block : Bool
  /-- Block sequences that are not indented. -/
  unindented : Bool

/-- How many tokens separate the next entry of a flow collection: a comma, except in front of the
first one. -/
def flowGap (first : Bool) (ts : List Token) : Lexed Nat :=
  if first then .ok 0
  else
    match ts with
    | .flowEntry :: _ => .ok 1
    | ts => refuse ts

mutual

def node (h : Handles) (place : Place) (ts : List Token) : Lexed (Tree × List Token) :=
  match ts with
  | .alias name :: rest => .ok (.alias name, rest)
  | ts => do
    let (p, n) ← properties h ts
    content h place p (ts.drop n)
termination_by (ts.length, 2)
decreasing_by
  simp_wf
  omega

/-- The content of a node after its properties; there need be none if there are properties. -/
def content (h : Handles) (place : Place) (p : Properties) (ts : List Token) :
    Lexed (Tree × List Token) :=
  match ts with
  | .scalar text plain :: rest => .ok (p.scalar text plain, rest)
  | .flowSequenceStart :: rest => do
    let (items, rest) ← flowItems h true rest
    return (.sequence p.anchor (p.tagOr .sequence) items, rest)
  | .flowMappingStart :: rest => do
    let (pairs, rest) ← flowPairs h true rest
    return (.mapping p.anchor (p.tagOr .mapping) pairs, rest)
  | .blockEntry :: rest =>
    if place.unindented then do
      let (items, rest) ← unindentedItems h (.blockEntry :: rest)
      return (.sequence p.anchor (p.tagOr .sequence) items, rest)
    else bare p (.blockEntry :: rest)
  | .blockSequenceStart :: rest =>
    if place.block then do
      let (items, rest) ← blockItems h rest
      return (.sequence p.anchor (p.tagOr .sequence) items, rest)
    else bare p (.blockSequenceStart :: rest)
  | .blockMappingStart :: rest =>
    if place.block then do
      let (pairs, rest) ← blockPairs h rest
      return (.mapping p.anchor (p.tagOr .mapping) pairs, rest)
    else bare p (.blockMappingStart :: rest)
  | ts => bare p ts
termination_by (ts.length, 1)
where
  /-- A node that has no content. -/
  bare (p : Properties) (ts : List Token) : Lexed (Tree × List Token) :=
    if p.anchor.isNone && p.tag.isNone then refuse ts else .ok (p.scalar [] true, ts)

/-- A node, or nothing in front of one of the tokens that tell that it is left out. -/
def nodeUnless (stops : Token → Bool) (h : Handles) (place : Place) (ts : List Token) :
    Lexed (Tree × List Token) :=
  match ts with
  | t :: rest => if stops t then .ok (empty, t :: rest) else node h place (t :: rest)
  | [] => .error .malformed
termination_by (ts.length, 3)

/-- The entries of an indented block sequence, and its end. -/
def blockItems (h : Handles) (ts : List Token) : Lexed (List Tree × List Token) :=
  match ts with
  | .blockEntry :: rest => do
    let (item, next) ← nodeUnless (fun t => t == .blockEntry || t == .blockEnd) h ⟨true, false⟩ rest
    if _fewer : next.length < rest.length + 1 then
      let (items, last) ← blockItems h next
      return (item :: items, last)
    else throw .malformed
  | .blockEnd :: rest => .ok ([], rest)
  | ts => refuse ts
termination_by (ts.length, 0)

/-- The entries of a block sequence that is not indented; it ends where no entry follows. -/
def unindentedItems (h : Handles) (ts : List Token) : Lexed (List Tree × List Token) :=
  match ts with
  | .blockEntry :: rest => do
    let stops (t : Token) : Bool := t == .blockEntry || t == .key || t == .value || t == .blockEnd
    let (item, next) ← nodeUnless stops h ⟨true, false⟩ rest
    if _fewer : next.length < rest.length + 1 then
      let (items, last) ← unindentedItems h next
      return (item :: items, last)
    else throw .malformed
  | ts => .ok ([], ts)
termination_by (ts.length, 0)

/-- The entries of a block mapping, and its end. -/
def blockPairs (h : Handles) (ts : List Token) : Lexed (List (Tree × Tree) × List Token) :=
  match ts with
  | .key :: rest => do
    let stops (t : Token) : Bool := t == .key || t == .value || t == .blockEnd
    let (key, next) ← nodeUnless stops h ⟨true, true⟩ rest
    if _fewer : next.length < rest.length + 1 then
      let (value, next') ← valueAfter stops h ⟨true, true⟩ next
      if _fewer : next'.length < rest.length + 1 then
        let (pairs, last) ← blockPairs h next'
        return ((key, value) :: pairs, last)
      else throw .malformed
    else throw .malformed
  | .blockEnd :: rest => .ok ([], rest)
  | ts => refuse ts
termination_by (ts.length, 0)

/-- The value that follows a key, if a colon is there. -/
def valueAfter (stops : Token → Bool) (h : Handles) (place : Place) (ts : List Token) :
    Lexed (Tree × List Token) :=
  match ts with
  | .value :: rest => nodeUnless stops h place rest
  | ts => .ok (empty, ts)
termination_by (ts.length, 4)

/-- The entries of a flow sequence, and its end.  A pair among them is a mapping of its own. -/
def flowItems (h : Handles) (first : Bool) (ts : List Token) : Lexed (List Tree × List Token) :=
  match ts with
  | .flowSequenceEnd :: rest => .ok ([], rest)
  | ts =>
    match flowGap first ts with
    | .error e => .error e
    | .ok n =>
      match _entry : ts.drop n with
      | .flowSequenceEnd :: rest => .ok ([], rest)
      | .key :: rest => do
        let stops (t : Token) : Bool := t == .flowEntry || t == .flowSequenceEnd
        let (key, next) ← nodeUnless (fun t => t == .value || stops t) h ⟨false, false⟩ rest
        if _fewer : next.length < ts.length then
          let (value, next') ← valueAfter stops h ⟨false, false⟩ next
          if _fewer : next'.length < ts.length then
            let (items, last) ← flowItems h false next'
            return (.mapping none .mapping [(key, value)] :: items, last)
          else throw .malformed
        else throw .malformed
      | entry => do
        let (item, next) ← node h ⟨false, false⟩ entry
        if _fewer : next.length < ts.length then
          let (items, last) ← flowItems h false next
          return (item :: items, last)
        else throw .malformed
termination_by (ts.length, 5)
decreasing_by
  all_goals try have h := congrArg List.length _entry
  all_goals try simp only [List.length_drop, List.length_cons] at h
  all_goals omega

/-- The entries of a flow mapping, and its end. -/
def flowPairs (h : Handles) (first : Bool) (ts : List Token) :
    Lexed (List (Tree × Tree) × List Token) :=
  match ts with
  | .flowMappingEnd :: rest => .ok ([], rest)
  | ts =>
    match flowGap first ts with
    | .error e => .error e
    | .ok n =>
      match _entry : ts.drop n with
      | .flowMappingEnd :: rest => .ok ([], rest)
      | .key :: rest => do
        let stops (t : Token) : Bool := t == .flowEntry || t == .flowMappingEnd
        let (key, next) ← nodeUnless (fun t => t == .value || stops t) h ⟨false, false⟩ rest
        if _fewer : next.length < ts.length then
          let (value, next') ← valueAfter stops h ⟨false, false⟩ next
          if _fewer : next'.length < ts.length then
            let (pairs, last) ← flowPairs h false next'
            return ((key, value) :: pairs, last)
          else throw .malformed
        else throw .malformed
      | entry => do
        let (key, next) ← node h ⟨false, false⟩ entry
        if _fewer : next.length < ts.length then
          let (pairs, last) ← flowPairs h false next
          return ((key, empty) :: pairs, last)
        else throw .malformed
termination_by (ts.length, 5)
decreasing_by
  all_goals try have h := congrArg List.length _entry
  all_goals try simp only [List.length_drop, List.length_cons] at h
  all_goals omega

end

/-! ## Documents -/

/-- Whether a token stands outside the content of documents. -/
def isOutside : Token → Bool
  | .directive _ => true
  | .documentStart => true
  | .documentEnd => true
  | _ => false

/-- Nothing but the ends of documents.  Of another document the directives are read before it is
refused. -/
def nothingLeft (ts : List Token) : Lexed Unit :=
  match ts.dropWhile (· == .documentEnd) with
  | [] => .ok ()
  | rest => do
    let (_, rest) ← directives false [] rest
    refuse rest

/-- The content of a document, after which nothing may be left. -/
def lastDocument (h : Handles) (ts : List Token) : Lexed Tree := do
  let (t, rest) ← node h ⟨true, false⟩ ts
  nothingLeft rest
  return t

/-- A document that begins with a mark, in front of which directives may stand. -/
def markedDocument (ts : List Token) : Lexed Tree := do
  match ← directives false [] ts with
  | (h, .documentStart :: ts) =>
    if ts.head?.all isOutside then do
      nothingLeft ts
      return empty
    else lastDocument h ts
  | (_, ts) => refuse ts

/-- The tree of the only document, if there is one. -/
def ofTokens (ts : List Token) : Lexed (Option Tree) :=
  match checkAnchors [] ts with
  | [] => .ok none
  | .directive d :: ts => (markedDocument (.directive d :: ts)).map some
  | .documentStart :: ts => (markedDocument (.documentStart :: ts)).map some
  | ts => (lastDocument Handles.standard ts).map some

end Tree

end Formwork.Yaml
