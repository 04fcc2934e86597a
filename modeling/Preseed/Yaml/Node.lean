import Preseed.Yaml.Token

/-!
# Nodes of a YAML document

The tree that the tokens of one document describe. Anchors are numbered in the order of the text, and an
alias refers to the last node that was given its number.
-/

namespace Preseed.Yaml

/-- The anchor and the tag in front of a node. -/
structure Properties where
  anchor : Option String := none
  tag : Option String := none
  deriving DecidableEq, Repr, Inhabited

/-- A node as it is written. -/
inductive Node where
  | scalar (properties : Properties) (style : ScalarStyle) (text : String)
  | sequence (properties : Properties) (items : List Node)
  | mapping (properties : Properties) (entries : List (Node × Node))
  /-- Refers to the node with a number. -/
  | alias (target : Nat)
  deriving Inhabited

namespace Node

/-- A node that nothing was written for. -/
def empty : Node := .scalar {} .plain ""

def isAlias : Node → Bool
  | .alias _ => true
  | _ => false

mutual

/-- How many events a node consists of: a scalar and an alias are one, and a collection has one at its
start and one at its end. -/
def events : Node → Nat
  | .scalar .. | .alias _ => 1
  | .sequence _ items => itemEvents items + 2
  | .mapping _ entries => entryEvents entries + 2

def itemEvents : List Node → Nat
  | [] => 0
  | n :: rest => events n + itemEvents rest

def entryEvents : List (Node × Node) → Nat
  | [] => 0
  | e :: rest => pairEvents e + entryEvents rest

def pairEvents : Node × Node → Nat
  | (k, v) => events k + events v

end

end Node

/-- A node that aliases may refer to: its number, and how many anchors were met before its own. -/
structure Anchored where
  number : Nat
  order : Nat
  node : Node
  deriving Inhabited

/-- What has been met while reading a document: the tag handles in force, the numbers of the anchors'
names, the count of anchors, and the finished nodes with anchors. -/
structure Reader where
  handles : List (String × String) := []
  anchors : List (String × Nat) := []
  met : Nat := 0
  nodes : List Anchored := []
  deriving Inhabited

namespace Reader

/-- The text that a tag's handle stands for. -/
def handle? (r : Reader) (name : String) : Option String :=
  match r.handles.lookup name with
  | some text => some text
  | none =>
    if name = "!" then some "!"
    else if name = "!!" then some "tag:yaml.org,2002:"
    else none

def tag? (r : Reader) (handle suffix : String) : Option String :=
  if handle.isEmpty then some suffix else (r.handle? handle).map (· ++ suffix)

/-- Gives an anchor its number: the count of the names that were known before. The second number is the
anchor's place among all anchors. -/
def anchor (r : Reader) : Option String → Reader × Option (Nat × Nat)
  | none => (r, none)
  | some name =>
    let n := r.anchors.length
    ({ r with anchors := (name, n) :: r.anchors.filter (·.1 != name), met := r.met + 1 },
      some (n, r.met))

/-- Remembers the finished node of an anchor. -/
def keep (r : Reader) (place : Option (Nat × Nat)) (node : Node) : Reader :=
  match place with
  | none => r
  | some (number, order) => { r with nodes := ⟨number, order, node⟩ :: r.nodes }

/-- Reads the anchor and the tag before a node, in either order. -/
def properties? (r : Reader) : List Token → Option (Properties × List Token)
  | .anchor a :: .tag h s :: rest => (r.tag? h s).map fun t => (⟨some a, some t⟩, rest)
  | .tag h s :: .anchor a :: rest => (r.tag? h s).map fun t => (⟨some a, some t⟩, rest)
  | .anchor a :: rest => some (⟨some a, none⟩, rest)
  | .tag h s :: rest => (r.tag? h s).map fun t => (⟨none, some t⟩, rest)
  | rest => some ({}, rest)

/-- The tag of a scalar; `!` alone says nothing. -/
def scalarProperties (p : Properties) : Properties :=
  if p.tag = some "!" then { p with tag := none } else p

/-- Where a node stands: what may begin there and what counts as nothing written. -/
inductive Place where
  /-- The root of a document. -/
  | root
  /-- An entry of a block sequence. -/
  | entry
  /-- A key or a value of a block mapping, where a sequence need not be indented. -/
  | pair
  /-- An entry of a flow collection. -/
  | flow
  deriving DecidableEq, Repr

def Place.isBlock : Place → Bool
  | .flow => false
  | _ => true

/-- Something read, the tokens after it, and what has been met. Nodes are read by fuel: every node, entry
and pair costs one, and there are fewer of them than thrice the tokens. -/
abbrev After (α : Type) := α × List Token × Reader

/-- Reads a pair's value behind its key: nothing is written when `stop` holds of the next token. -/
def afterValue (stop : Token → Bool) (r : Reader) (ts : List Token)
    (read : List Token → Reader → Option (After Node)) : Option (After Node) :=
  match ts with
  | .value :: ts =>
    match ts with
    | [] => none
    | t :: _ => if stop t then some (.empty, ts, r) else read ts r
  | _ => some (.empty, ts, r)

def stopsFlowEntry (t : Token) : Bool :=
  t == .flowEntry || t == .flowSequenceEnd

def stopsFlowPair (t : Token) : Bool :=
  t == .flowEntry || t == .flowMappingEnd

def stopsPair (t : Token) : Bool :=
  t == .key || t == .value || t == .blockEnd

def stopsEntry (t : Token) : Bool :=
  t == .blockEntry || t == .blockEnd

def stopsBareEntry (t : Token) : Bool :=
  t == .blockEntry || t == .key || t == .value || t == .blockEnd

/-- Past the comma between two entries of a flow collection. -/
def separated? : List Token → Option (List Token)
  | .flowEntry :: ts => some ts
  | _ => none

mutual

/-- Reads one node. -/
def node? (fuel : Nat) (place : Place) (r : Reader) (ts : List Token) : Option (After Node) :=
  match fuel with
  | 0 => none
  | fuel + 1 =>
    match ts with
    | .alias name :: ts => (r.anchors.lookup name).map fun n => (.alias n, ts, r)
    | ts => do
      let (p, ts) ← r.properties? ts
      let (r, number) := r.anchor p.anchor
      let finish (node : Node) (ts : List Token) (r : Reader) : Option (After Node) :=
        some (node, ts, r.keep number node)
      match ts with
      | .blockEntry :: _ =>
        if place = .pair then
          let (items, ts, r) ← bareEntries? fuel r ts
          finish (.sequence p items) ts r
        else if p = {} then none
        else finish (.scalar p .plain "") ts r
      | .scalar text style :: ts => finish (.scalar (scalarProperties p) style text) ts r
      | .flowSequence :: ts =>
        let (items, ts, r) ← flowEntries? fuel true r ts
        finish (.sequence p items) ts r
      | .flowMapping :: ts =>
        let (entries, ts, r) ← flowPairs? fuel true r ts
        finish (.mapping p entries) ts r
      | .blockSequence :: ts' =>
        if place.isBlock then
          let (items, ts, r) ← blockEntries? fuel r ts'
          finish (.sequence p items) ts r
        else if p = {} then none
        else finish (.scalar p .plain "") ts r
      | .blockMapping :: ts' =>
        if place.isBlock then
          let (entries, ts, r) ← blockPairs? fuel r ts'
          finish (.mapping p entries) ts r
        else if p = {} then none
        else finish (.scalar p .plain "") ts r
      | ts => if p = {} then none else finish (.scalar p .plain "") ts r

/-- Reads the entries of a block sequence and its end. -/
def blockEntries? (fuel : Nat) (r : Reader) (ts : List Token) : Option (After (List Node)) :=
  match fuel with
  | 0 => none
  | fuel + 1 =>
    match ts with
    | .blockEntry :: t :: ts => do
      let (item, ts, r) ←
        if stopsEntry t then some (.empty, t :: ts, r) else node? fuel .entry r (t :: ts)
      let (items, ts, r) ← blockEntries? fuel r ts
      some (item :: items, ts, r)
    | .blockEnd :: ts => some ([], ts, r)
    | _ => none

/-- Reads the entries of a sequence that is not indented more than its key. -/
def bareEntries? (fuel : Nat) (r : Reader) (ts : List Token) : Option (After (List Node)) :=
  match fuel with
  | 0 => none
  | fuel + 1 =>
    match ts with
    | .blockEntry :: t :: ts => do
      let (item, ts, r) ←
        if stopsBareEntry t then some (.empty, t :: ts, r) else node? fuel .entry r (t :: ts)
      let (items, ts, r) ← bareEntries? fuel r ts
      some (item :: items, ts, r)
    | [.blockEntry] => none
    | ts => some ([], ts, r)

/-- Reads the pairs of a block mapping and its end. -/
def blockPairs? (fuel : Nat) (r : Reader) (ts : List Token) : Option (After (List (Node × Node))) :=
  match fuel with
  | 0 => none
  | fuel + 1 =>
    match ts with
    | .key :: t :: ts => do
      let (k, ts, r) ←
        if stopsPair t then some (.empty, t :: ts, r) else node? fuel .pair r (t :: ts)
      let (v, ts, r) ← afterValue stopsPair r ts fun ts r => node? fuel .pair r ts
      let (entries, ts, r) ← blockPairs? fuel r ts
      some ((k, v) :: entries, ts, r)
    | .blockEnd :: ts => some ([], ts, r)
    | _ => none

/-- Reads the entries of a flow sequence and its end. An entry may be a single pair. -/
def flowEntries? (fuel : Nat) (first : Bool) (r : Reader) (ts : List Token) : Option (After (List Node)) :=
  match fuel with
  | 0 => none
  | fuel + 1 =>
    match ts with
    | .flowSequenceEnd :: ts => some ([], ts, r)
    | ts => do
      let ts ← if first then some ts else separated? ts
      match ts with
      | .flowSequenceEnd :: ts => some ([], ts, r)
      | .key :: t :: ts => do
        let (k, ts, r) ←
          if t == .value || stopsFlowEntry t then some (.empty, ts, r)
          else node? fuel .flow r (t :: ts)
        let (v, ts, r) ← afterValue stopsFlowEntry r ts fun ts r => node? fuel .flow r ts
        let (items, ts, r) ← flowEntries? fuel false r ts
        some (.mapping {} [(k, v)] :: items, ts, r)
      | ts => do
        let (item, ts, r) ← node? fuel .flow r ts
        let (items, ts, r) ← flowEntries? fuel false r ts
        some (item :: items, ts, r)

/-- Reads the pairs of a flow mapping and its end. -/
def flowPairs? (fuel : Nat) (first : Bool) (r : Reader) (ts : List Token) :
    Option (After (List (Node × Node))) :=
  match fuel with
  | 0 => none
  | fuel + 1 =>
    match ts with
    | .flowMappingEnd :: ts => some ([], ts, r)
    | ts => do
      let ts ← if first then some ts else separated? ts
      match ts with
      | .flowMappingEnd :: ts => some ([], ts, r)
      | .key :: t :: ts => do
        let (k, ts, r) ←
          if t == .value || stopsFlowPair t then some (.empty, t :: ts, r)
          else node? fuel .flow r (t :: ts)
        let (v, ts, r) ← afterValue stopsFlowPair r ts fun ts r => node? fuel .flow r ts
        let (entries, ts, r) ← flowPairs? fuel false r ts
        some ((k, v) :: entries, ts, r)
      | ts => do
        let (k, ts, r) ← node? fuel .flow r ts
        let (entries, ts, r) ← flowPairs? fuel false r ts
        some ((k, .empty) :: entries, ts, r)

end

end Reader

/-- One document: its root, none when the text holds nothing, and the nodes that aliases refer to. -/
structure Document where
  root : Option Node
  nodes : List Anchored := []
  deriving Inhabited

namespace Document

/-- The node that an alias refers to: of those with its number the one whose anchor stands last. -/
def target? (d : Document) (number : Nat) : Option Node :=
  ((d.nodes.filter (·.number == number)).foldl (fun best a =>
    match best with
    | some (b : Anchored) => if a.order < b.order then some b else some a
    | none => some a) none).map (·.node)

/-- How many aliases may be followed while the document's data is read. -/
def aliasLimit (d : Document) : Nat :=
  100 * d.root.elim 0 Node.events

/-- Reads the directives before a document: at most one version, which is 1.1 or 1.2, and no handle
twice. -/
def directives? (versioned : Bool) (handles : List (String × String)) :
    List Token → Option (List (String × String) × List Token)
  | .version major minor :: ts =>
    if versioned || major != 1 || (minor != 1 && minor != 2) then none
    else directives? true handles ts
  | .handle name leading :: ts =>
    if (handles.lookup name).isSome then none
    else directives? versioned ((name, leading) :: handles) ts
  | ts => some (handles, ts)

/-- Whether only ends of documents are left. -/
def isFinished (ts : List Token) : Bool :=
  ts.all (· == .documentEnd)

def ofRoot? (handles : List (String × String)) (ts : List Token) : Option Document := do
  let (root, ts, r) ← Reader.node? (3 * ts.length + 3) .root { handles } ts
  if isFinished ts then some { root := some root, nodes := r.nodes } else none

def ofTokens? (ts : List Token) : Option Document :=
  match ts with
  | [] => some { root := none }
  | .version .. :: _ | .handle .. :: _ | .documentStart :: _ => do
    let (handles, ts) ← directives? false [] ts
    match ts with
    | .documentStart :: ts =>
      if isFinished ts then some { root := some .empty } else ofRoot? handles ts
    | _ => none
  | ts => ofRoot? [] ts

/-- The document that a text holds; none when the text is not one well-formed document. -/
def ofText? (text : String) : Option Document :=
  (Token.ofText? text.toList).bind ofTokens?

end Document

end Preseed.Yaml
