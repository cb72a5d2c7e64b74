/-
Nodes of YAML documents. A document is a scalar, a sequence or a mapping; an alias stands for
the node that its anchor marks. A text holds one document.

Each reader takes the tokens that are left and returns a node with the tokens behind it. Nodes
take tokens or end a level, so twice the number of tokens is fuel enough.
-/
import Gatewatch.Yaml.Token

namespace Gatewatch.Yaml

/-- A node. Scalars keep how they were written, and the tag that they were given. An alias
inside the node that its anchor marks stands for no value of its own. -/
inductive Node where
  | scalar (text : String) (style : Style) (tag : Option String)
  | seq (items : List Node)
  | map (entries : List (Node × Node))
  | inside

/-- An empty plain scalar. -/
def Node.empty : Node := .scalar "" .plain none

/-- The marked nodes, the latest first. A node is marked where it starts. -/
abbrev Anchors := List (String × Node)

/-- What a reader returns: a node, the tokens behind it and the marked nodes. -/
abbrev Step := Node × List Token × Anchors

/-- The full text of a tag. -/
def tagText (handle suffix : String) : String :=
  if handle = "!!" then "tag:yaml.org,2002:" ++ suffix else handle ++ suffix

/-- The anchor and the tag before a node, in any order. -/
def readProperties : List Token → Option String × Option String × List Token
  | .anchor a :: .tag h s :: rest => (some a, some (tagText h s), rest)
  | .tag h s :: .anchor a :: rest => (some a, some (tagText h s), rest)
  | .anchor a :: rest => (some a, none, rest)
  | .tag h s :: rest => (none, some (tagText h s), rest)
  | rest => (none, none, rest)

/-- Whether a handle is known without a declaration. -/
def knownTags : List Token → Bool
  | .tag h _ :: rest => (h = "" || h = "!" || h = "!!") && knownTags rest
  | _ :: rest => knownTags rest
  | [] => true

/-- Whether the first token is one of some. -/
def startsWith (ends : List Token) (ts : List Token) : Bool :=
  match ts with
  | [] => true
  | t :: _ => ends.contains t

mutual

/-- Reads a node. `block` allows blocks, and `bare` a block sequence that is not deeper than
the mapping around it. -/
def readNode (block bare : Bool) : Nat → Anchors → List Token → Option Step
  | 0, _, _ => none
  | fuel + 1, anchors, ts =>
    match ts with
    | .alias name :: rest =>
      (anchors.find? (·.1 == name)).map fun found => (found.2, rest, anchors)
    | _ =>
      let (anchor, tag, ts') := readProperties ts
      let outer := anchors
      let anchors := match anchor with
        | some name => (name, .inside) :: outer
        | none => outer
      let marked (x : Option Step) : Option Step := do
        let (node, rest, anchors) ← x
        let anchors := match anchor with
          | some name => anchors.set (anchors.length - 1 - outer.length) (name, node)
          | none => anchors
        return (node, rest, anchors)
      match ts' with
      | .blockEntry :: _ =>
        if bare then marked (readBare fuel [] anchors ts')
        else if ts'.length < ts.length then marked (some (.scalar "" .plain tag, ts', anchors))
        else none
      | .scalar text style :: rest => marked (some (.scalar text style tag, rest, anchors))
      | .flowSeq :: rest => marked (readFlowSeq true fuel [] anchors rest)
      | .flowMap :: rest => marked (readFlowMap true fuel [] anchors rest)
      | .blockSeq :: rest =>
        if block then marked (readBlockSeq fuel [] anchors rest) else none
      | .blockMap :: rest =>
        if block then marked (readBlockMap fuel [] anchors rest) else none
      | _ =>
        if ts'.length < ts.length then marked (some (.scalar "" .plain tag, ts', anchors))
        else none
termination_by fuel => fuel

/-- Reads a node, or an empty one where some tokens end the place for it. -/
def readOr (ends : List Token) (block bare : Bool) :
    Nat → Anchors → List Token → Option Step
  | 0, _, _ => none
  | fuel + 1, anchors, ts =>
    if startsWith ends ts then some (.empty, ts, anchors)
    else readNode block bare fuel anchors ts
termination_by fuel => fuel

/-- Reads the entries of a block sequence; `done` holds those before, the latest first. -/
def readBlockSeq : Nat → List Node → Anchors → List Token → Option Step
  | 0, _, _, _ => none
  | fuel + 1, done, anchors, ts =>
    match ts with
    | .blockEntry :: rest => do
      let (item, rest, anchors) ←
        readOr [.blockEntry, .blockEnd] true false fuel anchors rest
      readBlockSeq fuel (item :: done) anchors rest
    | .blockEnd :: rest => some (.seq done.reverse, rest, anchors)
    | _ => none
termination_by fuel => fuel

/-- Reads the entries of a block sequence that is not deeper than the mapping around it. -/
def readBare : Nat → List Node → Anchors → List Token → Option Step
  | 0, _, _, _ => none
  | fuel + 1, done, anchors, ts =>
    match ts with
    | .blockEntry :: rest => do
      let (item, rest, anchors) ←
        readOr [.blockEntry, .key, .value, .blockEnd] true false fuel anchors rest
      readBare fuel (item :: done) anchors rest
    | _ => some (.seq done.reverse, ts, anchors)
termination_by fuel => fuel

/-- Reads the entries of a block mapping. -/
def readBlockMap : Nat → List (Node × Node) → Anchors → List Token → Option Step
  | 0, _, _, _ => none
  | fuel + 1, done, anchors, ts =>
    match ts with
    | .key :: rest => do
      let ends : List Token := [.key, .value, .blockEnd]
      let (key, rest, anchors) ← readOr ends true true fuel anchors rest
      match rest with
      | .value :: rest =>
        let (value, rest, anchors) ← readOr ends true true fuel anchors rest
        readBlockMap fuel ((key, value) :: done) anchors rest
      | _ => readBlockMap fuel ((key, .empty) :: done) anchors rest
    | .blockEnd :: rest => some (.map done.reverse, rest, anchors)
    | _ => none
termination_by fuel => fuel

/-- Reads the entries of a sequence in brackets; `first` tells that none came before. An entry
that is marked as a key is a mapping of its own. -/
def readFlowSeq (first : Bool) : Nat → List Node → Anchors → List Token → Option Step
  | 0, _, _, _ => none
  | fuel + 1, done, anchors, ts =>
    let ts? := match ts, first with
      | .flowSeqEnd :: _, _ => some ts
      | .flowEntry :: rest, false => some rest
      | _, true => some ts
      | _, _ => none
    match ts? with
    | none => none
    | some (.flowSeqEnd :: rest) => some (.seq done.reverse, rest, anchors)
    | some (.key :: rest) => do
      let (key, rest, anchors) ←
        readOr [.value, .flowEntry, .flowSeqEnd] false false fuel anchors rest
      match rest with
      | .value :: rest =>
        let (value, rest, anchors) ←
          readOr [.flowEntry, .flowSeqEnd] false false fuel anchors rest
        readFlowSeq false fuel (.map [(key, value)] :: done) anchors rest
      | _ => readFlowSeq false fuel (.map [(key, .empty)] :: done) anchors rest
    | some ts => do
      let (item, rest, anchors) ← readNode false false fuel anchors ts
      readFlowSeq false fuel (item :: done) anchors rest
termination_by fuel => fuel

/-- Reads the entries of a mapping in braces. -/
def readFlowMap (first : Bool) :
    Nat → List (Node × Node) → Anchors → List Token → Option Step
  | 0, _, _, _ => none
  | fuel + 1, done, anchors, ts =>
    let ts? := match ts, first with
      | .flowMapEnd :: _, _ => some ts
      | .flowEntry :: rest, false => some rest
      | _, true => some ts
      | _, _ => none
    match ts? with
    | none => none
    | some (.flowMapEnd :: rest) => some (.map done.reverse, rest, anchors)
    | some (.key :: rest) => do
      let (key, rest, anchors) ←
        readOr [.value, .flowEntry, .flowMapEnd] false false fuel anchors rest
      match rest with
      | .value :: rest =>
        let (value, rest, anchors) ←
          readOr [.flowEntry, .flowMapEnd] false false fuel anchors rest
        readFlowMap false fuel ((key, value) :: done) anchors rest
      | _ => readFlowMap false fuel ((key, .empty) :: done) anchors rest
    | some ts => do
      let (key, rest, anchors) ← readNode false false fuel anchors ts
      readFlowMap false fuel ((key, .empty) :: done) anchors rest
termination_by fuel => fuel

end

/-- What a text holds: nothing, or one document. -/
inductive Document where
  | none
  | one (root : Node)

/-- Whether a token is the end of a document. -/
def isDocumentEnd : Token → Bool
  | .documentEnd => true
  | _ => false

/-- Reads the document of a text. It starts by itself or behind a mark; nothing but marks of
its end may follow. -/
def Document.read? (text : String) : Option Document := do
  let ts ← tokens? text
  guard (knownTags ts)
  let fuel := 2 * ts.length + 4
  let finish (x : Option Step) : Option Document := do
    let (root, rest, _) ← x
    guard (rest.all isDocumentEnd)
    return .one root
  let marked (ts : List Token) : Option Document :=
    finish (readOr [.directive, .documentStart, .documentEnd] true false fuel [] ts)
  match ts with
  | [] => return .none
  | .directive :: _ =>
    match ts.dropWhile (· == .directive) with
    | .documentStart :: rest => marked rest
    | _ => Option.none
  | .documentStart :: rest => marked rest
  | _ => finish (readNode true false fuel [] ts)

end Gatewatch.Yaml
