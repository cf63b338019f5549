import HeaderAudit.Yaml.Scalar

/-!
# Nodes

The tokens of a text as a graph. Each scalar, list and mapping is a node with a number, and what holds
it or refers to it has that number; so a collection may hold itself.
-/

namespace HeaderAudit.Yaml

inductive Node where
  | scalar (tag : Tag) (spelling : Spelling)
  | sequence (tag : Tag) (items : List Nat)
  | mapping (tag : Tag) (pairs : List (Nat × Nat))
  deriving Repr

def Node.tag : Node → Tag
  | scalar tag _ | sequence tag _ | mapping tag _ => tag

/-- What is left of the tokens, the nodes so far, and the names that some of them have. -/
structure ComposeState where
  tokens : List Token
  nodes : Array Node
  anchors : List (Text × Nat)
  handles : List (Text × Text)

abbrev Compose := StateT ComposeState (Except Error)

namespace Compose

def refuse {α : Type} (problem : String) : Compose α := throw (.malformed problem.toList)

def peek : Compose Token := do
  match (← get).tokens with
  | [] => pure .streamEnd
  | .fault e :: _ => throw e
  | token :: _ => pure token

def skip : Compose Unit := modify fun s => { s with tokens := s.tokens.tail }

def add (node : Node) : Compose Nat := do
  let id := (← get).nodes.size
  modify fun s => { s with nodes := s.nodes.push node }
  pure id

def fill (id : Nat) (node : Node) : Compose Unit :=
  modify fun s => { s with nodes := s.nodes.setIfInBounds id node }

def defaultHandles : List (Text × Text) := [("!", "!"), ("!!", standardTags)]

/-- The full name of a tag; a lone exclamation mark names none. -/
def tagName (mark : TagMark) : Compose Text := do
  match mark.handle with
  | none => pure mark.suffix
  | some handle =>
    match (← get).handles.find? (·.1 = handle) with
    | some (_, start) => pure (start ++ mark.suffix)
    | none => refuse "found undefined tag handle"

/-- The anchor and the tag in front of a node, in either order. -/
def properties : Compose (Option Text × Option Text) := do
  match ← peek with
  | .anchor name =>
    skip
    match ← peek with
    | .tag mark => skip; pure (some name, some (← tagName mark))
    | _ => pure (some name, none)
  | .tag mark =>
    skip
    match ← peek with
    | .anchor name => skip; pure (some name, some (← tagName mark))
    | _ => pure (none, some (← tagName mark))
  | _ => pure (none, none)

def checkAnchor (anchor : Option Text) : Compose Unit := do
  if let some name := anchor then
    if (← get).anchors.any (·.1 = name) then refuse "found duplicate anchor"

/-- A new node, under the name in front of it. -/
def addNamed (anchor : Option Text) (node : Node) : Compose Nat := do
  let id ← add node
  if let some name := anchor then
    modify fun s => { s with anchors := (name, id) :: s.anchors }
  pure id

def referTo (name : Text) : Compose Nat := do
  match (← get).anchors.find? (·.1 = name) with
  | some (_, id) => pure id
  | none => refuse "found undefined alias"

/-- The kind of a collection, which a tag can change. -/
def collectionTag (own : Tag) (tag : Option Text) : Tag :=
  match tag with
  | some name => if name = ['!'] then own else Tag.ofName name
  | none => own

def scalarTag (mark : ScalarMark) (tag : Option Text) : Tag :=
  match tag with
  | none => if mark.isPlain then Tag.ofPlain mark.spelling.text else .str
  | some name => if name = ['!'] then Tag.ofPlain mark.spelling.text else Tag.ofName name

def addScalar (anchor tag : Option Text) (mark : ScalarMark) : Compose Nat :=
  addNamed anchor (.scalar (scalarTag mark tag) mark.spelling)

def emptyMark : ScalarMark := ⟨.ofText [], true⟩

/-- The node of what has been left out. -/
def addEmpty : Compose Nat := addScalar none none emptyMark

mutual

/-- Reads a node. In a block, a list may begin without being indented further. -/
def node : Nat → Bool → Bool → Compose Nat
  | 0, _, _ => refuse "nested too deeply"
  | steps + 1, inBlock, listAtKey => do
    if let .alias name ← peek then
      skip
      return ← referTo name
    let (anchor, tag) ← properties
    let token ← peek
    checkAnchor anchor
    -- A collection has its number before its contents have theirs: they may refer to it.
    let sequence (items : Compose (List Nat)) : Compose Nat := do
      let tag := collectionTag .seq tag
      let id ← addNamed anchor (.sequence tag [])
      fill id (.sequence tag (← items))
      pure id
    let mapping (pairs : Compose (List (Nat × Nat))) : Compose Nat := do
      let tag := collectionTag .map tag
      let id ← addNamed anchor (.mapping tag [])
      fill id (.mapping tag (← pairs))
      pure id
    match token, inBlock, listAtKey with
    | .blockEntry, _, true => sequence (keyItems steps)
    | .scalar mark, _, _ => skip; addScalar anchor tag mark
    | .flowSequenceStart, _, _ => skip; sequence (flowItems steps true)
    | .flowMappingStart, _, _ => skip; mapping (flowPairs steps true)
    | .blockSequenceStart, true, _ => skip; sequence (blockItems steps)
    | .blockMappingStart, true, _ => skip; mapping (blockPairs steps)
    | _, _, _ =>
      if anchor.isSome ∨ tag.isSome then addScalar anchor tag emptyMark
      else refuse "expected the node content"

/-- The items of a block list that is indented. -/
def blockItems : Nat → Compose (List Nat)
  | 0 => refuse "nested too deeply"
  | steps + 1 => do
    match ← peek with
    | .blockEntry =>
      skip
      let item ← match ← peek with
        | .blockEntry | .blockEnd => addEmpty
        | _ => node steps true false
      pure (item :: (← blockItems steps))
    | .blockEnd => skip; pure []
    | _ => refuse "expected <block end>"

/-- The items of a block list that stands at the column of its key. -/
def keyItems : Nat → Compose (List Nat)
  | 0 => refuse "nested too deeply"
  | steps + 1 => do
    match ← peek with
    | .blockEntry =>
      skip
      let item ← match ← peek with
        | .blockEntry | .key | .value | .blockEnd => addEmpty
        | _ => node steps true false
      pure (item :: (← keyItems steps))
    | _ => pure []

/-- A key or a value of a block mapping, behind its mark. -/
def blockSide : Nat → Compose Nat
  | 0 => refuse "nested too deeply"
  | steps + 1 => do
    match ← peek with
    | .key | .value | .blockEnd => addEmpty
    | _ => node steps true true

def blockPairs : Nat → Compose (List (Nat × Nat))
  | 0 => refuse "nested too deeply"
  | steps + 1 => do
    match ← peek with
    | .key =>
      skip
      let key ← blockSide steps
      let value ← match ← peek with
        | .value => skip; blockSide steps
        | _ => addEmpty
      pure ((key, value) :: (← blockPairs steps))
    | .blockEnd => skip; pure []
    | _ => refuse "expected <block end>"

/-- The items of a list in brackets; an item may be a single pair. -/
def flowItems : Nat → Bool → Compose (List Nat)
  | 0, _ => refuse "nested too deeply"
  | steps + 1, first => do
    if let .flowSequenceEnd ← peek then
      skip
      return []
    if !first then
      match ← peek with
      | .flowEntry => skip
      | _ => refuse "expected ',' or ']'"
    match ← peek with
    | .flowSequenceEnd => skip; pure []
    | .key =>
      skip
      let id ← add (.mapping .map [])
      let key ← match ← peek with
        | .value | .flowEntry | .flowSequenceEnd => addEmpty
        | _ => node steps false false
      let value ← flowValue steps
      fill id (.mapping .map [(key, value)])
      pure (id :: (← flowItems steps false))
    | _ =>
      let item ← node steps false false
      pure (item :: (← flowItems steps false))

def flowValue : Nat → Compose Nat
  | 0 => refuse "nested too deeply"
  | steps + 1 => do
    match ← peek with
    | .value =>
      skip
      match ← peek with
      | .flowEntry | .flowSequenceEnd | .flowMappingEnd => addEmpty
      | _ => node steps false false
    | _ => addEmpty

def flowPairs : Nat → Bool → Compose (List (Nat × Nat))
  | 0, _ => refuse "nested too deeply"
  | steps + 1, first => do
    if let .flowMappingEnd ← peek then
      skip
      return []
    if !first then
      match ← peek with
      | .flowEntry => skip
      | _ => refuse "expected ',' or a closing brace"
    match ← peek with
    | .flowMappingEnd => skip; pure []
    | .key =>
      skip
      let key ← match ← peek with
        | .value | .flowEntry | .flowMappingEnd => addEmpty
        | _ => node steps false false
      let value ← flowValue steps
      pure ((key, value) :: (← flowPairs steps false))
    | _ =>
      let key ← node steps false false
      let value ← addEmpty
      pure ((key, value) :: (← flowPairs steps false))

end

def directives : Nat → Bool → List (Text × Text) → Compose (List (Text × Text))
  | 0, _, handles => pure handles
  | steps + 1, versioned, handles => do
    match ← peek with
    | .versionDirective major =>
      if versioned then refuse "found duplicate YAML directive"
      if major ≠ 1 then refuse "found incompatible YAML document (version 1.* is required)"
      skip
      directives steps true handles
    | .tagDirective handle start =>
      if handles.any (·.1 = handle) then refuse "duplicate tag handle"
      skip
      directives steps versioned ((handle, start) :: handles)
    | .otherDirective => skip; directives steps versioned handles
    | _ => pure handles

def skipDocumentEnds : Nat → Compose Unit
  | 0 => pure ()
  | steps + 1 => do
    if let .documentEnd ← peek then
      skip
      skipDocumentEnds steps

/-- The document after its marks; nothing if another mark follows at once. -/
def content (steps : Nat) : Compose Nat := do
  match ← peek with
  | .versionDirective _ | .tagDirective _ _ | .otherDirective | .documentStart | .documentEnd
  | .streamEnd => addEmpty
  | _ => node steps true false

/-- The root of the one document of a stream; none if the stream is empty. -/
def document (steps : Nat) : Compose (Option Nat) := do
  let isExplicit := match ← peek with
    | .versionDirective _ | .tagDirective _ _ | .otherDirective | .documentStart => true
    | _ => false
  let root ← match ← peek with
    | .streamEnd => return none
    | _ =>
      if isExplicit then do
        let own ← directives steps false []
        modify fun s => { s with handles := own ++ defaultHandles }
        match ← peek with
        | .documentStart => skip; content steps
        | _ => refuse "expected '<document start>'"
      else node steps true false
  skipDocumentEnds steps
  match ← peek with
  | .streamEnd => pure (some root)
  | _ => refuse "expected a single document in the stream"

end Compose

end HeaderAudit.Yaml
