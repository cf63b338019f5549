import HeaderAudit.Yaml.Node

/-!
# Reading YAML

The nodes of a document as one value. They are made level by level from the root on, a scalar when the
collection around it is, so that of several faults the one nearest to the root counts, and of those the
first. Merge keys are replaced by the pairs that they bring in.
-/

namespace HeaderAudit.Yaml

/-- What has been made of a node. -/
inductive Made where
  | value (v : Value)
  | list (items : List Nat)
  | map (pairs : List (Nat × Nat))
  | set (pairs : List (Nat × Nat))
  /-- A list of pairs. -/
  | pairs (pairs : List (Nat × Nat))

/-- Collections cannot be keys. -/
def Made.isHashable : Made → Bool
  | value _ => true
  | _ => false

/-- The nodes, what has been made of them, and the collections whose contents are still to be made. -/
structure MakeState where
  nodes : Array Node
  made : Array (Option Made)
  waiting : List Nat

abbrev Make := StateT MakeState (Except Error)

namespace Make

def refuse {α : Type} (problem : String) : Make α := throw (.malformed problem.toList)

def nodeAt (id : Nat) : Make Node := do
  match (← get).nodes[id]? with
  | some node => pure node
  | none => refuse "no such node"

def madeOf? (id : Nat) : Make (Option Made) := do
  pure ((← get).made[id]?.getD none)

def put (id : Nat) (made : Made) : Make Unit :=
  modify fun s => { s with made := s.made.setIfInBounds id (some made) }

def setPairs (id : Nat) (pairs : List (Nat × Nat)) : Make Unit :=
  modify fun s => { s with nodes := s.nodes.modify id fun
    | .mapping tag _ => .mapping tag pairs
    | other => other }

/-- The text of a mapping in the place of a scalar stands under its default key. -/
def defaultSpelling : Nat → List (Nat × Nat) → Make Spelling
  | 0, _ => refuse "nested too deeply"
  | steps + 1, pairs => do
    match ← pairs.findM? fun (key, _) => do pure ((← nodeAt key).tag = .defaultValue) with
    | none => refuse "expected a scalar node"
    | some (_, value) =>
      match ← nodeAt value with
      | .scalar _ spelling => pure spelling
      | .mapping _ pairs => defaultSpelling steps pairs
      | .sequence _ _ => refuse "expected a scalar node"

/-- A collection without its contents, which are made later. -/
def emptyOf? : Tag → Option Made
  | .seq => some (.list [])
  | .map => some (.map [])
  | .set => some (.set [])
  | .omap | .pairs => some (.pairs [])
  | _ => none

/-- The value of a scalar, or of a collection whose tag is that of a scalar. -/
def scalarOf (id : Nat) (node : Node) : Make Value := do
  match node with
  | .scalar tag spelling => Value.ofScalar tag spelling id
  | .sequence .merge _ | .sequence .defaultValue _ | .sequence .unknown _ | .mapping .merge _
  | .mapping .defaultValue _ | .mapping .unknown _ =>
    refuse "could not determine a constructor for the tag"
  | .sequence _ _ => refuse "expected a scalar node"
  | .mapping tag pairs =>
    let spelling ← defaultSpelling ((← get).nodes.size + 1) pairs
    if tag = .timestamp then throw (.scalar .mappingAsTimestamp)
    Value.ofScalar tag spelling id

/-- Makes a node, once. -/
def begin (id : Nat) : Make Unit := do
  if (← madeOf? id).isSome then return
  let node ← nodeAt id
  match emptyOf? node.tag with
  | some empty =>
    put id empty
    modify fun s => { s with waiting := s.waiting ++ [id] }
  | none => put id (.value (← scalarOf id node))

/-- Replaces the merge keys of a mapping, one after another, by the pairs that they bring in; these come
before the others. Default keys are taken for texts. -/
def flatten : Nat → List (Nat × Nat) → Nat → Make Unit
  | 0, _, _ => pure ()
  | steps + 1, brought, id => do
    let .mapping _ pairs ← nodeAt id | refuse "expected a mapping for merging"
    let nodes := (← get).nodes
    let isMerge (pair : Nat × Nat) : Bool := nodes[pair.1]?.any (·.tag = .merge)
    match pairs.dropWhile (!isMerge ·) with
    | [] =>
      setPairs id (brought ++ pairs)
      pairs.forM fun (key, _) => modify fun s => { s with nodes := s.nodes.modify key fun
        | .scalar .defaultValue spelling => .scalar .str spelling
        | .sequence .defaultValue items => .sequence .str items
        | .mapping .defaultValue pairs => .mapping .str pairs
        | other => other }
    | (_, source) :: rest =>
      setPairs id (pairs.takeWhile (!isMerge ·) ++ rest)
      let pairsOf (id : Nat) : Make (List (Nat × Nat)) := do
        let .mapping _ _ ← nodeAt id | refuse "expected a mapping for merging"
        flatten steps [] id
        let .mapping _ pairs ← nodeAt id | refuse "expected a mapping for merging"
        pure pairs
      let more ← match ← nodeAt source with
        | .sequence _ items => do
          let lists ← items.mapM pairsOf
          pure lists.reverse.flatten
        | _ => pairsOf source
      flatten steps (brought ++ more) id

/-- Makes the keys and the values of pairs. -/
def makePairs (pairs : List (Nat × Nat)) : Make Unit :=
  pairs.forM fun (key, value) => do
    begin key
    if !(← madeOf? key).any (·.isHashable) then refuse "found unhashable key"
    begin value

/-- An item of a list of pairs, which must be written as a mapping of one pair. -/
def makeSinglePair (id : Nat) : Make (Nat × Nat) := do
  match ← nodeAt id with
  | .mapping _ [(key, value)] =>
    begin key
    begin value
    pure (key, value)
  | _ => refuse "expected a mapping of length 1"

/-- There are no more merge keys than pairs. -/
def mergeBound (nodes : Array Node) : Nat :=
  nodes.foldl (fun count node => match node with
    | .mapping _ pairs => count + pairs.length
    | _ => count) 1

def flatPairs (id : Nat) : Make (List (Nat × Nat)) := do
  flatten (mergeBound (← get).nodes) [] id
  match ← nodeAt id with
  | .mapping _ pairs => pure pairs
  | _ => refuse "expected a mapping node"

/-- Makes the contents of a collection. -/
def finish (id : Nat) : Make Unit := do
  match ← nodeAt id with
  | .sequence .seq items =>
    items.forM begin
    put id (.list items)
  | .sequence .omap items | .sequence .pairs items => put id (.pairs (← items.mapM makeSinglePair))
  | .mapping .map _ =>
    let pairs ← flatPairs id
    makePairs pairs
    put id (.map pairs)
  | .mapping .set _ =>
    let pairs ← flatPairs id
    makePairs pairs
    put id (.set pairs)
  | node =>
    if node.tag = .map ∨ node.tag = .set then refuse "expected a mapping node"
    else refuse "expected a sequence node"

/-- Every collection waits once. -/
def finishAll : Nat → Make Unit
  | 0 => pure ()
  | steps + 1 => do
    match (← get).waiting with
    | [] => pure ()
    | id :: rest =>
      modify fun s => { s with waiting := rest }
      finish id
      finishAll steps

def document (root : Nat) : Make Unit := do
  begin root
  finishAll ((← get).nodes.size + 1)

end Make

/-- What has been made of a node as a value. Each collection is gone into once more from within it, so
that a part which holds the whole is a value by itself. -/
def valueAt (made : Array (Option Made)) : Nat → List Nat → Nat → Value
  | 0, _, _ => .within
  | steps + 1, around, id =>
    if 2 ≤ around.count id then .within
    else
      let sub := valueAt made steps (id :: around)
      match made[id]?.getD none with
      | none => .null
      | some (.value v) => v
      | some (.list items) => .list (items.map sub)
      | some (.map pairs) => .map (pairs.map fun (key, value) => (sub key, sub value))
      | some (.set pairs) => .set (pairs.map fun (key, value) => (sub key, sub value))
      | some (.pairs pairs) => .list (pairs.map fun (key, value) => .pair (sub key) (sub value))

def read (t : Text) : Except Error Value := do
  if !t.all isAllowed then unreadable "special characters are not allowed"
  let tokens := Token.ofText t
  let (root, composed) ←
    (Compose.document (2 * tokens.length + 8)).run ⟨tokens, #[], [], Compose.defaultHandles⟩
  match root with
  | none => .ok .null
  | some root =>
    let nodes := composed.nodes
    let (_, result) ← (Make.document root).run ⟨nodes, nodes.map fun _ => none, []⟩
    .ok (valueAt result.made (2 * nodes.size + 1) [] root)

end HeaderAudit.Yaml
