import HeaderAudit.Yaml.Reader

/-!
# Faults of scalars

Reading a text that is YAML fails if a scalar names no value.  Such a fault always comes from a scalar
of the text, or from one that is left out, under the tag that it has; the one exception is a mapping
that is taken for a timestamp.  What carries this through the two passes, from tokens to nodes and from
nodes to values, is that the scalars among the nodes are scalars of the text.
-/

namespace HeaderAudit.Yaml

variable {tokens : List Token}

/-! ## Scalars of a text -/

/-- A scalar of the text, or one that is left out. -/
def IsSpelled (tokens : List Token) (spelling : Spelling) : Prop :=
  spelling = .ofText [] ∨ ∃ mark, .scalar mark ∈ tokens ∧ mark.spelling = spelling

/-- What in a text names no value. -/
inductive NamesNoValue (tokens : List Token) : ScalarError → Prop where
  /-- An escape in quotes is for no character. -/
  | escape {cause : ScalarError} : .fault (.scalar cause) ∈ tokens → NamesNoValue tokens cause
  | scalar {spelling : Spelling} {tag : Tag} {place : Nat} {cause : ScalarError} :
      IsSpelled tokens spelling → Value.ofScalar tag spelling place = .error (.scalar cause) →
      NamesNoValue tokens cause
  | mapping : NamesNoValue tokens .mappingAsTimestamp

/-- The text is no YAML, or something in it names no value. -/
def IsDue (tokens : List Token) (e : Error) : Prop :=
  ∀ cause, e = .scalar cause → NamesNoValue tokens cause

theorem isDue_malformed (problem : Text) : IsDue tokens (.malformed problem) := by
  rintro cause ⟨⟩

theorem isDue_of_fault {e : Error} (he : .fault e ∈ tokens) : IsDue tokens e := by
  rintro cause rfl
  exact .escape he

theorem isDue_of_ofScalar {tag : Tag} {spelling : Spelling} {place : Nat} {e : Error}
    (hspelling : IsSpelled tokens spelling)
    (he : Value.ofScalar tag spelling place = .error e) : IsDue tokens e := by
  rintro cause rfl
  exact .scalar hspelling he

/-- If the node is a scalar, it is one of the text. -/
def Node.IsFrom (tokens : List Token) : Node → Prop
  | .scalar _ spelling => IsSpelled tokens spelling
  | _ => True

theorem isFrom_sequence (tag : Tag) (items : List Nat) :
    (Node.sequence tag items).IsFrom tokens := trivial

theorem isFrom_mapping (tag : Tag) (pairs : List (Nat × Nat)) :
    (Node.mapping tag pairs).IsFrom tokens := trivial

def AreFrom (tokens : List Token) (nodes : Array Node) : Prop :=
  ∀ (id : Nat) (node : Node), nodes[id]? = some node → node.IsFrom tokens

namespace AreFrom

variable {nodes : Array Node}

theorem push (hnodes : AreFrom tokens nodes) {node : Node} (hnode : node.IsFrom tokens) :
    AreFrom tokens (nodes.push node) := by
  intro id other hother
  rw [Array.getElem?_push] at hother
  split at hother
  · cases hother
    exact hnode
  · exact hnodes id other hother

theorem setIfInBounds (hnodes : AreFrom tokens nodes) (place : Nat) {node : Node}
    (hnode : node.IsFrom tokens) : AreFrom tokens (nodes.setIfInBounds place node) := by
  intro id other hother
  rw [Array.getElem?_setIfInBounds] at hother
  split at hother
  · split at hother
    · cases hother
      exact hnode
    · cases hother
  · exact hnodes id other hother

theorem modify (hnodes : AreFrom tokens nodes) (place : Nat) {f : Node → Node}
    (hf : ∀ node, node.IsFrom tokens → (f node).IsFrom tokens) :
    AreFrom tokens (nodes.modify place f) := by
  intro id other hother
  rw [Array.getElem?_modify] at hother
  split at hother
  · obtain ⟨node, hnode, rfl⟩ := Option.map_eq_some_iff.mp hother
    exact hf node (hnodes id node hnode)
  · exact hnodes id other hother

end AreFrom

/-! ## Steps that keep an invariant -/

/-- A step within the invariant stays within it and gives what is promised, or it fails with what is
granted. -/
def Yields {σ α : Type} (inv : σ → Prop) (granted : Error → Prop)
    (m : StateT σ (Except Error) α) (post : α → Prop) : Prop :=
  ∀ s, inv s → match m s with
    | .ok (a, s') => post a ∧ inv s'
    | .error e => granted e

namespace Yields

variable {σ α β : Type} {inv : σ → Prop} {granted : Error → Prop} {post : α → Prop}
  {post' : β → Prop} {m : StateT σ (Except Error) α} {k : α → StateT σ (Except Error) β}

theorem pure {a : α} (ha : post a) :
    Yields inv granted (pure a : StateT σ (Except Error) α) post := fun _ hs => ⟨ha, hs⟩

theorem throw {e : Error} (he : granted e) :
    Yields inv granted (throw e : StateT σ (Except Error) α) post := fun _ _ => he

theorem get : Yields inv granted (get : StateT σ (Except Error) σ) inv :=
  fun _ hs => ⟨hs, hs⟩

theorem modify {f : σ → σ} (hf : ∀ s, inv s → inv (f s)) :
    Yields inv granted (modify f : StateT σ (Except Error) PUnit) fun _ => True :=
  fun s hs => ⟨trivial, hf s hs⟩

theorem lift {x : Except Error α} (he : ∀ e, x = .error e → granted e) :
    Yields inv granted (StateT.lift x : StateT σ (Except Error) α) fun _ => True := by
  intro s hs
  cases x with
  | ok a => exact ⟨trivial, hs⟩
  | error e => exact he e rfl

theorem bind (hm : Yields inv granted m post)
    (hk : ∀ a, post a → Yields inv granted (k a) post') : Yields inv granted (m >>= k) post' := by
  intro s hs
  have hfirst := hm s hs
  have hbind : (m >>= k) s = (m s).bind fun p => k p.1 p.2 := rfl
  rw [hbind]
  cases hstep : m s with
  | error e =>
      rw [hstep] at hfirst
      exact hfirst
  | ok p =>
      rw [hstep] at hfirst
      exact hk p.1 hfirst.1 p.2 hfirst.2

theorem of_error (hm : Yields inv granted m post) {s : σ} (hs : inv s) {e : Error}
    (he : m.run s = .error e) : granted e := by
  have hfirst := hm s hs
  have hstep : m s = .error e := he
  rw [hstep] at hfirst
  exact hfirst

theorem of_ok (hm : Yields inv granted m post) {s s' : σ} (hs : inv s) {a : α}
    (ha : m.run s = .ok (a, s')) : post a ∧ inv s' := by
  have hfirst := hm s hs
  have hstep : m s = .ok (a, s') := ha
  rw [hstep] at hfirst
  exact hfirst

theorem forM {f : α → StateT σ (Except Error) PUnit} (items : List α)
    (hf : ∀ a, Yields inv granted (f a) fun _ => True) :
    Yields inv granted (items.forM f) fun _ => True := by
  induction items with
  | nil => exact pure trivial
  | cons a rest ih =>
      rw [List.forM]
      exact (hf a).bind fun _ _ => ih

theorem mapM {f : α → StateT σ (Except Error) β} (items : List α)
    (hf : ∀ a, Yields inv granted (f a) fun _ => True) :
    Yields inv granted (items.mapM f) fun _ => True := by
  induction items with
  | nil => exact pure trivial
  | cons a rest ih =>
      rw [List.mapM_cons]
      exact (hf a).bind fun _ _ => ih.bind fun _ _ => pure trivial

theorem findM? {p : α → StateT σ (Except Error) Bool} (items : List α)
    (hp : ∀ a, Yields inv granted (p a) fun _ => True) :
    Yields inv granted (items.findM? p) fun _ => True := by
  induction items with
  | nil => exact pure trivial
  | cons a rest ih =>
      rw [List.findM?]
      refine (hp a).bind fun found _ => ?_
      cases found with
      | true => exact pure trivial
      | false => exact ih

end Yields

/-! ## From tokens to nodes -/

structure ComposeState.IsFrom (tokens : List Token) (s : ComposeState) : Prop where
  nodes : AreFrom tokens s.nodes
  ahead : ∀ token ∈ s.tokens, token ∈ tokens

def Composes (tokens : List Token) {α : Type} (m : Compose α) : Prop :=
  Yields (ComposeState.IsFrom tokens) (IsDue tokens) m fun _ => True

namespace Composes

theorem refuse {α : Type} (problem : String) :
    Composes tokens (Compose.refuse problem : Compose α) :=
  .throw (isDue_malformed _)

theorem peek : Yields (ComposeState.IsFrom tokens) (IsDue tokens) Compose.peek
    fun token => ∀ mark, token = .scalar mark → .scalar mark ∈ tokens := by
  rw [Compose.peek]
  refine Yields.get.bind fun s hs => ?_
  split
  · exact .pure (by simp)
  · next e rest htokens => exact .throw (isDue_of_fault (hs.ahead _ (by simp [htokens])))
  · next token rest _ htokens =>
    refine .pure ?_
    rintro mark rfl
    exact hs.ahead _ (by simp [htokens])

theorem skip : Composes tokens Compose.skip :=
  .modify fun _ hs => ⟨hs.nodes, fun token htoken => hs.ahead token (List.mem_of_mem_tail htoken)⟩

theorem add {node : Node} (hnode : node.IsFrom tokens) : Composes tokens (Compose.add node) :=
  Yields.get.bind fun _ _ =>
    (Yields.modify fun _ hs => ⟨hs.nodes.push hnode, hs.ahead⟩).bind fun _ _ => .pure trivial

theorem fill (id : Nat) {node : Node} (hnode : node.IsFrom tokens) :
    Composes tokens (Compose.fill id node) :=
  .modify fun _ hs => ⟨hs.nodes.setIfInBounds id hnode, hs.ahead⟩

theorem tagName (mark : TagMark) : Composes tokens (Compose.tagName mark) := by
  rw [Compose.tagName]
  split
  · exact .pure trivial
  · refine Yields.get.bind fun s _ => ?_
    split
    · exact .pure trivial
    · exact refuse _

theorem properties : Composes tokens Compose.properties := by
  rw [Compose.properties]
  refine peek.bind fun token _ => ?_
  split
  · refine skip.bind fun _ _ => peek.bind fun token _ => ?_
    split
    · exact skip.bind fun _ _ => (tagName _).bind fun _ _ => .pure trivial
    · exact .pure trivial
  · refine skip.bind fun _ _ => peek.bind fun token _ => ?_
    split
    · exact skip.bind fun _ _ => (tagName _).bind fun _ _ => .pure trivial
    · exact (tagName _).bind fun _ _ => .pure trivial
  · exact .pure trivial

theorem checkAnchor (anchor : Option Text) : Composes tokens (Compose.checkAnchor anchor) := by
  cases anchor with
  | none => exact .pure trivial
  | some name =>
      refine Yields.get.bind fun s _ => ?_
      split
      · exact refuse _
      · exact .pure trivial

theorem addNamed (anchor : Option Text) {node : Node} (hnode : node.IsFrom tokens) :
    Composes tokens (Compose.addNamed anchor node) := by
  rw [Compose.addNamed]
  refine (add hnode).bind fun id _ => ?_
  split
  · exact (Yields.modify fun _ hs => ⟨hs.nodes, hs.ahead⟩).bind fun _ _ => .pure trivial
  · exact .pure trivial

theorem referTo (name : Text) : Composes tokens (Compose.referTo name) := by
  rw [Compose.referTo]
  refine Yields.get.bind fun s _ => ?_
  split
  · exact .pure trivial
  · exact refuse _

theorem addScalar (anchor tag : Option Text) {mark : ScalarMark}
    (hmark : IsSpelled tokens mark.spelling) : Composes tokens (Compose.addScalar anchor tag mark) :=
  addNamed anchor hmark

theorem addEmpty : Composes tokens Compose.addEmpty := addScalar none none (.inl rfl)

/-- A collection is a node before its contents are, and it is filled with them afterwards. -/
theorem collection {α : Type} (anchor : Option Text) {empty : Node} {filled : α → Node}
    (hempty : empty.IsFrom tokens) (hfilled : ∀ a, (filled a).IsFrom tokens) {contents : Compose α}
    (hcontents : Composes tokens contents) : Composes tokens (do
      let id ← Compose.addNamed anchor empty
      Compose.fill id (filled (← contents))
      pure id) :=
  (addNamed anchor hempty).bind fun id _ => hcontents.bind fun a _ =>
    (fill id (hfilled a)).bind fun _ _ => .pure trivial

theorem refusedIf {α : Type} {c : Prop} [Decidable c] {next : Unit → Compose α}
    (hnext : ∀ r, Composes tokens (next r)) (problem : String) :
    Composes tokens (if c then do next (← Compose.refuse problem) else next ()) := by
  split
  · exact (refuse problem).bind fun r _ => hnext r
  · exact hnext ()

/-- What comes behind a comma, or at once if it comes first. -/
theorem separated {α : Type} {next : Unit → Compose α} (hnext : ∀ r, Composes tokens (next r))
    (problem : String) : Composes tokens (do
      match ← Compose.peek with
      | .flowEntry => next (← Compose.skip)
      | _ => next (← Compose.refuse problem)) := by
  refine peek.bind fun token _ => ?_
  split
  · exact skip.bind fun r _ => hnext r
  · exact (refuse problem).bind fun r _ => hnext r

/-- The readers of nodes, with so many steps to go. -/
structure With (tokens : List Token) (steps : Nat) : Prop where
  node : ∀ inBlock listAtKey, Composes tokens (Compose.node steps inBlock listAtKey)
  blockItems : Composes tokens (Compose.blockItems steps)
  keyItems : Composes tokens (Compose.keyItems steps)
  blockSide : Composes tokens (Compose.blockSide steps)
  blockPairs : Composes tokens (Compose.blockPairs steps)
  flowItems : ∀ first, Composes tokens (Compose.flowItems steps first)
  flowValue : Composes tokens (Compose.flowValue steps)
  flowPairs : ∀ first, Composes tokens (Compose.flowPairs steps first)

variable {steps : Nat}

theorem node_succ (ih : With tokens steps) (inBlock listAtKey : Bool) :
    Composes tokens (Compose.node (steps + 1) inBlock listAtKey) := by
  rw [Compose.node]
  refine peek.bind fun token _ => ?_
  split
  · exact skip.bind fun _ _ => referTo _
  · refine properties.bind fun (anchor, tag) _ => peek.bind fun token htoken =>
      (checkAnchor anchor).bind fun _ _ => ?_
    dsimp only
    split
    · exact collection _ (isFrom_sequence _ _) (isFrom_sequence _) ih.keyItems
    · exact skip.bind fun _ _ => addScalar _ _ (.inr ⟨_, htoken _ rfl, rfl⟩)
    · exact skip.bind fun _ _ =>
        collection _ (isFrom_sequence _ _) (isFrom_sequence _) (ih.flowItems true)
    · exact skip.bind fun _ _ =>
        collection _ (isFrom_mapping _ _) (isFrom_mapping _) (ih.flowPairs true)
    · exact skip.bind fun _ _ =>
        collection _ (isFrom_sequence _ _) (isFrom_sequence _) ih.blockItems
    · exact skip.bind fun _ _ =>
        collection _ (isFrom_mapping _ _) (isFrom_mapping _) ih.blockPairs
    · split
      · exact addScalar _ _ (.inl rfl)
      · exact refuse _

theorem blockItems_succ (ih : With tokens steps) :
    Composes tokens (Compose.blockItems (steps + 1)) := by
  have hrest (item : Nat) : Composes tokens (do pure (item :: (← Compose.blockItems steps))) :=
    ih.blockItems.bind fun _ _ => .pure trivial
  rw [Compose.blockItems]
  refine peek.bind fun token _ => ?_
  split
  · refine skip.bind fun _ _ => peek.bind fun token _ => ?_
    split
    · exact addEmpty.bind fun item _ => hrest item
    · exact addEmpty.bind fun item _ => hrest item
    · exact (ih.node true false).bind fun item _ => hrest item
  · exact skip.bind fun _ _ => .pure trivial
  · exact refuse _

theorem keyItems_succ (ih : With tokens steps) :
    Composes tokens (Compose.keyItems (steps + 1)) := by
  have hrest (item : Nat) : Composes tokens (do pure (item :: (← Compose.keyItems steps))) :=
    ih.keyItems.bind fun _ _ => .pure trivial
  rw [Compose.keyItems]
  refine peek.bind fun token _ => ?_
  split
  · refine skip.bind fun _ _ => peek.bind fun token _ => ?_
    split
    case h_5 => exact (ih.node true false).bind fun item _ => hrest item
    all_goals exact addEmpty.bind fun item _ => hrest item
  · exact .pure trivial

theorem blockSide_succ (ih : With tokens steps) :
    Composes tokens (Compose.blockSide (steps + 1)) := by
  rw [Compose.blockSide]
  refine peek.bind fun token _ => ?_
  split
  case h_4 => exact ih.node true true
  all_goals exact addEmpty

theorem blockPairs_succ (ih : With tokens steps) :
    Composes tokens (Compose.blockPairs (steps + 1)) := by
  have hrest (key value : Nat) :
      Composes tokens (do pure ((key, value) :: (← Compose.blockPairs steps))) :=
    ih.blockPairs.bind fun _ _ => .pure trivial
  rw [Compose.blockPairs]
  refine peek.bind fun token _ => ?_
  split
  · refine skip.bind fun _ _ => ih.blockSide.bind fun key _ => peek.bind fun token _ => ?_
    split
    · exact skip.bind fun _ _ => ih.blockSide.bind fun value _ => hrest key value
    · exact addEmpty.bind fun value _ => hrest key value
  · exact skip.bind fun _ _ => .pure trivial
  · exact refuse _

theorem flowItems_succ (ih : With tokens steps) (first : Bool) :
    Composes tokens (Compose.flowItems (steps + 1) first) := by
  have hpair (id key : Nat) : Composes tokens (do
      let value ← Compose.flowValue steps
      Compose.fill id (.mapping .map [(key, value)])
      pure (id :: (← Compose.flowItems steps false))) :=
    ih.flowValue.bind fun _ _ => (fill id (isFrom_mapping _ _)).bind fun _ _ =>
      (ih.flowItems false).bind fun _ _ => .pure trivial
  rw [Compose.flowItems]
  refine peek.bind fun token _ => ?_
  split
  · exact skip.bind fun _ _ => .pure trivial
  · extract_lets next
    have hnext (r : Unit) : Composes tokens (next r) := by
      refine peek.bind fun token _ => ?_
      split
      · exact skip.bind fun _ _ => .pure trivial
      · refine skip.bind fun _ _ => (add (isFrom_mapping _ _)).bind fun id _ =>
          peek.bind fun token _ => ?_
        split
        case h_4 => exact (ih.node false false).bind fun key _ => hpair id key
        all_goals exact addEmpty.bind fun key _ => hpair id key
      · exact (ih.node false false).bind fun _ _ => (ih.flowItems false).bind fun _ _ =>
          .pure trivial
    split
    · exact separated hnext _
    · exact hnext ()

theorem flowValue_succ (ih : With tokens steps) :
    Composes tokens (Compose.flowValue (steps + 1)) := by
  rw [Compose.flowValue]
  refine peek.bind fun token _ => ?_
  split
  · refine skip.bind fun _ _ => peek.bind fun token _ => ?_
    split
    case h_4 => exact ih.node false false
    all_goals exact addEmpty
  · exact addEmpty

theorem flowPairs_succ (ih : With tokens steps) (first : Bool) :
    Composes tokens (Compose.flowPairs (steps + 1) first) := by
  rw [Compose.flowPairs]
  refine peek.bind fun token _ => ?_
  split
  · exact skip.bind fun _ _ => .pure trivial
  · extract_lets pair next
    have hpair (key : Nat) : Composes tokens (pair key) :=
      ih.flowValue.bind fun _ _ => (ih.flowPairs false).bind fun _ _ => .pure trivial
    have hnext (r : Unit) : Composes tokens (next r) := by
      refine peek.bind fun token _ => ?_
      split
      · exact skip.bind fun _ _ => .pure trivial
      · refine skip.bind fun _ _ => peek.bind fun token _ => ?_
        split
        case h_4 => exact (ih.node false false).bind fun key _ => hpair key
        all_goals exact addEmpty.bind fun key _ => hpair key
      · exact (ih.node false false).bind fun _ _ => addEmpty.bind fun _ _ =>
          (ih.flowPairs false).bind fun _ _ => .pure trivial
    split
    · exact separated hnext _
    · exact hnext ()

theorem within (steps : Nat) : With tokens steps := by
  induction steps with
  | zero =>
      refine ⟨fun inBlock listAtKey => ?_, ?_, ?_, ?_, ?_, fun first => ?_, ?_, fun first => ?_⟩
      · exact refuse _
      · exact refuse _
      · exact refuse _
      · exact refuse _
      · exact refuse _
      · exact refuse _
      · exact refuse _
      · exact refuse _
  | succ steps ih =>
      exact ⟨node_succ ih, blockItems_succ ih, keyItems_succ ih, blockSide_succ ih,
        blockPairs_succ ih, flowItems_succ ih, flowValue_succ ih, flowPairs_succ ih⟩

theorem directives (steps : Nat) (versioned : Bool) (handles : List (Text × Text)) :
    Composes tokens (Compose.directives steps versioned handles) := by
  induction steps generalizing versioned handles with
  | zero => exact .pure trivial
  | succ steps ih =>
      rw [Compose.directives]
      refine peek.bind fun token _ => ?_
      split
      · extract_lets skipped checked
        have hskipped (r : Unit) : Composes tokens (skipped r) := skip.bind fun _ _ => ih _ _
        have hchecked (r : Unit) : Composes tokens (checked r) := refusedIf hskipped _
        exact refusedIf hchecked _
      · exact refusedIf (fun _ => skip.bind fun _ _ => ih _ _) _
      · exact skip.bind fun _ _ => ih _ _
      · exact .pure trivial

theorem skipDocumentEnds (steps : Nat) : Composes tokens (Compose.skipDocumentEnds steps) := by
  induction steps with
  | zero => exact .pure trivial
  | succ steps ih =>
      rw [Compose.skipDocumentEnds]
      refine peek.bind fun token _ => ?_
      split
      · exact skip.bind fun _ _ => ih
      · exact .pure trivial

theorem content (steps : Nat) : Composes tokens (Compose.content steps) := by
  rw [Compose.content]
  refine peek.bind fun token _ => ?_
  split
  case h_7 => exact (within steps).node true false
  all_goals exact addEmpty

theorem document (steps : Nat) : Composes tokens (Compose.document steps) := by
  rw [Compose.document]
  refine peek.bind fun token _ => ?_
  extract_lets isExplicit ended
  have hended (root : Nat) : Composes tokens (ended root) := by
    refine (skipDocumentEnds steps).bind fun _ _ => peek.bind fun token _ => ?_
    split
    · exact .pure trivial
    · exact refuse _
  refine peek.bind fun token _ => ?_
  split
  · exact .pure trivial
  · split
    · refine (directives _ _ _).bind fun own _ =>
        (Yields.modify fun _ hs => ⟨hs.nodes, hs.ahead⟩).bind fun _ _ => peek.bind fun token _ => ?_
      split
      · exact skip.bind fun _ _ => (content steps).bind fun root _ => hended root
      · exact (refuse _).bind fun root _ => hended root
    · exact ((within steps).node true false).bind fun root _ => hended root

end Composes

/-! ## From nodes to values -/

def Makes (tokens : List Token) {α : Type} (m : Make α) (post : α → Prop) : Prop :=
  Yields (fun s => AreFrom tokens s.nodes) (IsDue tokens) m post

namespace Makes

theorem refuse {α : Type} {post : α → Prop} (problem : String) :
    Makes tokens (Make.refuse problem : Make α) post :=
  .throw (isDue_malformed _)

theorem nodeAt (id : Nat) : Makes tokens (Make.nodeAt id) (Node.IsFrom tokens) := by
  rw [Make.nodeAt]
  refine Yields.get.bind fun s hs => ?_
  split
  · next node hnode => exact .pure (hs id node hnode)
  · exact refuse _

theorem madeOf? (id : Nat) : Makes tokens (Make.madeOf? id) fun _ => True :=
  Yields.get.bind fun _ _ => .pure trivial

theorem put (id : Nat) (made : Made) : Makes tokens (Make.put id made) fun _ => True :=
  .modify fun _ hs => hs

theorem setPairs (id : Nat) (pairs : List (Nat × Nat)) :
    Makes tokens (Make.setPairs id pairs) fun _ => True := by
  refine .modify fun s hs => hs.modify id fun node hnode => ?_
  cases node with
  | mapping => exact trivial
  | _ => exact hnode

theorem defaultSpelling (steps : Nat) (pairs : List (Nat × Nat)) :
    Makes tokens (Make.defaultSpelling steps pairs) (IsSpelled tokens) := by
  induction steps generalizing pairs with
  | zero => exact refuse _
  | succ steps ih =>
      rw [Make.defaultSpelling]
      refine (Yields.findM? pairs fun (key, _) => (nodeAt key).bind fun _ _ => .pure trivial).bind
        fun found _ => ?_
      split
      · exact refuse _
      · refine (nodeAt _).bind fun node hnode => ?_
        split
        · exact .pure hnode
        · exact ih _
        · exact refuse _

theorem ofScalar (tag : Tag) {spelling : Spelling} (place : Nat)
    (hspelling : IsSpelled tokens spelling) :
    Makes tokens (Value.ofScalar tag spelling place) fun _ => True :=
  .lift fun _ he => isDue_of_ofScalar hspelling he

theorem scalarOf (id : Nat) {node : Node} (hnode : node.IsFrom tokens) :
    Makes tokens (Make.scalarOf id node) fun _ => True := by
  unfold Make.scalarOf
  split
  case h_1 => exact ofScalar _ _ hnode
  case h_9 tag pairs _ _ _ =>
    refine Yields.get.bind fun s _ => (defaultSpelling _ pairs).bind fun spelling hspelling => ?_
    extract_lets value
    have hvalue (r : Unit) : Makes tokens (value r) fun _ => True := ofScalar tag id hspelling
    split
    · refine (Yields.throw ?_).bind fun r (_ : True) => hvalue r
      rintro cause ⟨⟩
      exact .mapping
    · exact hvalue ()
  all_goals exact refuse _

theorem begin (id : Nat) : Makes tokens (Make.begin id) fun _ => True := by
  rw [Make.begin]
  refine (madeOf? id).bind fun made _ => ?_
  split
  · exact .pure trivial
  · refine (nodeAt id).bind fun node hnode => ?_
    split
    · exact (put _ _).bind fun _ _ => .modify fun _ hs => hs
    · exact (scalarOf id hnode).bind fun _ _ => put _ _

theorem flatten (steps : Nat) (brought : List (Nat × Nat)) (id : Nat) :
    Makes tokens (Make.flatten steps brought id) fun _ => True := by
  induction steps generalizing brought id with
  | zero => exact .pure trivial
  | succ steps ih =>
      rw [Make.flatten]
      refine (nodeAt id).bind fun node _ => ?_
      split
      · refine Yields.get.bind fun s _ => ?_
        extract_lets nodes isMerge pairsOf continued
        have hpairsOf (id : Nat) : Makes tokens (pairsOf id) fun _ => True := by
          refine (nodeAt id).bind fun node _ => ?_
          split
          · refine (ih _ _).bind fun _ _ => (nodeAt id).bind fun node _ => ?_
            split
            · exact .pure trivial
            · exact refuse _
          · exact refuse _
        have hcontinued (more : List (Nat × Nat)) : Makes tokens (continued more) fun _ => True :=
          ih _ _
        split
        · refine (setPairs _ _).bind fun _ _ => .forM _ fun (key, _) => ?_
          refine .modify fun s hs => hs.modify key fun node hnode => ?_
          -- the tag is another, and the spelling is the same
          split
          · exact hnode
          · exact trivial
          · exact trivial
          · exact hnode
        · refine (setPairs _ _).bind fun _ _ => (nodeAt _).bind fun node _ => ?_
          split
          · exact (Yields.mapM _ hpairsOf).bind fun _ _ =>
              (Yields.pure trivial).bind fun more (_ : True) => hcontinued more
          · exact (hpairsOf _).bind fun more _ => hcontinued more
      · exact refuse _

theorem makePairs (pairs : List (Nat × Nat)) : Makes tokens (Make.makePairs pairs) fun _ => True := by
  refine .forM _ fun (key, value) => (begin key).bind fun _ _ => (madeOf? key).bind fun made _ => ?_
  extract_lets filled
  have hfilled (r : Unit) : Makes tokens (filled r) fun _ => True := begin value
  split
  · exact (refuse _).bind fun r (_ : True) => hfilled r
  · exact hfilled ()

theorem makeSinglePair (id : Nat) : Makes tokens (Make.makeSinglePair id) fun _ => True := by
  rw [Make.makeSinglePair]
  refine (nodeAt id).bind fun node _ => ?_
  split
  · exact (begin _).bind fun _ _ => (begin _).bind fun _ _ => .pure trivial
  · exact refuse _

theorem flatPairs (id : Nat) : Makes tokens (Make.flatPairs id) fun _ => True := by
  rw [Make.flatPairs]
  refine Yields.get.bind fun s _ => (flatten _ _ id).bind fun _ _ => (nodeAt id).bind fun node _ => ?_
  split
  · exact .pure trivial
  · exact refuse _

theorem finish (id : Nat) : Makes tokens (Make.finish id) fun _ => True := by
  rw [Make.finish]
  refine (nodeAt id).bind fun node _ => ?_
  split
  · exact (Yields.forM _ begin).bind fun _ _ => put _ _
  · exact (Yields.mapM _ makeSinglePair).bind fun _ _ => put _ _
  · exact (Yields.mapM _ makeSinglePair).bind fun _ _ => put _ _
  · exact (flatPairs id).bind fun pairs _ => (makePairs pairs).bind fun _ _ => put _ _
  · exact (flatPairs id).bind fun pairs _ => (makePairs pairs).bind fun _ _ => put _ _
  · split
    · exact refuse _
    · exact refuse _

theorem finishAll (steps : Nat) : Makes tokens (Make.finishAll steps) fun _ => True := by
  induction steps with
  | zero => exact .pure trivial
  | succ steps ih =>
      rw [Make.finishAll]
      refine Yields.get.bind fun s _ => ?_
      split
      · exact .pure trivial
      · refine Yields.bind ?_ fun _ (_ : True) => (finish _).bind fun _ _ => ih
        exact .modify fun _ hs => hs

theorem document (root : Nat) : Makes tokens (Make.document root) fun _ => True :=
  (begin root).bind fun _ _ => Yields.get.bind fun _ _ => finishAll _

end Makes

theorem bind_eq_error {ε α β : Type} {x : Except ε α} {f : α → Except ε β} {e : ε}
    (hbind : (x >>= f) = .error e) : x = .error e ∨ ∃ a, x = .ok a ∧ f a = .error e := by
  cases x with
  | error e' =>
      cases hbind
      exact .inl rfl
  | ok a => exact .inr ⟨a, rfl, hbind⟩

theorem isDue_of_read {t : Text} {e : Error} (hread : read t = .error e) :
    IsDue (Token.ofText t) e := by
  unfold read at hread
  split at hread
  · cases hread
    exact isDue_malformed _
  · have hstart : ComposeState.IsFrom (Token.ofText t)
        ⟨Token.ofText t, #[], [], Compose.defaultHandles⟩ := ⟨by simp [AreFrom], fun _ hmem => hmem⟩
    have hdocument := @Composes.document (Token.ofText t) (2 * (Token.ofText t).length + 8)
    rcases bind_eq_error hread with hcomposed | ⟨⟨root, s⟩, hcomposed, hread⟩
    · exact hdocument.of_error hstart hcomposed
    · obtain ⟨-, hs⟩ := hdocument.of_ok hstart hcomposed
      cases root with
      | none => cases hread
      | some root =>
          rcases bind_eq_error hread with hmade | ⟨⟨_, result⟩, -, hread⟩
          · exact (Makes.document root).of_error hs.nodes hmade
          · cases hread

/-- If a text that is YAML cannot be read, something in it names no value. -/
theorem namesNoValue_of_read {t : Text} {cause : ScalarError}
    (hread : read t = .error (.scalar cause)) : NamesNoValue (Token.ofText t) cause :=
  isDue_of_read hread cause rfl

end HeaderAudit.Yaml
