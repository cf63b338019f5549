import HeaderAudit.Proofs.DiskWrites
import HeaderAudit.Proofs.PrintableYaml
import HeaderAudit.Proofs.Utf8Decoding
import HeaderAudit.RuleFile.Basic

/-!
# Rules written and read back

A rule file is read back in four steps: it is found behind its path, its bytes are a text again, the
text is the document that was written, and the entries of the document are the rules.  Only the
third step rests on an assumption, that YAML reads what it has written.
-/

namespace HeaderAudit

/-- A rule that an entry can state; an empty id would be replaced and an empty pattern refused. -/
structure Rule.Storable (rule : Rule) : Prop where
  id_ne_nil : rule.id ≠ []
  pattern_ne_nil : rule.pattern ≠ []

/-! ## Comparing what is read with what was written -/

namespace Yaml.Tree

mutual

/-- The value is the one that the tree writes. -/
def isValue : Tree → Value → Bool
  | .text t, .text u => t = u
  | .list items, .list values => areItems items values
  | .map pairs, .map values => arePairs pairs values
  | _, _ => false

def areItems : List Tree → List Value → Bool
  | [], [] => true
  | item :: items, value :: values => isValue item value && areItems items values
  | _, _ => false

def arePairs : List (Text × Tree) → List (Value × Value) → Bool
  | [], [] => true
  | (key, tree) :: pairs, (.text t, value) :: values =>
      decide (key = t) && isValue tree value && arePairs pairs values
  | _, _ => false

end

mutual

theorem isValue_iff : ∀ (tree : Tree) (value : Value),
    tree.isValue value = true ↔ value = tree.toValue
  | .text t, value => by
      cases value with
      | text u => simp [isValue, toValue, eq_comm]
      | _ => simp [isValue, toValue]
  | .list items, value => by
      cases value with
      | list values => simp [isValue, toValue, areItems_iff items values]
      | _ => simp [isValue, toValue]
  | .map pairs, value => by
      cases value with
      | map values => simp [isValue, toValue, arePairs_iff pairs values]
      | _ => simp [isValue, toValue]

theorem areItems_iff : ∀ (items : List Tree) (values : List Value),
    areItems items values = true ↔ values = valuesOfItems items
  | [], values => by cases values <;> simp [areItems, valuesOfItems]
  | item :: items, values => by
      cases values with
      | nil => simp [areItems, valuesOfItems]
      | cons value values =>
          simp [areItems, valuesOfItems, isValue_iff item value, areItems_iff items values]

theorem arePairs_iff : ∀ (pairs : List (Text × Tree)) (values : List (Value × Value)),
    arePairs pairs values = true ↔ values = valuesOfPairs pairs
  | [], values => by cases values <;> simp [arePairs, valuesOfPairs]
  | (key, tree) :: pairs, values => by
      cases values with
      | nil => simp [arePairs, valuesOfPairs]
      | cons value values =>
          obtain ⟨name, value⟩ := value
          cases name with
          | text t =>
              simp [arePairs, valuesOfPairs, isValue_iff tree value, arePairs_iff pairs values,
                @eq_comm _ key t]
          | _ => simp [arePairs, valuesOfPairs]

end

end Yaml.Tree

theorem eq_ok_of_toOption {ε α : Type} {result : Except ε α} {a : α}
    (hresult : result.toOption = some a) : result = .ok a := by
  cases result with
  | ok b => rw [Option.some.inj hresult]
  | error e => cases hresult

namespace RuleFile

open Yaml (Value)

/-- Reading YAML undoes writing it, for the document of these rules. -/
def ReadsBack (rules : List Rule) : Prop :=
  Yaml.read (write rules) = .ok (.map (Yaml.Tree.valuesOfPairs (document rules)))

instance (rules : List Rule) : Decidable (ReadsBack rules) :=
  match hread : Yaml.read (write rules) with
  | .ok value =>
      decidable_of_iff ((Yaml.Tree.map (document rules)).isValue value = true) (by
        rw [ReadsBack, hread, Yaml.Tree.isValue_iff, Yaml.Tree.toValue, Except.ok.injEq])
  | .error _ => isFalse (by simp [ReadsBack, hread])

def statedText (rule : Rule) : EntryField → Text
  | .id => rule.id
  | .kind => rule.kind.name
  | .pattern => rule.pattern

def pairsOf (rule : Rule) : List (Value × Value) :=
  [EntryField.id, .kind, .pattern].map fun field =>
    (.text field.name, .text (statedText rule field))

def bytesOf (rules : List Rule) : List UInt8 := Text.encodeUtf8 (write rules)

/-- The file at the path is what is written for these rules. -/
def Contains (env : Environment) (path : Path) (rules : List Rule) (disk : Disk) : Prop :=
  ∃ file, path.expandHome env.home = some file ∧ disk.HasContent file (bytesOf rules)

/-- There is a file at the path that may be read. -/
def Readable (env : Environment) (path : Path) (disk : Disk) : Prop :=
  ∃ file bytes, path.expandHome env.home = some file ∧ disk.read file = .ok bytes

/-- Whatever rules are saved, the file takes them and may be read. -/
def Writable (env : Environment) (path : Path) (disk : Disk) : Prop :=
  ∀ rules, (save env path rules disk).2 = .ok () ∧
    Contains env path rules (save env path rules disk).1

variable {env : Environment} {path file : Path} {rules : List Rule} {disk disk' : Disk} {w : World}

/-! ## Writing -/

theorem save_of_deposit (hfile : path.expandHome env.home = some file)
    (hdeposit : disk.deposit file (bytesOf rules) = .ok disk') :
    save env path rules disk = (disk', .ok ()) := by
  obtain ⟨made, touched, hmade, htouched, hwritten⟩ := Disk.deposit_cases hdeposit
  rw [bytesOf] at hwritten
  simp [save, hfile, hmade, htouched, hwritten]

theorem deposit_of_save (hsave : (save env path rules disk).2 = .ok ()) :
    ∃ file, path.expandHome env.home = some file ∧
      disk.deposit file (bytesOf rules) = .ok (save env path rules disk).1 := by
  cases hfile : path.expandHome env.home with
  | none => simp [save, hfile] at hsave
  | some file =>
      cases hmade : disk.ensureDirectories file.root file.parent.names.reverse with
      | error e => simp [save, hfile, hmade] at hsave
      | ok made =>
          cases htouched : made.touch Disk.ownerOnly file with
          | error e => simp [save, hfile, hmade, htouched] at hsave
          | ok touched =>
              cases hwritten : touched.write file (Text.encodeUtf8 (write rules)) with
              | error e => simp [save, hfile, hmade, htouched, hwritten] at hsave
              | ok written =>
                  refine ⟨file, rfl, ?_⟩
                  simp [save, Disk.deposit, bytesOf, hfile, hmade, htouched, hwritten, bind,
                    Except.bind]

/-- What has been saved is in the file, as far as the file may be read. -/
theorem contains_save (hsave : (save env path rules disk).2 = .ok ())
    (hreadable : Readable env path (save env path rules disk).1) :
    Contains env path rules (save env path rules disk).1 := by
  obtain ⟨file, hfile, hdeposit⟩ := deposit_of_save hsave
  obtain ⟨file', bytes, hfile', hread⟩ := hreadable
  obtain rfl : file = file' := Option.some.inj (hfile.symm.trans hfile')
  exact ⟨file, hfile, Disk.hasContent_of_deposit hdeposit hread⟩

theorem Writable.save (hwritable : Writable env path disk) (rules : List Rule) :
    Writable env path (save env path rules disk).1 := by
  intro others
  obtain ⟨hsave, file, hfile, hthere⟩ := hwritable rules
  obtain ⟨file', hfile', hdeposit⟩ := deposit_of_save hsave
  obtain rfl : file = file' := Option.some.inj (hfile.symm.trans hfile')
  obtain ⟨again, hagain, hthereAgain⟩ := Disk.exists_deposit_of_deposit hdeposit (bytesOf others)
  rw [save_of_deposit hfile hagain]
  exact ⟨rfl, file, hfile, hthereAgain hthere⟩

/-! ## Reading -/

theorem unifyLineEnds_of_printable {t : Text} (ht : Yaml.Writer.Printable t) :
    unifyLineEnds t = t := by
  induction t with
  | nil => rfl
  | cons c rest ih =>
      obtain ⟨hc, hrest⟩ := Yaml.Writer.printable_cons.mp ht
      have hne : c ≠ '\r' := by
        rintro rfl
        revert hc
        decide
      rw [unifyLineEnds.eq_def]
      split
      · contradiction
      · rename_i heq
        exact absurd (List.cons.inj heq).1 hne
      · rename_i heq
        exact absurd (List.cons.inj heq).1 hne
      · rename_i heq
        obtain ⟨rfl, rfl⟩ := List.cons.inj heq
        rw [ih hrest]

theorem readKind_name (kind : RuleKind) : Entry.readKind (some (.text kind.name)) = .ok kind := by
  cases kind <;> rfl

theorem toValue_treeOf (rule : Rule) : (treeOf rule).toValue = .map (pairsOf rule) := rfl

theorem pairValue?_pairsOf (rule : Rule) (field : EntryField) :
    Value.pairValue? field.name (pairsOf rule) = some (.text (statedText rule field)) := by
  cases field <;> rfl

/-- An entry that was written for a rule has a fault only if the pattern is empty. -/
theorem ofPairs_pairsOf (rule : Rule) :
    Entry.ofPairs (pairsOf rule) =
      if rule.pattern = [] then .error [.emptyPattern]
      else .ok ⟨some rule.id, rule.kind, rule.pattern⟩ := by
  rw [Entry.ofPairs]
  simp only [pairValue?_pairsOf, statedText, readKind_name, Entry.readId, Entry.readText,
    Entry.readPattern, Except.map, bind, Except.bind, List.isEmpty_iff]
  by_cases hpattern : rule.pattern = []
  · simp only [if_pos hpattern]
    rfl
  · simp only [if_neg hpattern]

theorem pairsShowable_pairsOf (rule : Rule) : Entry.pairsShowable (pairsOf rule) = true := rfl

theorem ruleOf_stated {rule : Rule} (hid : rule.id ≠ []) (w : World) :
    ruleOf env ⟨some rule.id, rule.kind, rule.pattern⟩ w = (rule, w) := by
  have hown : Entry.ownId? ⟨some rule.id, rule.kind, rule.pattern⟩ = some rule.id := by
    simp [Entry.ownId?, hid]
  rw [ruleOf]
  simp only [hown]

/-- The rules among these that an entry with a pattern can state. -/
def withPattern (rules : List Rule) : List Rule := rules.filter fun rule => rule.pattern ≠ []

/-- The world after reading the entries of these rules: each one without a pattern is noted. -/
def notingEmptied (rules : List Rule) (w : World) : World :=
  rules.foldl (fun w rule => if rule.pattern = [] then w.note (.invalidRule 1) else w) w

theorem withPattern_eq_self (hrules : ∀ rule ∈ rules, rule.pattern ≠ []) :
    withPattern rules = rules := by
  rw [withPattern, List.filter_eq_self]
  simpa using hrules

theorem notingEmptied_eq_self (hrules : ∀ rule ∈ rules, rule.pattern ≠ []) (w : World) :
    notingEmptied rules w = w := by
  induction rules with
  | nil => rfl
  | cons rule rest ih =>
      rw [List.forall_mem_cons] at hrules
      rw [notingEmptied, List.foldl_cons, if_neg hrules.1]
      exact ih hrules.2

theorem rulesOf_items (hids : ∀ rule ∈ rules, rule.id ≠ []) (w : World) :
    rulesOf env (Yaml.Tree.valuesOfItems (rules.map treeOf)) w =
      (notingEmptied rules w, .ok (withPattern rules)) := by
  induction rules generalizing w with
  | nil => rfl
  | cons rule rest ih =>
      rw [List.forall_mem_cons] at hids
      have hrule := @ruleOf_stated env rule hids.1 w
      simp only [List.map_cons, Yaml.Tree.valuesOfItems, toValue_treeOf, rulesOf, ofPairs_pairsOf,
        pairsShowable_pairsOf]
      by_cases hpattern : rule.pattern = []
      · simp [hpattern, ih hids.2, notingEmptied, withPattern]
      · simp [hpattern, hrule, ih hids.2, notingEmptied, withPattern, Except.map]

theorem entriesOf_document (rules : List Rule) :
    entriesOf (.map (Yaml.Tree.valuesOfPairs (document rules))) =
      Yaml.Tree.valuesOfItems (rules.map treeOf) := rfl

theorem load_of_read {bytes : List UInt8} (hfile : path.expandHome env.home = some file)
    (hread : w.disk.read file = .ok bytes) :
    load env path w = rulesOfBytes env file.toText bytes w := by
  obtain ⟨node, hfind⟩ := Disk.exists_find_of_read hread
  rw [load]
  simp only [hfile, hfind, hread]

/-- Rules with ids that a file contains are read from it, unless they have no pattern. -/
theorem load_contained (hcontains : Contains env path rules w.disk) (hreads : ReadsBack rules)
    (hids : ∀ rule ∈ rules, rule.id ≠ []) :
    load env path w = (notingEmptied rules w, .ok (withPattern rules)) := by
  obtain ⟨file, hfile, hthere⟩ := hcontains
  have hprintable : Yaml.Writer.Printable (write rules) := Yaml.Writer.printable_write _
  rw [load_of_read hfile (Disk.hasContent_iff_read.mp hthere)]
  rw [rulesOfBytes, bytesOf, Text.decodeUtf8_encodeUtf8]
  simp only [unifyLineEnds_of_printable hprintable]
  rw [ReadsBack] at hreads
  simp only [hreads, entriesOf_document]
  exact rulesOf_items hids w

/-- Rules that can be stated are read from a file that contains them, and nothing is noted or made
up. -/
theorem load_of_contains (hcontains : Contains env path rules w.disk)
    (hreads : ReadsBack rules) (hrules : ∀ rule ∈ rules, rule.Storable) :
    load env path w = (w, .ok rules) := by
  have hpatterns : ∀ rule ∈ rules, rule.pattern ≠ [] := fun rule hrule =>
    (hrules rule hrule).pattern_ne_nil
  rw [load_contained hcontains hreads fun rule hrule => (hrules rule hrule).id_ne_nil,
    notingEmptied_eq_self hpatterns, withPattern_eq_self hpatterns]

/-- A file that has been written but may not be read gives no rules, which is noted. -/
theorem load_of_not_readable (hsave : (save env path rules disk).2 = .ok ())
    (hdisk : w.disk = (save env path rules disk).1) (hunreadable : ¬ Readable env path w.disk) :
    ∃ file, path.expandHome env.home = some file ∧
      load env path w = (w.note (.rulesUnreadable file.toText), .ok []) := by
  obtain ⟨file, hfile, hdeposit⟩ := deposit_of_save hsave
  obtain ⟨node, hfind⟩ := Disk.exists_find_of_deposit hdeposit
  rw [← hdisk] at hfind
  refine ⟨file, hfile, ?_⟩
  rw [load]
  cases hread : w.disk.read file with
  | ok bytes => exact absurd ⟨file, bytes, hfile, hread⟩ hunreadable
  | error e => simp only [hfile, hfind, hread]

/-- Whatever is on the disk, rules that have been saved are loaded as they were, and nothing is
noted or made up; only a file that may be written but not read gives no rules, and a note. -/
theorem load_save (hrules : ∀ rule ∈ rules, rule.Storable) (hreads : ReadsBack rules)
    (hsave : (save env path rules disk).2 = .ok ())
    (hdisk : w.disk = (save env path rules disk).1) :
    (Readable env path w.disk → load env path w = (w, .ok rules)) ∧
      (¬ Readable env path w.disk → ∃ file, path.expandHome env.home = some file ∧
        load env path w = (w.note (.rulesUnreadable file.toText), .ok [])) := by
  refine ⟨fun hreadable => ?_, load_of_not_readable hsave hdisk⟩
  rw [hdisk] at hreadable
  have hcontains := contains_save hsave hreadable
  rw [← hdisk] at hcontains
  exact load_of_contains hcontains hreads hrules

namespace Ledger

def home : Environment := ⟨⟨['/'], []⟩, ⟨['/'], []⟩, none, fun n => 'i' :: Text.ofNat n⟩

def page : Path := ⟨[], [['~'], "d", "r"]⟩

/-- A file that is no YAML is in the way. -/
def scribbled : Disk :=
  ⟨[(["d"], .directory), (["d", "r"], .file ⟨Disk.ownerOnly, Text.encodeUtf8 "[unclosed"⟩)], [], []⟩

/-- Ids and patterns that YAML would take for something else, one id twice. -/
def entries : List Rule :=
  [⟨.host, "null", "007"⟩, ⟨.path, "/é: # 'x'\n\t", "007"⟩, ⟨.endpoint, "GET ☃", "true"⟩]

theorem odd_texts_are_kept :
    (∀ rule ∈ entries, rule.Storable) ∧ ReadsBack entries ∧
      (save home page entries scribbled).2 = .ok () ∧
      Readable home page (save home page entries scribbled).1 ∧
      load home page ⟨(save home page entries scribbled).1, [], 0⟩ =
        (⟨(save home page entries scribbled).1, [], 0⟩, .ok entries) := by
  have hrules : ∀ rule ∈ entries, rule.Storable := by
    intro rule hrule
    simp only [entries, List.mem_cons, List.not_mem_nil, or_false] at hrule
    rcases hrule with rfl | rfl | rfl <;> exact ⟨by simp, by simp⟩
  have hreads : ReadsBack entries := by decide +kernel
  have hwritten : (save home page entries scribbled).2.isOk = true := by decide +kernel
  have hsave : (save home page entries scribbled).2 = .ok () := by
    cases hended : (save home page entries scribbled).2 with
    | ok done => rfl
    | error e => simp [hended, Except.isOk, Except.toBool] at hwritten
  have hthere : ((save home page entries scribbled).1.read ⟨['/'], ["d", "r"]⟩).toOption =
      some (bytesOf entries) := by decide +kernel
  have hreadable : Readable home page (save home page entries scribbled).1 :=
    ⟨⟨['/'], ["d", "r"]⟩, _, rfl, eq_ok_of_toOption hthere⟩
  exact ⟨hrules, hreads, hsave, hreadable, (load_save hrules hreads hsave rfl).1 hreadable⟩

end Ledger

end RuleFile
end HeaderAudit
