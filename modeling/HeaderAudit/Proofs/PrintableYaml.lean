import HeaderAudit.Yaml.Writer
import Mathlib.Data.List.SplitBy

/-!
# Written YAML is printable

Whatever the texts of a document are, the document is written in printable characters and line feeds
alone: every other character has an escape.
-/

namespace HeaderAudit.Yaml.Writer

/-- Only printable characters and line feeds. -/
def Printable (t : Text) : Prop := ∀ c ∈ t, isWritable c = true

@[simp] theorem printable_nil : Printable [] := by simp [Printable]

@[simp] theorem printable_cons {c : Char} {t : Text} :
    Printable (c :: t) ↔ isWritable c = true ∧ Printable t := by
  simp [Printable]

@[simp] theorem printable_append {t u : Text} :
    Printable (t ++ u) ↔ Printable t ∧ Printable u := by
  simp only [Printable, List.mem_append]
  constructor
  · intro h
    exact ⟨fun c hc => h c (.inl hc), fun c hc => h c (.inr hc)⟩
  · intro h c hc
    exact hc.elim (h.1 c) (h.2 c)

theorem printable_replicate {c : Char} (n : Nat) (hc : isWritable c = true) :
    Printable (List.replicate n c) := by
  intro d hd
  rw [List.eq_of_mem_replicate hd]
  exact hc

theorem printable_newLine (indent : Nat) : Printable (newLine indent) :=
  printable_cons.mpr ⟨rfl, printable_replicate indent rfl⟩

/-! ## Runs of a text -/

theorem printable_of_mem_runs {t run : Text} (ht : Printable t) (hrun : run ∈ runs t) :
    Printable run := by
  intro c hc
  apply ht
  rw [← List.flatten_splitBy (fun a b => (a = ' ') == (b = ' ') && (a = '\n') == (b = '\n')) t]
  exact List.mem_flatten.mpr ⟨run, hrun, hc⟩

theorem printable_plainRuns {fold : Bool} {indent column : Nat} {pieces : List Text}
    (hpieces : ∀ run ∈ pieces, Printable run) :
    Printable (plainRuns fold indent column pieces) := by
  induction pieces generalizing column with
  | nil => simp [plainRuns]
  | cons run rest ih =>
      have hrun := hpieces run List.mem_cons_self
      have hrest : ∀ column, Printable (plainRuns fold indent column rest) := by
        intro column
        exact ih fun other hother => hpieces other (List.mem_cons_of_mem run hother)
      rw [plainRuns]
      by_cases hfold : run = [' '] ∧ column > foldColumn ∧ fold
      · rw [if_pos hfold]
        exact printable_append.mpr ⟨printable_newLine indent, hrest indent⟩
      · rw [if_neg hfold]
        exact printable_append.mpr ⟨hrun, hrest _⟩

/-- A quote is written twice, and everything else as it is. -/
theorem printable_quoted {run : Text} (hrun : Printable run) :
    Printable (run.flatMap fun c => if c = '\'' then ['\'', '\''] else [c]) := by
  intro d hd
  obtain ⟨c, hc, hdc⟩ := List.mem_flatMap.mp hd
  by_cases hquote : c = '\''
  · rw [if_pos hquote] at hdc
    simp only [List.mem_cons, List.not_mem_nil, or_false, or_self] at hdc
    rw [hdc]
    rfl
  · rw [if_neg hquote] at hdc
    rw [List.mem_singleton.mp hdc]
    exact hrun c hc

theorem printable_singleRuns {fold isFirst : Bool} {indent column : Nat} {pieces : List Text}
    (hpieces : ∀ run ∈ pieces, Printable run) :
    Printable (singleRuns fold indent isFirst column pieces) := by
  induction pieces generalizing isFirst column with
  | nil => simp [singleRuns]
  | cons run rest ih =>
      have hrun := hpieces run List.mem_cons_self
      have hrest : ∀ column, Printable (singleRuns fold indent false column rest) := by
        intro column
        exact ih fun other hother => hpieces other (List.mem_cons_of_mem run hother)
      rw [singleRuns.eq_def]
      simp only
      split
      · simp only [List.cons_append, printable_cons, printable_append] at hrun ⊢
        exact ⟨rfl, rfl, ⟨hrun.2, printable_replicate indent rfl⟩, hrest indent⟩
      · by_cases hfold : run = [' '] ∧ column > foldColumn ∧ fold ∧ !isFirst ∧ !rest.isEmpty
        · rw [if_pos hfold]
          exact printable_append.mpr ⟨printable_newLine indent, hrest indent⟩
        · rw [if_neg hfold]
          exact printable_append.mpr ⟨printable_quoted hrun, hrest _⟩

/-! ## Escapes -/

theorem isWritable_of_shortEscape? {c e : Char} (hescape : shortEscape? c = some e) :
    isWritable e = true := by
  rw [shortEscape?.eq_def] at hescape
  split at hescape <;>
    first
      | (cases hescape; rfl)
      | simp at hescape

theorem isWritable_toUpper_digitChar {n : Nat} (hn : n < 16) :
    isWritable n.digitChar.toUpper = true := by
  have hall : ∀ m : Fin 16, isWritable (Nat.digitChar m).toUpper = true := by decide
  exact hall ⟨n, hn⟩

theorem printable_hexUpper (width n : Nat) : Printable (Text.hexUpper width n) := by
  intro c hc
  obtain ⟨d, hd, rfl⟩ := List.mem_map.mp hc
  obtain ⟨m, hm, rfl⟩ := Text.exists_digitChar_of_mem_hex hd
  exact isWritable_toUpper_digitChar hm

theorem printable_of_escape? {c : Char} {e : Text} (hescape : escape? c = some e) :
    Printable e := by
  rw [escape?] at hescape
  cases hshort : shortEscape? c with
  | some short =>
      simp only [hshort, Option.some.injEq] at hescape
      subst hescape
      simpa using ⟨rfl, isWritable_of_shortEscape? hshort⟩
  | none =>
      simp only [hshort] at hescape
      have hhex : ∀ (mark : Char) (width : Nat), isWritable mark = true →
          Printable ('\\' :: mark :: Text.hexUpper width c.toNat) := by
        intro mark width hmark
        exact printable_cons.mpr ⟨rfl, printable_cons.mpr ⟨hmark, printable_hexUpper _ _⟩⟩
      by_cases hplain : 0x20 ≤ c.toNat ∧ c.toNat ≤ 0x7E
      · simp [hplain] at hescape
      · rw [if_neg hplain] at hescape
        by_cases hbyte : c.toNat ≤ 0xFF
        · rw [if_pos hbyte] at hescape
          cases hescape
          exact hhex _ _ rfl
        · rw [if_neg hbyte] at hescape
          by_cases hword : c.toNat ≤ 0xFFFF
          · rw [if_pos hword] at hescape
            cases hescape
            exact hhex _ _ rfl
          · rw [if_neg hword] at hescape
            cases hescape
            exact hhex _ _ rfl

theorem isWritable_of_escape?_eq_none {c : Char} (hescape : escape? c = none) :
    isWritable c = true := by
  rw [escape?] at hescape
  cases hshort : shortEscape? c with
  | some short => simp [hshort] at hescape
  | none =>
      simp only [hshort] at hescape
      by_cases hplain : 0x20 ≤ c.toNat ∧ c.toNat ≤ 0x7E
      · simp [isWritable, hplain.1, hplain.2]
      · rw [if_neg hplain] at hescape
        by_cases hbyte : c.toNat ≤ 0xFF
        · simp [hbyte] at hescape
        · rw [if_neg hbyte] at hescape
          by_cases hword : c.toNat ≤ 0xFFFF <;> simp [hword] at hescape

theorem printable_foldDouble (indent : Nat) (next : Option Char) :
    Printable (foldDouble indent next).1 := by
  have hline := printable_newLine indent
  rw [foldDouble]
  by_cases hblank : next = some ' '
  · rw [if_pos hblank]
    simp only [List.cons_append, printable_cons, printable_append]
    exact ⟨rfl, hline, rfl, printable_nil⟩
  · rw [if_neg hblank]
    exact printable_cons.mpr ⟨rfl, hline⟩

theorem printable_doubleChars {fold isFirst afterEscape : Bool} {indent column : Nat} (t : Text) :
    Printable (doubleChars fold indent isFirst afterEscape column t) := by
  induction t generalizing isFirst afterEscape column with
  | nil => simp [doubleChars]
  | cons c rest ih =>
      rw [doubleChars]
      cases hescape : escape? c with
      | some e =>
          have he := printable_of_escape? hescape
          have hfold := printable_foldDouble indent rest.head?
          simp only
          split
          · simp only [printable_append]
            exact ⟨⟨he, hfold⟩, ih⟩
          · exact printable_append.mpr ⟨he, ih⟩
      | none =>
          have hc := isWritable_of_escape?_eq_none hescape
          have hfold := printable_foldDouble indent (some c)
          simp only
          split
          · exact printable_append.mpr ⟨hfold, printable_cons.mpr ⟨hc, ih⟩⟩
          · exact printable_cons.mpr ⟨hc, ih⟩

/-! ## Documents -/

theorem printable_of_style {t : Text} (hstyle : style t ≠ .double) : Printable t := by
  cases hall : t.all isWritable with
  | true => exact List.all_eq_true.mp hall
  | false =>
      exfalso
      apply hstyle
      simp [style, hall]

theorem printable_scalar {fold : Bool} {indent column : Nat} (t : Text) :
    Printable (scalar fold indent column t) := by
  rw [scalar]
  cases hstyle : style t with
  | plain =>
      have ht : Printable t := printable_of_style (by simp [hstyle])
      exact printable_plainRuns fun run hrun => printable_of_mem_runs ht hrun
  | single =>
      have ht : Printable t := printable_of_style (by simp [hstyle])
      simp only [List.cons_append, printable_cons, printable_append]
      exact ⟨rfl, printable_singleRuns fun run hrun => printable_of_mem_runs ht hrun, rfl,
        printable_nil⟩
  | double =>
      simp only [List.cons_append, printable_cons, printable_append]
      exact ⟨rfl, printable_doubleChars t, rfl, printable_nil⟩

mutual

theorem printable_valueBlock (indent column : Nat) :
    ∀ tree : Tree, Printable (valueBlock indent column tree)
  | .text t => by
      simp only [valueBlock, List.cons_append, printable_cons, printable_append]
      exact ⟨rfl, printable_scalar t, rfl, printable_nil⟩
  | .list [] => by simp [valueBlock, isWritable]
  | .list (item :: rest) => by
      rw [valueBlock]
      exact printable_cons.mpr ⟨rfl, printable_itemBlocks indent (item :: rest)⟩
  | .map [] => by simp [valueBlock, isWritable]
  | .map (pair :: rest) => by
      rw [valueBlock]
      exact printable_cons.mpr ⟨rfl, printable_pairBlocks (indent + 2) (pair :: rest)⟩

theorem printable_itemBlock (indent : Nat) : ∀ tree : Tree, Printable (itemBlock indent tree)
  | .text t => by
      rw [itemBlock]
      exact printable_append.mpr ⟨printable_scalar t, printable_cons.mpr ⟨rfl, printable_nil⟩⟩
  | .list [] => by simp [itemBlock, isWritable]
  | .list (item :: rest) => by
      simp only [itemBlock, List.cons_append, printable_cons, printable_append]
      exact ⟨rfl, rfl, printable_itemBlock (indent + 2) item,
        printable_itemBlocks (indent + 2) rest⟩
  | .map [] => by simp [itemBlock, isWritable]
  | .map ((key, value) :: rest) => by
      simp only [itemBlock, printable_cons, printable_append]
      exact ⟨⟨printable_scalar key, rfl, printable_valueBlock _ _ value⟩,
        printable_pairBlocks (indent + 2) rest⟩

theorem printable_itemBlocks (indent : Nat) :
    ∀ items : List Tree, Printable (itemBlocks indent items)
  | [] => by simp [itemBlocks]
  | item :: rest => by
      simp only [itemBlocks, printable_cons, printable_append]
      exact ⟨⟨printable_replicate indent rfl, rfl, rfl, printable_itemBlock indent item⟩,
        printable_itemBlocks indent rest⟩

theorem printable_pairBlocks (indent : Nat) :
    ∀ pairs : List (Text × Tree), Printable (pairBlocks indent pairs)
  | [] => by simp [pairBlocks]
  | (key, value) :: rest => by
      simp only [pairBlocks, printable_cons, printable_append]
      exact ⟨⟨⟨printable_replicate indent rfl, printable_scalar key⟩, rfl,
        printable_valueBlock _ _ value⟩, printable_pairBlocks indent rest⟩

end

theorem printable_write (pairs : List (Text × Tree)) : Printable (write pairs) := by
  cases pairs with
  | nil => simp [write, isWritable]
  | cons pair rest => exact printable_pairBlocks 0 (pair :: rest)

end HeaderAudit.Yaml.Writer
