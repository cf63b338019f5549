import HeaderAudit.Proofs.JsonDocuments
import HeaderAudit.Proofs.PrintedTexts
import Mathlib.Tactic.Choose

/-!
# Printed documents read back

No picture in place of a name disturbs a printed document: it is read back with the same fields and
items, and only texts are different.  The names of the fields have to be different and without
colons, and the numbers have to be whole.
-/

namespace HeaderAudit

namespace Json

open Console.Emoji (Pictures nameBeforeColon? replaceWith)

/-! ## Between the values -/

/-- What stands behind a value of a document. -/
def EndsValue (rest : Text) : Prop :=
  rest = [] ∨ ∃ more, rest = ',' :: '\n' :: more ∨ rest = '\n' :: more

theorem EndsValue.noName {rest : Text} (hrest : EndsValue rest) : nameBeforeColon? rest = none := by
  obtain rfl | ⟨more, rfl | rfl⟩ := hrest <;> rfl

theorem EndsValue.noName_quote {rest : Text} (hrest : EndsValue rest) :
    nameBeforeColon? ('"' :: rest) = none := by
  have hnone := hrest.noName
  simp [nameBeforeColon?, hnone, Text.isBlank]

theorem EndsValue.endsNumber {rest : Text} (hrest : EndsValue rest) (pictures : Pictures) :
    EndsNumber (replaceWith pictures rest) := by
  obtain rfl | ⟨more, rfl | rfl⟩ := hrest
  · exact .inl rfl
  · exact .inr ⟨_, .inl (Console.Emoji.replaceWith_cons_of_ne (by decide) _)⟩
  · exact .inr ⟨_, .inr (Console.Emoji.replaceWith_cons_of_ne (by decide) _)⟩

theorem endsValue_newLine (depth : Nat) (rest : Text) : EndsValue (newLine depth ++ rest) :=
  .inr ⟨List.replicate (2 * depth) ' ' ++ rest, .inr rfl⟩

theorem endsValue_comma (depth : Nat) (rest : Text) : EndsValue (',' :: newLine depth ++ rest) :=
  .inr ⟨List.replicate (2 * depth) ' ' ++ rest, .inl rfl⟩

/-! ## Values -/

section

variable {pictures : Pictures} {seen : Text → Text}

/-- Wherever it stands, the printed value is read back with the texts as they are seen.  The length
of the text allows for the steps. -/
def ReadBack (pictures : Pictures) (seen : Text → Text) (doc : Json) : Prop :=
  ∀ depth rest steps, EndsValue rest →
    2 * (replaceWith pictures (writeAt depth doc ++ rest)).length + 1 ≤ steps →
      readValue? steps (replaceWith pictures (writeAt depth doc ++ rest)) =
        some (doc.mapTexts seen, replaceWith pictures rest)

theorem replaceWith_newLine (depth : Nat) (t : Text) :
    replaceWith pictures (newLine depth ++ t) = newLine depth ++ replaceWith pictures t :=
  Console.Emoji.replaceWith_append_of_not_mem (colon_not_mem_newLine depth) t

theorem readBack_text (hseen : ∀ t, Spells (replaceWith pictures (t.flatMap escapeChar)) (seen t))
    (t : Text) : ReadBack pictures seen (text t) := by
  intro depth rest steps hrest hsteps
  have hprinted : replaceWith pictures (writeAt depth (text t) ++ rest) =
      '"' :: (replaceWith pictures (t.flatMap escapeChar) ++ '"' :: replaceWith pictures rest) := by
    rw [writeAt, writeText, List.cons_append, List.cons_append, List.append_assoc,
      List.singleton_append, Console.Emoji.replaceWith_cons_of_ne (by decide),
      Console.Emoji.replaceWith_append hrest.noName_quote,
      Console.Emoji.replaceWith_cons_of_ne (by decide)]
  obtain ⟨more, rfl⟩ : ∃ more, steps = more + 1 := ⟨steps - 1, by omega⟩
  rw [hprinted, readValue?_quote ((hseen t).readChars?_quote _), mapTexts]

theorem readBack_int (i : Int) : ReadBack pictures seen (int i) := by
  intro depth rest steps hrest hsteps
  obtain ⟨c, more, hhead, hc⟩ := exists_head_ofInt i
  have hword := readWord?_ofInt i (replaceWith pictures rest)
  have hnumber := readNumber?_ofInt i (hrest.endsNumber pictures)
  obtain ⟨fewer, rfl⟩ : ∃ fewer, steps = fewer + 1 := ⟨steps - 1, by omega⟩
  rw [writeAt, Console.Emoji.replaceWith_append_of_not_mem (colon_not_mem_ofInt i)]
  rw [hhead, List.cons_append] at hword hnumber ⊢
  exact readValue?_number hc hword hnumber fewer

theorem readBack_word (word : Text) {doc : Json} (hword : ':' ∉ word)
    (hwritten : ∀ depth, writeAt depth doc = word) (hsame : doc.mapTexts seen = doc)
    (hread : ∀ steps rest, readValue? (steps + 1) (word ++ rest) = some (doc, rest)) :
    ReadBack pictures seen doc := by
  intro depth rest steps hrest hsteps
  obtain ⟨more, rfl⟩ : ∃ more, steps = more + 1 := ⟨steps - 1, by omega⟩
  rw [hwritten, Console.Emoji.replaceWith_append_of_not_mem hword, hread, hsame]

theorem readBack_null : ReadBack pictures seen null :=
  readBack_word "null".toList (by decide) (fun _ => rfl) rfl fun _ _ => rfl

theorem readBack_bool (b : Bool) : ReadBack pictures seen (bool b) := by
  cases b with
  | true =>
      exact readBack_word "true".toList (by decide) (fun _ => rfl) rfl fun _ _ => rfl
  | false =>
      exact readBack_word "false".toList (by decide) (fun _ => rfl) rfl fun _ _ => rfl

theorem replaceWith_comma_newLine (depth : Nat) (t : Text) :
    replaceWith pictures (',' :: newLine depth ++ t) =
      ',' :: (newLine depth ++ replaceWith pictures t) := by
  rw [List.cons_append, Console.Emoji.replaceWith_cons_of_ne (by decide), replaceWith_newLine]

/-- The items of a list, behind its bracket. -/
theorem readItems?_printed {item : Json} {items : List Json}
    (hitems : ∀ doc ∈ item :: items, ReadBack pictures seen doc) (depth outer : Nat) (rest : Text)
    (steps : Nat)
    (hsteps : 2 * (replaceWith pictures (writeAt depth item ++ (writeItems depth items ++
      (newLine outer ++ ']' :: rest)))).length + 2 ≤ steps) :
    readItems? steps (replaceWith pictures (writeAt depth item ++ (writeItems depth items ++
        (newLine outer ++ ']' :: rest)))) =
      some (mapItems seen (item :: items), replaceWith pictures rest) := by
  obtain ⟨fewer, rfl⟩ : ∃ fewer, steps = fewer + 1 := ⟨steps - 1, by omega⟩
  rw [List.forall_mem_cons] at hitems
  induction items generalizing item fewer with
  | nil =>
      rw [writeItems, List.nil_append] at hsteps ⊢
      have hitem := hitems.1 depth _ fewer (endsValue_newLine outer (']' :: rest)) (by omega)
      rw [replaceWith_newLine, Console.Emoji.replaceWith_cons_of_ne (by decide)] at hitem
      rw [readItems?_last hitem (by rw [skipSpace_newLine]; rfl), mapItems, mapItems]
  | cons next others ih =>
      have hwritten : writeItems depth (next :: others) ++ (newLine outer ++ ']' :: rest) =
          ',' :: newLine depth ++ (writeAt depth next ++ (writeItems depth others ++
            (newLine outer ++ ']' :: rest))) := by
        simp [writeItems]
      rw [hwritten] at hsteps ⊢
      have hends := endsValue_comma depth (writeAt depth next ++ (writeItems depth others ++
        (newLine outer ++ ']' :: rest)))
      have hitem := hitems.1 depth _ fewer hends (by omega)
      rw [Console.Emoji.replaceWith_append hends.noName, replaceWith_comma_newLine,
        List.length_append, List.length_cons, List.length_append] at hsteps
      obtain ⟨least, rfl⟩ : ∃ least, fewer = least + 1 := ⟨fewer - 1, by omega⟩
      rw [replaceWith_comma_newLine] at hitem
      have hothers := List.forall_mem_cons.mp hitems.2
      rw [readItems?_comma hitem rfl, readItems?_newLine, ih hothers least (by omega)]
      rfl

/-- A field, from its name to what stands behind its value. -/
theorem replaceWith_field {name : Text} (hname : ':' ∉ name) (t : Text) :
    replaceWith pictures (writeText name ++ (": ".toList ++ t)) =
      '"' :: (name.flatMap escapeChar ++ '"' :: ':' :: ' ' :: replaceWith pictures t) := by
  have hwritten : ':' ∉ writeText name := by
    simp [writeText, colon_not_mem_escape hname]
  have hblank : replaceWith pictures (": ".toList ++ t) = ':' :: ' ' :: replaceWith pictures t := by
    have hnone : nameBeforeColon? (' ' :: t) = none := rfl
    exact (Console.Emoji.replaceWith_colon hnone).trans
      (congrArg _ (Console.Emoji.replaceWith_cons_of_ne (by decide) t))
  rw [Console.Emoji.replaceWith_append_of_not_mem hwritten, hblank, writeText]
  simp

theorem readFields?_printed {field : Text × Json} {fields : List (Text × Json)}
    (hcolons : ∀ f ∈ field :: fields, ':' ∉ f.1)
    (hvalues : ∀ f ∈ field :: fields, ReadBack pictures seen f.2) (depth outer : Nat) (rest : Text)
    (steps : Nat)
    (hsteps : 2 * (replaceWith pictures (writeText field.1 ++ (": ".toList ++
      (writeAt depth field.2 ++ (writeFields depth fields ++
        (newLine outer ++ '\x7d' :: rest)))))).length + 2 ≤ steps) :
    readFields? steps (replaceWith pictures (writeText field.1 ++ (": ".toList ++
        (writeAt depth field.2 ++ (writeFields depth fields ++
          (newLine outer ++ '\x7d' :: rest)))))) =
      some (mapFields seen (field :: fields), replaceWith pictures rest) := by
  obtain ⟨fewer, rfl⟩ : ∃ fewer, steps = fewer + 1 := ⟨steps - 1, by omega⟩
  rw [List.forall_mem_cons] at hcolons hvalues
  have hname : ∀ t, readChars? ((field.1.flatMap escapeChar ++ '"' :: ':' :: ' ' :: t).length + 1)
      (field.1.flatMap escapeChar ++ '"' :: ':' :: ' ' :: t) = some (field.1, ':' :: ' ' :: t) :=
    fun t => (spells_escape field.1).readChars?_quote _
  have hblank : ∀ t, readValue? fewer (' ' :: t) = readValue? fewer t := by
    intro t
    exact readValue?_congr (t := ' ' :: t) (List.dropWhile_cons_of_pos rfl) fewer
  rw [replaceWith_field hcolons.1] at hsteps ⊢
  simp only [List.length_cons, List.length_append] at hsteps
  cases fields with
  | nil =>
      have hends := endsValue_newLine outer ('\x7d' :: rest)
      rw [writeFields, List.nil_append] at hsteps ⊢
      have hvalue := hvalues.1 depth _ fewer hends (by omega)
      rw [replaceWith_newLine, Console.Emoji.replaceWith_cons_of_ne (by decide)] at hvalue
      rw [readFields?_last (hname _) ((hblank _).trans hvalue)
        (by rw [skipSpace_newLine]; rfl), mapFields, mapFields]
  | cons next others =>
      have hwritten : writeFields depth (next :: others) ++ (newLine outer ++ '\x7d' :: rest) =
          ',' :: newLine depth ++ (writeText next.1 ++ (": ".toList ++ (writeAt depth next.2 ++
            (writeFields depth others ++ (newLine outer ++ '\x7d' :: rest))))) := by
        simp [writeFields]
      rw [hwritten] at hsteps ⊢
      have hends := endsValue_comma depth (writeText next.1 ++ (": ".toList ++
        (writeAt depth next.2 ++ (writeFields depth others ++ (newLine outer ++ '\x7d' :: rest)))))
      have hvalue := hvalues.1 depth _ fewer hends (by omega)
      rw [Console.Emoji.replaceWith_append hends.noName, replaceWith_comma_newLine,
        List.length_append, List.length_cons, List.length_append] at hsteps
      rw [replaceWith_comma_newLine] at hvalue
      have hothers := readFields?_printed hcolons.2 hvalues.2 depth outer rest fewer
        (by omega)
      rw [readFields?_comma (hname _) ((hblank _).trans hvalue) rfl, readFields?_newLine, hothers]
      rfl

theorem readBack_list {item : Json} {items : List Json} (hitem : item.Tidy)
    (hitems : ∀ doc ∈ item :: items, ReadBack pictures seen doc) :
    ReadBack pictures seen (list (item :: items)) := by
  intro depth rest steps hrest hsteps
  obtain ⟨fewer, rfl⟩ : ∃ fewer, steps = fewer + 1 := ⟨steps - 1, by omega⟩
  have hwritten : writeAt depth (list (item :: items)) ++ rest =
      '[' :: (newLine (depth + 1) ++ (writeAt (depth + 1) item ++ (writeItems (depth + 1) items ++
        (newLine depth ++ ']' :: rest)))) := by
    simp [writeAt]
  rw [hwritten, Console.Emoji.replaceWith_cons_of_ne (by decide), replaceWith_newLine] at hsteps ⊢
  rw [List.length_cons, List.length_append] at hsteps
  obtain ⟨c, more, hhead, hcolon, hbracket, hspace⟩ := exists_head hitem (depth + 1)
  have hprinted : ∃ printed, replaceWith pictures (writeAt (depth + 1) item ++
      (writeItems (depth + 1) items ++ (newLine depth ++ ']' :: rest))) = c :: printed := by
    rw [hhead, List.cons_append]
    exact ⟨_, Console.Emoji.replaceWith_cons_of_ne hcolon _⟩
  obtain ⟨printed, hprinted⟩ := hprinted
  have hread := readItems?_printed hitems (depth + 1) depth rest fewer (by omega)
  rw [hprinted] at hread ⊢
  rw [readValue?_bracket ((skipSpace_newLine _ _).trans (skipSpace_cons hspace printed)) hbracket,
    hread]
  rfl

theorem readBack_object {field : Text × Json} {fields : List (Text × Json)}
    (hnames : ((field :: fields).map (·.1)).Nodup) (hcolons : ∀ f ∈ field :: fields, ':' ∉ f.1)
    (hvalues : ∀ f ∈ field :: fields, ReadBack pictures seen f.2) :
    ReadBack pictures seen (object (field :: fields)) := by
  intro depth rest steps hrest hsteps
  obtain ⟨fewer, rfl⟩ : ∃ fewer, steps = fewer + 1 := ⟨steps - 1, by omega⟩
  have hwritten : writeAt depth (object (field :: fields)) ++ rest =
      '\x7b' :: (newLine (depth + 1) ++ (writeText field.1 ++ (": ".toList ++
        (writeAt (depth + 1) field.2 ++ (writeFields (depth + 1) fields ++
          (newLine depth ++ '\x7d' :: rest)))))) := by
    simp [writeAt]
  rw [hwritten, Console.Emoji.replaceWith_cons_of_ne (by decide), replaceWith_newLine] at hsteps ⊢
  rw [List.length_cons, List.length_append] at hsteps
  have hread := readFields?_printed hcolons hvalues (depth + 1) depth rest fewer
    (by omega)
  rw [replaceWith_field (hcolons field List.mem_cons_self)] at hread ⊢
  have hmerge : mergeFields [] (mapFields seen (field :: fields)) =
      mapFields seen (field :: fields) := mergeFields_nil (by rwa [mapFields_names])
  rw [readValue?_brace ((skipSpace_newLine _ _).trans (skipSpace_cons rfl _)) (by decide), hread,
    Option.map_some]
  dsimp only
  rw [hmerge, mapTexts]

/-- Every printed document is read back. -/
theorem ReadBack.of_tidy
    (hseen : ∀ t, Spells (replaceWith pictures (t.flatMap escapeChar)) (seen t)) {doc : Json}
    (hdoc : doc.Tidy) : ReadBack pictures seen doc := by
  induction hdoc with
  | null => exact readBack_null
  | bool b => exact readBack_bool b
  | int i => exact readBack_int i
  | text t => exact readBack_text hseen t
  | @list items hitems ih =>
      cases items with
      | nil =>
          exact readBack_word "[]".toList (by decide) (fun _ => rfl) rfl fun _ _ => rfl
      | cons item rest => exact readBack_list (hitems item List.mem_cons_self) ih
  | @object fields hnames hcolons hvalues ih =>
      cases fields with
      | nil =>
          exact readBack_word "\x7b\x7d".toList (by decide) (fun _ => rfl) rfl
            fun _ _ => rfl
      | cons field rest => exact readBack_object hnames hcolons ih

end

/-! ## Documents -/

variable {pictures : Pictures}

theorem expandTabs_of_not_mem {t : Text} (ht : '\t' ∉ t) : Console.Wrap.expandTabs t = t := by
  have hcolumns : ∀ column, Console.Wrap.expandTabsFrom column t = t := by
    induction t with
    | nil => exact fun _ => rfl
    | cons c rest ih =>
        rw [List.mem_cons, not_or] at ht
        intro column
        rw [Console.Wrap.expandTabsFrom, if_neg (Ne.symm ht.1), ih ht.2]
  exact hcolumns 0

/-- A text without control characters is printed with nothing but the pictures in it. -/
theorem printRaw_eq {t : Text} (ht : ∀ c ∈ replaceWith pictures t, Visible c) :
    Console.printRaw pictures t = replaceWith pictures t ++ ['\n'] := by
  have hshown : Console.Markup.shown (replaceWith pictures t) = replaceWith pictures t := by
    rw [Console.Markup.shown, List.filter_eq_self]
    intro c hc
    rcases ht c hc with rfl | hcode
    · rfl
    · simp [Console.Markup.isShown]
      omega
  have htabs : (Text.fields '\n' (replaceWith pictures t)).map Console.Wrap.expandTabs =
      Text.fields '\n' (replaceWith pictures t) := by
    have htab : '\t' ∉ replaceWith pictures t := fun hmem =>
      absurd (ht '\t' hmem) (by decide)
    conv_rhs => rw [← List.map_id (Text.fields '\n' (replaceWith pictures t))]
    apply List.map_congr_left
    intro field hfield
    exact expandTabs_of_not_mem fun hmem => htab (Text.mem_of_mem_fields hfield hmem)
  rw [Console.printRaw, hshown, htabs, Text.join_fields]

theorem read?_printRaw (hlegible : Legible pictures) {seen : Text → Text}
    (hseen : ∀ t, Spells (replaceWith pictures (t.flatMap escapeChar)) (seen t)) {doc : Json}
    (hdoc : doc.Tidy) : read? (Console.printRaw pictures doc.write) = some (doc.mapTexts seen) := by
  have hvisible : ∀ c ∈ replaceWith pictures doc.write, Visible c := by
    apply Console.Emoji.forall_mem_replaceWith
    · intro name picture hpicture c hc
      exact .inr (hlegible.ofName? hpicture c hc).1
    · exact hdoc.visible 0
  have hends : EndsValue ['\n'] := .inr ⟨[], .inr rfl⟩
  have hprinted : Console.printRaw pictures doc.write =
      replaceWith pictures (writeAt 0 doc ++ ['\n']) := by
    rw [printRaw_eq hvisible, Console.Emoji.replaceWith_append hends.noName]
    rfl
  rw [hprinted, read?, ReadBack.of_tidy hseen hdoc 0 ['\n'] _ hends (by omega)]
  rfl

/-- A printed document is read back as a document, and as the same one exactly if none of its texts
is written with the name of a picture. -/
theorem read?_printRaw_eq_iff (hlegible : Legible pictures) {doc : Json} (hdoc : doc.Tidy) :
    (∃ read, read? (Console.printRaw pictures doc.write) = some read) ∧
      (read? (Console.printRaw pictures doc.write) = some doc ↔
        ∀ t ∈ doc.texts, Unpictured pictures t) := by
  choose seen hseen using exists_spelt hlegible
  rw [read?_printRaw hlegible (fun t => (hseen t).1) hdoc, Option.some.injEq,
    mapTexts_eq_self_iff]
  exact ⟨⟨_, rfl⟩, forall₂_congr fun t _ => (hseen t).2.2⟩

end Json

end HeaderAudit
