import HeaderAudit.Proofs.JsonSpelling

/-!
# Documents in JSON

A document is tidy if its numbers are whole and if the names of the fields of each of its objects
are different and without colons.  What is written for a tidy document has no control characters but
line feeds, and the reader goes through it step by step, over the blanks at the beginning of a line.
-/

namespace HeaderAudit

namespace Json

/-! ## The texts of a document -/

mutual

/-- The texts of a document, without the names of fields. -/
def texts : Json → List Text
  | text t => [t]
  | list items => itemTexts items
  | object fields => fieldTexts fields
  | _ => []

def itemTexts : List Json → List Text
  | [] => []
  | item :: rest => texts item ++ itemTexts rest

def fieldTexts : List (Text × Json) → List Text
  | [] => []
  | (_, value) :: rest => texts value ++ fieldTexts rest

end

mutual

/-- The document with other texts. -/
def mapTexts (f : Text → Text) : Json → Json
  | text t => text (f t)
  | list items => list (mapItems f items)
  | object fields => object (mapFields f fields)
  | value => value

def mapItems (f : Text → Text) : List Json → List Json
  | [] => []
  | item :: rest => mapTexts f item :: mapItems f rest

def mapFields (f : Text → Text) : List (Text × Json) → List (Text × Json)
  | [] => []
  | (name, value) :: rest => (name, mapTexts f value) :: mapFields f rest

end

mutual

theorem mapTexts_eq_self_iff (f : Text → Text) (doc : Json) :
    doc.mapTexts f = doc ↔ ∀ t ∈ doc.texts, f t = t := by
  cases doc with
  | text t => simp [mapTexts, texts]
  | list items => simp [mapTexts, texts, mapItems_eq_self_iff f items]
  | object fields => simp [mapTexts, texts, mapFields_eq_self_iff f fields]
  | _ => simp [mapTexts, texts]

theorem mapItems_eq_self_iff (f : Text → Text) (items : List Json) :
    mapItems f items = items ↔ ∀ t ∈ itemTexts items, f t = t := by
  cases items with
  | nil => simp [mapItems, itemTexts]
  | cons item rest =>
      rw [mapItems, itemTexts, List.cons_eq_cons, mapTexts_eq_self_iff f item,
        mapItems_eq_self_iff f rest, List.forall_mem_append]

theorem mapFields_eq_self_iff (f : Text → Text) (fields : List (Text × Json)) :
    mapFields f fields = fields ↔ ∀ t ∈ fieldTexts fields, f t = t := by
  cases fields with
  | nil => simp [mapFields, fieldTexts]
  | cons field rest =>
      obtain ⟨name, value⟩ := field
      rw [mapFields, fieldTexts, List.cons_eq_cons, Prod.mk.injEq, mapTexts_eq_self_iff f value,
        mapFields_eq_self_iff f rest, List.forall_mem_append]
      simp only [true_and]

end

theorem mapFields_names (f : Text → Text) (fields : List (Text × Json)) :
    (mapFields f fields).map (·.1) = fields.map (·.1) := by
  induction fields with
  | nil => rfl
  | cons field rest ih =>
      rw [mapFields, List.map_cons, List.map_cons, ih]

/-- The numbers are whole, and the names of the fields of an object are different and have no
colons. -/
inductive Tidy : Json → Prop where
  | null : Tidy null
  | bool (b : Bool) : Tidy (bool b)
  | int (i : Int) : Tidy (int i)
  | text (t : Text) : Tidy (text t)
  | list {items : List Json} (hitems : ∀ item ∈ items, Tidy item) : Tidy (list items)
  | object {fields : List (Text × Json)} (hnames : (fields.map (·.1)).Nodup)
      (hcolons : ∀ field ∈ fields, ':' ∉ field.1) (hvalues : ∀ field ∈ fields, Tidy field.2) :
      Tidy (object fields)

/-! ## Fields with different names -/

theorem setField_of_not_mem {name : Text} {fields : List (Text × Json)}
    (hname : name ∉ fields.map (·.1)) (value : Json) :
    setField name value fields = fields ++ [(name, value)] := by
  induction fields with
  | nil => rfl
  | cons field rest ih =>
      rw [List.map_cons, List.mem_cons, not_or] at hname
      rw [setField, if_neg (Ne.symm hname.1), ih hname.2, List.cons_append]

theorem mergeFields_append {fields later : List (Text × Json)}
    (hnames : ((fields ++ later).map (·.1)).Nodup) :
    mergeFields fields later = fields ++ later := by
  induction later generalizing fields with
  | nil => exact (List.append_nil fields).symm
  | cons field rest ih =>
      have hname : field.1 ∉ fields.map (·.1) := by
        rw [List.map_append, List.map_cons, List.nodup_append] at hnames
        intro hmem
        exact hnames.2.2 field.1 hmem field.1 List.mem_cons_self rfl
      have hset : setField field.1 field.2 fields = fields ++ [field] :=
        setField_of_not_mem hname field.2
      have hstep : mergeFields fields (field :: rest) =
          mergeFields (setField field.1 field.2 fields) rest := rfl
      rw [hstep, hset, ih (by simpa using hnames), List.append_assoc, List.singleton_append]

theorem mergeFields_nil {fields : List (Text × Json)} (hnames : (fields.map (·.1)).Nodup) :
    mergeFields [] fields = fields := mergeFields_append hnames

/-! ## The steps of the reader -/

theorem readValue?_quote {t s rest : Text} (ht : readChars? (t.length + 1) t = some (s, rest))
    (steps : Nat) : readValue? (steps + 1) ('"' :: t) = some (text s, rest) := by
  have hopen : readValue? (steps + 1) ('"' :: t) =
      (readChars? (t.length + 1) t).bind fun p => some (text p.1, p.2) := rfl
  rw [hopen, ht]
  rfl

theorem readValue?_bracket {t more : Text} {c : Char} (ht : skipSpace t = c :: more) (hc : c ≠ ']')
    (steps : Nat) : readValue? (steps + 1) ('[' :: t) =
      (readItems? steps (c :: more)).map fun (items, rest) => (list items, rest) := by
  have hopen : skipSpace ('[' :: t) = '[' :: t := rfl
  rw [readValue?, hopen]
  simp only [ht]
  split
  · next heq => exact absurd (List.head_eq_of_cons_eq heq) hc
  · rw [Option.map_eq_bind]
    rfl

theorem readValue?_brace {t more : Text} {c : Char} (ht : skipSpace t = c :: more)
    (hc : c ≠ '\x7d') (steps : Nat) : readValue? (steps + 1) ('\x7b' :: t) =
      (readFields? steps (c :: more)).map fun (fields, rest) =>
        (object (mergeFields [] fields), rest) := by
  have hopen : skipSpace ('\x7b' :: t) = '\x7b' :: t := rfl
  rw [readValue?, hopen]
  simp only [ht]
  split
  · next heq => exact absurd (List.head_eq_of_cons_eq heq) hc
  · rw [Option.map_eq_bind]
    rfl

theorem ne_of_startsNumber {c : Char} (hc : c = '-' ∨ c.isDigit = true) :
    ∀ d ∈ ['"', '[', '\x7b', ':', ']', ' ', '\t', '\n', '\r'], c ≠ d := by
  have hnone : ∀ d ∈ ['"', '[', '\x7b', ':', ']', ' ', '\t', '\n', '\r'],
      ¬ (d = '-' ∨ d.isDigit = true) := by simp
  rintro d hd rfl
  exact hnone c hd hc

theorem isSpace_of_startsNumber {c : Char} (hc : c = '-' ∨ c.isDigit = true) :
    isSpace c = false := by
  have hother := ne_of_startsNumber hc
  simp only [List.forall_mem_cons] at hother
  simp [isSpace, hother]

theorem skipSpace_cons {c : Char} (hc : isSpace c = false) (t : Text) :
    skipSpace (c :: t) = c :: t := by
  rw [skipSpace, List.dropWhile_cons_of_neg (by simp [hc])]

theorem readValue?_number {c : Char} {more rest : Text} {doc : Json}
    (hc : c = '-' ∨ c.isDigit = true) (hword : readWord? (c :: more) = none)
    (hnumber : readNumber? (c :: more) = some (doc, rest)) (steps : Nat) :
    readValue? (steps + 1) (c :: more) = some (doc, rest) := by
  have hother := ne_of_startsNumber hc
  simp only [List.forall_mem_cons] at hother
  obtain ⟨hquote, hbracket, hbrace, -⟩ := hother
  rw [readValue?, skipSpace_cons (isSpace_of_startsNumber hc)]
  split
  · next heq => exact absurd (List.head_eq_of_cons_eq heq) hquote
  · next heq => exact absurd (List.head_eq_of_cons_eq heq) hbracket
  · next heq => exact absurd (List.head_eq_of_cons_eq heq) hbrace
  · rw [hword, hnumber]
    rfl

theorem readItems?_last {t rest more : Text} {item : Json} {steps : Nat}
    (ht : readValue? steps t = some (item, rest)) (hrest : skipSpace rest = ']' :: more) :
    readItems? (steps + 1) t = some ([item], more) := by
  rw [readItems?, ht]
  simp only [Option.bind_eq_bind, Option.bind_some, hrest]

theorem readItems?_comma {t rest more : Text} {item : Json} {steps : Nat}
    (ht : readValue? steps t = some (item, rest)) (hrest : skipSpace rest = ',' :: more) :
    readItems? (steps + 1) t =
      (readItems? steps more).map fun (items, rest) => (item :: items, rest) := by
  rw [readItems?, ht, Option.map_eq_bind]
  simp only [Option.bind_eq_bind, Option.bind_some, hrest]
  rfl

theorem readFields?_last {t rest behind more : Text} {name : Text} {value : Json} {steps : Nat}
    (ht : readChars? (t.length + 1) t = some (name, ':' :: rest))
    (hvalue : readValue? steps rest = some (value, behind))
    (hbehind : skipSpace behind = '\x7d' :: more) :
    readFields? (steps + 1) ('"' :: t) = some ([(name, value)], more) := by
  have hopen : skipSpace ('"' :: t) = '"' :: t := rfl
  have hcolon : skipSpace (':' :: rest) = ':' :: rest := rfl
  rw [readFields?, hopen]
  simp only [ht, Option.bind_eq_bind, Option.bind_some, hcolon, hvalue, hbehind]

theorem readFields?_comma {t rest behind more : Text} {name : Text} {value : Json} {steps : Nat}
    (ht : readChars? (t.length + 1) t = some (name, ':' :: rest))
    (hvalue : readValue? steps rest = some (value, behind))
    (hbehind : skipSpace behind = ',' :: more) :
    readFields? (steps + 1) ('"' :: t) =
      (readFields? steps more).map fun (fields, rest) => ((name, value) :: fields, rest) := by
  have hopen : skipSpace ('"' :: t) = '"' :: t := rfl
  have hcolon : skipSpace (':' :: rest) = ':' :: rest := rfl
  rw [readFields?, hopen, Option.map_eq_bind]
  simp only [ht, Option.bind_eq_bind, Option.bind_some, hcolon, hvalue, hbehind]
  rfl

/-! ## Blanks and beginnings -/

theorem colon_not_mem_newLine (depth : Nat) : ':' ∉ newLine depth := by
  intro hmem
  rw [newLine, List.mem_cons] at hmem
  rcases hmem with hline | hblank
  · exact absurd hline (by decide)
  · exact absurd (List.eq_of_mem_replicate hblank) (by decide)

theorem skipSpace_newLine (depth : Nat) (t : Text) :
    skipSpace (newLine depth ++ t) = skipSpace t := by
  apply List.dropWhile_append_of_pos
  intro c hc
  rw [newLine, List.mem_cons] at hc
  rcases hc with rfl | hblank
  · rfl
  · rw [List.eq_of_mem_replicate hblank]
    rfl

theorem readValue?_congr {t u : Text} (hsame : skipSpace t = skipSpace u) (steps : Nat) :
    readValue? steps t = readValue? steps u := by
  cases steps with
  | zero => rw [readValue?, readValue?]
  | succ steps => rw [readValue?, readValue?, hsame]

theorem readItems?_newLine (depth steps : Nat) (t : Text) :
    readItems? steps (newLine depth ++ t) = readItems? steps t := by
  cases steps with
  | zero => rw [readItems?, readItems?]
  | succ steps =>
      rw [readItems?, readItems?, readValue?_congr (skipSpace_newLine depth t)]

theorem readFields?_newLine (depth steps : Nat) (t : Text) :
    readFields? steps (newLine depth ++ t) = readFields? steps t := by
  cases steps with
  | zero => rw [readFields?, readFields?]
  | succ steps => rw [readFields?, readFields?, skipSpace_newLine]

theorem exists_head_ofInt (i : Int) :
    ∃ c more, Text.ofInt i = c :: more ∧ (c = '-' ∨ c.isDigit = true) := by
  obtain ⟨n, ⟨-, hwritten⟩ | ⟨-, hwritten⟩⟩ := ofInt_cases i
  · obtain ⟨d, more, hdigits, hd⟩ := exists_digit n
    exact ⟨d, more, hwritten.trans hdigits, .inr hd⟩
  · exact ⟨'-', _, hwritten, .inl rfl⟩

theorem colon_not_mem_ofInt (i : Int) : ':' ∉ Text.ofInt i := by
  have hdigits : ∀ n, ':' ∉ Nat.toDigits 10 n := fun n hmem =>
    absurd (Nat.isDigit_of_mem_toDigits (by decide) (by decide) hmem) (by decide)
  obtain ⟨n, ⟨-, hwritten⟩ | ⟨-, hwritten⟩⟩ := ofInt_cases i
  · exact hwritten ▸ hdigits n
  · rw [hwritten, List.mem_cons, not_or]
    exact ⟨by decide, hdigits n⟩

/-- How a value begins. -/
theorem exists_head {doc : Json} (hdoc : doc.Tidy) (depth : Nat) :
    ∃ c more, writeAt depth doc = c :: more ∧ c ≠ ':' ∧ c ≠ ']' ∧ isSpace c = false := by
  cases hdoc with
  | null => exact ⟨_, _, rfl, by decide, by decide, rfl⟩
  | bool b => cases b <;> exact ⟨_, _, rfl, by decide, by decide, rfl⟩
  | int i =>
      obtain ⟨c, more, hwritten, hc⟩ := exists_head_ofInt i
      have hother := ne_of_startsNumber hc
      exact ⟨c, more, hwritten, hother ':' (by decide), hother ']' (by decide),
        isSpace_of_startsNumber hc⟩
  | text t => exact ⟨_, _, rfl, by decide, by decide, rfl⟩
  | @list items hitems => cases items <;> exact ⟨_, _, rfl, by decide, by decide, rfl⟩
  | @object fields hnames hcolons hvalues =>
      cases fields <;> exact ⟨_, _, rfl, by decide, by decide, rfl⟩

/-! ## The characters of a document -/

/-- A line feed, or no control character. -/
def Visible (c : Char) : Prop := c = '\n' ∨ 0x20 ≤ c.toNat

instance (c : Char) : Decidable (Visible c) := inferInstanceAs (Decidable (_ ∨ _))

theorem visible_newLine (depth : Nat) : ∀ c ∈ newLine depth, Visible c := by
  intro c hc
  rw [newLine, List.mem_cons] at hc
  rcases hc with rfl | hblank
  · exact .inl rfl
  · rw [List.eq_of_mem_replicate hblank]
    exact .inr (by decide)

theorem visible_writeText (t : Text) : ∀ c ∈ writeText t, Visible c := by
  have hquote : Visible '"' := .inr (by decide)
  rw [writeText, List.cons_append, List.forall_mem_cons, List.forall_mem_append,
    List.forall_mem_singleton]
  refine ⟨hquote, ?_, hquote⟩
  intro d hd
  obtain ⟨c, -, hd⟩ := List.mem_flatMap.mp hd
  exact .inr ((escapes_escapeChar c).forall_mem (p := fun d => 0x20 ≤ d.toNat) (by simp)
    (by decide) (fun hcontrol => hcontrol) d hd)

theorem visible_ofInt (i : Int) : ∀ c ∈ Text.ofInt i, Visible c := by
  have hdigits : ∀ n, ∀ c ∈ Nat.toDigits 10 n, Visible c := by
    intro n c hc
    obtain ⟨d, hd, rfl⟩ := Text.exists_digitChar_of_mem_toDigits (by decide) hc
    have hcodes : ∀ d < 10, 0x20 ≤ d.digitChar.toNat := by decide
    exact .inr (hcodes d hd)
  obtain ⟨n, ⟨-, hwritten⟩ | ⟨-, hwritten⟩⟩ := ofInt_cases i
  · exact hwritten ▸ hdigits n
  · rw [hwritten, List.forall_mem_cons]
    exact ⟨.inr (by decide), hdigits n⟩

theorem visible_of_ascii {t : Text} (ht : ∀ c ∈ t, 0x20 ≤ c.toNat) : ∀ c ∈ t, Visible c :=
  fun c hc => .inr (ht c hc)

theorem visible_writeItems {items : List Json}
    (hitems : ∀ item ∈ items, ∀ depth, ∀ c ∈ writeAt depth item, Visible c) (depth : Nat) :
    ∀ c ∈ writeItems depth items, Visible c := by
  induction items with
  | nil => exact List.forall_mem_nil _
  | cons item rest ih =>
      rw [List.forall_mem_cons] at hitems
      simp only [writeItems, List.cons_append, List.forall_mem_cons, List.forall_mem_append]
      exact ⟨.inr (by decide), ⟨visible_newLine depth, hitems.1 depth⟩, ih hitems.2⟩

theorem visible_writeFields {fields : List (Text × Json)}
    (hvalues : ∀ field ∈ fields, ∀ depth, ∀ c ∈ writeAt depth field.2, Visible c) (depth : Nat) :
    ∀ c ∈ writeFields depth fields, Visible c := by
  induction fields with
  | nil => exact List.forall_mem_nil _
  | cons field rest ih =>
      rw [List.forall_mem_cons] at hvalues
      simp only [writeFields, List.cons_append, List.forall_mem_cons, List.forall_mem_append]
      exact ⟨.inr (by decide), ⟨⟨⟨visible_newLine depth, visible_writeText field.1⟩,
        visible_of_ascii (by simp)⟩, hvalues.1 depth⟩, ih hvalues.2⟩

theorem Tidy.visible {doc : Json} (hdoc : doc.Tidy) (depth : Nat) :
    ∀ c ∈ writeAt depth doc, Visible c := by
  induction hdoc generalizing depth with
  | null => exact visible_of_ascii (t := "null".toList) (by simp)
  | bool b =>
      cases b with
      | true => exact visible_of_ascii (t := "true".toList) (by simp)
      | false => exact visible_of_ascii (t := "false".toList) (by simp)
  | int i => exact visible_ofInt i
  | text t => exact visible_writeText t
  | @list items hitems ih =>
      cases items with
      | nil => exact visible_of_ascii (t := "[]".toList) (by simp)
      | cons item rest =>
          rw [List.forall_mem_cons] at ih
          simp only [writeAt, List.cons_append, List.forall_mem_cons, List.forall_mem_append]
          exact ⟨.inr (by decide), ⟨⟨⟨visible_newLine _, ih.1 _⟩, visible_writeItems ih.2 _⟩,
            visible_newLine depth⟩, .inr (by decide), List.forall_mem_nil _⟩
  | @object fields hnames hcolons hvalues ih =>
      cases fields with
      | nil => exact visible_of_ascii (t := "\x7b\x7d".toList) (by simp)
      | cons field rest =>
          rw [List.forall_mem_cons] at ih
          simp only [writeAt, List.cons_append, List.forall_mem_cons, List.forall_mem_append]
          exact ⟨.inr (by decide), ⟨⟨⟨⟨⟨visible_newLine _, visible_writeText _⟩,
            visible_of_ascii (by simp)⟩, ih.1 _⟩, visible_writeFields ih.2 _⟩,
            visible_newLine depth⟩, .inr (by decide), List.forall_mem_nil _⟩

end Json

end HeaderAudit
