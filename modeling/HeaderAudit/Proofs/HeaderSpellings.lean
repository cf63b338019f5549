import HeaderAudit.Proofs.LineOwners
import Mathlib.Data.List.DropRight
import Mathlib.Logic.Relation

/-!
# Spellings of a header

The name of a header may be written in capital or small letters, and white space may stand around
the name and around the value.  None of this changes what is read from the line.  So the values
under some names stay the same whatever is done to the lines of other names, and however the lines
of these names are written.
-/

namespace HeaderAudit

namespace Text

/-! ## Letters of ASCII in another case -/

theorem toLower_of_not_ascii {c : Char} (hc : ¬ c.toNat < 0x80) : c.toLower = c := by
  have hnot : ¬ (c.val ≥ 'A'.val ∧ c.val ≤ 'Z'.val) := by
    rintro ⟨-, hlast⟩
    have hbound : c.toNat ≤ 0x5A := UInt32.le_iff_toNat_le.mp hlast
    omega
  exact dif_neg hnot

/-- What does not look at the case of the letters of ASCII. -/
theorem apply_toLower {α : Type} {f : Char → α}
    (hascii : ∀ code < 0x80, f (Char.ofNat code).toLower = f (Char.ofNat code)) (c : Char) :
    f c.toLower = f c := by
  by_cases hc : c.toNat < 0x80
  · have hcode := hascii c.toNat hc
    rwa [Char.ofNat_toNat] at hcode
  · rw [toLower_of_not_ascii hc]

theorem isBlank_toLower (c : Char) : isBlank c.toLower = isBlank c :=
  apply_toLower (by decide) c

theorem isCased_toLower (c : Char) : isCased c.toLower = isCased c :=
  apply_toLower (by decide +kernel) c

theorem isCaseIgnorable_toLower (c : Char) : isCaseIgnorable c.toLower = isCaseIgnorable c :=
  apply_toLower (by decide +kernel) c

theorem lowerChar_toLower (c : Char) : lowerChar c.toLower = lowerChar c :=
  apply_toLower (by decide) c

theorem toLower_eq_sigma_iff (c : Char) : c.toLower = 'Σ' ↔ c = 'Σ' := by
  have hsigma : decide (c.toLower = 'Σ') = decide (c = 'Σ') :=
    apply_toLower (f := fun c => decide (c = 'Σ')) (by decide) c
  simpa using hsigma

theorem endsWord_map_toLower (before after : Text) :
    endsWord (before.map Char.toLower) (after.map Char.toLower) = endsWord before after := by
  have hignorable : isCaseIgnorable ∘ Char.toLower = isCaseIgnorable :=
    funext isCaseIgnorable_toLower
  simp only [endsWord, List.dropWhile_map, List.head?_map, Option.any_map, isCased_toLower,
    hignorable]

theorem lowerAfter_map_toLower (before t : Text) :
    lowerAfter (before.map Char.toLower) (t.map Char.toLower) = lowerAfter before t := by
  induction t generalizing before with
  | nil => rfl
  | cons c rest ih =>
      have hrest := ih (c :: before)
      rw [List.map_cons] at hrest
      simp only [List.map_cons, lowerAfter, endsWord_map_toLower, lowerChar_toLower,
        toLower_eq_sigma_iff, hrest]

theorem lower_map_toLower (t : Text) : lower (t.map Char.toLower) = lower t :=
  lowerAfter_map_toLower [] t

theorem strip_map_toLower (t : Text) : strip (t.map Char.toLower) = (strip t).map Char.toLower := by
  have hblank : isBlank ∘ Char.toLower = isBlank := funext isBlank_toLower
  simp only [strip, trimWhile, dropRightWhile, List.dropWhile_map, ← List.map_reverse, hblank]

theorem lower_strip_congr {t u : Text} (htu : t.map Char.toLower = u.map Char.toLower) :
    lower (strip t) = lower (strip u) := by
  rw [← lower_map_toLower (strip t), ← strip_map_toLower, htu, strip_map_toLower,
    lower_map_toLower]

/-! ## White space around a text -/

theorem strip_eq_rdropWhile (t : Text) : strip t = (t.dropWhile isBlank).rdropWhile isBlank := rfl

theorem rdropWhile_append_blank (t : Text) {after : Text} (hafter : blank after = true) :
    (t ++ after).rdropWhile isBlank = t.rdropWhile isBlank := by
  have hreverse : ∀ c ∈ after.reverse, isBlank c = true :=
    fun c hc => List.all_eq_true.mp hafter c (List.mem_reverse.mp hc)
  rw [List.rdropWhile, List.rdropWhile, List.reverse_append,
    List.dropWhile_append_of_pos hreverse]

theorem strip_padded {before after : Text} (hbefore : blank before = true)
    (hafter : blank after = true) (t : Text) : strip (before ++ t ++ after) = strip t := by
  rw [strip_eq_rdropWhile, List.append_assoc, dropWhile_blank_append hbefore, List.dropWhile_append]
  split
  · next hnil =>
    have hblank : after.dropWhile isBlank = [] :=
      List.dropWhile_eq_nil_iff.mpr (List.all_eq_true.mp hafter)
    rw [strip_eq_rdropWhile, List.isEmpty_iff.mp hnil, hblank]
  · exact rdropWhile_append_blank _ hafter

theorem dropWhile_strip (t : Text) : (strip t).dropWhile isBlank = strip t := by
  rw [strip_eq_rdropWhile]
  cases ht : t.dropWhile isBlank with
  | nil => rfl
  | cons c rest =>
      have hnot := List.head?_dropWhile_not isBlank t
      rw [ht] at hnot
      cases hstrip : (c :: rest).rdropWhile isBlank with
      | nil => rfl
      | cons d more =>
          have hbegins := List.rdropWhile_prefix isBlank (c :: rest)
          rw [hstrip, List.cons_prefix_cons] at hbegins
          rw [hbegins.1]
          exact List.dropWhile_cons_of_neg (Bool.eq_false_iff.mp hnot)

theorem strip_strip (t : Text) : strip (strip t) = strip t := by
  rw [strip_eq_rdropWhile (strip t), dropWhile_strip, strip_eq_rdropWhile,
    List.rdropWhile_idempotent]

theorem strip_eq_nil_iff (t : Text) : strip t = [] ↔ blank t = true := by
  constructor
  · intro hstrip
    rw [strip_eq_rdropWhile, List.rdropWhile_eq_nil_iff] at hstrip
    rw [blank, ← @List.takeWhile_append_dropWhile _ isBlank t, List.all_append,
      List.all_takeWhile, List.all_eq_true.mpr hstrip]
    rfl
  · intro hblank
    have hnil : t.dropWhile isBlank = [] :=
      List.dropWhile_eq_nil_iff.mpr (List.all_eq_true.mp hblank)
    rw [strip_eq_rdropWhile, hnil]
    rfl

end Text

namespace Headers

open Text (blank)

/-! ## Values under a name -/

/-- The values of the lines that bear a name. -/
def valuesUnder (name : Text) (lines : List Text) : List Text :=
  (lines.filter fun line => Bears (Text.strip name) line).map fun line => (parseLine line).2

theorem getAll_eq_valuesUnder (name : Text) (h : Headers) :
    h.getAll name = valuesUnder name h.lines := getAll_eq_map_named name h

theorem valuesUnder_append (name : Text) (above below : List Text) :
    valuesUnder name (above ++ below) = valuesUnder name above ++ valuesUnder name below := by
  rw [valuesUnder, List.filter_append, List.map_append, ← valuesUnder, ← valuesUnder]

theorem valuesUnder_cons (name line : Text) (below : List Text) :
    valuesUnder name (line :: below) = valuesUnder name [line] ++ valuesUnder name below :=
  valuesUnder_append name [line] below

theorem valuesUnder_other {name line : Text} (hline : ¬ Bears (Text.strip name) line) :
    valuesUnder name [line] = [] := by
  simp [valuesUnder, hline]

theorem valuesUnder_filter {name : Text} {p : Text → Bool}
    (hkept : ∀ line, Bears (Text.strip name) line → p line = true) (lines : List Text) :
    valuesUnder name (lines.filter p) = valuesUnder name lines := by
  have hboth : ∀ line, (decide (Bears (Text.strip name) line) && p line) =
      decide (Bears (Text.strip name) line) := by
    intro line
    by_cases hline : Bears (Text.strip name) line <;> simp [hline, hkept]
  rw [valuesUnder, List.filter_filter]
  simp only [hboth]
  rfl

theorem strip_of_mem_getAll {name value : Text} {h : Headers} (hvalue : value ∈ h.getAll name) :
    Text.strip value = value := by
  rw [getAll_eq_map_named] at hvalue
  obtain ⟨line, -, rfl⟩ := List.mem_map.mp hvalue
  exact Text.strip_strip _

/-! ## The spellings of a line -/

/-- The line of a name, with a value behind a colon if there is one. -/
def lineOf (name : Text) (value : Option Text) : Text :=
  name ++ (value.map (':' :: ·)).getD []

theorem cut_lineOf {name : Text} (hname : ':' ∉ name) (value : Option Text) :
    Text.cut ':' (lineOf name value) = (name, value) := by
  cases value with
  | none => simpa [lineOf] using Text.cut_of_not_mem hname
  | some value => exact Text.cut_append hname value

theorem parseLine_lineOf {name : Text} (hname : ':' ∉ name) (value : Option Text) :
    parseLine (lineOf name value) = (Text.strip name, Text.strip (value.getD [])) := by
  rw [parseLine, cut_lineOf hname]

/-- Two ways to write one header: the case of the letters of ASCII in its name, and white space
around the name and the value. -/
inductive Respelt : Text → Text → Prop where
  | letterCase {name other : Text} (value : Option Text) : ':' ∉ name →
      name.map Char.toLower = other.map Char.toLower →
      Respelt (lineOf name value) (lineOf other value)
  | paddedName {name before after : Text} (value : Option Text) : ':' ∉ name →
      blank before = true → blank after = true →
      Respelt (lineOf name value) (lineOf (before ++ name ++ after) value)
  | paddedValue {name before after : Text} (value : Text) : ':' ∉ name →
      blank before = true → blank after = true →
      Respelt (lineOf name (some value)) (lineOf name (some (before ++ value ++ after)))

theorem colon_not_mem_blank {t : Text} (ht : blank t = true) : ':' ∉ t := by
  intro hcolon
  exact absurd (List.all_eq_true.mp ht ':' hcolon) (by decide)

theorem colon_not_mem_of_map_toLower {name other : Text} (hname : ':' ∉ name)
    (hother : name.map Char.toLower = other.map Char.toLower) : ':' ∉ other := by
  have hcolon : ∀ c : Char, c.toLower = ':' → c = ':' := by
    intro c hc
    have hsame : decide (c.toLower = ':') = decide (c = ':') :=
      Text.apply_toLower (f := fun c => decide (c = ':')) (by decide) c
    simpa [hc] using hsame
  intro hmem
  have hlower : ':' ∈ name.map Char.toLower := by
    rw [hother]
    exact List.mem_map.mpr ⟨':', hmem, rfl⟩
  obtain ⟨c, hc, hcc⟩ := List.mem_map.mp hlower
  exact hname (hcolon c hcc ▸ hc)

/-- However a header is written, its name is the same but for the case of letters, and its value is
the same. -/
theorem Respelt.parseLine_eq {line other : Text} (h : Respelt line other) :
    Text.lower (parseLine line).1 = Text.lower (parseLine other).1 ∧
      (parseLine line).2 = (parseLine other).2 := by
  cases h with
  | letterCase value hname hother =>
      rw [parseLine_lineOf hname, parseLine_lineOf (colon_not_mem_of_map_toLower hname hother)]
      exact ⟨Text.lower_strip_congr hother, rfl⟩
  | @paddedName name before after value hname hbefore hafter =>
      have hpadded : ':' ∉ before ++ name ++ after := by
        simp [hname, colon_not_mem_blank hbefore, colon_not_mem_blank hafter]
      rw [parseLine_lineOf hname, parseLine_lineOf hpadded, Text.strip_padded hbefore hafter]
      exact ⟨rfl, rfl⟩
  | paddedValue value hname hbefore hafter =>
      rw [parseLine_lineOf hname, parseLine_lineOf hname]
      exact ⟨rfl, (Text.strip_padded hbefore hafter value).symm⟩

theorem Respelt.valuesUnder_eq {line other : Text} (h : Respelt line other) (name : Text) :
    valuesUnder name [line] = valuesUnder name [other] := by
  obtain ⟨hname, hvalue⟩ := h.parseLine_eq
  have hbears : Bears (Text.strip name) line ↔ Bears (Text.strip name) other := by
    rw [Bears, Bears, hname]
  by_cases hline : Bears (Text.strip name) line
  · simp [valuesUnder, hline, hbears.mp hline, hvalue]
  · rw [valuesUnder_other hline, valuesUnder_other (mt hbears.mpr hline)]

/-! ## Changes that spare the values -/

/-- None of the names is that of the line. -/
def BearsNoneOf (names : List Text) (line : Text) : Prop :=
  ∀ name ∈ names, ¬ Bears (Text.strip name) line

instance (names : List Text) (line : Text) : Decidable (BearsNoneOf names line) :=
  List.decidableBAll _ names

/-- One change to the lines of a head: a line of another name than these is put in or moved, or some
line is written in another way. -/
inductive Change (names : List Text) : List Text → List Text → Prop where
  | insert {line : Text} (above below : List Text) : BearsNoneOf names line →
      Change names (above ++ below) (above ++ line :: below)
  | move {line : Text} (above between below : List Text) : BearsNoneOf names line →
      Change names (above ++ line :: between ++ below) (above ++ between ++ line :: below)
  | respell {line other : Text} (above below : List Text) : Respelt line other →
      Change names (above ++ line :: below) (above ++ other :: below)

theorem Change.valuesUnder_eq {names lines others : List Text} (h : Change names lines others)
    {name : Text} (hname : name ∈ names) : valuesUnder name lines = valuesUnder name others := by
  cases h with
  | insert above below hline =>
      simp only [valuesUnder_append, valuesUnder_cons name _ below,
        valuesUnder_other (hline name hname), List.nil_append]
  | move above between below hline =>
      simp only [List.append_assoc, List.cons_append, valuesUnder_append,
        valuesUnder_cons name _ below, valuesUnder_cons name _ (between ++ below),
        valuesUnder_other (hline name hname), List.nil_append]
  | respell above below hspelt =>
      simp only [valuesUnder_append, valuesUnder_cons name _ below, hspelt.valuesUnder_eq name]

/-- The lines come from each other by changes, made or undone one after another. -/
def AlikeUnder (names : List Text) : List Text → List Text → Prop :=
  Relation.EqvGen (Change names)

theorem AlikeUnder.valuesUnder_eq {names lines others : List Text}
    (h : AlikeUnder names lines others) {name : Text} (hname : name ∈ names) :
    valuesUnder name lines = valuesUnder name others := by
  induction h with
  | rel lines others hchange => exact hchange.valuesUnder_eq hname
  | refl lines => rfl
  | symm lines others _ ih => exact ih.symm
  | trans lines between others _ _ ih ih' => exact ih.trans ih'

theorem AlikeUnder.getAll_eq {names : List Text} {h h' : Headers}
    (halike : AlikeUnder names h.lines h'.lines) {name : Text} (hname : name ∈ names) :
    h.getAll name = h'.getAll name := by
  rw [getAll_eq_valuesUnder, getAll_eq_valuesUnder]
  exact halike.valuesUnder_eq hname

end Headers

end HeaderAudit
