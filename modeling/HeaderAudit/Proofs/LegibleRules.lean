import HeaderAudit.Proofs.LoadedRules
import HeaderAudit.Proofs.OverlongValues
import HeaderAudit.Proofs.ScalarFaults

/-!
# Rule files that can be loaded

A rule file with faults should yield what rules it can and a note on the rest.  A text that is no
YAML does so, and so does an entry with faults.  But loading fails on bytes that are no text, on a
scalar that names no value, and on an entry with faults that cannot be written out for the note.
-/

namespace HeaderAudit
namespace RuleFile

open Yaml (Value)

/-- A mapping that is no entry and has a number in it that is too long for the note. -/
inductive Untellable : Value → Prop where
  | mapping {pairs : List (Value × Value)} : (∀ entry, Entry.ofPairs pairs ≠ .ok entry) →
      Overlong (.map pairs) → Untellable (.map pairs)

def Tellable (value : Value) : Prop := ¬ Untellable value

def IsMalformed (t : Text) : Prop :=
  ∃ problem, Yaml.read (unifyLineEnds t) = .error (.malformed problem)

instance (t : Text) : Decidable (IsMalformed t) :=
  match hread : Yaml.read (unifyLineEnds t) with
  | .error (.malformed problem) => isTrue ⟨problem, hread⟩
  | .error (.scalar _) => isFalse (by simp [IsMalformed, hread])
  | .ok _ => isFalse (by simp [IsMalformed, hread])

/-- The reasons why loading from bytes fails. -/
inductive Illegible (bytes : List UInt8) : Prop where
  | notUtf8 : (∀ t, Text.encodeUtf8 t ≠ bytes) → Illegible bytes
  /-- A scalar names no value. -/
  | scalar {t : Text} {cause : Yaml.ScalarError} : Text.encodeUtf8 t = bytes →
      Yaml.read (unifyLineEnds t) = .error (.scalar cause) → Illegible bytes
  | entry {t : Text} {document entry : Value} : Text.encodeUtf8 t = bytes →
      Yaml.read (unifyLineEnds t) = .ok document → entry ∈ entriesOf document →
      Untellable entry → Illegible bytes

variable {env : Environment} {path file : Path} {bytes : List UInt8} {w : World}
  {pairs : List (Value × Value)}

theorem tellable_of_ok {entry : Entry} (hentry : Entry.ofPairs pairs = .ok entry) :
    Tellable (.map pairs) := by
  rintro ⟨hfaulty, -⟩
  exact hfaulty entry hentry

theorem tellable_iff_of_error {faults : List EntryFault}
    (hentry : Entry.ofPairs pairs = .error faults) :
    Tellable (.map pairs) ↔ Entry.pairsShowable pairs = true := by
  have hfaulty : ∀ entry, Entry.ofPairs pairs ≠ .ok entry := by simp [hentry]
  rw [← Bool.not_eq_false, pairsShowable_eq_false_iff]
  refine not_congr ⟨?_, .mapping hfaulty⟩
  rintro ⟨-, hlong⟩
  exact hlong

theorem tellable_of_not_map {value : Value} (hother : ∀ pairs, value ≠ .map pairs) :
    Tellable value := by
  rintro ⟨-, -⟩
  exact hother _ rfl

theorem rulesOf_ok_iff (entries : List Value) (w : World) :
    (∃ rules, (rulesOf env entries w).2 = .ok rules) ↔ ∀ entry ∈ entries, Tellable entry := by
  induction entries generalizing w with
  | nil => simp [rulesOf]
  | cons entry rest ih =>
      rw [List.forall_mem_cons]
      cases entry with
      | map pairs =>
          cases hentry : Entry.ofPairs pairs with
          | ok entry =>
              have htold := tellable_of_ok hentry
              have hrest := ih (ruleOf env entry w).2
              simp only [rulesOf, hentry, htold, true_and, ← hrest]
              cases (rulesOf env rest (ruleOf env entry w).2).2 <;> simp [Except.map]
          | error faults =>
              have htold := tellable_iff_of_error hentry
              simp only [rulesOf, hentry, htold]
              by_cases hshowable : Entry.pairsShowable pairs = true
              · rw [if_pos hshowable, ih]
                simp [hshowable]
              · rw [if_neg hshowable]
                simp [hshowable]
      | _ => exact (ih w).trans (and_iff_right (tellable_of_not_map (by simp))).symm

theorem rulesOf_error {entries : List Value} {e : RuleFileError}
    (he : (rulesOf env entries w).2 = .error e) :
    e = .value .tooManyDigitsToShow ∧ ∃ entry ∈ entries, Untellable entry := by
  constructor
  · induction entries generalizing w with
    | nil => cases he
    | cons entry rest ih =>
        rcases @rulesOf_cons_cases env entry rest w with
          ⟨parsed, -, -, hmore⟩ | hsame | ⟨faults, hnoted⟩ | hended
        · rw [hmore] at he
          cases hothers : (rulesOf env rest (ruleOf env parsed w).2).2 with
          | error e' =>
              rw [hothers] at he
              cases he
              exact ih hothers
          | ok others =>
              rw [hothers] at he
              cases he
        · rw [hsame] at he
          exact ih he
        · rw [hnoted] at he
          exact ih he
        · rw [hended] at he
          cases he
          rfl
  · by_contra hnone
    have htold : ∀ entry ∈ entries, Tellable entry := by simpa [Tellable] using hnone
    obtain ⟨rules, hrules⟩ := (@rulesOf_ok_iff env entries w).mpr htold
    rw [hrules] at he
    cases he

/-- What makes the bytes of a text illegible. -/
theorem illegible_encodeUtf8_iff (t : Text) :
    Illegible (Text.encodeUtf8 t) ↔
      (∃ cause, Yaml.read (unifyLineEnds t) = .error (.scalar cause)) ∨
        ∃ document, Yaml.read (unifyLineEnds t) = .ok document ∧
          ∃ entry ∈ entriesOf document, Untellable entry := by
  constructor
  · rintro (hnone | ⟨hsame, hread⟩ | ⟨hsame, hread, hmem, hentry⟩)
    · exact absurd rfl (hnone t)
    · rw [Text.encodeUtf8_injective hsame] at hread
      exact .inl ⟨_, hread⟩
    · rw [Text.encodeUtf8_injective hsame] at hread
      exact .inr ⟨_, hread, _, hmem, hentry⟩
  · rintro (⟨cause, hread⟩ | ⟨document, hread, entry, hmem, hentry⟩)
    · exact .scalar rfl hread
    · exact .entry rfl hread hmem hentry

theorem rulesOfBytes_ok_iff (name : Text) (bytes : List UInt8) (w : World) :
    (∃ rules, (rulesOfBytes env name bytes w).2 = .ok rules) ↔ ¬ Illegible bytes := by
  rw [rulesOfBytes]
  cases htext : Text.decodeUtf8 bytes with
  | error e =>
      have hillegible : Illegible bytes := by
        refine .notUtf8 fun t ht => ?_
        rw [← Text.decodeUtf8_eq_ok_iff, htext] at ht
        cases ht
      simp [hillegible]
  | ok t =>
      obtain rfl := Text.decodeUtf8_eq_ok_iff.mp htext
      rw [illegible_encodeUtf8_iff]
      cases hread : Yaml.read (unifyLineEnds t) with
      | ok document =>
          simp only [hread]
          rw [rulesOf_ok_iff]
          simp [Tellable]
      | error e => cases e <;> simp [hread]

/-- What ends the loading of a text: something in it names no value, or an entry with faults has a
number in it that is too long for the note. -/
inductive EndsLoading (t : Text) : RuleFileError → Prop where
  | scalar {cause : Yaml.ScalarError} :
      Yaml.NamesNoValue (Yaml.Token.ofText (unifyLineEnds t)) cause → EndsLoading t (.value cause)
  | entry {document entry : Value} : Yaml.read (unifyLineEnds t) = .ok document →
      entry ∈ entriesOf document → Untellable entry → EndsLoading t (.value .tooManyDigitsToShow)

theorem endsLoading_of_rulesOfBytes {name t : Text} {e : RuleFileError}
    (he : (rulesOfBytes env name (Text.encodeUtf8 t) w).2 = .error e) : EndsLoading t e := by
  rw [rulesOfBytes, Text.decodeUtf8_encodeUtf8] at he
  cases hread : Yaml.read (unifyLineEnds t) with
  | ok document =>
      simp only [hread] at he
      obtain ⟨rfl, entry, hmem, hentry⟩ := rulesOf_error he
      exact .entry hread hmem hentry
  | error fault =>
      cases fault with
      | malformed problem =>
          simp only [hread] at he
          cases he
      | scalar cause =>
          simp only [hread] at he
          cases he
          exact .scalar (Yaml.namesNoValue_of_read hread)

namespace Blot

def here : Environment := ⟨⟨['/'], []⟩, ⟨['/'], []⟩, none, fun n => 'i' :: Text.ofNat n⟩

def page : Path := ⟨['/'], ["r"]⟩

/-- A world in which there is nothing but the file, with these bytes. -/
def holding (bytes : List UInt8) : World :=
  ⟨⟨[(["r"], .file ⟨Disk.ownerOnly, bytes⟩)], [], []⟩, [], 0⟩

def unclosed : Text := "exclusions: [unclosed"

theorem read_holding (bytes : List UInt8) : (holding bytes).disk.read page = .ok bytes := rfl

end Blot

end RuleFile
end HeaderAudit
