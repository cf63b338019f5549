import HeaderAudit.Proofs.Passes
import HeaderAudit.Proofs.PrintedDocuments
import HeaderAudit.Report.Document

/-!
# Reports for machines read back

A report of the built-in checks and a list of rules are printed as documents, at every width of the
console alike.  What is printed is always a document again, and it is the document it was made from
exactly if none of its texts has the name of a picture between two colons.
-/

namespace HeaderAudit

open Console.Emoji (Pictures)
open Json (Tidy Legible Unpictured)

/-! ## The documents -/

theorem Json.Tidy.of_names {fields : List (Text × Json)} (names : List Text)
    (hnames : names.Nodup ∧ ∀ name ∈ names, ':' ∉ name) (hfields : fields.map (·.1) = names)
    (hvalues : ∀ field ∈ fields, field.2.Tidy) : (Json.object fields).Tidy := by
  subst hfields
  exact .object hnames.1 (fun field hfield => hnames.2 _ (List.mem_map_of_mem hfield)) hvalues

theorem Json.tidy_ofOption (t : Option Text) : (Json.ofOption t).Tidy := by
  cases t with
  | none => exact .null
  | some t => exact .text t

theorem Segment.tidy_toJson (s : Segment) : s.toJson.Tidy := by
  refine .of_names ["start".toList, "end".toList, "type".toList] (by decide) rfl ?_
  simp only [List.forall_mem_cons]
  exact ⟨.int s.start, .int s.stop, .text s.tint.name, List.forall_mem_nil _⟩

theorem ColouredLine.tidy_toJson (line : ColouredLine) : line.toJson.Tidy := by
  refine .of_names ["text".toList, "check".toList, "type".toList, "segments".toList] (by decide)
    rfl ?_
  simp only [List.forall_mem_cons]
  refine ⟨.text line.text, Json.tidy_ofOption line.check, .text line.tint.name, .list ?_,
    List.forall_mem_nil _⟩
  rw [List.forall_mem_map]
  exact fun s _ => s.tidy_toJson

theorem Outcome.tidy_toJson (o : Outcome) : o.toJson.Tidy := by
  refine .of_names ["name".toList, "column".toList, "status".toList, "display_value".toList,
    "raw_value".toList, "affects_overall_status".toList] (by decide) rfl ?_
  simp only [List.forall_mem_cons]
  exact ⟨.text _, .text _, .text _, .text _, .text _, .bool _, List.forall_mem_nil _⟩

theorem Rule.tidy_toJson (rule : Rule) : rule.toJson.Tidy := by
  refine .of_names ["type".toList, "pattern".toList, "id".toList] (by decide) rfl ?_
  simp only [List.forall_mem_cons]
  exact ⟨.text _, .text _, .text _, List.forall_mem_nil _⟩

theorem Rule.tidy_listToJson (rules : List Rule) : (Rule.listToJson rules).Tidy := by
  refine .list ?_
  rw [List.forall_mem_map]
  exact fun rule _ => rule.tidy_toJson

theorem Report.tidy_toJson {report : Report} (hcontext : (Json.object report.context).Tidy) :
    report.toJson.Tidy := by
  refine .of_names ["method".toList, "url".toList, "excluded".toList, "overall_status".toList,
    "checks".toList, "lines".toList, "context".toList] (by decide) rfl ?_
  simp only [List.forall_mem_cons]
  refine ⟨Json.tidy_ofOption _, Json.tidy_ofOption _, .bool _, .text _, .list ?_, .list ?_,
    hcontext, List.forall_mem_nil _⟩
  · rw [List.forall_mem_map]
    exact fun o _ => o.tidy_toJson
  · rw [List.forall_mem_map]
    exact fun line _ => line.tidy_toJson

namespace Analysis

open Check (builtins)

/-- The built-in checks note the values of the cookies and nothing else. -/
theorem notes_builtins (headers : Headers) :
    notes headers [] builtins =
      [(Cookie.contextKey, .list ((headers.getAll "Set-Cookie").map .text))] := rfl

theorem tidy_context (headers : Headers) (method url : Option Text) (registry : Option Registry) :
    (Json.object (analyze headers builtins method url registry).context).Tidy := by
  have hcontext : (analyze headers builtins method url registry).context =
      notes headers [] builtins := by
    simp only [analyze, run_eq]
  rw [hcontext, notes_builtins]
  refine .of_names [Cookie.contextKey] (by decide) rfl ?_
  rw [List.forall_mem_singleton]
  refine .list ?_
  rw [List.forall_mem_map]
  exact fun t _ => .text t

/-- A printed report of the built-in checks, and a printed list of rules, is read back as a
document, and as the one it was made from exactly if no text in it has the name of a picture between
two colons. -/
theorem printed_documents_are_faithful_iff {pictures : Pictures} (hlegible : Legible pictures) :
    (∀ headers method url registry,
      let report := analyze headers builtins method url registry
      (∃ read, Json.read? (report.printDocument pictures) = some read) ∧
        (Json.read? (report.printDocument pictures) = some report.toJson ↔
          ∀ t ∈ report.toJson.texts, Unpictured pictures t)) ∧
    ∀ rules : List Rule,
      (∃ read, Json.read? (printRulesDocument pictures rules) = some read) ∧
        (Json.read? (printRulesDocument pictures rules) = some (Rule.listToJson rules) ↔
          ∀ t ∈ (Rule.listToJson rules).texts, Unpictured pictures t) := by
  constructor
  · intro headers method url registry report
    exact Json.read?_printRaw_eq_iff hlegible
      (Report.tidy_toJson (tidy_context headers method url registry))
  · intro rules
    exact Json.read?_printRaw_eq_iff hlegible (Rule.tidy_listToJson rules)

/-! ## Smiles -/

namespace Smile

/-- The only name that the texts below have of all that stand for pictures. -/
def pictures : Pictures := fun name => if name = "smile".toList then some ['😄'] else none

theorem legible_pictures : Legible pictures := by
  have hvisible : 0x20 ≤ '😄'.toNat ∧ '😄' ≠ '"' ∧ '😄' ≠ '\\' ∧ '😄' ≠ ':' := by decide
  intro name picture hpicture
  simp only [pictures, Option.ite_none_right_eq_some, Option.some.injEq] at hpicture
  rw [← hpicture.2, List.forall_mem_singleton]
  exact hvisible

/-- A name with a blank in it, quotes, a tab and a picture, and a name that is not known. -/
def soberResponse : Headers :=
  ⟨["X-Mood: : smile: \"frown\" :frown:\t☺".toList, "Set-Cookie: a=:frown: \\smile".toList], none⟩

def soberReport : Report := analyze soberResponse builtins none none none

theorem sober_report_is_faithful :
    Legible pictures ∧ (∀ t ∈ soberReport.toJson.texts, Unpictured pictures t) ∧
      Json.read? (soberReport.printDocument pictures) = some soberReport.toJson := by
  have hsober : ∀ t ∈ soberReport.toJson.texts, Unpictured pictures t := by decide +kernel
  refine ⟨legible_pictures, hsober, ?_⟩
  obtain ⟨hreports, -⟩ := printed_documents_are_faithful_iff legible_pictures
  obtain ⟨-, hfaithful⟩ := hreports soberResponse none none none
  rw [soberReport] at hsober ⊢
  exact hfaithful.mpr hsober

def smilingRules : List Rule := [⟨.host, ":smile:", "r"⟩]

/-- A pattern that is the name of a picture comes back as the picture. -/
theorem smiling_rule_comes_back_as_picture :
    (Json.read? (printRulesDocument pictures smilingRules)).map Json.texts =
        some ["host".toList, ['😄'], "r".toList] ∧
      Json.read? (printRulesDocument pictures smilingRules) ≠ some (Rule.listToJson smilingRules) := by
  have hread : (Json.read? (printRulesDocument pictures smilingRules)).map Json.texts =
      some ["host".toList, ['😄'], "r".toList] := by decide +kernel
  have htexts : (Rule.listToJson smilingRules).texts =
      ["host".toList, ":smile:".toList, "r".toList] := by decide
  refine ⟨hread, ?_⟩
  intro hsame
  rw [hsame, Option.map_some, htexts] at hread
  exact absurd hread (by decide)

end Smile

end Analysis

end HeaderAudit
