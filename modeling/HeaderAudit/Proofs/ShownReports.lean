import HeaderAudit.Proofs.PrintedTables
import HeaderAudit.Report.Terminal

/-!
# Reports that can be shown

A report on the terminal is made of markups.  The request of an excluded report is escaped, so that
its notice can be shown whatever the request is, and so can the notice of the overall status and the
cells of the table that say how a check has judged.  What is left are the texts that the checks bring
along: a report is printed if the columns of its outcomes and the messages of its findings can be
shown.
-/

namespace HeaderAudit

open Console (Table Library Cell CanLookUp)
open Console.Markup (Apart CanShow IsStyle lexemes liveTags)

/-! ## The styles of the program -/

theorem Status.isStyle_colour (status : Status) : IsStyle status.colour := by
  cases status <;> constructor <;> decide +kernel

theorem isStyle_bold : IsStyle "bold" := by
  constructor <;> decide +kernel

theorem isStyle_dim : IsStyle "dim" := by
  constructor <;> decide +kernel

theorem Status.liveTags_painted_name (status : Status) :
    liveTags (status.painted status.name) = [status.colour, ['/']] := by
  cases status <;> decide

theorem canShow_affectsNotice {library : Library} (affects : Bool) :
    CanShow library (affectsNotice affects) := by
  cases affects with
  | true => exact Console.Markup.canShow_of_untagged (by decide)
  | false => exact Console.Markup.canShow_of_styled isStyle_dim (by decide)

namespace Report

variable {library : Library} {room : Nat} {report : Report}

/-! ## The notices -/

def noticeEnd : Text := " (findings suppressed)[/]"

theorem apart_noticeEnd : Apart noticeEnd :=
  Console.Markup.apart_cons (by decide) (by decide) (by decide) (by decide)

theorem lexemes_noticeEnd :
    lexemes noticeEnd = " (findings suppressed)".toList.map .char ++ [.tag 0 ['/']] := by
  decide

/-- The request brings no tags into the notice: those that count are the notice's own. -/
theorem liveTags_exclusionNotice (report : Report) :
    liveTags report.exclusionNotice = ["dim".toList, ['/']] := by
  obtain ⟨ls, hls, hescaped⟩ := Console.Markup.exists_harmless_escape apart_noticeEnd
    (report.method.getD "None" ++ ' ' :: report.url.getD "None")
  have htag : Console.Markup.tagBody? ("dim".toList ++ [']']) = some "dim".toList := by decide
  have hbegin : ∀ c ∈ "Excluded by rule: ".toList, c ≠ '\\' ∧ c ≠ '[' := by simp
  have hopen := @Console.Markup.lexemesFrom_quoted_tag 0 _ _ htag ("Excluded by rule: ".toList ++
    (Console.Markup.escape (report.method.getD "None" ++ ' ' :: report.url.getD "None") ++
      noticeEnd))
  rw [lexemes_noticeEnd, lexemes] at hescaped
  rw [Console.Markup.lexemesFrom_word hbegin, hescaped] at hopen
  have hlexemes : lexemes report.exclusionNotice = .tag 0 "dim" ::
      ("Excluded by rule: ".toList.map .char ++ (ls ++ " (findings suppressed)".toList.map .char) ++
        .tag 0 ['/'] :: []) := by
    simp only [List.append_assoc]
    exact hopen
  refine Console.Markup.liveTags_styled hlexemes ?_ (by simp)
  rw [List.forall_mem_append, List.forall_mem_append]
  exact ⟨Console.Markup.harmless_chars _, hls, Console.Markup.harmless_chars _⟩

theorem canShow_exclusionNotice (report : Report) : CanShow library report.exclusionNotice :=
  Console.Markup.canShow_of_styled isStyle_dim report.liveTags_exclusionNotice

theorem liveTags_overallNotice (report : Report) :
    liveTags report.overallNotice = [report.overall.colour, "bold".toList, ['/'], ['/']] := by
  unfold overallNotice
  cases report.overall <;> decide

theorem canShow_overallNotice (report : Report) : CanShow library report.overallNotice := by
  have hcolour := report.overall.isStyle_colour
  have htags := report.liveTags_overallNotice
  have hwell : Console.Markup.WellTagged library report.overallNotice := by
    rw [Console.Markup.WellTagged, htags, hcolour.openAfter?_eq, isStyle_bold.openAfter?_eq,
      isStyle_bold.openAfter?_close, hcolour.openAfter?_close]
    rfl
  refine Console.Markup.canShow_of_wellTagged hwell ?_
  rw [htags]
  simp only [List.forall_mem_cons]
  exact ⟨.inl hcolour, .inl isStyle_bold, .inr trivial, .inr trivial, by simp⟩

/-! ## The table -/

theorem canShow_of_mem_verdictRow {o : Outcome} (hcolumn : CanShow library o.check.column) :
    ∀ cell ∈ verdictRow o, cell.CanShow library := by
  have hstatus : CanShow library (o.verdict.status.painted o.verdict.status.name) :=
    Console.Markup.canShow_of_styled o.verdict.status.isStyle_colour
      o.verdict.status.liveTags_painted_name
  have haffects := @canShow_affectsNotice library o.check.affects
  rw [verdictRow]
  simp only [List.forall_mem_cons]
  exact ⟨hcolumn, hstatus, Cell.canShow_text _, haffects, by simp⟩

/-! ## The whole report -/

/-- The parts of a report that the checks bring along are printed. -/
structure Showable (library : Library) (room : Nat) (report : Report) : Prop where
  table : ∃ t, Console.printTable library room report.verdictTable = .ok t
  messages : ∀ o ∈ report.findings, ∃ t, Console.printMarkup library room (findingNotice o) = .ok t

/-- It is enough that the texts of the checks can be shown. -/
theorem showable_of_canShow (hcolumns : ∀ o ∈ report.outcomes, CanShow library o.check.column)
    (hmessages : ∀ o ∈ report.findings, CanShow library (findingNotice o)) (room : Nat) :
    report.Showable library room := by
  refine ⟨Console.exists_printTable ?_ room, fun o ho =>
    Console.Markup.exists_printMarkup (hmessages o ho) room⟩
  intro row hrow
  obtain ⟨o, ho, rfl⟩ := List.mem_map.mp hrow
  exact canShow_of_mem_verdictRow (hcolumns o ho)

/-- The two notices can always be printed, so that only the table and the findings are left. -/
theorem exists_printTerminal_iff :
    (∃ t, report.printTerminal library room = .ok t) ↔ report.Showable library room := by
  obtain ⟨notice, hnotice⟩ := Console.Markup.exists_printMarkup report.canShow_exclusionNotice room
  obtain ⟨overall, hoverall⟩ := Console.Markup.exists_printMarkup report.canShow_overallNotice room
  have hmessages : (∃ printed, report.findings.mapM
      (fun o => Console.printMarkup library room (findingNotice o)) = .ok printed) ↔
        ∀ o ∈ report.findings, ∃ t, Console.printMarkup library room (findingNotice o) = .ok t :=
    exists_mapM_ok_iff
  have hlayout : ∃ layout : Text → List Text → Text, report.printTerminal library room =
      (Console.printTable library room report.verdictTable).bind fun table =>
        (report.findings.mapM fun o => Console.printMarkup library room (findingNotice o)).bind
          fun findings => .ok (layout table findings) := by
    rw [printTerminal, hnotice, hoverall]
    by_cases hexcluded : report.excluded
    · rw [if_pos hexcluded]
      exact ⟨_, rfl⟩
    · rw [if_neg hexcluded]
      exact ⟨_, rfl⟩
  obtain ⟨layout, hlayout⟩ := hlayout
  rw [hlayout]
  constructor
  · intro hprinted
    cases htable : Console.printTable library room report.verdictTable with
    | error e => simp [htable, Except.bind] at hprinted
    | ok table =>
        cases hfindings : report.findings.mapM
            fun o => Console.printMarkup library room (findingNotice o) with
        | error e => simp [htable, hfindings, Except.bind] at hprinted
        | ok printed => exact ⟨⟨table, htable⟩, hmessages.mp ⟨printed, hfindings⟩⟩
  · rintro ⟨⟨table, htable⟩, hfindings⟩
    obtain ⟨printed, hprinted⟩ := hmessages.mpr hfindings
    rw [htable, hprinted]
    exact ⟨_, rfl⟩

end Report

end HeaderAudit
