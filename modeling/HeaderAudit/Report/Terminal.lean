import HeaderAudit.Console.Print
import HeaderAudit.Report.StyledLine

/-!
# Reports for readers

A report on the terminal: whether the request is excluded, a table of the verdicts, the header lines in a
panel, the overall status and the findings.
-/

namespace HeaderAudit

open Console (Table Column Cell Library Markup.Error)

def Status.colour : Status → Text
  | ok => "green"
  | warn => "yellow"
  | fail => "red"

def Status.painted (s : Status) (t : Text) : Text :=
  '[' :: s.colour ++ ']' :: t ++ ("[/]" : Text)

def affectsNotice (b : Bool) : Text := if b then "yes" else "[dim]no[/]"

namespace Report

def verdictColumns : List Column :=
  [.plain "Check", .plain "Status", ⟨"Value", .left, .fold⟩, ⟨"Counts", .center, .ellipsis⟩]

/-- The value of a header is not read as markup. -/
def verdictRow (o : Outcome) : List Cell :=
  [.markup o.check.column, .markup (o.verdict.status.painted o.verdict.status.name),
    .text o.verdict.display, .markup (affectsNotice o.check.affects)]

def verdictTable (report : Report) : Table :=
  ⟨"Security Header Checks", verdictColumns, report.outcomes.map verdictRow⟩

def headText (report : Report) : Text :=
  let first := (report.headers.statusLine.filter fun t => !t.isEmpty).toList
  let lines := first.map Console.Markup.shown ++ report.lines.map fun line => line.styled.text
  lines.flatMap (· ++ ['\n'])

def exclusionNotice (report : Report) : Text :=
  let request := report.method.getD "None" ++ ' ' :: report.url.getD "None"
  "[dim]Excluded by rule: " ++ Console.Markup.escape request ++ " (findings suppressed)[/]"

def overallNotice (report : Report) : Text :=
  report.overall.painted ("[bold]Overall:[/] " ++ report.overall.name)

def findingNotice (o : Outcome) : Text :=
  "   " ++ o.verdict.status.painted o.verdict.status.label ++ ' ' :: o.check.missing

def printTerminal (library : Library) (room : Nat) (report : Report) : Except Markup.Error Text := do
  let notice ←
    if report.excluded then Console.printMarkup library room report.exclusionNotice else .ok []
  let table ← Console.printTable library room report.verdictTable
  let overall ← Console.printMarkup library room report.overallNotice
  let findings ← report.findings.mapM fun o => Console.printMarkup library room (findingNotice o)
  .ok ('\n' :: notice ++ table
    ++ Console.printPanel room ⟨"Response Headers", report.headText⟩ ++ overall
    ++ findings.flatten)

end Report

def ruleColumns : List Column := [.plain "ID", .plain "Type", .plain "Pattern"]

/-- Ids and patterns are read as markup. -/
def Rule.row (rule : Rule) : List Cell :=
  [.markup rule.id, .markup rule.kind.displayName, .markup rule.pattern]

def rulesTable (rules : List Rule) : Table := ⟨"Exclusion Rules", ruleColumns, rules.map Rule.row⟩

def printRulesTerminal (library : Library) (room : Nat) (rules : List Rule) :
    Except Markup.Error Text :=
  if rules.isEmpty then Console.printMarkup library room "[dim]No exclusion rules configured.[/]"
  else Console.printTable library room (rulesTable rules)

def checkColumns : List Column :=
  [.plain "Name", .plain "Column", .plain "Header", ⟨"Affects overall", .center, .ellipsis⟩]

def Check.row (check : Check) : List Cell :=
  [.markup check.name, .markup check.column, .markup check.header, .markup (affectsNotice check.affects)]

def checksTable (checks : List Check) : Table :=
  ⟨"Registered Checks", checkColumns, checks.map Check.row⟩

def printChecksTerminal (library : Library) (room : Nat) (checks : List Check) :
    Except Markup.Error Text :=
  Console.printTable library room (checksTable checks)

end HeaderAudit
