import HeaderAudit.Analysis
import HeaderAudit.Console.Print
import HeaderAudit.Json.Writer

/-!
# Reports for machines

A report and a list of rules as JSON documents.
-/

namespace HeaderAudit

namespace Json

def ofOption : Option Text → Json
  | some t => text t
  | none => null

def ofNat (n : Nat) : Json := int n

end Json

def Segment.toJson (s : Segment) : Json :=
  .object [("start", .int s.start), ("end", .int s.stop), ("type", .text s.tint.name)]

def ColouredLine.toJson (line : ColouredLine) : Json :=
  .object [("text", .text line.text), ("check", .ofOption line.check),
    ("type", .text line.tint.name), ("segments", .list (line.segments.map Segment.toJson))]

def Outcome.toJson (o : Outcome) : Json :=
  .object [("name", .text o.check.name), ("column", .text o.check.column),
    ("status", .text o.verdict.status.name), ("display_value", .text o.verdict.display),
    ("raw_value", .text o.verdict.raw), ("affects_overall_status", .bool o.check.affects)]

def Rule.toJson (rule : Rule) : Json :=
  .object [("type", .text rule.kind.name), ("pattern", .text rule.pattern), ("id", .text rule.id)]

namespace Report

def toJson (report : Report) : Json :=
  .object [("method", .ofOption report.method), ("url", .ofOption report.url),
    ("excluded", .bool report.excluded), ("overall_status", .text report.overall.name),
    ("checks", .list (report.outcomes.map Outcome.toJson)),
    ("lines", .list (report.lines.map ColouredLine.toJson)), ("context", .object report.context)]

def printDocument (pictures : Console.Emoji.Pictures) (report : Report) : Text :=
  Console.printRaw pictures report.toJson.write

end Report

def Rule.listToJson (rules : List Rule) : Json := .list (rules.map Rule.toJson)

def printRulesDocument (pictures : Console.Emoji.Pictures) (rules : List Rule) : Text :=
  Console.printRaw pictures (Rule.listToJson rules).write

end HeaderAudit
