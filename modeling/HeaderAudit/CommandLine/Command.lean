import HeaderAudit.CommandLine.Option
import HeaderAudit.Rule.Basic

/-!
# Commands

The commands of the program and what each of them takes: its options and its arguments, of which none
may be missing and none may be too many.
-/

namespace HeaderAudit.CommandLine

inductive Command where
  | main
  | analyze
  | checks
  | rules
  | rulesList
  | rulesAdd
  | rulesUpdate
  | rulesRemove
  | rulesClear
  deriving DecidableEq, Repr, Inhabited

inductive ArgumentKind where
  | any
  /-- A file that can be read; a dash alone is the standard input. -/
  | readable
  | ruleKind
  deriving DecidableEq, Repr, Inhabited

structure ArgumentSpec where
  label : Text
  kind : ArgumentKind
  deriving DecidableEq, Repr, Inhabited

def ruleKindNames : List Text := RuleKind.all.map RuleKind.name

def ruleKindLabel : Text := '\x7b' :: Text.join ['|'] ruleKindNames ++ ['\x7d']

def formatNames : List Text := ["json", "rich"]

def helpOption : OptionSpec := ⟨"--help", none, .notice⟩

def versionOption : OptionSpec := ⟨"--version", none, .notice⟩

def configOption : OptionSpec := ⟨"--config", some 'c', .value .directory⟩

def verboseOption : OptionSpec := ⟨"--verbose", some 'v', .flag⟩

def methodOption : OptionSpec := ⟨"--method", some 'm', .value .any⟩

def urlOption : OptionSpec := ⟨"--url", some 'u', .value .any⟩

def exclusionsOption : OptionSpec := ⟨"--exclusions", none, .value .file⟩

def formatOption : OptionSpec := ⟨"--format", none, .value (.choice formatNames)⟩

def jsonOption : OptionSpec := ⟨"--json", none, .flag⟩

def idOption : OptionSpec := ⟨"--id", none, .value .any⟩

def yesOption : OptionSpec := ⟨"--yes", none, .flag⟩

namespace Command

def path : Command → Text
  | main => "main"
  | analyze => "main analyze"
  | checks => "main checks"
  | rules => "main rules"
  | rulesList => "main rules list"
  | rulesAdd => "main rules add"
  | rulesUpdate => "main rules update"
  | rulesRemove => "main rules remove"
  | rulesClear => "main rules clear"

def isGroup : Command → Bool
  | main | rules => true
  | _ => false

def options (c : Command) : List OptionSpec :=
  (match c with
    | main => [versionOption, configOption, verboseOption]
    | analyze => [methodOption, urlOption, exclusionsOption, formatOption]
    | rulesList => [jsonOption]
    | rulesAdd => [idOption]
    | rulesClear => [yesOption]
    | checks | rules | rulesUpdate | rulesRemove => []) ++ [helpOption]

def kindArgument : ArgumentSpec := ⟨ruleKindLabel, .ruleKind⟩

def arguments : Command → List ArgumentSpec
  | analyze => [⟨"HEADERS_FILE", .readable⟩]
  | rulesAdd => [kindArgument, ⟨"PATTERN", .any⟩]
  | rulesUpdate => [⟨"RULE_ID", .any⟩, kindArgument, ⟨"PATTERN", .any⟩]
  | rulesRemove => [⟨"RULE_ID", .any⟩]
  | main | checks | rules | rulesList | rulesClear => []

def members : Command → List (Text × Command)
  | main => [("analyze", analyze), ("checks", checks), ("rules", rules)]
  | rules =>
    [("list", rulesList), ("add", rulesAdd), ("update", rulesUpdate), ("remove", rulesRemove),
      ("clear", rulesClear)]
  | _ => []

def synopsis (c : Command) : Text :=
  if c.isGroup then "[OPTIONS] COMMAND [ARGS]..."
  else Text.join [' '] ("[OPTIONS]" :: c.arguments.map (·.label))

end Command

end HeaderAudit.CommandLine
