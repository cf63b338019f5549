import HeaderAudit.Json.Basic
import HeaderAudit.Text.LetterCase
import HeaderAudit.Url.Basic

/-!
# Exclusion rules

A rule excludes requests by the host or the path of their URL, or by method and URL together. A rule
is known by its id: two rules are the same when their ids agree, whatever they exclude.
-/

namespace HeaderAudit

inductive RuleKind where
  /-- The host, whatever the letter case. -/
  | host
  /-- The path, or its beginning before a star at the end of the pattern. -/
  | path
  /-- The method and the whole URL with a blank between them. -/
  | endpoint
  deriving DecidableEq, Repr, Inhabited

namespace RuleKind

def all : List RuleKind := [host, path, endpoint]

def name : RuleKind → Text
  | host => "host"
  | path => "path"
  | endpoint => "endpoint"

def displayName : RuleKind → Text
  | host => "Host"
  | path => "Path"
  | endpoint => "Endpoint"

def ofName? (t : Text) : Option RuleKind := all.find? (·.name = t)

theorem ofName?_name (kind : RuleKind) : ofName? kind.name = some kind := by
  cases kind <;> rfl

end RuleKind

structure Rule where
  kind : RuleKind
  pattern : Text
  id : Text
  deriving DecidableEq, Repr, Inhabited

inductive RuleError where
  | missingPart
  | unknownKind (given : Json)
  /-- Matching by something that is no kind of rule. -/
  | notAKind (given : Json)

def RuleError.message : RuleError → Text
  | missingPart => "ExclusionRule id, type and pattern must not be None"
  | unknownKind given => given.shown ++ " is not a valid ExclusionRuleType"
  | notAKind given => "Unknown ExclusionRuleType: " ++ given.shown

/-- The parts of a rule as they are given, before they make a rule. -/
structure Draft where
  kind : Json
  pattern : Option Text
  id : Option Text

namespace Rule

def readKind (given : Json) : Except RuleError RuleKind :=
  match given.text?.bind RuleKind.ofName? with
  | some kind => .ok kind
  | none => .error (.unknownKind given)

/-- A draft is a rule when no part is missing and its kind has a known name, whatever the letter
case. -/
def ofDraft (draft : Draft) : Except RuleError Rule :=
  match draft.id, draft.kind, draft.pattern with
  | some _, .null, some _ => .error .missingPart
  | some id, kind, some pattern => do
    .ok ⟨← readKind (.text (Text.lower kind.plain)), pattern, id⟩
  | _, _, _ => .error .missingPart

def sameAs (a b : Rule) : Bool := a.id = b.id

def distinct (rules : List Rule) : List Rule :=
  rules.foldl (fun seen rule => if seen.any rule.sameAs then seen else seen ++ [rule]) []

def toText (rule : Rule) : Text := rule.kind.displayName ++ ": " ++ rule.pattern

/-- The pattern begins every path when it is only a star. -/
def pathFits (pattern path : Text) : Bool :=
  if pattern.getLast? = some '*' then pattern.dropLast.isPrefixOf path else path = pattern

def excludes (rule : Rule) (method url : Text) : Bool :=
  match rule.kind with
  | .host => (Url.hostOf? url).any fun host => Text.lower host = Text.lower rule.pattern
  | .path => (Url.pathOf? url).any (pathFits rule.pattern)
  | .endpoint => method ++ ' ' :: url = rule.pattern

/-- The rule excludes a request whose parts may be other values than texts. Only a text is a URL. -/
def excludesValues (rule : Rule) (method url : Json) : Bool :=
  match rule.kind, url with
  | .endpoint, _ => method.plain ++ ' ' :: url.plain = rule.pattern
  | _, .text t => rule.excludes method.plain t
  | _, _ => false

/-- The answer when something else than the rule's kind says how to match. -/
def excludesAs (given : Json) (_ : Rule) : Except RuleError Bool := .error (.notAKind given)

theorem excludesValues_text (rule : Rule) (method url : Text) :
    rule.excludesValues (.text method) (.text url) = rule.excludes method url := by
  obtain ⟨kind, pattern, id⟩ := rule
  cases kind <;> rfl

end Rule

end HeaderAudit
