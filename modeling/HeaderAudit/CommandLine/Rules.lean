import HeaderAudit.CommandLine.Line
import HeaderAudit.CommandLine.Question
import HeaderAudit.Report.Document
import HeaderAudit.Report.Terminal
import HeaderAudit.Store

/-!
# The commands on rules

Each command opens the store on the rule file, which fills a registry, and changes the registry if it
changes anything; the store writes the change to the file. The confirmation is printed afterwards.
-/

namespace HeaderAudit.CommandLine

/-- What the program has at hand: its environment, the names that markups may use, the width of the
console and the standard input. -/
structure Setting where
  env : Environment
  library : Console.Library
  room : Nat
  input : List UInt8

abbrev OpenStore := Store × Session World

abbrev Step (α : Type) := World → World × Except Ended α

def crash {α : Type} (w : World) (fault : Fault) : World × Except Ended α :=
  (w, .error ⟨[], .crashed fault⟩)

def confirm (s : Setting) (markup : Text) (w : World) : World × Ended :=
  match Console.printMarkup s.library s.room markup with
  | .ok printed => (w, ⟨printed, .exit 0⟩)
  | .error e => (w, ⟨[], .crashed (.markup e)⟩)

def openStore (env : Environment) (path : Path) : Step OpenStore := fun w =>
  let store : Store := ⟨path, false⟩
  let session : Session World := ⟨Registry.empty, w, []⟩
  match (Store.load env (Store.audience env path) 1 store session).getD (.ok [], store, session) with
  | (.ok _, store, session) => (session.world, .ok (store, session))
  | (.error e, _, session) => crash session.world (.ruleFile e)

def change (env : Environment) (opened : OpenStore) (operation : Operation) :
    Except RuleError Unit × Session World :=
  (Session.perform (Store.audience env opened.1.path) 1 operation opened.2).getD (.ok (), opened.2)

def changeAndConfirm (s : Setting) (opened : OpenStore) (operation : Operation) (markup : Text) :
    World × Ended :=
  match change s.env opened operation with
  | (.ok (), session) => confirm s markup session.world
  | (.error e, session) => (session.world, ⟨[], .crashed (.rule e)⟩)

namespace RulesCommand

/-- The kind of rule that an argument names; the argument has been checked. -/
def kindAt (n : Nat) (words : Words) : RuleKind := (ruleKind? (words.argument n)).getD default

def list (s : Setting) (words : Words) (opened : OpenStore) : World × Ended :=
  let rules := opened.2.registry.rules
  if words.has jsonOption then (opened.2.world, ⟨printRulesDocument s.library.pictures rules, .exit 0⟩)
  else
    match printRulesTerminal s.library s.room rules with
    | .ok printed => (opened.2.world, ⟨printed, .exit 0⟩)
    | .error e => (opened.2.world, ⟨[], .crashed (.markup e)⟩)

/-- The id of a new rule: the one that is given, or one that is made up. -/
def newId (s : Setting) (words : Words) (w : World) : Text × World :=
  match words.value? idOption with
  | some (c :: rest) => (c :: rest, w)
  | _ => w.freshId s.env

def addedMarkup (rule : Rule) : Text :=
  "[green]Added[/] " ++ rule.id ++ "  " ++ Console.Markup.escape rule.toText

def add (s : Setting) (words : Words) (opened : OpenStore) : World × Ended :=
  let (id, w) := newId s words opened.2.world
  let opened : OpenStore := (opened.1, { opened.2 with world := w })
  let rule : Rule := ⟨kindAt 0 words, words.argument 1, id⟩
  if (opened.2.registry.get? id).isSome then (w, ⟨[], .refused (.ruleExists id)⟩)
  else changeAndConfirm s opened (.add rule) (addedMarkup rule)

def updatedMarkup (id : Text) : Text := "[green]Updated[/] " ++ id

def update (s : Setting) (words : Words) (opened : OpenStore) : World × Ended :=
  let id := words.argument 0
  if (opened.2.registry.get? id).isSome then
    changeAndConfirm s opened
      (.update id (.text (kindAt 1 words).name) (some (words.argument 2))) (updatedMarkup id)
  else (opened.2.world, ⟨[], .refused (.noSuchRule id)⟩)

def removedMarkup (id : Text) : Text := "[green]Removed[/] " ++ id

def remove (s : Setting) (words : Words) (opened : OpenStore) : World × Ended :=
  let id := words.argument 0
  if (opened.2.registry.get? id).isSome then
    changeAndConfirm s opened (.remove id) (removedMarkup id)
  else (opened.2.world, ⟨[], .refused (.noSuchRule id)⟩)

def clearedMarkup (count : Nat) : Text :=
  "[green]Removed " ++ Text.ofNat count ++ " rule(s)[/]"

def clear (s : Setting) (opened : OpenStore) : World × Ended :=
  changeAndConfirm s opened .clear (clearedMarkup opened.2.registry.size)

def withStore (s : Setting) (path : Path) (act : OpenStore → World × Ended) (w : World) :
    World × Ended :=
  match openStore s.env path w with
  | (w, .error ended) => (w, ended)
  | (_, .ok opened) => act opened

def question : Text := "Remove all exclusion rules? [y/N]: "

/-- Asks whether to clear the rules, unless the answer is on the command line. Gives what is printed. -/
def consent (s : Setting) (words : Words) : Except Ended Text :=
  if words.has yesOption then .ok []
  else
    match Text.decodeUtf8 s.input with
    | .error e => .error ⟨question, .crashed (.input e)⟩
    | .ok typed =>
      match Question.ask question (Question.linesOf (RuleFile.unifyLineEnds typed)) with
      | (printed, some true) => .ok printed
      | (printed, _) => .error ⟨printed, .aborted⟩

def Ended.after (printed : Text) (e : Ended) : Ended := { e with output := printed ++ e.output }

def runClear (s : Setting) (path : Path) (words : List Text) (w : World) : World × Ended :=
  match readValues w.disk s.input .rulesClear words with
  | .error ended => (w, ended)
  | .ok line =>
    match consent s line with
    | .error ended => (w, ended)
    | .ok printed =>
      match line.extraMisuse? .rulesClear with
      | some misuse => (w, ⟨printed, .misuse .rulesClear misuse⟩)
      | none =>
        let (w, ended) := withStore s path (clear s) w
        (w, Ended.after printed ended)

def run (s : Setting) (path : Path) (command : Command) (words : List Text) (w : World) :
    World × Ended :=
  if command = .rulesClear then runClear s path words w
  else
    match readLine w.disk s.input command words with
    | .error ended => (w, ended)
    | .ok line =>
      match command with
      | .rulesAdd =>
        if Text.blank (line.argument 1) then (w, ⟨[], .misuse .rulesAdd .invalidPattern⟩)
        else withStore s path (add s line) w
      | .rulesUpdate => withStore s path (update s line) w
      | .rulesRemove => withStore s path (remove s line) w
      | _ => withStore s path (list s line) w

end RulesCommand

end HeaderAudit.CommandLine
