import HeaderAudit.CommandLine.Rules

/-!
# Running the program

The program as a function of its environment, the words of the command line, the standard input and the
world. Its answer is what it prints, how it ends, and the world afterwards.
-/

namespace HeaderAudit.CommandLine

structure Answer where
  world : World
  output : Text
  ending : Ending
  /-- Everything in the log is to be shown. -/
  verbose : Bool

def Answer.shownLog (a : Answer) : List LogEntry :=
  a.world.log.filter fun entry => a.verbose || entry.level ≠ .debug

def exclusionsPath (s : Setting) (usual : Path) (line : Words) : Option Path :=
  match line.value? exclusionsOption with
  | some (c :: rest) => (Path.ofText (c :: rest)).expandHome s.env.home
  | _ => some usual

def printReport (s : Setting) (line : Words) (report : Report) : Ended :=
  if line.value? formatOption = some "json".toList then
    ⟨report.printDocument s.library.pictures, .exit report.exitCode⟩
  else
    match report.printTerminal s.library s.room with
    | .ok printed => ⟨printed, .exit report.exitCode⟩
    | .error e => ⟨[], .crashed (.markup e)⟩

def defaultMethod : Text := "GET"

/-- Judges a response head. The store is only read. -/
def analyzeHead (s : Setting) (line : Words) (head : Headers) (opened : OpenStore) :
    World × Ended :=
  let (_, session) := opened.1.detach opened.2
  let method := Text.upper ((line.value? methodOption).getD defaultMethod)
  let report :=
    Analysis.analyze head Check.builtins (some method) (line.value? urlOption) (some session.registry)
  let failed := report.failures.map fun (check, e) => LogEntry.checkFailed check.className e.message
  (failed.foldl (fun w entry => w.note entry) session.world, printReport s line report)

def runAnalyze (s : Setting) (usual : Path) (words : List Text) (w : World) : World × Ended :=
  match readLine w.disk s.input .analyze words with
  | .error ended => (w, ended)
  | .ok line =>
    let bytes := (inputBytes w.disk s.input (line.argument 0)).toOption.getD []
    let head := Headers.ofText (Text.ofLatin1 bytes)
    if head.lines.isEmpty then (w, ⟨[], .refused .noHeaderLines⟩)
    else
      match exclusionsPath s usual line with
      | none => (w, ⟨[], .crashed (.ruleFile .noHome)⟩)
      | some path => RulesCommand.withStore s path (analyzeHead s line head) w

def runChecks (s : Setting) (words : List Text) (w : World) : World × Ended :=
  match readLine w.disk s.input .checks words with
  | .error ended => (w, ended)
  | .ok _ =>
    match printChecksTerminal s.library s.room Check.builtins with
    | .ok printed => (w, ⟨printed, .exit 0⟩)
    | .error e => (w, ⟨[], .crashed (.markup e)⟩)

def runRules (s : Setting) (path : Path) (words : List Text) (w : World) : World × Ended :=
  match choose w.disk .rules words with
  | .error ended => (w, ended)
  | .ok choice => RulesCommand.run s path choice.command choice.behind w

def configDirectory (s : Setting) (words : Words) : Option Path :=
  match words.value? configOption with
  | some (c :: rest) => (Path.ofText (c :: rest)).expandHome s.env.home
  | _ => s.env.configDirectory

def runCommand (s : Setting) (path : Path) (command : Command) (words : List Text) (w : World) :
    World × Ended :=
  match command with
  | .analyze => runAnalyze s path words w
  | .checks => runChecks s words w
  | _ => runRules s path words w

def run (s : Setting) (words : List Text) (w : World) : Answer :=
  match choose w.disk .main words with
  | .error ended => ⟨w, ended.output, ended.ending, false⟩
  | .ok choice =>
    let verbose := choice.before.has verboseOption
    match configDirectory s choice.before with
    | none => ⟨w, [], .crashed (.ruleFile .noHome), verbose⟩
    | some directory =>
      let path := directory.child rulesFileName
      let (w, ended) := runCommand s path choice.command choice.behind w
      ⟨w, ended.output, ended.ending, verbose⟩

end HeaderAudit.CommandLine
