import HeaderAudit.CommandLine.Line
import HeaderAudit.Store

/-!
# What a run may touch

The program sees only the part of the disk that its words can lead to: every word may be a path or carry
one, and a directory may hold a rule file.
-/

namespace HeaderAudit.CommandLine

/-- The paths that a word may stand for: the word itself, what it carries behind an equals sign and what
it carries behind a short option. -/
def pathsInWord (word : Text) : List Text :=
  [word, ((Text.cut '=' word).2).getD [], word.drop 2].filter (!·.isEmpty)

def reach (env : Environment) (words : List Text) : List Path :=
  let named := (words.flatMap pathsInWord).filterMap fun t => (Path.ofText t).expandHome env.home
  env.rulesPath.toList ++ named ++ named.map (·.child rulesFileName)

def placesTo (env : Environment) (path : Path) : List Location :=
  let names := (path.resolve env.directory).names
  (List.range names.length).map fun n => names.take (n + 1)

/-- A run reads the standard input for a file, or for an answer that is not among the words. -/
def readsInput (words : List Text) : Bool :=
  words.contains ['-'] || (words.contains "clear".toList && !words.contains yesOption.long)

end HeaderAudit.CommandLine
