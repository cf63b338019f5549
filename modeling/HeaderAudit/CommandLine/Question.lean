import HeaderAudit.Text.Blank
import HeaderAudit.Text.LetterCase

/-!
# Questions

A question to be answered by yes or no. What is no answer is told, and the question is asked again. An
empty line means no.
-/

namespace HeaderAudit.CommandLine.Question

/-- The lines of a text; what follows the last line end is one if it is not empty. -/
def linesOf (t : Text) : List Text :=
  let lines := Text.fields '\n' t
  if lines.getLast? = some [] then lines.dropLast else lines

def answer? (line : Text) : Option Bool :=
  let word := Text.strip (Text.lower line)
  if ["y".toList, "yes".toList].contains word then some true
  else if [[], "n".toList, "no".toList].contains word then some false
  else none

/-- Asks until a line answers. Gives what is printed, with the lines as they were typed, and the answer
unless the lines ended before. -/
def ask (question : Text) : List Text → Text × Option Bool
  | [] => (question, none)
  | line :: rest =>
    let typed := question ++ line ++ ['\n']
    match answer? line with
    | some answer => (typed, some answer)
    | none =>
      let (printed, answer) := ask question rest
      (typed ++ "Error: invalid input\n" ++ printed, answer)

end HeaderAudit.CommandLine.Question
