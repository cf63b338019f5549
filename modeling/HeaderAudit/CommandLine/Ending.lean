import HeaderAudit.CommandLine.Command
import HeaderAudit.Console.Markup
import HeaderAudit.RuleFile.Basic

/-!
# How the program ends

A run ends with an exit code, and when it fails with a message or with a fault that nothing in the
program handles. A wrong use of the program is told together with its usage.
-/

namespace HeaderAudit.CommandLine

inductive ValueFault where
  | notAmong (value : Text) (names : List Text)
  | isFile (path : Text)
  | isDirectory (path : Text)
  | closedDirectory (path : Text)
  | closedFile (path : Text)
  | unreadable (path : Text) (cause : DiskError)
  | blankPattern
  deriving DecidableEq, Repr

def systemMessage : DiskError → Text
  | .notFound => "No such file or directory"
  | .notADirectory => "Not a directory"
  | .isADirectory => "Is a directory"
  | .alreadyThere => "File exists"
  | .nameTooLong => "File name too long"
  | .denied => "Permission denied"

def ValueFault.message : ValueFault → Text
  | notAmong value names =>
    Text.quoted value ++ " is not one of " ++ Text.join ", " (names.map Text.quoted) ++ ['.']
  | isFile path => "Directory " ++ Text.quoted path ++ " is a file."
  | isDirectory path => "File " ++ Text.quoted path ++ " is a directory."
  | closedDirectory path => "Directory " ++ Text.quoted path ++ " is not readable."
  | closedFile path => "File " ++ Text.quoted path ++ " is not readable."
  | unreadable path cause => '\'' :: path ++ "': " ++ systemMessage cause
  | blankPattern => "pattern must not be empty"

inductive Misuse where
  | missingArgument (argument : ArgumentSpec)
  | unexpectedArguments (words : List Text)
  | unknownOption (name : Text) (similar : List Text)
  | unknownCommand (name : Text)
  | missingCommand
  | invalidOption (names : List Text) (fault : ValueFault)
  | invalidArgument (label : Text) (fault : ValueFault)
  | invalidPattern
  deriving DecidableEq, Repr

namespace Misuse

def inQuotes (t : Text) : Text := '\'' :: t ++ ['\'']

def choices (argument : ArgumentSpec) : Text :=
  match argument.kind with
  | .ruleKind => " Choose from:\n\t" ++ Text.join ",\n\t" ruleKindNames
  | _ => []

def suggestion (similar : List Text) : Text :=
  match (similar.map inQuotes).mergeSort fun a b => String.ofList a ≤ String.ofList b with
  | [] => []
  | [name] => " Did you mean " ++ name ++ ['?']
  | names => " (Did you mean one of: " ++ Text.join ", " names ++ "?)"

def message : Misuse → Text
  | missingArgument argument =>
    "Missing argument " ++ inQuotes argument.label ++ ['.'] ++ choices argument
  | unexpectedArguments words =>
    (if words.length = 1 then "Got unexpected extra argument (" else "Got unexpected extra arguments (" :
      Text) ++ Text.join [' '] words ++ [')']
  | unknownOption name similar =>
    "No such option " ++ Text.quoted name ++ ['.'] ++ suggestion similar
  | unknownCommand name => "No such command " ++ Text.quoted name ++ ['.']
  | missingCommand => "Missing command."
  | invalidOption names fault =>
    "Invalid value for " ++ Text.join " / " (names.map inQuotes) ++ ": " ++ fault.message
  | invalidArgument label fault => "Invalid value for " ++ inQuotes label ++ ": " ++ fault.message
  | invalidPattern => "Invalid value for PATTERN: " ++ ValueFault.blankPattern.message

end Misuse

inductive Refusal where
  | noHeaderLines
  | ruleExists (id : Text)
  | noSuchRule (id : Text)
  deriving DecidableEq, Repr

def Refusal.message : Refusal → Text
  | noHeaderLines => "No header lines found in input"
  | ruleExists id => "Rule " ++ id ++ " already exists"
  | noSuchRule id => "No rule with id " ++ id

/-- A fault that nothing in the program handles. -/
inductive Fault where
  | ruleFile (cause : RuleFileError)
  | markup (cause : Console.Markup.Error)
  | rule (cause : RuleError)
  /-- The answer to a question is no text. -/
  | input (cause : Text.Utf8Error)

namespace Fault

def ruleFileMessage : RuleFileError → Text
  | .noHome => "Could not determine home directory."
  | .disk cause => systemMessage cause
  | .notUtf8 cause => cause.message
  | .value cause => cause.message

def message : Fault → Text
  | ruleFile cause => ruleFileMessage cause
  | markup cause => cause.message
  | rule cause => cause.message
  | input cause => cause.message

end Fault

inductive Ending where
  | exit (code : Nat)
  /-- A group of commands without a word behind it. -/
  | needsHelp (command : Command)
  | misuse (command : Command) (cause : Misuse)
  /-- An option without its value, or with a value that it does not take. -/
  | bareOption (cause : OptionError)
  | refused (cause : Refusal)
  | aborted
  | crashed (fault : Fault)

namespace Ending

def code : Ending → Nat
  | exit code => code
  | needsHelp _ | misuse .. | bareOption _ => 2
  | refused _ | aborted | crashed _ => 1

def usageLine (command : Command) : Text :=
  "Usage: " ++ command.path ++ ' ' :: command.synopsis ++ ['\n']

def usage (command : Command) : Text :=
  usageLine command ++ "Try '" ++ command.path ++ " --help' for help.\n"

def errorLine (message : Text) : Text := "Error: " ++ message ++ ['\n']

def optionMessage : OptionError → Text
  | .requiresValue name => "Option " ++ Text.quoted name ++ " requires an argument."
  | .takesNoValue name => "Option " ++ Text.quoted name ++ " does not take a value."
  | .unknown name similar => (Misuse.unknownOption name similar).message

def errorText : Ending → Text
  | exit _ | crashed _ => []
  | needsHelp command => usageLine command
  | misuse command cause => usage command ++ ['\n'] ++ errorLine cause.message
  | bareOption cause => errorLine (optionMessage cause)
  | refused cause => errorLine cause.message
  | aborted => "Aborted!\n"

end Ending

end HeaderAudit.CommandLine
