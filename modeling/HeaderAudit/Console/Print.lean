import HeaderAudit.Console.Panel
import HeaderAudit.Console.Table

/-!
# Printing

What is printed is lines, none of them wider than the console; a console without columns prints nothing. A
markup is shown and broken into lines. A text that is meant for machines is neither, but names of emoji in
it are replaced.
-/

namespace HeaderAudit.Console

def printLines (room : Nat) (lines : List Text) : Text :=
  if room = 0 then [] else lines.flatMap fun line => Text.fitWidth room line ++ ['\n']

def printMarkup (library : Library) (room : Nat) (markup : Text) : Except Markup.Error Text := do
  let shown ← Markup.render library markup
  if room = 0 then .ok [] else .ok (printLines room (← paint (Wrap.lines room .natural .fold shown)))

def printTable (library : Library) (room : Nat) (table : Table) : Except Markup.Error Text := do
  if room = 0 then .ok [] else .ok (printLines room (← table.lines library room))

def printPanel (room : Nat) (panel : Panel) : Text := printLines room (panel.lines room)

def printRaw (pictures : Emoji.Pictures) (t : Text) : Text :=
  let lines := Text.fields '\n' (Markup.shown (Emoji.replaceWith pictures t))
  Text.join ['\n'] (lines.map Wrap.expandTabs) ++ ['\n']

end HeaderAudit.Console
