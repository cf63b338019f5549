import HeaderAudit.Disk.Basic
import HeaderAudit.Log

/-!
# The world around the program

What the program finds and leaves unchanged is its environment. What it changes is the world: the
disk, the log, and the count of the ids that it has made up.
-/

namespace HeaderAudit

structure Environment where
  /-- The working directory, by its whole path. -/
  directory : Path
  home : Path
  configured : Option Text
  /-- The ids that are made up, by number. -/
  idOf : Nat → Text

structure World where
  disk : Disk
  log : List LogEntry
  idsMade : Nat
  deriving DecidableEq, Repr

namespace World

def note (entry : LogEntry) (w : World) : World := { w with log := w.log ++ [entry] }

def freshId (env : Environment) (w : World) : Text × World :=
  (env.idOf (w.idsMade + 1), { w with idsMade := w.idsMade + 1 })

end World

end HeaderAudit
