import HeaderAudit.Text.Folding

/-!
# Coloured lines

A header line is coloured by the patterns that occur in it, whatever the case of their letters. Each
offset takes one tint: green goes over yellow, and yellow over red. The coloured line is then written
down as segments, one for each run of a tint.
-/

namespace HeaderAudit

inductive Tint where
  | green
  | yellow
  | red
  | none
  deriving DecidableEq, Repr, Inhabited

def Tint.name : Tint → Text
  | green => "GREEN"
  | yellow => "YELLOW"
  | red => "RED"
  | none => "NONE"

def Tint.ofName? (t : Text) : Option Tint := [green, yellow, red, none].find? (·.name = t)

/-- A span of a line, from an offset up to another, with a tint. The offsets are taken as given. -/
structure Segment where
  start : Int
  stop : Int
  tint : Tint
  deriving DecidableEq, Repr, Inhabited

structure Patterns where
  red : List Text
  yellow : List Text
  green : List Text
  deriving DecidableEq, Repr, Inhabited

namespace Highlight

/-- Marks the offsets that an occurrence of the pattern covers. The number counts the offsets that the
last occurrence still covers. -/
def coverFrom (pattern : Text) : Nat → Text → List Bool
  | _, [] => []
  | left, c :: rest =>
    let left := if Text.beginsWithLetters pattern (c :: rest) then pattern.length else left
    (left != 0) :: coverFrom pattern (left - 1) rest

def cover (pattern line : Text) : List Bool := coverFrom pattern 0 line

def paint (tint : Tint) (marks : List Bool) (painted : List Tint) : List Tint :=
  List.zipWith (fun mark old => if mark then tint else old) marks painted

def paintAll (tint : Tint) (patterns : List Text) (line : Text) (painted : List Tint) : List Tint :=
  patterns.foldl (fun painted pattern => paint tint (cover pattern line) painted) painted

def tints (patterns : Patterns) (line : Text) : List Tint :=
  let blank := List.replicate line.length Tint.none
  paintAll .green patterns.green line
    (paintAll .yellow patterns.yellow line (paintAll .red patterns.red line blank))

/-- The segment of a run; a run without a tint has none. -/
def segmentOf (start stop : Nat) (tint : Tint) : List Segment :=
  if tint = .none then [] else [⟨start, stop, tint⟩]

/-- The segments of a run that reaches from an offset up to another, and of what follows it. -/
def collapseRun (start stop : Nat) (tint : Tint) : List Tint → List Segment
  | [] => segmentOf start stop tint
  | next :: rest =>
    if next = tint then collapseRun start (stop + 1) tint rest
    else segmentOf start stop tint ++ collapseRun stop (stop + 1) next rest

def collapse : List Tint → List Segment
  | [] => []
  | tint :: rest => collapseRun 0 1 tint rest

def segments (patterns : Patterns) (owned : Bool) (line : Text) : List Segment :=
  if owned then collapse (tints patterns line) else []

end Highlight

end HeaderAudit
