import HeaderAudit.Text.Basic

/-!
# Paths

A path is read as names between slashes. Empty names and single dots say nothing and are left out, and
double dots stay, since what they mean depends on the directories on the way.
-/

namespace HeaderAudit

structure Path where
  root : Text
  names : List Text
  deriving DecidableEq, Repr, Inhabited

namespace Path

/-- Two slashes at the beginning are kept; any other number above none counts as one. -/
def rootOf (t : Text) : Text :=
  match (t.takeWhile (· = '/')).length with
  | 0 => []
  | 2 => ['/', '/']
  | _ => ['/']

def saysNothing (name : Text) : Bool := name.isEmpty || name = ['.']

def ofText (t : Text) : Path :=
  ⟨rootOf t, (Text.fields '/' t).filter fun name => !saysNothing name⟩

/-- The path in its own spelling, in which a dot or a slash at the end asks for a directory. -/
def spelled (t : Text) : Path :=
  let names := (Text.fields '/' t).filter (!·.isEmpty)
  ⟨rootOf t, if t.getLast? = some '/' then names ++ [['.']] else names⟩

def toText (p : Path) : Text :=
  match p.root, p.names with
  | [], [] => ['.']
  | root, names => root ++ Text.join ['/'] names

def isAbsolute (p : Path) : Bool := !p.root.isEmpty

def child (name : Text) (p : Path) : Path := { p with names := p.names ++ [name] }

def parent (p : Path) : Path := { p with names := p.names.dropLast }

def append (p q : Path) : Path := if q.isAbsolute then q else { p with names := p.names ++ q.names }

/-- The path with a tilde at its beginning replaced by the home directory. A tilde that begins a longer
name stands for the home of someone else, who is not known. -/
def expandHome (p home : Path) : Option Path :=
  match p.root, p.names with
  | [], ('~' :: user) :: rest =>
    if user.isEmpty then some { home with names := home.names ++ rest } else none
  | _, _ => some p

/-- The names with every double dot taken back together with the name before it. -/
def withoutDoubleDots (names : List Text) : List Text :=
  names.foldl (fun taken name => if name = ['.', '.'] then taken.dropLast else taken ++ [name]) []

def resolve (p directory : Path) : Path := ⟨['/'], withoutDoubleDots (directory.append p).names⟩

end Path

end HeaderAudit
