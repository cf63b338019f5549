import HeaderAudit.Disk.Path
import HeaderAudit.Text.Utf8

/-!
# The disk

Directories and files by the names that lead to them from the root. A path is followed name by name,
and every name before the last must be that of a directory, also when double dots lead back from it.
What the user may not do at a place is said by a lock on it.
-/

namespace HeaderAudit

/-- The names that lead from the root to a place. -/
abbrev Location := List Text

structure File where
  mode : Nat
  content : List UInt8
  deriving DecidableEq, Repr, Inhabited

inductive Node where
  | directory
  | file (f : File)
  deriving DecidableEq, Repr

inductive DiskError where
  | notFound
  | notADirectory
  | isADirectory
  | alreadyThere
  | nameTooLong
  | denied
  deriving DecidableEq, Repr

/-- Nothing is there, as opposed to something that cannot be looked at. -/
def DiskError.meansAbsent : DiskError → Bool
  | notFound | notADirectory => true
  | _ => false

/-- What the user may not do at a place: read what is there, write it or make something in it, and look
a name up in it. -/
structure Lock where
  read : Bool
  write : Bool
  enter : Bool
  deriving DecidableEq, Repr

namespace Lock

def readOnly : Lock := ⟨false, true, false⟩

def writeOnly : Lock := ⟨true, false, false⟩

def closed : Lock := ⟨true, true, true⟩

end Lock

/-- What there is at each location, the directory in which relative paths begin, and the locks on
places. -/
structure Disk where
  nodes : List (Location × Node)
  start : Location
  locks : List (Location × Lock)
  deriving DecidableEq, Repr

namespace Disk

def nameLimit : Nat := 255

def ownerOnly : Nat := 0o600

def readableByAll : Nat := 0o644

def node? (disk : Disk) : Location → Option Node
  | [] => some .directory
  | place => disk.nodes.lookup place

def setNode (place : Location) (node : Node) : List (Location × Node) → List (Location × Node)
  | [] => [(place, node)]
  | pair :: rest => if pair.1 = place then (place, node) :: rest else pair :: setNode place node rest

def put (place : Location) (node : Node) (disk : Disk) : Disk :=
  { disk with nodes := setNode place node disk.nodes }

def erase (place : Location) (disk : Disk) : Disk :=
  { disk with nodes := disk.nodes.filter (·.1 ≠ place) }

def withStart (place : Location) : Disk :=
  ⟨(List.range place.length).map fun n => (place.take (n + 1), .directory), place, []⟩

def mayRead (place : Location) (disk : Disk) : Bool := !(disk.locks.lookup place).any Lock.read

def mayWrite (place : Location) (disk : Disk) : Bool := !(disk.locks.lookup place).any Lock.write

def mayEnter (place : Location) (disk : Disk) : Bool := !(disk.locks.lookup place).any Lock.enter

def follow (disk : Disk) (here : Location) : List Text → Except DiskError Location
  | [] => .ok here
  | name :: rest =>
    if !disk.mayEnter here then .error .denied
    else if name = ['.'] then follow disk here rest
    else if name = ['.', '.'] then follow disk here.dropLast rest
    else if (Text.encodeUtf8 name).length > nameLimit then .error .nameTooLong
    else
      let next := here ++ [name]
      if rest.isEmpty then .ok next
      else
        match disk.node? next with
        | some .directory => follow disk next rest
        | some (.file _) => .error .notADirectory
        | none => .error .notFound

def locate (path : Path) (disk : Disk) : Except DiskError Location :=
  disk.follow (if path.isAbsolute then [] else disk.start) path.names

def find (path : Path) (disk : Disk) : Except DiskError Node := do
  match disk.node? (← disk.locate path) with
  | some node => .ok node
  | none => .error .notFound

def isDirectory (path : Path) (disk : Disk) : Bool :=
  match disk.find path with
  | .ok .directory => true
  | _ => false

/-- What there is at a path in its own spelling. An empty path leads nowhere. -/
def findSpelled (t : Text) (disk : Disk) : Except DiskError Node :=
  if t.isEmpty then .error .notFound else disk.find (Path.spelled t)

/-- There is something at a path in its own spelling that may not be read. -/
def isClosedSpelled (t : Text) (disk : Disk) : Bool :=
  match disk.locate (Path.spelled t) with
  | .ok place => !disk.mayRead place
  | .error _ => false

def read (path : Path) (disk : Disk) : Except DiskError (List UInt8) := do
  let place ← disk.locate path
  match disk.node? place with
  | none => .error .notFound
  | some .directory => .error .isADirectory
  | some (.file f) => if disk.mayRead place then .ok f.content else .error .denied

def readSpelled (t : Text) (disk : Disk) : Except DiskError (List UInt8) :=
  if t.isEmpty then .error .notFound else disk.read (Path.spelled t)

/-- Makes something at a place where nothing is. -/
def make (place : Location) (node : Node) (disk : Disk) : Except DiskError Disk :=
  if disk.mayWrite place && disk.mayWrite place.dropLast then .ok (disk.put place node)
  else .error .denied

def makeDirectory (path : Path) (disk : Disk) : Except DiskError Disk := do
  let place ← disk.locate path
  match disk.node? place with
  | some _ => .error .alreadyThere
  | none => disk.make place .directory

def ensureDirectory (path : Path) (disk : Disk) : Except DiskError Disk :=
  match disk.makeDirectory path with
  | .error e => if disk.isDirectory path then .ok disk else .error e
  | made => made

/-- Makes a directory and those that lead to it, unless they are there. The names are given from the
last to the first. -/
def ensureDirectories (root : Text) : List Text → Disk → Except DiskError Disk
  | [], disk => disk.ensureDirectory ⟨root, []⟩
  | name :: before, disk =>
    let path : Path := ⟨root, (name :: before).reverse⟩
    match disk.makeDirectory path with
    | .error .notFound => do (← ensureDirectories root before disk).ensureDirectory path
    | _ => disk.ensureDirectory path

def touch (mode : Nat) (path : Path) (disk : Disk) : Except DiskError Disk := do
  let place ← disk.locate path
  match disk.node? place with
  | some _ => .ok disk
  | none => disk.make place (.file ⟨mode, []⟩)

/-- Writes a file. A file that was there keeps its mode. -/
def write (path : Path) (content : List UInt8) (disk : Disk) : Except DiskError Disk := do
  let place ← disk.locate path
  match disk.node? place with
  | some .directory => .error .isADirectory
  | some (.file f) =>
    if disk.mayWrite place then .ok (disk.put place (.file { f with content := content }))
    else .error .denied
  | none => disk.make place (.file ⟨readableByAll, content⟩)

theorem lookup_setNode_self (place : Location) (node : Node) (nodes : List (Location × Node)) :
    (setNode place node nodes).lookup place = some node := by
  induction nodes with
  | nil => simp [setNode]
  | cons pair rest ih =>
    obtain ⟨key, value⟩ := pair
    by_cases h : key = place
    · simp [setNode, h]
    · have hne : (place == key) = false := by simpa using fun e => h e.symm
      simp [setNode, h, List.lookup_cons, hne, ih]

theorem lookup_setNode_of_ne {place other : Location} (h : other ≠ place) (node : Node)
    (nodes : List (Location × Node)) :
    (setNode place node nodes).lookup other = nodes.lookup other := by
  have hne : (other == place) = false := by simpa using h
  induction nodes with
  | nil => simp [setNode, List.lookup_cons, hne]
  | cons pair rest ih =>
    obtain ⟨key, value⟩ := pair
    by_cases hp : key = place
    · simp [setNode, hp, List.lookup_cons, hne]
    · cases hq : other == key <;> simp [setNode, hp, List.lookup_cons, hq, ih]

/-- What is put at a place is found there. -/
theorem node?_put_self {place : Location} (h : place ≠ []) (node : Node) (disk : Disk) :
    (disk.put place node).node? place = some node := by
  cases place with
  | nil => exact absurd rfl h
  | cons name rest => exact lookup_setNode_self _ node disk.nodes

/-- What is put at a place changes no other place. -/
theorem node?_put_of_ne {place other : Location} (h : other ≠ place) (node : Node) (disk : Disk) :
    (disk.put place node).node? other = disk.node? other := by
  cases other with
  | nil => rfl
  | cons name rest => exact lookup_setNode_of_ne h node disk.nodes

end Disk

end HeaderAudit
