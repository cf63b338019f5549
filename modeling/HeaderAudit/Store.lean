import HeaderAudit.Registry.Notify
import HeaderAudit.RuleFile.Basic

/-!
# The store

A store binds a registry to a rule file. While it is attached it listens to the registry, and every
change is written to the file at once.
-/

namespace HeaderAudit

structure Store where
  path : Path
  attached : Bool
  deriving DecidableEq, Repr

def rulesFileName : Text := "exclusions.yaml"

namespace Environment

/-- The directory of the configuration: the one that the user has set, or one in the home directory. -/
def configDirectory (env : Environment) : Option Path :=
  match env.configured with
  | none | some [] => some (env.home.child ".header-doctor")
  | some t => ((Path.ofText t).expandHome env.home).map (·.resolve env.directory)

def rulesPath (env : Environment) : Option Path :=
  env.configDirectory.map (·.child rulesFileName)

end Environment

namespace Store

/-- A detached store at a path, or at the usual one if the path is missing or empty. -/
def ofPath (env : Environment) (path : Option Text) : Option Store :=
  let place :=
    match path with
    | none | some [] => env.rulesPath
    | some t => (Path.ofText t).expandHome env.home
  place.map (⟨·, false⟩)

def hear (env : Environment) (path : Path) (rules : List Rule) (w : World) : Reaction World :=
  match RuleFile.save env path rules w.disk with
  | (disk, .ok ()) => .put ({ w with disk := disk }.note (.rulesSaved rules.length path.toText)) .done
  | (disk, .error _) => .put { w with disk := disk } (.fail none)

def noteFailure (listener : Listener) (reason : Option Text) (w : World) : World :=
  w.note (.listenerFailed listener reason)

def audienceWith (env : Environment) (path : Path)
    (others : Text → List Rule → Registry → World → Reaction World) : Audience World where
  hear
    | .store, rules, _, w => hear env path rules w
    | .named name, rules, registry, w => others name rules registry w
  noteFailure := noteFailure

def audience (env : Environment) (path : Path) : Audience World :=
  audienceWith env path fun _ _ _ _ => .done

def attach (store : Store) (s : Session World) : Store × Session World :=
  if store.attached then (store, s)
  else ({ store with attached := true }, { s with registry := s.registry.listen .store })

def detach (store : Store) (s : Session World) : Store × Session World :=
  if store.attached then
    ({ store with attached := false }, { s with registry := s.registry.unlisten .store })
  else (store, s)

/-- Fills the registry from the file and attaches the store. The depth bounds the changes within one
another. -/
def load (env : Environment) (audience : Audience World) (depth : Nat) (store : Store)
    (s : Session World) : Option (Except RuleFileError (List Rule) × Store × Session World) :=
  match RuleFile.load env store.path s.world with
  | (w, .error e) => some (.error e, store, { s with world := w })
  | (w, .ok rules) => do
    let (_, s) ← Session.perform audience depth (.replaceAll rules) { s with world := w }
    some (.ok rules, store.attach s)

end Store

end HeaderAudit
