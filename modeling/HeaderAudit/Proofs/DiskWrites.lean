import HeaderAudit.Disk.Basic

/-!
# What writing does to a disk

Nothing that the program does to a disk takes a directory away or puts a file in the place of one.
So a path that leads somewhere leads to the same place ever after.  This is all that is needed to
find a file again behind the path under which it was written, and to write it once more.
-/

namespace HeaderAudit
namespace Disk

/-- Every directory of one disk is a directory of the other, under the same locks. -/
structure KeepsDirectories (disk disk' : Disk) : Prop where
  start_eq : disk'.start = disk.start
  locks_eq : disk'.locks = disk.locks
  directory : ∀ place, disk.node? place = some .directory → disk'.node? place = some .directory

theorem KeepsDirectories.refl (disk : Disk) : KeepsDirectories disk disk :=
  ⟨rfl, rfl, fun _ hnode => hnode⟩

theorem KeepsDirectories.trans {first second third : Disk}
    (hleft : KeepsDirectories first second) (hright : KeepsDirectories second third) :
    KeepsDirectories first third where
  start_eq := hright.start_eq.trans hleft.start_eq
  locks_eq := hright.locks_eq.trans hleft.locks_eq
  directory := fun place hnode => hright.directory place (hleft.directory place hnode)

variable {disk disk' : Disk} {path : Path} {place here : Location} {names : List Text}

theorem keepsDirectories_put (hplace : disk.node? place ≠ some .directory) (node : Node) :
    KeepsDirectories disk (disk.put place node) where
  start_eq := rfl
  locks_eq := rfl
  directory := by
    intro other hnode
    rw [node?_put_of_ne]
    · exact hnode
    · rintro rfl
      exact hplace hnode

theorem ne_nil_of_node?_ne_directory (hplace : disk.node? place ≠ some .directory) :
    place ≠ [] := by
  rintro rfl
  exact hplace rfl

theorem KeepsDirectories.mayEnter_eq (hkeeps : KeepsDirectories disk disk') (place : Location) :
    disk'.mayEnter place = disk.mayEnter place := by
  rw [mayEnter, mayEnter, hkeeps.locks_eq]

theorem KeepsDirectories.mayRead_eq (hkeeps : KeepsDirectories disk disk') (place : Location) :
    disk'.mayRead place = disk.mayRead place := by
  rw [mayRead, mayRead, hkeeps.locks_eq]

/-! ## Paths that lead somewhere -/

/-- Following names looks at directories only, up to the place itself. -/
theorem KeepsDirectories.follow_eq (hkeeps : KeepsDirectories disk disk')
    (hfollow : disk.follow here names = .ok place) :
    disk'.follow here names = .ok place := by
  induction names generalizing here with
  | nil => exact hfollow
  | cons name rest ih =>
      rw [follow] at hfollow ⊢
      rw [hkeeps.mayEnter_eq]
      by_cases hshut : (!disk.mayEnter here) = true
      · rw [if_pos hshut] at hfollow
        cases hfollow
      · rw [if_neg hshut] at hfollow ⊢
        by_cases hdot : name = ['.']
        · rw [if_pos hdot] at hfollow ⊢
          exact ih hfollow
        · rw [if_neg hdot] at hfollow ⊢
          by_cases hback : name = ['.', '.']
          · rw [if_pos hback] at hfollow ⊢
            exact ih hfollow
          · rw [if_neg hback] at hfollow ⊢
            by_cases hlong : (Text.encodeUtf8 name).length > nameLimit
            · rw [if_pos hlong] at hfollow
              cases hfollow
            · rw [if_neg hlong] at hfollow ⊢
              by_cases hlast : rest.isEmpty
              · simpa only [if_pos hlast] using hfollow
              · simp only [if_neg hlast] at hfollow ⊢
                cases hnode : disk.node? (here ++ [name]) with
                | none => simp [hnode] at hfollow
                | some node =>
                    cases node with
                    | file f => simp [hnode] at hfollow
                    | directory =>
                        simp only [hnode] at hfollow
                        simp only [hkeeps.directory _ hnode]
                        exact ih hfollow

theorem KeepsDirectories.locate_eq (hkeeps : KeepsDirectories disk disk')
    (hlocate : disk.locate path = .ok place) : disk'.locate path = .ok place := by
  rw [locate] at hlocate ⊢
  rw [hkeeps.start_eq]
  exact hkeeps.follow_eq hlocate

theorem find_of_locate {node : Node} (hlocate : disk.locate path = .ok place)
    (hnode : disk.node? place = some node) : disk.find path = .ok node := by
  simp only [find, hlocate, bind, Except.bind, hnode]

/-- What can be read is found. -/
theorem exists_find_of_read {content : List UInt8} (hread : disk.read path = .ok content) :
    ∃ node, disk.find path = .ok node := by
  cases hlocate : disk.locate path with
  | error e => simp [read, hlocate, bind, Except.bind] at hread
  | ok place =>
      cases hnode : disk.node? place with
      | none => simp [read, hlocate, bind, Except.bind, hnode] at hread
      | some node => exact ⟨node, find_of_locate hlocate hnode⟩

theorem isDirectory_iff :
    disk.isDirectory path ↔
      ∃ place, disk.locate path = .ok place ∧ disk.node? place = some .directory := by
  constructor
  · intro hdirectory
    cases hlocate : disk.locate path with
    | error e => simp [isDirectory, find, hlocate, bind, Except.bind] at hdirectory
    | ok place =>
        cases hnode : disk.node? place with
        | none => simp [isDirectory, find, hlocate, bind, Except.bind, hnode] at hdirectory
        | some node =>
            cases node with
            | file f => simp [isDirectory, find, hlocate, bind, Except.bind, hnode] at hdirectory
            | directory => exact ⟨place, rfl, hnode⟩
  · rintro ⟨place, hlocate, hnode⟩
    simp [isDirectory, find_of_locate hlocate hnode]

theorem KeepsDirectories.isDirectory (hkeeps : KeepsDirectories disk disk')
    (hdirectory : disk.isDirectory path) : disk'.isDirectory path := by
  obtain ⟨place, hlocate, hnode⟩ := isDirectory_iff.mp hdirectory
  exact isDirectory_iff.mpr ⟨place, hkeeps.locate_eq hlocate, hkeeps.directory place hnode⟩

/-! ## Making directories -/

theorem make_cases {node : Node} (hmade : disk.make place node = .ok disk') :
    disk.mayWrite place = true ∧ disk' = disk.put place node := by
  unfold make at hmade
  split at hmade
  · rename_i hopen
    rw [Except.ok.injEq] at hmade
    exact ⟨(Bool.and_eq_true_iff.mp hopen).1, hmade.symm⟩
  · cases hmade

theorem makeDirectory_cases (hmade : disk.makeDirectory path = .ok disk') :
    ∃ place, disk.locate path = .ok place ∧ disk.node? place = none ∧
      disk' = disk.put place .directory := by
  cases hlocate : disk.locate path with
  | error e => simp [makeDirectory, hlocate, bind, Except.bind] at hmade
  | ok place =>
      cases hnode : disk.node? place with
      | some node => simp [makeDirectory, hlocate, bind, Except.bind, hnode] at hmade
      | none =>
          simp only [makeDirectory, hlocate, bind, Except.bind, hnode] at hmade
          exact ⟨place, rfl, hnode, (make_cases hmade).2⟩

theorem makeDirectory_of_isDirectory (hdirectory : disk.isDirectory path) :
    disk.makeDirectory path = .error .alreadyThere := by
  obtain ⟨place, hlocate, hnode⟩ := isDirectory_iff.mp hdirectory
  simp [makeDirectory, hlocate, bind, Except.bind, hnode]

theorem ensureDirectory_of_isDirectory (hdirectory : disk.isDirectory path) :
    disk.ensureDirectory path = .ok disk := by
  simp [ensureDirectory, makeDirectory_of_isDirectory hdirectory, hdirectory]

/-- A directory that has been ensured is there, and no other is lost. -/
theorem ensureDirectory_spec (hensured : disk.ensureDirectory path = .ok disk') :
    KeepsDirectories disk disk' ∧ disk'.isDirectory path := by
  rw [ensureDirectory] at hensured
  cases hmade : disk.makeDirectory path with
  | error e =>
      rw [hmade] at hensured
      by_cases hdirectory : disk.isDirectory path
      · simp only [if_pos hdirectory, Except.ok.injEq] at hensured
        subst hensured
        exact ⟨.refl disk, hdirectory⟩
      · simp [hdirectory] at hensured
  | ok made =>
      simp only [hmade, Except.ok.injEq] at hensured
      subst hensured
      obtain ⟨place, hlocate, hnode, rfl⟩ := makeDirectory_cases hmade
      have hplace : disk.node? place ≠ some .directory := by simp [hnode]
      have hkeeps := keepsDirectories_put hplace .directory
      refine ⟨hkeeps, isDirectory_iff.mpr ⟨place, hkeeps.locate_eq hlocate, ?_⟩⟩
      exact node?_put_self (ne_nil_of_node?_ne_directory hplace) _ _

theorem ensureDirectories_of_isDirectory {root : Text}
    (hdirectory : disk.isDirectory ⟨root, names.reverse⟩) :
    disk.ensureDirectories root names = .ok disk := by
  cases names with
  | nil => exact ensureDirectory_of_isDirectory hdirectory
  | cons name before =>
      rw [ensureDirectories]
      simp only [makeDirectory_of_isDirectory hdirectory]
      exact ensureDirectory_of_isDirectory hdirectory

theorem ensureDirectories_spec {root : Text}
    (hensured : disk.ensureDirectories root names = .ok disk') :
    KeepsDirectories disk disk' ∧ disk'.isDirectory ⟨root, names.reverse⟩ := by
  induction names generalizing disk' with
  | nil => exact ensureDirectory_spec hensured
  | cons name before ih =>
      rw [ensureDirectories] at hensured
      by_cases hmissing : disk.makeDirectory ⟨root, (name :: before).reverse⟩ = .error .notFound
      · simp only [hmissing] at hensured
        cases hbefore : disk.ensureDirectories root before with
        | error e => simp [hbefore, bind, Except.bind] at hensured
        | ok mid =>
            simp only [hbefore, bind, Except.bind] at hensured
            obtain ⟨hkeeps, hdirectory⟩ := ensureDirectory_spec hensured
            exact ⟨(ih hbefore).1.trans hkeeps, hdirectory⟩
      · refine ensureDirectory_spec ?_
        cases hmade : disk.makeDirectory ⟨root, (name :: before).reverse⟩ with
        | ok made => simpa only [hmade] using hensured
        | error e =>
            cases e with
            | notFound => exact absurd hmade hmissing
            | _ => simpa only [hmade] using hensured

/-! ## Making and writing files -/

theorem touch_of_node? {mode : Nat} {node : Node} (hlocate : disk.locate path = .ok place)
    (hnode : disk.node? place = some node) : disk.touch mode path = .ok disk := by
  simp [touch, hlocate, bind, Except.bind, hnode]

theorem touch_keepsDirectories {mode : Nat} (htouched : disk.touch mode path = .ok disk') :
    KeepsDirectories disk disk' := by
  cases hlocate : disk.locate path with
  | error e => simp [touch, hlocate, bind, Except.bind] at htouched
  | ok place =>
      cases hnode : disk.node? place with
      | some node =>
          simp only [touch, hlocate, bind, Except.bind, hnode, Except.ok.injEq] at htouched
          subst htouched
          exact .refl disk
      | none =>
          simp only [touch, hlocate, bind, Except.bind, hnode] at htouched
          obtain ⟨-, rfl⟩ := make_cases htouched
          exact keepsDirectories_put (by simp [hnode]) _

/-- A write leaves the content in a file that may be written. -/
theorem write_spec {content : List UInt8} (hwritten : disk.write path content = .ok disk') :
    KeepsDirectories disk disk' ∧
      ∃ place f, disk.locate path = .ok place ∧ disk'.locate path = .ok place ∧
        disk'.node? place = some (.file f) ∧ disk'.mayWrite place = true ∧ f.content = content := by
  cases hlocate : disk.locate path with
  | error e => simp [write, hlocate, bind, Except.bind] at hwritten
  | ok place =>
      have hput : ∀ f : File, disk.node? place ≠ some .directory → disk.mayWrite place = true →
          disk' = disk.put place (.file f) →
          KeepsDirectories disk disk' ∧ disk'.locate path = .ok place ∧
            disk'.node? place = some (.file f) ∧ disk'.mayWrite place = true := by
        rintro f hplace hopen rfl
        have hkeeps := keepsDirectories_put hplace (.file f)
        exact ⟨hkeeps, hkeeps.locate_eq hlocate,
          node?_put_self (ne_nil_of_node?_ne_directory hplace) _ _, hopen⟩
      cases hnode : disk.node? place with
      | none =>
          simp only [write, hlocate, bind, Except.bind, hnode] at hwritten
          obtain ⟨hopen, hmade⟩ := make_cases hwritten
          obtain ⟨hkeeps, hthere, hfile, hopen'⟩ := hput _ (by simp [hnode]) hopen hmade
          exact ⟨hkeeps, place, _, rfl, hthere, hfile, hopen', rfl⟩
      | some node =>
          cases node with
          | directory => simp [write, hlocate, bind, Except.bind, hnode] at hwritten
          | file f =>
              simp only [write, hlocate, bind, Except.bind, hnode] at hwritten
              by_cases hopen : disk.mayWrite place = true
              · rw [if_pos hopen, Except.ok.injEq] at hwritten
                obtain ⟨hkeeps, hthere, hfile, hopen'⟩ :=
                  hput _ (by simp [hnode]) hopen hwritten.symm
                exact ⟨hkeeps, place, _, rfl, hthere, hfile, hopen', rfl⟩
              · rw [if_neg hopen] at hwritten
                cases hwritten

theorem write_of_file {f : File} (hlocate : disk.locate path = .ok place)
    (hfile : disk.node? place = some (.file f)) (hopen : disk.mayWrite place = true)
    (content : List UInt8) :
    disk.write path content = .ok (disk.put place (.file { f with content := content })) := by
  simp [write, hlocate, bind, Except.bind, hfile, hopen]

/-! ## Depositing a content -/

/-- Makes the directories that lead to a path and the owner's file at it, and writes the file. -/
def deposit (path : Path) (content : List UInt8) (disk : Disk) : Except DiskError Disk := do
  let made ← disk.ensureDirectories path.root path.parent.names.reverse
  let touched ← made.touch ownerOnly path
  touched.write path content

/-- There is a file at the path that may be read, with this content. -/
def HasContent (path : Path) (content : List UInt8) (disk : Disk) : Prop :=
  ∃ place f, disk.locate path = .ok place ∧ disk.node? place = some (.file f) ∧
    disk.mayRead place = true ∧ f.content = content

theorem hasContent_iff_read {content : List UInt8} :
    disk.HasContent path content ↔ disk.read path = .ok content := by
  constructor
  · rintro ⟨place, f, hlocate, hnode, hopen, rfl⟩
    simp [Disk.read, hlocate, bind, Except.bind, hnode, hopen]
  · intro hread
    rw [HasContent]
    cases hlocate : disk.locate path with
    | error e => simp [Disk.read, hlocate, bind, Except.bind] at hread
    | ok place =>
        simp only [Disk.read, hlocate, bind, Except.bind] at hread
        cases hnode : disk.node? place with
        | none => simp [hnode] at hread
        | some node =>
            cases node with
            | directory => simp [hnode] at hread
            | file f =>
                simp only [hnode] at hread
                by_cases hopen : disk.mayRead place = true
                · rw [if_pos hopen, Except.ok.injEq] at hread
                  exact ⟨place, f, rfl, hnode, hopen, hread⟩
                · rw [if_neg hopen] at hread
                  cases hread

theorem deposit_cases {content : List UInt8} (hdeposit : disk.deposit path content = .ok disk') :
    ∃ made touched, disk.ensureDirectories path.root path.parent.names.reverse = .ok made ∧
      made.touch ownerOnly path = .ok touched ∧ touched.write path content = .ok disk' := by
  cases hmade : disk.ensureDirectories path.root path.parent.names.reverse with
  | error e => simp [deposit, hmade, bind, Except.bind] at hdeposit
  | ok made =>
      cases htouched : made.touch ownerOnly path with
      | error e => simp [deposit, hmade, htouched, bind, Except.bind] at hdeposit
      | ok touched =>
          refine ⟨made, touched, rfl, htouched, ?_⟩
          simpa [deposit, hmade, htouched, bind, Except.bind] using hdeposit

/-- What has been deposited is there, and it is read if anything can be read there at all. -/
theorem hasContent_of_deposit {content : List UInt8}
    (hdeposit : disk.deposit path content = .ok disk') {bytes : List UInt8}
    (hread : disk'.read path = .ok bytes) : disk'.HasContent path content := by
  obtain ⟨made, touched, -, -, hwritten⟩ := deposit_cases hdeposit
  obtain ⟨-, place, f, -, hlocate, hnode, -, hf⟩ := write_spec hwritten
  obtain ⟨place', g, hlocate', -, hopen, -⟩ := hasContent_iff_read.mpr hread
  rw [hlocate, Except.ok.injEq] at hlocate'
  subst hlocate'
  exact ⟨place, f, hlocate, hnode, hopen, hf⟩

/-- What has been deposited is found. -/
theorem exists_find_of_deposit {content : List UInt8}
    (hdeposit : disk.deposit path content = .ok disk') : ∃ node, disk'.find path = .ok node := by
  obtain ⟨made, touched, -, -, hwritten⟩ := deposit_cases hdeposit
  obtain ⟨-, place, f, -, hlocate, hnode, -⟩ := write_spec hwritten
  exact ⟨_, find_of_locate hlocate hnode⟩

/-- Whether a write succeeds, and whether what is written can be read, does not depend on what is
written. -/
theorem exists_write_of_write {content : List UInt8}
    (hwritten : disk.write path content = .ok disk') (other : List UInt8) :
    ∃ disk'', disk.write path other = .ok disk'' ∧
      (disk'.HasContent path content → disk''.HasContent path other) := by
  have hother : ∃ disk'', disk.write path other = .ok disk'' := by
    unfold write at hwritten ⊢
    cases hlocate : disk.locate path with
    | error e => simp [hlocate, bind, Except.bind] at hwritten
    | ok place =>
        simp only [hlocate, bind, Except.bind] at hwritten ⊢
        cases hnode : disk.node? place with
        | none =>
            simp only [hnode, make] at hwritten ⊢
            split at hwritten
            · rename_i hfree
              exact ⟨_, if_pos hfree⟩
            · cases hwritten
        | some node =>
            cases node with
            | directory => simp [hnode] at hwritten
            | file f =>
                simp only [hnode] at hwritten ⊢
                split at hwritten
                · rename_i hopen
                  exact ⟨_, if_pos hopen⟩
                · cases hwritten
  obtain ⟨disk'', hother⟩ := hother
  refine ⟨disk'', hother, ?_⟩
  rintro ⟨place', -, hlocate', -, hopen', -⟩
  obtain ⟨hkeeps, place, -, hlocate, hthere, -⟩ := write_spec hwritten
  obtain ⟨hkeepsOther, otherPlace, f, hlocateOther, hthereOther, hnodeOther, -, hf⟩ :=
    write_spec hother
  obtain rfl : place = place' := Except.ok.inj (hthere.symm.trans hlocate')
  obtain rfl : place = otherPlace := Except.ok.inj (hlocate.symm.trans hlocateOther)
  refine ⟨place, f, hthereOther, hnodeOther, ?_, hf⟩
  rw [hkeepsOther.mayRead_eq, ← hkeeps.mayRead_eq]
  exact hopen'

theorem exists_deposit_of_other {content : List UInt8}
    (hdeposit : disk.deposit path content = .ok disk') (other : List UInt8) :
    ∃ disk'', disk.deposit path other = .ok disk'' ∧
      (disk'.HasContent path content → disk''.HasContent path other) := by
  obtain ⟨made, touched, hmade, htouched, hwritten⟩ := deposit_cases hdeposit
  obtain ⟨rewritten, hother, hread⟩ := exists_write_of_write hwritten other
  refine ⟨rewritten, ?_, hread⟩
  simp [deposit, hmade, htouched, hother, bind, Except.bind]

/-- What has been deposited once can be deposited again: the directories and the file are there. -/
theorem exists_deposit_of_deposit {content : List UInt8}
    (hdeposit : disk.deposit path content = .ok disk') (other : List UInt8) :
    ∃ disk'', disk'.deposit path other = .ok disk'' ∧
      (disk'.HasContent path content → disk''.HasContent path other) := by
  obtain ⟨made, touched, hmade, htouched, hwritten⟩ := deposit_cases hdeposit
  obtain ⟨hkeeps, place, f, -, hlocate, hnode, hopen, -⟩ := write_spec hwritten
  have hdirectory := (ensureDirectories_spec hmade).2
  have hkept := ((touch_keepsDirectories htouched).trans hkeeps).isDirectory hdirectory
  have hsame : disk'.deposit path content = .ok (disk'.put place (.file { f with content })) := by
    simp [deposit, ensureDirectories_of_isDirectory hkept, touch_of_node? hlocate hnode,
      write_of_file hlocate hnode hopen, bind, Except.bind]
  obtain ⟨disk'', hother, hread⟩ := exists_deposit_of_other hsame other
  refine ⟨disk'', hother, fun hcontent => hread ?_⟩
  obtain ⟨place', -, hlocate', -, hopen', -⟩ := hcontent
  obtain rfl : place = place' := Except.ok.inj (hlocate.symm.trans hlocate')
  have hplace : disk'.node? place ≠ some .directory := by simp [hnode]
  have hputKeeps := keepsDirectories_put hplace (.file { f with content })
  refine ⟨place, _, hputKeeps.locate_eq hlocate,
    node?_put_self (ne_nil_of_node?_ne_directory hplace) _ _, ?_, rfl⟩
  rw [hputKeeps.mayRead_eq]
  exact hopen'

end Disk
end HeaderAudit
