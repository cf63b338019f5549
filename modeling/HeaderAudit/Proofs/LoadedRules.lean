import HeaderAudit.Proofs.RuleFileRoundTrip

/-!
# What loading gives

A rule file may hold anything.  Loading goes through its entries and makes a rule of each that it
can read; whatever it finds, it leaves the disk alone, the rules can be stated in a file again, and
nothing is noted but what could not be read.
-/

namespace HeaderAudit
namespace RuleFile

open Yaml (Value)

variable {env : Environment} {path : Path} {w : World}

/-! ## One entry -/

/-- An entry is read exactly if each of its fields is. -/
theorem ofPairs_eq_ok_iff {pairs : List (Value × Value)} {entry : Entry} :
    Entry.ofPairs pairs = .ok entry ↔
      Entry.readId (Value.pairValue? EntryField.id.name pairs) = .ok entry.id ∧
        Entry.readKind (Value.pairValue? EntryField.kind.name pairs) = .ok entry.kind ∧
        Entry.readPattern (Value.pairValue? EntryField.pattern.name pairs) = .ok entry.pattern := by
  obtain ⟨ownId, kind, pattern⟩ := entry
  rw [Entry.ofPairs]
  cases Entry.readId (Value.pairValue? EntryField.id.name pairs) with
  | error fault => simp
  | ok readId =>
      cases Entry.readKind (Value.pairValue? EntryField.kind.name pairs) with
      | error fault => simp
      | ok readKind =>
          cases Entry.readPattern (Value.pairValue? EntryField.pattern.name pairs) <;> simp

theorem readPattern_ne_ok_nil (field : Option Value) : Entry.readPattern field ≠ .ok [] := by
  cases field with
  | none => simp [Entry.readPattern]
  | some value =>
      rw [Entry.readPattern]
      cases Entry.readText .pattern value with
      | error fault => simp [bind, Except.bind]
      | ok t => cases t <;> simp [bind, Except.bind]

theorem pattern_ne_nil_of_ofPairs {pairs : List (Value × Value)} {entry : Entry}
    (hentry : Entry.ofPairs pairs = .ok entry) : entry.pattern ≠ [] := by
  obtain ⟨-, -, hpattern⟩ := ofPairs_eq_ok_iff.mp hentry
  intro hempty
  rw [hempty] at hpattern
  exact readPattern_ne_ok_nil _ hpattern

theorem ruleOf_storable (hids : ∀ n, env.idOf n ≠ []) {entry : Entry}
    (hpattern : entry.pattern ≠ []) (w : World) : (ruleOf env entry w).1.Storable := by
  rw [ruleOf]
  cases hown : entry.ownId? with
  | none => exact ⟨hids _, hpattern⟩
  | some id =>
      have hid : id ≠ [] := by
        rintro rfl
        simp [Entry.ownId?, Option.filter_eq_some_iff] at hown
      exact ⟨hid, hpattern⟩

theorem ruleOf_disk (entry : Entry) (w : World) : (ruleOf env entry w).2.disk = w.disk := by
  rw [ruleOf]
  cases entry.ownId? <;> rfl

theorem ruleOf_log (entry : Entry) (w : World) : (ruleOf env entry w).2.log = w.log := by
  rw [ruleOf]
  cases entry.ownId? <;> rfl

/-- The first entry makes a rule, or it is passed over and perhaps noted, or it ends the reading. -/
theorem rulesOf_cons_cases (entry : Value) (rest : List Value) (w : World) :
    (∃ parsed : Entry, parsed.pattern ≠ [] ∧
      (rulesOf env (entry :: rest) w).1 = (rulesOf env rest (ruleOf env parsed w).2).1 ∧
      (rulesOf env (entry :: rest) w).2 =
        (rulesOf env rest (ruleOf env parsed w).2).2.map ((ruleOf env parsed w).1 :: ·)) ∨
    rulesOf env (entry :: rest) w = rulesOf env rest w ∨
    (∃ faults, rulesOf env (entry :: rest) w = rulesOf env rest (w.note (.invalidRule faults))) ∨
    rulesOf env (entry :: rest) w = (w, .error (.value .tooManyDigitsToShow)) := by
  cases entry with
  | map pairs =>
      rw [rulesOf]
      cases hentry : Entry.ofPairs pairs with
      | ok parsed => exact .inl ⟨parsed, pattern_ne_nil_of_ofPairs hentry, rfl, rfl⟩
      | error faults =>
          simp only
          by_cases hshowable : Entry.pairsShowable pairs
          · rw [if_pos hshowable]
            exact .inr (.inr (.inl ⟨faults.length, rfl⟩))
          · rw [if_neg hshowable]
            exact .inr (.inr (.inr rfl))
  | _ => exact .inr (.inl rfl)

/-! ## All entries -/

theorem rulesOf_disk (entries : List Value) (w : World) :
    (rulesOf env entries w).1.disk = w.disk := by
  induction entries generalizing w with
  | nil => rfl
  | cons entry rest ih =>
      rcases @rulesOf_cons_cases env entry rest w with
        ⟨parsed, -, hworld, -⟩ | hsame | ⟨faults, hnoted⟩ | hended
      · rw [hworld, ih, ruleOf_disk]
      · rw [hsame, ih]
      · rw [hnoted, ih]
        rfl
      · rw [hended]

theorem rulesOf_storable (hids : ∀ n, env.idOf n ≠ []) (entries : List Value) (w : World)
    {rules : List Rule} (hrules : (rulesOf env entries w).2 = .ok rules) :
    ∀ rule ∈ rules, rule.Storable := by
  induction entries generalizing w rules with
  | nil =>
      cases hrules
      simp
  | cons entry rest ih =>
      rcases @rulesOf_cons_cases env entry rest w with
        ⟨parsed, hpattern, -, hmore⟩ | hsame | ⟨faults, hnoted⟩ | hended
      · rw [hmore] at hrules
        cases hothers : (rulesOf env rest (ruleOf env parsed w).2).2 with
        | error e => simp [hothers, Except.map] at hrules
        | ok others =>
            simp only [hothers, Except.map, Except.ok.injEq] at hrules
            rw [← hrules, List.forall_mem_cons]
            exact ⟨ruleOf_storable hids hpattern w, ih _ hothers⟩
      · rw [hsame] at hrules
        exact ih _ hrules
      · rw [hnoted] at hrules
        exact ih _ hrules
      · rw [hended] at hrules
        cases hrules

/-- What is noted about a file that has been found. -/
def IsReadingNote (note : LogEntry) : Prop :=
  (∃ name, note = .rulesUnreadable name) ∨ ∃ faults, note = .invalidRule faults

theorem mem_log_note {note line : LogEntry} (hline : line ∈ (w.note note).log) :
    line ∈ w.log ∨ line = note := by
  rw [World.note, List.mem_append, List.mem_singleton] at hline
  exact hline

theorem rulesOf_log (entries : List Value) (w : World) :
    ∀ line ∈ (rulesOf env entries w).1.log, line ∈ w.log ∨ IsReadingNote line := by
  induction entries generalizing w with
  | nil => exact fun line hline => .inl hline
  | cons entry rest ih =>
      intro line hline
      rcases @rulesOf_cons_cases env entry rest w with
        ⟨parsed, -, hworld, -⟩ | hsame | ⟨faults, hnoted⟩ | hended
      · rw [hworld] at hline
        have hrest := ih _ line hline
        rwa [ruleOf_log] at hrest
      · rw [hsame] at hline
        exact ih w line hline
      · rw [hnoted] at hline
        rcases ih _ line hline with hbefore | hreading
        · rcases mem_log_note hbefore with hold | rfl
          · exact .inl hold
          · exact .inr (.inr ⟨faults, rfl⟩)
        · exact .inr hreading
      · rw [hended] at hline
        exact .inl hline

/-! ## Any file -/

/-- Where rules come from when a path is loaded: loading fails, there is nothing, what is there
cannot be read, or the rules are those of its entries. -/
theorem load_cases (path : Path) (w : World) :
    (∃ cause, load env path w = (w, .error cause)) ∨ load env path w = (w, .ok []) ∨
      (∃ name, load env path w = (w.note (.rulesUnreadable name), .ok [])) ∨
      ∃ entries, load env path w = rulesOf env entries w := by
  unfold load
  cases path.expandHome env.home with
  | none => exact .inl ⟨_, rfl⟩
  | some file =>
      simp only
      cases w.disk.find file with
      | error e =>
          by_cases habsent : e.meansAbsent
          · exact .inr (.inl (by simp only [if_pos habsent]))
          · exact .inl ⟨.disk e, by simp only [if_neg habsent]⟩
      | ok node =>
          cases hread : w.disk.read file with
          | error e => exact .inr (.inr (.inl ⟨_, rfl⟩))
          | ok bytes =>
              unfold rulesOfBytes
              simp only
              split
              · exact .inl ⟨_, rfl⟩
              · split
                · exact .inr (.inr (.inl ⟨_, rfl⟩))
                · exact .inl ⟨_, rfl⟩
                · exact .inr (.inr (.inr ⟨_, rfl⟩))

theorem load_disk (path : Path) (w : World) : (load env path w).1.disk = w.disk := by
  rcases load_cases path w with ⟨cause, hload⟩ | hload | ⟨name, hload⟩ | ⟨entries, hload⟩
  all_goals rw [hload]
  · rfl
  · exact rulesOf_disk entries w

/-- Loading notes nothing but what it could not read. -/
theorem load_log (path : Path) (w : World) :
    ∀ line ∈ (load env path w).1.log, line ∈ w.log ∨ IsReadingNote line := by
  rcases load_cases path w with ⟨cause, hload⟩ | hload | ⟨name, hload⟩ | ⟨entries, hload⟩
  all_goals rw [hload]
  · exact fun line hline => .inl hline
  · exact fun line hline => .inl hline
  · intro line hline
    rcases mem_log_note hline with hold | rfl
    · exact .inl hold
    · exact .inr (.inl ⟨name, rfl⟩)
  · exact rulesOf_log entries w

/-- Whatever the file, the rules that are read from it can be stated. -/
theorem load_storable (hids : ∀ n, env.idOf n ≠ []) (path : Path) (w : World) :
    ∀ rules, (load env path w).2 = .ok rules → ∀ rule ∈ rules, rule.Storable := by
  intro rules hrules
  rcases load_cases path w with ⟨cause, hload⟩ | hload | ⟨name, hload⟩ | ⟨entries, hload⟩
  all_goals rw [hload] at hrules
  · cases hrules
  · cases hrules
    simp
  · cases hrules
    simp
  · exact rulesOf_storable hids entries w hrules

theorem load_spec (hids : ∀ n, env.idOf n ≠ []) (path : Path) (w : World) :
    (load env path w).1.disk = w.disk ∧
      ∀ rules, (load env path w).2 = .ok rules → ∀ rule ∈ rules, rule.Storable :=
  ⟨load_disk path w, load_storable hids path w⟩

end RuleFile
end HeaderAudit
