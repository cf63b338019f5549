import HeaderAudit.Proofs.LegibleRules

/-!
# The ids of loaded rules

A rule that is loaded has the id that its entry says, as a text or as a number, or one that is made
up because the entry says none.  What the entries say is in the file, and every run that loads it
finds the same.  What is made up is not: another run makes up ids of its own.
-/

namespace HeaderAudit

namespace Binary64

theorem layout_ne_nil (style : DecimalLayout) (digits : Text) (point : Int) :
    layout style digits point ≠ [] := by
  unfold layout
  split
  · split
    · simp
    · split <;> simp
  · by_cases hexponent : point - 1 < 0 <;> simp [hexponent]

theorem toText_ne_nil (x : Binary64) : x.toText ≠ [] := by
  cases x with
  | nan => decide
  | infinite negative => cases negative <;> decide
  | finite negative m e =>
      have hsize : (if m = 0 then "0.0"
          else layout plainLayout (shortestDigits m e).1 (shortestDigits m e).2 : Text) ≠ [] := by
        split
        · decide
        · exact layout_ne_nil _ _ _
      rw [toText]
      split
      · exact List.cons_ne_nil _ _
      · exact hsize

end Binary64

namespace RuleFile

open Yaml (Value)

variable {env : Environment} {path file : Path} {rules : List Rule} {w : World} {id : Text}

theorem map_eq_ok_iff {ε α β : Type} {result : Except ε α} {f : α → β} {b : β} :
    result.map f = .ok b ↔ ∃ a, result = .ok a ∧ f a = b := by
  cases result <;> simp [Except.map]

theorem mapError_eq_ok_iff {ε ε' α : Type} {result : Except ε α} {f : ε → ε'} {a : α} :
    result.mapError f = .ok a ↔ result = .ok a := by
  cases result <;> simp [Except.mapError]

/-! ## The id that an entry says -/

/-- The value of the field says this id: it is a text with something in it, or a number. -/
inductive SaysId : Value → Text → Prop where
  | text {t : Text} : t ≠ [] → SaysId (.text t) t
  | bytes {t : Text} : t ≠ [] → SaysId (.bytes (Text.encodeUtf8 t)) t
  | int (i : Int) : SaysId (.int i) (Text.ofInt i)
  | float (x : Binary64) : SaysId (.float x) x.toText
  | madeNan (place : Nat) : SaysId (.madeNan place) Binary64.nan.toText

theorem ofInt_ne_nil (i : Int) : Text.ofInt i ≠ [] := by
  cases i with
  | ofNat n => exact Nat.toDigits_ne_nil
  | negSucc n => exact List.cons_ne_nil _ _

theorem SaysId.ne_nil {value : Value} (hsaid : SaysId value id) : id ≠ [] := by
  cases hsaid with
  | text ht => exact ht
  | bytes ht => exact ht
  | int i => exact ofInt_ne_nil i
  | float x => exact x.toText_ne_nil
  | madeNan place => exact Binary64.nan.toText_ne_nil

theorem ownId?_eq_some_iff {entry : Entry} :
    entry.ownId? = some id ↔ entry.id = some id ∧ id ≠ [] := by
  simp [Entry.ownId?, Option.filter_eq_some_iff]

theorem readId_saysId_iff {value : Value} {own : Option Text}
    (hread : Entry.readId (some value) = .ok own) :
    own = some id ∧ id ≠ [] ↔ SaysId value id := by
  constructor
  · rintro ⟨rfl, hid⟩
    cases value with
    | text t =>
        obtain rfl : t = id := by simpa [Entry.readId, Entry.readText, Except.map] using hread
        exact .text hid
    | bytes bs =>
        obtain ⟨t, htext, hsame⟩ := map_eq_ok_iff.mp hread
        obtain rfl := Option.some.inj hsame
        obtain rfl := Text.decodeUtf8_eq_ok_iff.mp (mapError_eq_ok_iff.mp htext)
        exact .bytes hid
    | int i =>
        rw [Entry.readId] at hread
        by_cases hshown : Entry.canShow i = true
        · rw [if_pos hshown] at hread
          obtain rfl : Text.ofInt i = id := by simpa using hread
          exact .int i
        · simp [hshown] at hread
    | float x =>
        obtain rfl : x.toText = id := by simpa [Entry.readId] using hread
        exact .float x
    | madeNan place =>
        obtain rfl : Binary64.nan.toText = id := by simpa [Entry.readId] using hread
        exact .madeNan place
    | _ => simp [Entry.readId, Entry.readText, Except.map] at hread
  · intro hsaid
    refine ⟨?_, hsaid.ne_nil⟩
    cases hsaid with
    | text ht => simpa [Entry.readId, Entry.readText, Except.map, @eq_comm _ own] using hread
    | bytes ht =>
        simpa [Entry.readId, Entry.readText, Except.map, Except.mapError,
          Text.decodeUtf8_encodeUtf8, @eq_comm _ own] using hread
    | int i =>
        rw [Entry.readId] at hread
        by_cases hshown : Entry.canShow i = true
        · simpa [hshown, @eq_comm _ own] using hread
        · simp [hshown] at hread
    | float x => simpa [Entry.readId, @eq_comm _ own] using hread
    | madeNan place => simpa [Entry.readId, @eq_comm _ own] using hread

/-- In an entry that can be read, the field of the id says the one that the entry has, if any. -/
theorem ownId?_eq_some_iff_saysId {pairs : List (Value × Value)} {entry : Entry}
    (hentry : Entry.ofPairs pairs = .ok entry) :
    entry.ownId? = some id ↔
      ∃ value, Value.pairValue? EntryField.id.name pairs = some value ∧ SaysId value id := by
  obtain ⟨hread, -, -⟩ := ofPairs_eq_ok_iff.mp hentry
  rw [ownId?_eq_some_iff]
  cases hfield : Value.pairValue? EntryField.id.name pairs with
  | none =>
      rw [hfield, Entry.readId, Except.ok.injEq] at hread
      simp [← hread]
  | some value =>
      rw [hfield] at hread
      rw [readId_saysId_iff hread]
      simp

/-! ## The entries of a file -/

/-- The values that the file at the path lists; there are none if it is missing or no YAML. -/
def valuesAt (file : Path) (disk : Disk) : Except RuleFileError (List Value) :=
  match disk.find file with
  | .error e => if e.meansAbsent then .ok [] else .error (.disk e)
  | .ok _ =>
    match disk.read file with
    | .error _ => .ok []
    | .ok bytes =>
      match Text.decodeUtf8 bytes with
      | .error e => .error (.notUtf8 e)
      | .ok t =>
        match Yaml.read (unifyLineEnds t) with
        | .error (.malformed _) => .ok []
        | .error (.scalar cause) => .error (.value cause)
        | .ok document => .ok (entriesOf document)

/-- The entries that can be read among the values. -/
def readable (values : List Value) : List Entry :=
  values.filterMap fun value => (Entry.ofValue value).toOption

def entriesAt (file : Path) (disk : Disk) : List Entry :=
  readable ((valuesAt file disk).toOption.getD [])

/-- The rules of the entries when so many ids have been made up before. -/
def named (env : Environment) : Nat → List Entry → List Rule
  | _, [] => []
  | made, entry :: rest =>
    entry.toRule (env.idOf (made + 1)) ::
      named env (if entry.ownId?.isSome then made else made + 1) rest

/-- Loading finds the values that the file lists and makes rules of them. -/
theorem load_result (hfile : path.expandHome env.home = some file) :
    (load env path w).2 =
      (valuesAt file w.disk).bind fun values => (rulesOf env values w).2 := by
  unfold load valuesAt
  simp only [hfile]
  cases w.disk.find file with
  | error e => by_cases habsent : e.meansAbsent <;> simp [habsent, Except.bind, rulesOf]
  | ok node =>
      simp only
      cases w.disk.read file with
      | error e => rfl
      | ok bytes =>
          simp only [rulesOfBytes]
          cases Text.decodeUtf8 bytes with
          | error e => rfl
          | ok t =>
              simp only
              cases Yaml.read (unifyLineEnds t) with
              | ok document => rfl
              | error e => cases e <;> rfl

theorem ruleOf_eq (entry : Entry) (w : World) :
    (ruleOf env entry w).1 = entry.toRule (env.idOf (w.idsMade + 1)) ∧
      (ruleOf env entry w).2.idsMade =
        if entry.ownId?.isSome then w.idsMade else w.idsMade + 1 := by
  unfold ruleOf Entry.toRule
  cases entry.ownId? <;> exact ⟨rfl, rfl⟩

theorem readable_cons_of_ok {pairs : List (Value × Value)} {entry : Entry}
    (hentry : Entry.ofPairs pairs = .ok entry) (rest : List Value) :
    readable (.map pairs :: rest) = entry :: readable rest := by
  simp [readable, Entry.ofValue, hentry, Except.toOption]

theorem readable_cons_of_error {value : Value} {faults : List EntryFault}
    (hvalue : Entry.ofValue value = .error faults) (rest : List Value) :
    readable (value :: rest) = readable rest := by
  simp [readable, hvalue, Except.toOption]

theorem mem_readable_iff {values : List Value} {entry : Entry} :
    entry ∈ readable values ↔ ∃ pairs, .map pairs ∈ values ∧ Entry.ofPairs pairs = .ok entry := by
  simp only [readable, List.mem_filterMap]
  constructor
  · rintro ⟨value, hvalue, hread⟩
    cases value with
    | map pairs =>
        have hread : (Entry.ofPairs pairs).toOption = some entry := hread
        exact ⟨pairs, hvalue, eq_ok_of_toOption hread⟩
    | _ => cases hread
  · rintro ⟨pairs, hpairs, hentry⟩
    exact ⟨.map pairs, hpairs, by simp [Entry.ofValue, hentry, Except.toOption]⟩

/-- Rules are made of all entries that can be read, unless one of the others cannot be told of. -/
theorem rulesOf_eq_ok_iff (values : List Value) (w : World) :
    (rulesOf env values w).2 = .ok rules ↔
      (∀ value ∈ values, Tellable value) ∧ rules = named env w.idsMade (readable values) := by
  induction values generalizing w rules with
  | nil => simp [rulesOf, readable, named, eq_comm]
  | cons value rest ih =>
      rw [List.forall_mem_cons]
      cases value with
      | map pairs =>
          cases hentry : Entry.ofPairs pairs with
          | ok entry =>
              have htold := tellable_of_ok hentry
              obtain ⟨hrule, hmade⟩ := @ruleOf_eq env entry w
              have hmap : (rulesOf env (.map pairs :: rest) w).2 =
                  (rulesOf env rest (ruleOf env entry w).2).2.map
                    ((ruleOf env entry w).1 :: ·) := by
                simp only [rulesOf, hentry]
              rw [hmap, map_eq_ok_iff, readable_cons_of_ok hentry, named, hrule, ← hmade]
              constructor
              · rintro ⟨others, hothers, rfl⟩
                obtain ⟨htellable, rfl⟩ := (ih _).mp hothers
                exact ⟨⟨htold, htellable⟩, rfl⟩
              · rintro ⟨⟨-, htellable⟩, rfl⟩
                exact ⟨_, (ih _).mpr ⟨htellable, rfl⟩, rfl⟩
          | error faults =>
              have htold := tellable_iff_of_error hentry
              have hvalue : Entry.ofValue (.map pairs) = .error faults := hentry
              rw [readable_cons_of_error hvalue, htold]
              simp only [rulesOf, hentry]
              by_cases hshowable : Entry.pairsShowable pairs = true
              · rw [if_pos hshowable, ih]
                simp [hshowable, World.note]
              · simp [hshowable]
      | _ =>
          exact (ih w).trans
            (and_congr_left' (and_iff_right (tellable_of_not_map (by simp))).symm)

/-- The file can be loaded. -/
def Loadable (file : Path) (disk : Disk) : Prop :=
  ∃ values, valuesAt file disk = .ok values ∧ ∀ value ∈ values, Tellable value

/-- Whether a file can be loaded does not depend on who loads it, and the rules only depend on it in
the ids that are made up. -/
theorem load_eq_ok_iff (hfile : path.expandHome env.home = some file) :
    (load env path w).2 = .ok rules ↔
      Loadable file w.disk ∧ rules = named env w.idsMade (entriesAt file w.disk) := by
  rw [load_result hfile, Loadable, entriesAt]
  cases valuesAt file w.disk with
  | error e => simp [Except.bind]
  | ok values => simp [Except.bind, Except.toOption, rulesOf_eq_ok_iff]

/-! ## Ids said and ids made up -/

/-- The file says the id in an entry that can be read. -/
def SaysIn (file : Path) (disk : Disk) (id : Text) : Prop :=
  ∃ values pairs value, valuesAt file disk = .ok values ∧ .map pairs ∈ values ∧
    (∃ entry, Entry.ofPairs pairs = .ok entry) ∧
    Value.pairValue? EntryField.id.name pairs = some value ∧ SaysId value id

/-- How many entries that can be read say no id. -/
def namelessAt (file : Path) (disk : Disk) : Nat :=
  (entriesAt file disk).countP fun entry => entry.ownId?.isNone

theorem saysIn_iff {disk : Disk} :
    SaysIn file disk id ↔ id ∈ (entriesAt file disk).filterMap Entry.ownId? := by
  simp only [List.mem_filterMap, entriesAt, SaysIn]
  constructor
  · rintro ⟨values, pairs, value, hvalues, hpairs, ⟨entry, hentry⟩, hfield, hsaid⟩
    refine ⟨entry, ?_, (ownId?_eq_some_iff_saysId hentry).mpr ⟨value, hfield, hsaid⟩⟩
    rw [hvalues]
    exact mem_readable_iff.mpr ⟨pairs, hpairs, hentry⟩
  · rintro ⟨entry, hmem, hown⟩
    cases hvalues : valuesAt file disk with
    | error e => simp [hvalues, Except.toOption, readable] at hmem
    | ok values =>
        rw [hvalues] at hmem
        obtain ⟨pairs, hpairs, hentry⟩ := mem_readable_iff.mp hmem
        obtain ⟨value, hfield, hsaid⟩ := (ownId?_eq_some_iff_saysId hentry).mp hown
        exact ⟨values, pairs, value, rfl, hpairs, ⟨entry, hentry⟩, hfield, hsaid⟩

/-- An id of a rule is that of an entry, or one of those made up for the entries without one. -/
theorem mem_ids_named_iff (made : Nat) (entries : List Entry) :
    id ∈ (named env made entries).map Rule.id ↔
      id ∈ entries.filterMap Entry.ownId? ∨
        ∃ n, made < n ∧ n ≤ made + entries.countP (fun entry => entry.ownId?.isNone) ∧
          env.idOf n = id := by
  induction entries generalizing made with
  | nil =>
      simp [named]
      omega
  | cons entry rest ih =>
      rw [named, List.map_cons, List.mem_cons, ih]
      cases hown : entry.ownId? with
      | some own => simp [Entry.toRule, hown, or_assoc, eq_comm]
      | none =>
          simp only [Entry.toRule, hown, Option.getD_none, Option.isSome_none, Bool.false_eq_true,
            if_false, List.filterMap_cons_none hown, List.countP_cons, Option.isNone_none, if_true]
          constructor
          · rintro (rfl | hsaid | ⟨n, hlow, hhigh, hn⟩)
            · exact .inr ⟨made + 1, by omega, by omega, rfl⟩
            · exact .inl hsaid
            · exact .inr ⟨n, by omega, by omega, hn⟩
          · rintro (hsaid | ⟨n, hlow, hhigh, hn⟩)
            · exact .inr (.inl hsaid)
            · by_cases hfirst : n = made + 1
              · rw [← hn, hfirst]
                exact .inl rfl
              · exact .inr (.inr ⟨n, by omega, by omega, hn⟩)

end RuleFile

end HeaderAudit
