import HeaderAudit.Proofs.RuleIds

/-!
# The schema of an entry

An entry is an object with the kind and the pattern of a rule and perhaps its id.  Here the schema is
said field by field: what each of the three may hold, and what it states then.  An object is read
exactly if it fits the schema.  If it does not, there is one fault for each field that offends, in the
order of the schema.  No other field matters.
-/

namespace HeaderAudit

/-- The fields of the schema in their order. -/
def EntryField.all : List EntryField := [id, kind, pattern]

def EntryFault.field? : EntryFault → Option EntryField
  | notAMapping => none
  | missing field | notAText field | brokenText field | tooManyDigits field => some field
  | unknownKind => some .kind
  | emptyPattern => some .pattern

namespace Entry

open Yaml (Value)

variable {field : EntryField} {value : Option Json} {fields others : List (Text × Json)}
  {entry : Entry}

/-! ## What the fields may hold -/

/-- What an object holds in a field; of two fields with one name the later one counts. -/
def fieldOf (field : EntryField) (fields : List (Text × Json)) : Option Json :=
  (fields.reverse.find? (·.1 = field.name)).map (·.2)

/-- An id is a text or a number, unless it takes too many digits; or there is none. -/
inductive StatesId : Option Json → Option Text → Prop where
  | missing : StatesId none none
  | null : StatesId (some .null) none
  | text (t : Text) : StatesId (some (.text t)) (some t)
  | int {i : Int} : (Nat.toDigits 10 i.natAbs).length ≤ Yaml.digitLimit →
      StatesId (some (.int i)) (some (Text.ofInt i))
  | float (x : Binary64) : StatesId (some (.float x)) (some x.toText)

inductive StatesKind : Option Json → RuleKind → Prop where
  | text {t : Text} {kind : RuleKind} : Text.lower (Text.strip t) = kind.name →
      StatesKind (some (.text t)) kind

inductive StatesPattern : Option Json → Text → Prop where
  | text {t : Text} : t ≠ [] → StatesPattern (some (.text t)) t

structure Fits (fields : List (Text × Json)) (entry : Entry) : Prop where
  id : StatesId (fieldOf .id fields) entry.id
  kind : StatesKind (fieldOf .kind fields) entry.kind
  pattern : StatesPattern (fieldOf .pattern fields) entry.pattern

/-- The field holds nothing that the schema has for it. -/
def Offends (fields : List (Text × Json)) (field : EntryField) : Prop :=
  match field with
  | .id => ¬ ∃ id, StatesId (fieldOf .id fields) id
  | .kind => ¬ ∃ kind, StatesKind (fieldOf .kind fields) kind
  | .pattern => ¬ ∃ pattern, StatesPattern (fieldOf .pattern fields) pattern

/-! ## Reading one field -/

theorem ofJsonFields_eq_map (fields : List (Text × Json)) :
    Value.ofJsonFields fields = fields.map fun pair => (.text pair.1, .ofJson pair.2) := by
  induction fields with
  | nil => rfl
  | cons pair rest ih =>
      obtain ⟨name, value⟩ := pair
      rw [Value.ofJsonFields, ih, List.map_cons]

theorem pairValue?_ofJsonFields (field : EntryField) (fields : List (Text × Json)) :
    Value.pairValue? field.name (Value.ofJsonFields fields) =
      (fieldOf field fields).map Value.ofJson := by
  have hname : (fun pair : Value × Value => pair.1.isText field.name) ∘
      (fun pair : Text × Json => (Value.text pair.1, Value.ofJson pair.2)) =
        fun pair => decide (pair.1 = field.name) := by
    funext pair
    rw [Bool.eq_iff_iff, decide_eq_true_eq]
    exact beq_iff_eq.trans eq_comm
  rw [Value.pairValue?, fieldOf, ofJsonFields_eq_map, ← List.map_reverse, List.find?_map, hname,
    Option.map_map, Option.map_map]
  rfl

theorem readId_ofJson_iff {id : Option Text} :
    readId (value.map Value.ofJson) = .ok id ↔ StatesId value id := by
  constructor
  · intro hread
    cases value with
    | none =>
        obtain rfl : none = id := by simpa [readId] using hread
        exact .missing
    | some json =>
        cases json with
        | null =>
            obtain rfl : none = id := by simpa [readId, Value.ofJson] using hread
            exact .null
        | text t =>
            obtain rfl : some t = id := by
              simpa [readId, readText, Value.ofJson, Except.map] using hread
            exact .text t
        | int i =>
            rw [Option.map_some, Value.ofJson, readId] at hread
            by_cases hshown : canShow i = true
            · rw [if_pos hshown] at hread
              obtain rfl := Except.ok.inj hread
              exact .int ((canShow_iff i).mp hshown)
            · rw [if_neg hshown] at hread
              cases hread
        | float x =>
            obtain rfl : some x.toText = id := by simpa [readId, Value.ofJson] using hread
            exact .float x
        | _ => simp [readId, readText, Value.ofJson, Except.map] at hread
  · intro hstates
    cases hstates with
    | int hdigits =>
        rw [Option.map_some, Value.ofJson, readId, if_pos ((canShow_iff _).mpr hdigits)]
    | _ => rfl

theorem ofName?_eq_some_iff {t : Text} {kind : RuleKind} :
    RuleKind.ofName? t = some kind ↔ t = kind.name := by
  constructor
  · intro hfind
    have hname := List.find?_some hfind
    exact (of_decide_eq_true hname).symm
  · rintro rfl
    exact RuleKind.ofName?_name kind

theorem readKind_ofJson_iff {kind : RuleKind} :
    readKind (value.map Value.ofJson) = .ok kind ↔ StatesKind value kind := by
  constructor
  · intro hread
    cases value with
    | none => simp [readKind] at hread
    | some json =>
        cases json with
        | text t =>
            rw [Option.map_some, Value.ofJson, readKind] at hread
            cases hname : RuleKind.ofName? (Text.lower (Text.strip t)) with
            | none => simp [hname] at hread
            | some named =>
                obtain rfl : named = kind := by simpa [hname] using hread
                exact .text (ofName?_eq_some_iff.mp hname)
        | _ => simp [readKind, Value.ofJson] at hread
  · intro hstates
    cases hstates with
    | text hname =>
        rw [Option.map_some, Value.ofJson, readKind, hname]
        simp only [RuleKind.ofName?_name]

theorem readPattern_ofJson_iff {pattern : Text} :
    readPattern (value.map Value.ofJson) = .ok pattern ↔ StatesPattern value pattern := by
  constructor
  · intro hread
    cases value with
    | none => simp [readPattern] at hread
    | some json =>
        cases json with
        | text t =>
            cases t with
            | nil => simp [readPattern, readText, Value.ofJson, bind, Except.bind] at hread
            | cons c rest =>
                obtain rfl : c :: rest = pattern := by
                  simpa [readPattern, readText, Value.ofJson, bind, Except.bind] using hread
                exact .text (List.cons_ne_nil c rest)
        | _ => simp [readPattern, readText, Value.ofJson, bind, Except.bind] at hread
  · intro hstates
    cases hstates with
    | text hne =>
        simp [readPattern, readText, Value.ofJson, bind, Except.bind, hne]

/-! ## The faults of a field -/

theorem field?_of_readText {v : Value} {fault : EntryFault}
    (hread : readText field v = .error fault) : fault.field? = some field := by
  cases v with
  | bytes bs =>
      rw [readText] at hread
      cases hdecoded : Text.decodeUtf8 bs with
      | ok t => simp [hdecoded, Except.mapError] at hread
      | error e =>
          obtain rfl : .brokenText field = fault := by
            simpa [hdecoded, Except.mapError] using hread
          rfl
  | _ =>
      cases hread
      try rfl

theorem field?_of_readId {v : Option Value} {fault : EntryFault}
    (hread : readId v = .error fault) : fault.field? = some .id := by
  rw [readId.eq_def] at hread
  split at hread
  · cases hread
  · cases hread
  · split at hread
    · cases hread
    · cases hread
      rfl
  · cases hread
  · cases hread
  · next v _ _ _ _ =>
      cases htext : readText .id v with
      | ok t => simp [htext, Except.map] at hread
      | error e =>
          obtain rfl : e = fault := by simpa [htext, Except.map] using hread
          exact field?_of_readText htext

theorem field?_of_readKind {v : Option Value} {fault : EntryFault}
    (hread : readKind v = .error fault) : fault.field? = some .kind := by
  cases v with
  | none =>
      cases hread
      rfl
  | some v =>
      cases v with
      | text t =>
          rw [readKind] at hread
          cases hname : RuleKind.ofName? (Text.lower (Text.strip t)) with
          | none =>
              obtain rfl : .unknownKind = fault := by simpa [hname] using hread
              rfl
          | some kind => simp [hname] at hread
      | _ =>
          cases hread
          rfl

theorem field?_of_readPattern {v : Option Value} {fault : EntryFault}
    (hread : readPattern v = .error fault) : fault.field? = some .pattern := by
  cases v with
  | none =>
      cases hread
      rfl
  | some v =>
      rw [readPattern] at hread
      cases htext : readText .pattern v with
      | error e =>
          obtain rfl : e = fault := by simpa [htext, bind, Except.bind] using hread
          exact field?_of_readText htext
      | ok t =>
          cases t with
          | nil =>
              obtain rfl : .emptyPattern = fault := by
                simpa [htext, bind, Except.bind] using hread
              rfl
          | cons c rest => simp [htext, bind, Except.bind] at hread

/-- The fault of one field among the pairs, if it has one. -/
def faultsAt (pairs : List (Value × Value)) (field : EntryField) : List EntryFault :=
  match field with
  | .id => faultOf (readId (Value.pairValue? field.name pairs))
  | .kind => faultOf (readKind (Value.pairValue? field.name pairs))
  | .pattern => faultOf (readPattern (Value.pairValue? field.name pairs))

theorem faultOf_ne_nil_iff {α : Type} {result : Except EntryFault α} :
    faultOf result ≠ [] ↔ ¬ ∃ a, result = .ok a := by
  cases result <;> simp [faultOf]

theorem offends_iff : Offends fields field ↔ faultsAt (Value.ofJsonFields fields) field ≠ [] := by
  cases field <;>
    simp only [Offends, faultsAt, faultOf_ne_nil_iff, pairValue?_ofJsonFields, readId_ofJson_iff,
      readKind_ofJson_iff, readPattern_ofJson_iff]

instance : DecidablePred (Offends fields) := fun _ => decidable_of_iff _ offends_iff.symm

theorem fields_faultOf {α : Type} {result : Except EntryFault α}
    (hfield : ∀ fault, result = .error fault → fault.field? = some field)
    (hfaults : faultOf result ≠ []) : (faultOf result).map EntryFault.field? = [some field] := by
  cases result with
  | ok a => exact absurd rfl hfaults
  | error fault => rw [faultOf, List.map_singleton, hfield fault rfl]

theorem fields_faultsAt {pairs : List (Value × Value)} (hfaults : faultsAt pairs field ≠ []) :
    (faultsAt pairs field).map EntryFault.field? = [some field] := by
  cases field with
  | id => exact fields_faultOf (fun _ => field?_of_readId) hfaults
  | kind => exact fields_faultOf (fun _ => field?_of_readKind) hfaults
  | pattern => exact fields_faultOf (fun _ => field?_of_readPattern) hfaults

theorem faults_of_ofPairs {pairs : List (Value × Value)} {faults : List EntryFault}
    (hread : ofPairs pairs = .error faults) : faults = EntryField.all.flatMap (faultsAt pairs) := by
  rw [ofPairs] at hread
  split at hread
  · cases hread
  · obtain rfl := Except.error.inj hread
    simp [EntryField.all, faultsAt]

/-- There is one fault for each field that offends, in the order of the schema. -/
theorem fields_of_faults {faults : List EntryFault}
    (hread : ofPairs (Value.ofJsonFields fields) = .error faults) :
    faults.map EntryFault.field? = (EntryField.all.filter (Offends fields)).map some := by
  rw [faults_of_ofPairs hread]
  induction EntryField.all with
  | nil => rfl
  | cons field rest ih =>
      rw [List.flatMap_cons, List.map_append, ih]
      by_cases hoffends : Offends fields field
      · rw [fields_faultsAt (offends_iff.mp hoffends),
          List.filter_cons_of_pos (by simpa using hoffends)]
        rfl
      · rw [Decidable.not_not.mp (mt offends_iff.mpr hoffends),
          List.filter_cons_of_neg (by simpa using hoffends)]
        rfl

/-! ## Reading an object -/

theorem ofPairs_ofJson_iff :
    ofPairs (Value.ofJsonFields fields) = .ok entry ↔ Fits fields entry := by
  rw [RuleFile.ofPairs_eq_ok_iff, pairValue?_ofJsonFields, pairValue?_ofJsonFields,
    pairValue?_ofJsonFields, readId_ofJson_iff, readKind_ofJson_iff, readPattern_ofJson_iff]
  constructor
  · rintro ⟨hid, hkind, hpattern⟩
    exact ⟨hid, hkind, hpattern⟩
  · intro hfits
    exact ⟨hfits.id, hfits.kind, hfits.pattern⟩

theorem ofValue_ofJson_iff (json : Json) :
    ofValue (.ofJson json) = .ok entry ↔ ∃ fields, json = .object fields ∧ Fits fields entry := by
  cases json with
  | object fields =>
      rw [Value.ofJson, ofValue, ofPairs_ofJson_iff]
      simp
  | _ => simp [Value.ofJson, ofValue]

theorem ofPairs_ofJson_congr (hsame : ∀ field, fieldOf field others = fieldOf field fields) :
    ofPairs (Value.ofJsonFields others) = ofPairs (Value.ofJsonFields fields) := by
  simp only [ofPairs, pairValue?_ofJsonFields, hsame]

theorem ruleOf_eq_match (env : Environment) (entry : Entry) (w : World) :
    RuleFile.ruleOf env entry w =
      match entry.id with
      | some (c :: rest) => (⟨entry.kind, entry.pattern, c :: rest⟩, w)
      | _ => (⟨entry.kind, entry.pattern, env.idOf (w.idsMade + 1)⟩,
          { w with idsMade := w.idsMade + 1 }) := by
  obtain ⟨id, kind, pattern⟩ := entry
  rcases id with _ | _ | ⟨c, rest⟩ <;> rfl

/-- An object is read exactly if it fits the schema, and its rule has what the fields state; the id
is made up if it is missing, null or empty.  If the object does not fit, there is one fault for each
field that offends, in the order of the schema, and no field outside the schema matters.  Anything
else than an object has one fault as a whole. -/
theorem entry_is_read_iff_fits (json : Json) :
    (∀ entry, ofValue (.ofJson json) = .ok entry ↔
      ∃ fields, json = .object fields ∧ Fits fields entry) ∧
    (∀ env entry w, RuleFile.ruleOf env entry w =
      match entry.id with
      | some (c :: rest) => (⟨entry.kind, entry.pattern, c :: rest⟩, w)
      | _ => (⟨entry.kind, entry.pattern, env.idOf (w.idsMade + 1)⟩,
          { w with idsMade := w.idsMade + 1 })) ∧
    (∀ fields, json = .object fields →
      (∀ faults, ofValue (.ofJson json) = .error faults →
        faults.map EntryFault.field? = (EntryField.all.filter (Offends fields)).map some) ∧
      ∀ others, (∀ field, fieldOf field others = fieldOf field fields) →
        ofValue (.ofJson (.object others)) = ofValue (.ofJson json)) ∧
    ((∀ fields, json ≠ .object fields) → ofValue (.ofJson json) = .error [.notAMapping]) := by
  refine ⟨fun entry => ofValue_ofJson_iff json, ruleOf_eq_match, ?_, ?_⟩
  · rintro fields rfl
    exact ⟨fun faults hread => fields_of_faults hread, fun others hsame =>
      ofPairs_ofJson_congr hsame⟩
  · intro hother
    cases json with
    | object fields => exact absurd rfl (hother fields)
    | _ => rfl

/-! ## An id that is a number -/

namespace Numbered

def withId (id : Json) : List (Text × Json) :=
  [("note", .list [.null]), ("type", .text " Host\n"), ("id", id), ("pattern", .text "a")]

def broken : List (Text × Json) :=
  [("pattern", .text []), ("type", .text "hosts"), ("note", .null)]

/-- The first number that takes more digits than can be written. -/
def overlong : Int := .ofNat (Nat.pow 10 4300)

theorem states_kind_withId (id : Json) : StatesKind (fieldOf .kind (withId id)) .host := by
  have hfield : fieldOf .kind (withId id) = some (.text " Host\n") := rfl
  have hname : Text.lower (Text.strip " Host\n") = RuleKind.host.name := by decide +kernel
  rw [hfield]
  exact .text hname

theorem number_is_id_and_broken_fields_are_faults :
    ofValue (.ofJson (.object (withId (.int (-7))))) = .ok ⟨some "-7", .host, "a"⟩ ∧
      (∃ faults, ofValue (.ofJson (.object broken)) = .error faults ∧
        faults.map EntryFault.field? = [some .kind, some .pattern]) ∧
      ofValue (.ofJson (.list [])) = .error [.notAMapping] := by
  obtain ⟨hread, -, -, -⟩ := entry_is_read_iff_fits (.object (withId (.int (-7))))
  obtain ⟨-, -, hobject, -⟩ := entry_is_read_iff_fits (.object broken)
  obtain ⟨-, -, -, hother⟩ := entry_is_read_iff_fits (.list [])
  have hfits : Fits (withId (.int (-7))) ⟨some "-7", .host, "a"⟩ :=
    ⟨.int (by decide), states_kind_withId _, .text (by decide)⟩
  have hbroken : ofValue (.ofJson (.object broken)) = .error [.unknownKind, .emptyPattern] := rfl
  refine ⟨(hread _).mpr ⟨_, rfl, hfits⟩, ⟨_, hbroken, ?_⟩, hother (by simp)⟩
  rw [(hobject broken rfl).1 _ hbroken]
  decide

/-- An object may have a number for its id, fit the schema otherwise, and still not be read. -/
theorem overlong_number_is_no_id :
    fieldOf .id (withId (.int overlong)) = some (.int overlong) ∧
      StatesKind (fieldOf .kind (withId (.int overlong))) .host ∧
      StatesPattern (fieldOf .pattern (withId (.int overlong))) "a" ∧
      ofValue (.ofJson (.object (withId (.int overlong)))) = .error [.tooManyDigits .id] := by
  have hid : fieldOf .id (withId (.int overlong)) = some (.int overlong) := rfl
  have hkind := states_kind_withId (.int overlong)
  have hpattern : StatesPattern (fieldOf .pattern (withId (.int overlong))) "a" :=
    .text (by decide)
  have hhidden : canShow overlong = false := by decide +kernel
  have hread : readId (some (.int overlong)) = .error (.tooManyDigits .id) := by
    rw [readId, hhidden]
    rfl
  refine ⟨hid, hkind, hpattern, ?_⟩
  rw [Value.ofJson, ofValue, ofPairs, pairValue?_ofJsonFields, pairValue?_ofJsonFields,
    pairValue?_ofJsonFields, readKind_ofJson_iff.mpr hkind, readPattern_ofJson_iff.mpr hpattern,
    hid, Option.map_some, Value.ofJson, hread]
  rfl

end Numbered

end Entry
end HeaderAudit
