import HeaderAudit.Console.Print

/-!
# Names of emoji in a printed text

A text without colons is printed as it is, and where no name can reach over the place, a text may be
cut and its parts printed one after the other.  The pictures decide what is printed for a name and
have no say in which names there are.
-/

namespace HeaderAudit.Console.Emoji

variable {pictures : Pictures} {t u v name : Text}

/-! ## The name behind a colon -/

/-- A name that is not complete does not become so behind the place where none is complete. -/
theorem nameBeforeColon?_append (hv : nameBeforeColon? v = none) (u : Text) :
    nameBeforeColon? (u ++ v) = nameBeforeColon? u := by
  induction u with
  | nil => exact hv
  | cons c rest ih => rw [List.cons_append, nameBeforeColon?, nameBeforeColon?, ih]

theorem eq_append_of_nameBeforeColon? (hname : nameBeforeColon? t = some name) :
    ':' ∉ name ∧ ∃ rest, t = name ++ ':' :: rest := by
  induction t generalizing name with
  | nil => simp [nameBeforeColon?] at hname
  | cons c rest ih =>
      rw [nameBeforeColon?] at hname
      split at hname
      · next hcolon =>
        obtain rfl := Option.some.inj hname
        exact ⟨List.not_mem_nil, rest, by rw [hcolon, List.nil_append]⟩
      · next hcolon =>
        split at hname
        · cases hname
        · obtain ⟨more, hmore, rfl⟩ := Option.map_eq_some_iff.mp hname
          obtain ⟨hnot, behind, rfl⟩ := ih hmore
          exact ⟨by simp [hnot, Ne.symm hcolon], behind, rfl⟩

/-! ## The parts of a text -/

theorem partsFrom_eq_parts_drop (left : Nat) (t : Text) :
    partsFrom left t = parts (t.drop left) := by
  induction t generalizing left with
  | nil => simp [parts, partsFrom]
  | cons c rest ih =>
      cases left with
      | zero => rfl
      | succ left => exact ih left

theorem parts_cons_of_ne {c : Char} (hc : c ≠ ':') (t : Text) :
    parts (c :: t) = .char c :: parts t := by
  rw [parts, partsFrom, if_neg hc]
  rfl

theorem parts_colon (ht : nameBeforeColon? t = none) :
    parts (':' :: t) = .char ':' :: parts t := by
  rw [parts, partsFrom, if_pos rfl, ht]
  rfl

theorem parts_name (hname : nameBeforeColon? (name ++ ':' :: t) = some name) :
    parts (':' :: (name ++ ':' :: t)) = .name name :: parts t := by
  have hdrop : (name ++ ':' :: t).drop (name.length + 1) = t := by simp
  rw [parts, partsFrom, if_pos rfl, hname]
  dsimp only
  rw [partsFrom_eq_parts_drop, hdrop]

theorem parts_append_of_not_mem (hu : ':' ∉ u) (v : Text) :
    parts (u ++ v) = u.map .char ++ parts v := by
  induction u with
  | nil => rfl
  | cons c rest ih =>
      rw [List.mem_cons, not_or] at hu
      rw [List.cons_append, parts_cons_of_ne (Ne.symm hu.1), ih hu.2]
      rfl

/-- A text by its parts: a name takes several characters at once. -/
theorem naming_induction {motive : Text → Prop} (nil : motive [])
    (char : ∀ c rest, c ≠ ':' → motive rest → motive (c :: rest))
    (colon : ∀ rest, nameBeforeColon? rest = none → motive rest → motive (':' :: rest))
    (name : ∀ name behind, nameBeforeColon? (name ++ ':' :: behind) = some name →
      motive behind → motive (':' :: (name ++ ':' :: behind))) (t : Text) : motive t := by
  induction hlength : t.length using Nat.strongRecOn generalizing t with
  | _ n ih =>
    cases t with
    | nil => exact nil
    | cons c rest =>
        rw [List.length_cons] at hlength
        have hrest : motive rest := ih rest.length (by omega) rest rfl
        by_cases hc : c = ':'
        · subst hc
          cases hname : nameBeforeColon? rest with
          | none => exact colon rest hname hrest
          | some found =>
              obtain ⟨-, behind, rfl⟩ := eq_append_of_nameBeforeColon? hname
              rw [List.length_append, List.length_cons] at hlength
              exact name found behind hname (ih behind.length (by omega) behind rfl)
        · exact char c rest hc hrest

/-- The parts of a text in front of a place that no name reaches over. -/
theorem parts_append (hv : nameBeforeColon? v = none) (u : Text) :
    parts (u ++ v) = parts u ++ parts v := by
  induction u using naming_induction with
  | nil => rfl
  | char c rest hc ih =>
      rw [List.cons_append, parts_cons_of_ne hc, parts_cons_of_ne hc, ih]
      rfl
  | colon rest hnone ih =>
      have hsame := (nameBeforeColon?_append hv rest).trans hnone
      rw [List.cons_append, parts_colon hsame, parts_colon hnone, ih]
      rfl
  | name found behind hname ih =>
      have hsame := (nameBeforeColon?_append hv _).trans hname
      rw [List.append_assoc, List.cons_append] at hsame
      rw [List.cons_append, List.append_assoc, List.cons_append, parts_name hsame,
        parts_name hname, ih]
      rfl

/-! ## What is printed, and the names in it -/

def Part.name? : Part → Option Text
  | .char _ => none
  | .name t => some t

/-- The names in a text, known or not. -/
def namesIn (t : Text) : List Text := (parts t).filterMap Part.name?

theorem replaceWith_append (hv : nameBeforeColon? v = none) (u : Text) :
    replaceWith pictures (u ++ v) = replaceWith pictures u ++ replaceWith pictures v := by
  rw [replaceWith, parts_append hv, List.flatMap_append, replaceWith, replaceWith]

theorem namesIn_append (hv : nameBeforeColon? v = none) (u : Text) :
    namesIn (u ++ v) = namesIn u ++ namesIn v := by
  rw [namesIn, parts_append hv, List.filterMap_append, namesIn, namesIn]

theorem replaceWith_append_of_not_mem (hu : ':' ∉ u) (v : Text) :
    replaceWith pictures (u ++ v) = u ++ replaceWith pictures v := by
  have hchars : (u.map Part.char).flatMap (·.shownWith pictures) = u := by
    rw [List.flatMap_map]
    exact List.flatMap_singleton' u
  rw [replaceWith, parts_append_of_not_mem hu, List.flatMap_append, hchars, replaceWith]

theorem namesIn_append_of_not_mem (hu : ':' ∉ u) (v : Text) : namesIn (u ++ v) = namesIn v := by
  have hchars : (u.map Part.char).filterMap Part.name? = [] := by
    simp [List.filterMap_map, Part.name?]
  rw [namesIn, parts_append_of_not_mem hu, List.filterMap_append, hchars, List.nil_append,
    namesIn]

theorem replaceWith_cons_of_ne {c : Char} (hc : c ≠ ':') (t : Text) :
    replaceWith pictures (c :: t) = c :: replaceWith pictures t := by
  rw [replaceWith, parts_cons_of_ne hc]
  rfl

theorem replaceWith_colon (ht : nameBeforeColon? t = none) :
    replaceWith pictures (':' :: t) = ':' :: replaceWith pictures t := by
  rw [replaceWith, parts_colon ht]
  rfl

theorem namesIn_colon (ht : nameBeforeColon? t = none) : namesIn (':' :: t) = namesIn t := by
  rw [namesIn, parts_colon ht, List.filterMap_cons_none rfl, namesIn]

theorem replaceWith_name (hname : nameBeforeColon? (name ++ ':' :: t) = some name) :
    replaceWith pictures (':' :: (name ++ ':' :: t)) =
      (ofName? pictures name).getD (':' :: name ++ [':']) ++ replaceWith pictures t := by
  rw [replaceWith, parts_name hname]
  rfl

theorem namesIn_name (hname : nameBeforeColon? (name ++ ':' :: t) = some name) :
    namesIn (':' :: (name ++ ':' :: t)) = name :: namesIn t := by
  rw [namesIn, parts_name hname]
  exact List.filterMap_cons_some rfl

/-- What is printed has only characters of the text and of the pictures. -/
theorem forall_mem_replaceWith {p : Char → Prop}
    (hpictures : ∀ name picture, ofName? pictures name = some picture → ∀ c ∈ picture, p c)
    (ht : ∀ c ∈ t, p c) : ∀ c ∈ replaceWith pictures t, p c := by
  induction t using naming_induction with
  | nil => exact ht
  | char c rest hc ih =>
      rw [List.forall_mem_cons] at ht
      rw [replaceWith_cons_of_ne hc, List.forall_mem_cons]
      exact ⟨ht.1, ih ht.2⟩
  | colon rest hnone ih =>
      rw [List.forall_mem_cons] at ht
      rw [replaceWith_colon hnone, List.forall_mem_cons]
      exact ⟨ht.1, ih ht.2⟩
  | name found behind hname ih =>
      rw [List.forall_mem_cons, List.forall_mem_append, List.forall_mem_cons] at ht
      obtain ⟨hcolon, hfound, -, hbehind⟩ := ht
      rw [replaceWith_name hname, List.forall_mem_append]
      refine ⟨?_, ih hbehind⟩
      cases hpicture : ofName? pictures found with
      | some picture => exact hpictures found picture hpicture
      | none =>
          rw [Option.getD_none, List.cons_append, List.forall_mem_cons, List.forall_mem_append,
            List.forall_mem_singleton]
          exact ⟨hcolon, hfound, hcolon⟩

end HeaderAudit.Console.Emoji
