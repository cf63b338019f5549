import HeaderAudit.Proofs.ConsultedHeaders

/-!
# Advice on caching

A response is fine if it says nothing about caching, or if it forbids it in full: four directives
under one name, and a word under another one that may be written in capital letters.  All else is
worth a warning and never a failure.  The overall status and the exit code do not depend on it.
-/

namespace HeaderAudit

namespace Text

/-! ## Words whose small letters are those of ASCII alone -/

/-- The character is the small letter of characters of ASCII only. -/
def IsPlain (w : Char) : Prop := w.toNat < 0x80 ∧ ∀ c, w ∈ lowerChar c → c.toNat < 0x80

theorem isPlain_of_runs {w : Char} (hpos : 0 < w.toNat) (hascii : w.toNat < 0x80) (hi : w ≠ 'i')
    (hruns : ∀ run ∈ lowerRuns, run.last < 0x80 ∨ (w.toNat : Int) < run.first + run.shift ∨
      run.last + run.shift < (w.toNat : Int)) : IsPlain w := by
  refine ⟨hascii, ?_⟩
  intro c hmem
  by_contra hc
  rw [lowerChar, if_neg hc] at hmem
  split at hmem
  · have hdot : (Char.ofNat 0x307).toNat = 0x307 := rfl
    rcases List.mem_pair.mp hmem with rfl | rfl
    · exact hi rfl
    · omega
  · exact apply_lowerRuns_ne (by omega) hpos hascii hruns
      (ofNat_eq_of_ne (List.mem_singleton.mp hmem).symm (by omega))

/-- What a text becomes in small letters where it stands begins with what becomes of its first
character. -/
def letterAt (before : Text) (c : Char) (rest : Text) : Text :=
  if c = 'Σ' then [if endsWord before rest then 'ς' else 'σ'] else lowerChar c

theorem lowerAfter_cons (before : Text) (c : Char) (rest : Text) :
    lowerAfter before (c :: rest) = letterAt before c rest ++ lowerAfter (c :: before) rest := rfl

theorem letterAt_of_ascii {c : Char} (hc : c.toNat < 0x80) (before rest : Text) :
    letterAt before c rest = [c.toLower] := by
  have hsigma : c ≠ 'Σ' := by
    rintro rfl
    exact absurd hc (by decide)
  rw [letterAt, if_neg hsigma, lowerChar, if_pos hc]

theorem letterAt_ne_nil (before : Text) (c : Char) (rest : Text) : letterAt before c rest ≠ [] := by
  rw [letterAt]
  split
  · exact List.cons_ne_nil _ _
  · exact lowerChar_ne_nil c

theorem IsPlain.not_mem_letterAt {w c : Char} (hw : IsPlain w) (hc : ¬ c.toNat < 0x80)
    (before rest : Text) : w ∉ letterAt before c rest := by
  rw [letterAt]
  split
  · intro hmem
    have hlarge : ¬ w.toNat < 0x80 := by
      split at hmem <;> rw [List.mem_singleton.mp hmem] <;> decide
    exact hlarge hw.1
  · exact fun hmem => hc (hw.2 c hmem)

theorem infix_append_of_foreign {word letter : Text} (hne : word ≠ [])
    (hforeign : ∀ w ∈ word, w ∉ letter) (rest : Text) :
    word <:+: letter ++ rest ↔ word <:+: rest := by
  induction letter with
  | nil => rfl
  | cons x letter ih =>
      have hfirst : ¬ word <+: x :: (letter ++ rest) := by
        obtain ⟨w, more, rfl⟩ := List.exists_cons_of_ne_nil hne
        rw [List.cons_prefix_cons]
        rintro ⟨rfl, -⟩
        exact hforeign w List.mem_cons_self List.mem_cons_self
      rw [List.cons_append, List.infix_cons_iff, or_iff_right hfirst]
      exact ih fun w hw hmem => hforeign w hw (List.mem_cons_of_mem x hmem)

section

variable {word : Text}

theorem not_prefix_letterAt (hne : word ≠ []) (hword : ∀ w ∈ word, IsPlain w) {c : Char}
    (hc : ¬ c.toNat < 0x80) (before rest more : Text) :
    ¬ word <+: letterAt before c rest ++ more := by
  obtain ⟨w, others, rfl⟩ := List.exists_cons_of_ne_nil hne
  obtain ⟨x, letter, hletter⟩ := List.exists_cons_of_ne_nil (letterAt_ne_nil before c rest)
  have hforeign := (hword w List.mem_cons_self).not_mem_letterAt hc before rest
  rw [hletter, List.cons_append, List.cons_prefix_cons]
  rintro ⟨rfl, -⟩
  exact hforeign (hletter ▸ List.mem_cons_self)

theorem exists_prefix_cons_iff (c : Char) (rest : Text) (w : Char) (word : Text) :
    (∃ piece, piece <+: c :: rest ∧ piece.map Char.toLower = w :: word) ↔
      c.toLower = w ∧ ∃ piece, piece <+: rest ∧ piece.map Char.toLower = word := by
  constructor
  · rintro ⟨piece, hpiece, hmap⟩
    obtain ⟨d, more, rfl, hd, hmore⟩ := List.map_eq_cons_iff.mp hmap
    rw [List.cons_prefix_cons] at hpiece
    exact ⟨hpiece.1 ▸ hd, more, hpiece.2, hmore⟩
  · rintro ⟨rfl, piece, hpiece, rfl⟩
    exact ⟨c :: piece, (List.prefix_cons_inj c).mpr hpiece, rfl⟩

/-- A plain word begins a text in small letters where the text begins with it in any letters. -/
theorem prefix_lowerAfter_iff (hword : ∀ w ∈ word, IsPlain w) (before t : Text) :
    word <+: lowerAfter before t ↔ ∃ piece, piece <+: t ∧ piece.map Char.toLower = word := by
  induction word generalizing before t with
  | nil => exact iff_of_true List.nil_prefix ⟨[], List.nil_prefix, rfl⟩
  | cons w word ih =>
      have hmore : ∀ v ∈ word, IsPlain v := fun v hv => hword v (List.mem_cons_of_mem w hv)
      cases t with
      | nil => simp [lowerAfter]
      | cons c rest =>
          rw [lowerAfter_cons, exists_prefix_cons_iff]
          by_cases hc : c.toNat < 0x80
          · rw [letterAt_of_ascii hc, List.singleton_append, List.cons_prefix_cons, ih hmore,
              eq_comm]
          · have hne : c.toLower ≠ w := by
              rw [toLower_of_not_ascii hc]
              rintro rfl
              exact hc (hword c List.mem_cons_self).1
            exact iff_of_false
              (not_prefix_letterAt (List.cons_ne_nil w word) hword hc before rest _)
              fun h => hne h.1

/-- A plain word stands in a text in small letters where it stands in the text in any letters. -/
theorem infix_lowerAfter_iff (hne : word ≠ []) (hword : ∀ w ∈ word, IsPlain w) (before t : Text) :
    word <:+: lowerAfter before t ↔ ∃ piece, piece <:+: t ∧ piece.map Char.toLower = word := by
  induction t generalizing before with
  | nil => simp [lowerAfter, hne, eq_comm]
  | cons c rest ih =>
      have hstep : word <:+: lowerAfter before (c :: rest) ↔
          word <+: lowerAfter before (c :: rest) ∨ word <:+: lowerAfter (c :: before) rest := by
        rw [lowerAfter_cons]
        by_cases hc : c.toNat < 0x80
        · rw [letterAt_of_ascii hc, List.singleton_append, List.infix_cons_iff]
        · rw [or_iff_right (not_prefix_letterAt hne hword hc before rest _)]
          exact infix_append_of_foreign hne
            (fun w hw => (hword w hw).not_mem_letterAt hc before rest) _
      rw [hstep, prefix_lowerAfter_iff hword, ih]
      simp only [List.infix_cons_iff, or_and_right, exists_or]

end

end Text

namespace CacheControl

/-! ## What is said of caching -/

/-- The names under which a response speaks of caching. -/
def names : List Text := ["Cache-Control", "Pragma"]

/-- The word stands in the text in whatever letters. -/
def Says (word t : Text) : Prop := ∃ piece, piece <:+: t ∧ piece.map Char.toLower = word

/-- There are no directives or blank ones, and no word to older programs either. -/
def Silent (h : Headers) : Prop :=
  (∀ value, h.get? "Cache-Control" = some value → Text.blank value = true) ∧
    h.get? "Pragma" = none

/-- All four directives stand in the first value as they are, and the other header says the word. -/
def Forbids (h : Headers) : Prop :=
  ∃ value pragma, h.get? "Cache-Control" = some value ∧ h.get? "Pragma" = some pragma ∧
    (∀ directive ∈ ["private", "no-store", "no-cache", "must-revalidate"],
      directive.toList <:+: value) ∧ Says "no-cache" pragma

theorem hasDirectives_iff (value : Text) :
    hasDirectives value = true ↔
      ∀ directive ∈ ["private", "no-store", "no-cache", "must-revalidate"],
        directive.toList <:+: value := by
  simp [hasDirectives, requiredDirectives, Text.includes_iff_infix]

theorem isPlain_of_mem_noCache {w : Char} (hw : w ∈ "no-cache".toList) : Text.IsPlain w := by
  have hall : ∀ code ∈ "no-cache".toList.map Char.toNat, 0 < code ∧ code < 0x80 ∧
      code ≠ 'i'.toNat ∧ ∀ run ∈ Text.lowerRuns, run.last < 0x80 ∨
        (code : Int) < run.first + run.shift ∨ run.last + run.shift < (code : Int) := by
    decide +kernel
  obtain ⟨hpos, hascii, hi, hruns⟩ := hall w.toNat (List.mem_map_of_mem hw)
  exact Text.isPlain_of_runs hpos hascii (fun h => hi (congrArg Char.toNat h)) hruns

theorem hasNoCache_iff (pragma : Text) :
    hasNoCache (some pragma) = true ↔ Says "no-cache" pragma := by
  rw [hasNoCache, Option.any_some, Text.includes_iff_infix, Text.lower, Says]
  exact Text.infix_lowerAfter_iff (by decide) (fun _ hw => isPlain_of_mem_noCache hw) [] pragma

/-! ## Verdicts -/

theorem status_ne_fail (cacheControl pragma : Option Text) :
    (verdict cacheControl pragma).status ≠ .fail := by
  unfold verdict
  dsimp only
  split
  · simp [Verdict.ok]
  · simp [Verdict.warn]
  · split
    · split <;> simp [Verdict.ok, Verdict.warn]
    · simp [Verdict.warn]

theorem status_eq_ok_iff (cacheControl pragma : Option Text) :
    (verdict cacheControl pragma).status = .ok ↔
      Text.strip (cacheControl.getD []) = [] ∧ pragma = none ∨
        hasDirectives (Text.strip (cacheControl.getD [])) = true ∧ hasNoCache pragma = true := by
  have hnone : hasDirectives [] = false := by decide
  cases hvalue : Text.strip (cacheControl.getD []) with
  | nil => cases pragma <;> simp [verdict, hvalue, Verdict.ok, Verdict.warn, hnone]
  | cons c rest =>
      by_cases hdirectives : hasDirectives (c :: rest) = true
      · by_cases hpragma : hasNoCache pragma = true <;>
          simp [verdict, hvalue, hdirectives, hpragma, Verdict.ok, Verdict.warn]
      · simp [verdict, hvalue, hdirectives, Verdict.warn]

theorem strip_get? (h : Headers) :
    Text.strip ((h.get? "Cache-Control").getD []) = (h.get? "Cache-Control").getD [] := by
  cases hvalue : h.get? "Cache-Control" with
  | none => rfl
  | some value => exact Headers.strip_of_mem_getAll (List.mem_of_head? hvalue)

theorem silent_iff (h : Headers) :
    Silent h ↔ (h.get? "Cache-Control").getD [] = [] ∧ h.get? "Pragma" = none := by
  rw [Silent, ← strip_get?, Text.strip_eq_nil_iff]
  cases h.get? "Cache-Control" with
  | none => simp [Text.blank]
  | some value => simp

theorem forbids_iff (h : Headers) :
    Forbids h ↔ hasDirectives ((h.get? "Cache-Control").getD []) = true ∧
      hasNoCache (h.get? "Pragma") = true := by
  have hnone : hasDirectives [] = false := by decide
  rw [Forbids]
  cases h.get? "Cache-Control" with
  | none => simp [hnone]
  | some value =>
      cases h.get? "Pragma" with
      | none => simp [hasNoCache]
      | some pragma => simp [hasDirectives_iff, hasNoCache_iff]

/-- The verdict is fine or a warning, as the response speaks of caching. -/
theorem judge_spec (h : Headers) (context : Context) :
    ∃ v, check.judge h context = (context, .ok v) ∧
      (v.status = .ok ↔ Silent h ∨ Forbids h) ∧ (v.status = .ok ∨ v.status = .warn) := by
  refine ⟨_, Check.judge_cacheControl h context, ?_, ?_⟩
  · rw [status_eq_ok_iff, strip_get?, silent_iff, forbids_iff]
  · have hfail := status_ne_fail (h.get? "Cache-Control") (h.get? "Pragma")
    revert hfail
    cases (verdict (h.get? "Cache-Control") (h.get? "Pragma")).status <;> decide

end CacheControl

/-! ## Verdicts that count -/

theorem Report.overall_eq_of_counted {report other : Report}
    (hcounted : report.counted = other.counted) : report.overall = other.overall := by
  rw [overall, overall, hcounted]

namespace Analysis

open Check (builtins)
open Headers (Bears BearsNoneOf)

variable {h h' : Headers} {checks : List Check}

/-- The verdict of a check that counts. -/
def countedVerdict? (h : Headers) (check : Check) : Option Verdict :=
  if check.affects then (check.judge h []).2.toOption else none

theorem counted_analyze (hblind : ∀ check ∈ checks, check.IgnoresNotes)
    (method url : Option Text) (registry : Option Registry) :
    (analyze h checks method url registry).counted = checks.filterMap (countedVerdict? h) := by
  have houtcomes : (analyze h checks method url registry).outcomes = (run h checks).outcomes := rfl
  rw [Report.counted, houtcomes, outcomes_of_ignoresNotes hblind, List.filter_filterMap,
    List.map_filterMap]
  apply List.filterMap_congr
  intro check _
  rw [countedVerdict?]
  cases (check.judge h []).2 <;> cases haffects : check.affects <;>
    simp [Except.toOption, Option.filter, haffects]

/-- Checks that do not count may judge as they like. -/
theorem overall_eq_of_affecting (hblind : ∀ check ∈ checks, check.IgnoresNotes)
    (hjudge : ∀ check ∈ checks, check.affects = true →
      check.judge h [] = check.judge h' []) (method url method' url' : Option Text)
    (registry registry' : Option Registry) :
    (analyze h checks method url registry).overall =
      (analyze h' checks method' url' registry').overall := by
  apply Report.overall_eq_of_counted
  rw [counted_analyze hblind, counted_analyze hblind]
  apply List.filterMap_congr
  intro check hcheck
  rw [countedVerdict?, countedVerdict?]
  by_cases haffects : check.affects = true
  · rw [hjudge check hcheck haffects]
  · rw [if_neg haffects, if_neg haffects]

/-- The checks that count do not look at what is said of caching. -/
theorem consults_of_affects {check : Check} (hcheck : check ∈ builtins)
    (haffects : check.affects = true) :
    ∀ name ∈ check.consults, ∀ other ∈ CacheControl.names,
      Text.lower (Text.strip name) ≠ Text.lower (Text.strip other) := by
  obtain rfl | rfl | rfl | rfl | rfl := Check.mem_builtins_cases hcheck
  · exact absurd haffects (by decide)
  all_goals decide

theorem getAll_eq_of_filter {name : Text} {names : List Text}
    (hname : ∀ other ∈ names, Text.lower (Text.strip name) ≠ Text.lower (Text.strip other))
    (hlines : h.lines.filter (BearsNoneOf names ·) = h'.lines.filter (BearsNoneOf names ·)) :
    h.getAll name = h'.getAll name := by
  have hkept : ∀ line, Bears (Text.strip name) line → decide (BearsNoneOf names line) = true := by
    intro line hline
    rw [decide_eq_true_eq]
    intro other hother hbears
    exact hname other hother (hline.symm.trans hbears)
  rw [Headers.getAll_eq_valuesUnder, Headers.getAll_eq_valuesUnder,
    ← Headers.valuesUnder_filter hkept h.lines, hlines, Headers.valuesUnder_filter hkept]

/-- The check of the caching warns unless a response is silent about caching or forbids it in full,
and it never fails one.  Two responses that differ only in lines that speak of caching have the same
overall status under the built-in checks, and the same exit code if both or none are excluded. -/
theorem caching_is_advisory :
    (∀ (h : Headers) (context : Context), ∃ v,
      CacheControl.check.judge h context = (context, .ok v) ∧
        (v.status = .ok ↔ CacheControl.Silent h ∨ CacheControl.Forbids h) ∧
        (v.status = .ok ∨ v.status = .warn)) ∧
    ∀ h h' : Headers,
      h.lines.filter (BearsNoneOf CacheControl.names ·) =
          h'.lines.filter (BearsNoneOf CacheControl.names ·) →
        ∀ method url registry method' url' registry',
          let report := analyze h builtins method url registry
          let other := analyze h' builtins method' url' registry'
          report.overall = other.overall ∧
            (report.excluded = other.excluded → report.exitCode = other.exitCode) := by
  refine ⟨CacheControl.judge_spec, ?_⟩
  intro h h' hlines method url registry method' url' registry' report other
  have hjudge : ∀ check ∈ builtins, check.affects = true →
      check.judge h [] = check.judge h' [] := by
    intro check hcheck haffects
    apply Check.judge_eq_of_agreeUnder hcheck
    intro name hname
    exact getAll_eq_of_filter (consults_of_affects hcheck haffects name hname) hlines
  have hblind : ∀ check ∈ builtins, check.IgnoresNotes :=
    fun _ hcheck => Check.ignoresNotes_of_mem_builtins hcheck
  have hoverall : report.overall = other.overall :=
    overall_eq_of_affecting hblind hjudge method url method' url' registry registry'
  exact ⟨hoverall, Report.exitCode_eq_of_overall hoverall⟩

/-! ## A response with advice taken and one without -/

namespace Advice

def careful : Headers :=
  ⟨["Cache-Control: no-cache, no-store, must-revalidate, private".toList, "Set-Cookie: a=1".toList,
    "pragma: x NO-Cache".toList], none⟩

def careless : Headers := ⟨["Set-Cookie: a=1".toList, "CACHE-control: public".toList], none⟩

theorem careless_response_has_same_exit_code :
    careful.lines.filter (BearsNoneOf CacheControl.names ·) =
        careless.lines.filter (BearsNoneOf CacheControl.names ·) ∧
      CacheControl.Forbids careful ∧
      (∃ v, CacheControl.check.judge careful [] = ([], .ok v) ∧ v.status = .ok) ∧
      (analyze careful builtins none none none).overall =
        (analyze careless builtins none none none).overall ∧
      (analyze careful builtins none none none).exitCode =
        (analyze careless builtins none none none).exitCode := by
  have hlines : careful.lines.filter (BearsNoneOf CacheControl.names ·) =
      careless.lines.filter (BearsNoneOf CacheControl.names ·) := by decide
  have hforbids : CacheControl.Forbids careful :=
    (CacheControl.forbids_iff careful).mpr ⟨by decide, by decide⟩
  obtain ⟨hjudge, hsame⟩ := caching_is_advisory
  obtain ⟨v, hv, hok, -⟩ := hjudge careful []
  obtain ⟨hoverall, hexit⟩ := hsame careful careless hlines none none none none none none
  exact ⟨hlines, hforbids, ⟨v, hv, hok.mpr (.inr hforbids)⟩, hoverall, hexit rfl⟩

end Advice

end Analysis

end HeaderAudit
