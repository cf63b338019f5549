import HeaderAudit.Proofs.CheckOrder

/-!
# The lines that belong to a check

A check looks at the values of the lines that bear its name, and it owns lines, which take its
colours.  A line bears a name even with white space around the name or without a colon, but a check
owns only a line that begins with the name and a colon.  On lines whose name stands plainly in front
of a colon the two agree, whatever the letter case.
-/

namespace HeaderAudit

namespace Text

/-! ## Small letters in front of a colon -/

theorem ofNat_eq_of_ne {code : Nat} {c : Char} (hcode : Char.ofNat code = c) (hc : c.toNat ≠ 0) :
    code = c.toNat := by
  subst hcode
  by_cases hvalid : code.isValidChar
  · rw [Char.ofNat, dif_pos hvalid]
    rfl
  · rw [Char.ofNat, dif_neg hvalid] at hc
    exact absurd rfl hc

/-- A code of ASCII that no run comes to is the small letter of nothing beyond ASCII. -/
theorem apply_lowerRuns_ne {code target : Nat} (hcode : 0x80 ≤ code) (hpos : 0 < target)
    (htarget : target < 0x80)
    (hruns : ∀ run ∈ lowerRuns, run.last < 0x80 ∨ (target : Int) < run.first + run.shift ∨
      run.last + run.shift < (target : Int)) : ShiftRun.apply lowerRuns code ≠ target := by
  rw [ShiftRun.apply]
  split
  · next run hfind =>
    have hcovers := List.find?_some hfind
    simp only [ShiftRun.covers, Bool.and_eq_true, decide_eq_true_eq] at hcovers
    have hrun := hruns run (List.mem_of_find?_eq_some hfind)
    omega
  · omega

theorem apply_lowerRuns_ne_colon {code : Nat} (hcode : 0x80 ≤ code) :
    ShiftRun.apply lowerRuns code ≠ ':'.toNat :=
  apply_lowerRuns_ne hcode (by decide) (by decide) (by decide +kernel)

theorem colon_not_mem_lowerChar {c : Char} (hc : c ≠ ':') : ':' ∉ lowerChar c := by
  have hascii : ∀ code < 0x80, (Char.ofNat code).toLower = ':' → Char.ofNat code = ':' := by
    decide
  rw [lowerChar]
  split
  · next hcode =>
    have hcolon := hascii c.toNat hcode
    rw [Char.ofNat_toNat] at hcolon
    simpa [eq_comm] using mt hcolon hc
  · next hcode =>
    split
    · decide
    · have hne := apply_lowerRuns_ne_colon (Nat.le_of_not_lt hcode)
      intro hmem
      exact hne (ofNat_eq_of_ne (List.mem_singleton.mp hmem).symm (by decide))

/-- The small letters of a text that stands behind one text, given back to front, and in front of
another. -/
def lowerBetween (before : Text) : Text → Text → Text
  | [], _ => []
  | c :: rest, after =>
    (if c = 'Σ' then [if endsWord before (rest ++ after) then 'ς' else 'σ'] else lowerChar c) ++
      lowerBetween (c :: before) rest after

theorem lowerAfter_append (before t after : Text) :
    lowerAfter before (t ++ after) =
      lowerBetween before t after ++ lowerAfter (t.reverse ++ before) after := by
  induction t generalizing before with
  | nil => rfl
  | cons c rest ih => simp [lowerAfter, lowerBetween, ih]

theorem lower_eq_lowerBetween (t : Text) : lower t = lowerBetween [] t [] := by
  have happend := lowerAfter_append [] t []
  rwa [List.append_nil, lowerAfter, List.append_nil] at happend

theorem colon_not_mem_lowerBetween {t : Text} (ht : ':' ∉ t) (before after : Text) :
    ':' ∉ lowerBetween before t after := by
  induction t generalizing before with
  | nil => exact List.not_mem_nil
  | cons c rest ih =>
      rw [List.mem_cons, not_or] at ht
      rw [lowerBetween, List.mem_append, not_or]
      refine ⟨?_, ih ht.2 (c :: before)⟩
      by_cases hsigma : c = 'Σ'
      · rw [if_pos hsigma]
        split <;> decide
      · rw [if_neg hsigma]
        exact colon_not_mem_lowerChar (Ne.symm ht.1)

/-- Only a sigma looks at the letters around it, and it has no small letter in ASCII. -/
theorem lowerBetween_eq_flatMap {before t after : Text}
    (hascii : ∀ c ∈ lowerBetween before t after, c.toNat < 0x80) :
    lowerBetween before t after = t.flatMap lowerChar ∧ 'Σ' ∉ t := by
  induction t generalizing before with
  | nil => exact ⟨rfl, List.not_mem_nil⟩
  | cons c rest ih =>
      rw [lowerBetween, List.forall_mem_append] at hascii
      obtain ⟨hrest, hmem⟩ := ih hascii.2
      have hsigma : c ≠ 'Σ' := by
        rintro rfl
        rw [if_pos rfl, List.forall_mem_singleton] at hascii
        split at hascii <;> exact absurd hascii.1 (by decide)
      rw [lowerBetween, if_neg hsigma, hrest]
      exact ⟨rfl, by simp [hmem, Ne.symm hsigma]⟩

theorem lowerBetween_of_sigma_not_mem {t : Text} (ht : 'Σ' ∉ t) (before after : Text) :
    lowerBetween before t after = t.flatMap lowerChar := by
  induction t generalizing before with
  | nil => rfl
  | cons c rest ih =>
      rw [List.mem_cons, not_or] at ht
      rw [lowerBetween, if_neg (Ne.symm ht.1), ih ht.2]
      rfl

/-- A word in ASCII is the small form of a text wherever the text stands. -/
theorem lowerBetween_eq_iff {word : Text} (hword : ∀ c ∈ word, c.toNat < 0x80)
    (before t after : Text) : lowerBetween before t after = word ↔ lower t = word := by
  rw [lower_eq_lowerBetween]
  constructor
  · intro hlower
    obtain ⟨hflat, hsigma⟩ := lowerBetween_eq_flatMap (hlower ▸ hword)
    rw [lowerBetween_of_sigma_not_mem hsigma, ← hflat, hlower]
  · intro hlower
    obtain ⟨hflat, hsigma⟩ := lowerBetween_eq_flatMap (hlower ▸ hword)
    rw [lowerBetween_of_sigma_not_mem hsigma, ← hflat, hlower]

theorem lower_colon (before rest : Text) :
    lowerAfter before (':' :: rest) = ':' :: lowerAfter (':' :: before) rest := rfl

/-- A text begins, in small letters, with a word and a colon exactly if the word is what stands in
front of its first colon. -/
theorem prefix_lower_iff {word : Text} (hword : ∀ c ∈ word, c.toNat < 0x80) (hcolon : ':' ∉ word)
    (t : Text) :
    word ++ [':'] <+: lower t ↔ ':' ∈ t ∧ lower (cut ':' t).1 = word := by
  by_cases ht : ':' ∈ t
  · obtain ⟨name, rest, rfl, hname⟩ := List.eq_append_cons_of_mem ht
    have hbefore := colon_not_mem_lowerBetween hname [] (':' :: rest)
    rw [cut_append hname, lower, lowerAfter_append, lower_colon]
    rw [← lowerBetween_eq_iff hword [] name (':' :: rest)]
    constructor
    · rintro ⟨more, hmore⟩
      rw [List.append_assoc, List.singleton_append] at hmore
      have hcut := cut_append hcolon more
      rw [hmore, cut_append hbefore] at hcut
      exact ⟨ht, congrArg Prod.fst hcut⟩
    · rintro ⟨-, hlower⟩
      rw [hlower]
      exact ⟨lowerAfter (':' :: (name.reverse ++ [])) rest, by simp⟩
  · have hnone := colon_not_mem_lowerBetween ht [] []
    rw [← lower_eq_lowerBetween] at hnone
    constructor
    · rintro ⟨more, hmore⟩
      exact absurd (by simp [← hmore]) hnone
    · rintro ⟨hmem, -⟩
      exact absurd hmem ht

/-! ## Texts without white space -/

/-- The codes of the white space. -/
def blankCodes : List Nat :=
  List.range' 0x9 5 ++ List.range' 0x1C 5 ++ [0x85, 0xA0, 0x1680] ++ List.range' 0x2000 11 ++
    [0x2028, 0x2029, 0x202F, 0x205F, 0x3000]

theorem toNat_mem_blankCodes {c : Char} (hc : isBlank c = true) : c.toNat ∈ blankCodes := by
  simp only [isBlank, Bool.or_eq_true, Bool.and_eq_true, decide_eq_true_eq, beq_iff_eq] at hc
  simp only [blankCodes, List.mem_append, List.mem_range'_1, List.mem_cons, List.not_mem_nil]
  omega

theorem lowerChar_of_isBlank {c : Char} (hc : isBlank c = true) : lowerChar c = [c] := by
  have hcodes : ∀ code ∈ blankCodes, lowerChar (Char.ofNat code) = [Char.ofNat code] := by
    decide +kernel
  have hcode := hcodes c.toNat (toNat_mem_blankCodes hc)
  rwa [Char.ofNat_toNat] at hcode

theorem strip_of_no_blank {t : Text} (ht : ∀ c ∈ t, isBlank c = false) : strip t = t := by
  have hdrop : ∀ u : Text, (∀ c ∈ u, isBlank c = false) → u.dropWhile isBlank = u := by
    intro u hu
    cases u with
    | nil => rfl
    | cons c rest => simp [hu c List.mem_cons_self]
  rw [strip, trimWhile, dropRightWhile, hdrop t ht,
    hdrop t.reverse fun c hc => ht c (List.mem_reverse.mp hc), List.reverse_reverse]

/-- ASCII without white space. -/
def IsWord (t : Text) : Prop := ∀ c ∈ t, c.toNat < 0x80 ∧ isBlank c = false

instance (t : Text) : Decidable (IsWord t) := List.decidableBAll _ t

theorem IsWord.ascii {word : Text} (hword : IsWord word) : ∀ c ∈ word, c.toNat < 0x80 :=
  fun c hc => (hword c hc).1

/-- A text whose small form is a word has no white space. -/
theorem no_blank_of_lower {t word : Text} (hword : IsWord word) (ht : lower t = word) :
    ∀ c ∈ t, isBlank c = false := by
  intro c hc
  by_contra hcblank
  rw [Bool.not_eq_false] at hcblank
  rw [lower_eq_lowerBetween] at ht
  have hflat := (lowerBetween_eq_flatMap (ht ▸ hword.ascii)).1
  have hmem : c ∈ word := by
    rw [← ht, hflat, List.mem_flatMap]
    exact ⟨c, hc, by simp [lowerChar_of_isBlank hcblank]⟩
  exact absurd hcblank (by simp [(hword c hmem).2])

end Text

/-! ## Lines that bear a name -/

namespace Headers

/-- A name stands in front of a colon, with no white space around it. -/
def NamedPlainly (line : Text) : Prop :=
  ':' ∈ line ∧ (parseLine line).1 = (Text.cut ':' line).1

instance (line : Text) : Decidable (NamedPlainly line) := inferInstanceAs (Decidable (_ ∧ _))

/-- The name of a line, whatever the case of the letters. -/
def Bears (name line : Text) : Prop := Text.lower (parseLine line).1 = Text.lower name

instance (name line : Text) : Decidable (Bears name line) := inferInstanceAs (Decidable (_ = _))

/-- The lines whose values are looked at when one asks for a name. -/
def named (name : Text) (h : Headers) : List Text :=
  h.lines.filter fun line => Bears (Text.strip name) line

theorem getAll_eq_map_named (name : Text) (h : Headers) :
    h.getAll name = (h.named name).map fun line => (parseLine line).2 := by
  simp only [getAll, items, named, Bears, List.filter_map, List.map_map]
  rfl

end Headers

namespace Check

open Headers (NamedPlainly Bears)

variable {check : Check}

theorem header_of_mem_builtins (hcheck : check ∈ builtins) :
    Text.IsWord (Text.lower check.header) ∧ Text.strip check.header = check.header := by
  obtain rfl | rfl | rfl | rfl | rfl := mem_builtins_cases hcheck <;> decide

theorem owns_iff_cut (hcheck : check ∈ builtins) (line : Text) :
    check.owns line = true ↔
      ':' ∈ line ∧ Text.lower (Text.cut ':' line).1 = Text.lower check.header := by
  have hascii := (header_of_mem_builtins hcheck).1.ascii
  rw [← Text.prefix_lower_iff hascii (colon_not_mem_header hcheck), owns, Bool.and_eq_true,
    List.isPrefixOf_iff_prefix, and_iff_right_iff_imp]
  rintro hprefix
  cases line with
  | nil => simp [Text.lower, Text.lowerAfter] at hprefix
  | cons c rest => rfl

theorem owns_iff_namedPlainly (hcheck : check ∈ builtins) (line : Text) :
    check.owns line = true ↔ NamedPlainly line ∧ Bears check.header line := by
  obtain ⟨hword, -⟩ := header_of_mem_builtins hcheck
  rw [owns_iff_cut hcheck, NamedPlainly, Bears]
  constructor
  · rintro ⟨hcolon, hlower⟩
    have hplain : (Headers.parseLine line).1 = (Text.cut ':' line).1 :=
      Text.strip_of_no_blank (Text.no_blank_of_lower hword hlower)
    exact ⟨⟨hcolon, hplain⟩, by rwa [hplain]⟩
  · rintro ⟨⟨hcolon, hplain⟩, hlower⟩
    exact ⟨hcolon, by rwa [← hplain]⟩

end Check

/-! ## The coloured lines of a report -/

namespace Report

/-- The lines that take the colours of a check. -/
def linesOf (name : Text) (report : Report) : List Text :=
  (report.lines.filter (·.check = some name)).map (·.text)

theorem linesOf_eq_filter (name : Text) (report : Report) :
    report.linesOf name =
      report.headers.lines.filter fun line => (colour report.outcomes line).check = some name := by
  have htext : ∀ line, (colour report.outcomes line).text = line := by
    intro line
    rw [colour]
    split <;> rfl
  rw [linesOf, lines, List.filter_map, List.map_map]
  exact List.map_id'' htext _

end Report

namespace Check

open Analysis (analyze answers outcome?)
open Headers (NamedPlainly Bears)

variable {check : Check} {checks : List Check}

/-- No other of the checks has its name or owns one of its lines. -/
def Unrivalled (check : Check) (checks : List Check) : Prop :=
  ∀ other ∈ checks,
    (other.name = check.name ∨ ∃ line, check.owns line = true ∧ other.owns line = true) →
      other = check

theorem unrivalled_of_builtins (hcheck : check ∈ builtins)
    (hchecks : ∀ other ∈ checks, other ∈ builtins) : check.Unrivalled checks := by
  have hnames : (builtins.map (·.name)).Nodup := by decide
  rintro other hmem (hname | ⟨line, howns, howns'⟩)
  · exact List.inj_on_of_nodup_map hnames (hchecks other hmem) hcheck hname
  · exact eq_of_owns (hchecks other hmem) hcheck howns' howns

theorem check_mem_of_answers {headers : Headers} {context : Context} {a : Analysis.Answered}
    (ha : a ∈ answers headers context checks) : a.1 ∈ checks := by
  induction checks generalizing context with
  | nil => simp [answers] at ha
  | cons check rest ih =>
      rcases List.mem_cons.mp ha with rfl | ha
      · exact List.mem_cons_self
      · exact List.mem_cons_of_mem check (ih ha)

theorem check_mem_of_outcomes {headers : Headers} {method url : Option Text}
    {registry : Option Registry} {o : Outcome}
    (ho : o ∈ (analyze headers checks method url registry).outcomes) : o.check ∈ checks := by
  simp only [analyze, Analysis.run_eq] at ho
  obtain ⟨⟨asked, answer⟩, ha, ho⟩ := List.mem_filterMap.mp ho
  cases answer with
  | error e => simp at ho
  | ok verdict =>
      obtain rfl := Option.some.inj ho
      exact check_mem_of_answers ha

theorem colour_check_iff {outcomes : List Outcome}
    (hrivals : check.Unrivalled (outcomes.map (·.check))) (hmem : check ∈ outcomes.map (·.check))
    (line : Text) :
    (Report.colour outcomes line).check = some check.name ↔ check.owns line = true := by
  rw [Report.colour]
  cases hfound : outcomes.find? (·.check.owns line) with
  | none =>
      obtain ⟨o, ho, rfl⟩ := List.mem_map.mp hmem
      have hnone := List.find?_eq_none.mp hfound o ho
      simpa using hnone
  | some o =>
      have howns : o.check.owns line = true := by simpa using List.find?_some hfound
      have hrival := hrivals o.check (List.mem_map_of_mem (List.mem_of_find?_eq_some hfound))
      rw [Option.some.injEq]
      constructor
      · intro hname
        rwa [← hrival (.inl hname)]
      · intro howns'
        rw [hrival (.inr ⟨line, howns', howns⟩)]

/-- A built-in check owns exactly the lines that bear its name plainly.  Where it gives a verdict,
and no other check of the analysis stands in its way, it colours exactly those of the lines it
judges. -/
theorem coloured_lines_are_plain_judged_lines (hcheck : check ∈ builtins) :
    (∀ line, check.owns line = true ↔ NamedPlainly line ∧ Bears check.header line) ∧
    (∀ checks, (∀ other ∈ checks, other ∈ builtins) → check.Unrivalled checks) ∧
    ∀ headers checks method url registry,
      check.Unrivalled checks →
      check ∈ (analyze headers checks method url registry).outcomes.map (·.check) →
        headers.getAll check.header =
            (headers.named check.header).map (fun line => (Headers.parseLine line).2) ∧
          (analyze headers checks method url registry).linesOf check.name =
            (headers.named check.header).filter NamedPlainly := by
  refine ⟨owns_iff_namedPlainly hcheck, fun checks => unrivalled_of_builtins hcheck, ?_⟩
  intro headers checks method url registry hrivals hmem
  refine ⟨Headers.getAll_eq_map_named check.header headers, ?_⟩
  have hrivals' : check.Unrivalled
      ((analyze headers checks method url registry).outcomes.map (·.check)) := by
    intro other hother
    obtain ⟨o, ho, rfl⟩ := List.mem_map.mp hother
    exact hrivals o.check (check_mem_of_outcomes ho)
  rw [Report.linesOf_eq_filter, Headers.named, List.filter_filter]
  apply List.filter_congr
  intro line _
  rw [(header_of_mem_builtins hcheck).2, ← Bool.decide_and]
  exact decide_eq_decide.mpr
    ((colour_check_iff hrivals' hmem line).trans (owns_iff_namedPlainly hcheck line))

/-! ## Lines that are judged without a colour -/

namespace Spaced

def response : Headers :=
  ⟨["Content-Type : text/html".toList, "content-TYPE: text/plain".toList,
    " Content-Type: text/xml".toList, "Content-Type".toList], none⟩

theorem one_line_is_coloured :
    ContentType.check ∈ builtins ∧ ContentType.check.Unrivalled builtins ∧
      ContentType.check ∈ (analyze response builtins none none none).outcomes.map (·.check) ∧
      response.getAll "Content-Type" =
        ["text/html".toList, "text/plain".toList, "text/xml".toList, []] ∧
      (analyze response builtins none none none).linesOf "Content-Type" =
        ["content-TYPE: text/plain".toList] := by
  have hcheck : ContentType.check ∈ builtins := by simp [builtins]
  obtain ⟨-, hrivals, hreport⟩ := coloured_lines_are_plain_judged_lines hcheck
  have hunrivalled := hrivals builtins fun _ hother => hother
  have hmem : ContentType.check ∈
      (analyze response builtins none none none).outcomes.map (·.check) :=
    List.mem_cons_of_mem _ List.mem_cons_self
  obtain ⟨hvalues, hlines⟩ := hreport response builtins none none none hunrivalled hmem
  refine ⟨hcheck, hunrivalled, hmem, hvalues.trans (by decide), hlines.trans (by decide)⟩

/-- Takes the lines of the cookies for itself. -/
def claimant : Check where
  className := "Claimant"
  name := "Claimant"
  column := "Claimant"
  missing := []
  header := "Set-Cookie"
  affects := true
  patterns := ⟨[], [], []⟩
  judge _ context := (context, .ok (.ok [] []))

def cookieResponse : Headers := ⟨["Set-Cookie: a=1; Secure".toList], none⟩

/-- White space in front of the colon keeps a judged line from its colour, and so does a check that
comes first. -/
theorem judged_lines_lack_colour :
    ContentType.check ∈ builtins ∧ Cookie.check ∈ builtins ∧
      ¬ (ContentType.check.owns "Content-Type : text/html".toList = true ↔
          Bears ContentType.check.header "Content-Type : text/html".toList) ∧
      (analyze response builtins none none none).linesOf "Content-Type" ≠
        response.named "Content-Type" ∧
      (analyze cookieResponse (claimant :: builtins) none none none).linesOf "Cookies" ≠
        cookieResponse.named "Set-Cookie" := by
  refine ⟨by simp [builtins], by simp [builtins], ?_, ?_, ?_⟩ <;> decide

end Spaced

end Check

end HeaderAudit
