import HeaderAudit.Proofs.CheckOrder
import HeaderAudit.Proofs.HeaderSpellings

/-!
# The headers that a check looks at

A built-in check looks at the values under its own name and at nothing else, but for the check of
the caching, which looks at two names.  Two responses that agree on these values are judged alike.
So no line of another name has a say, and neither has the way in which the lines are written.
-/

namespace HeaderAudit

open Headers (AlikeUnder)

namespace Check

/-- The names of the headers that a built-in check looks at. -/
def consults (check : Check) : List Text :=
  if check.header = CacheControl.check.header then [check.header, "Pragma"] else [check.header]

/-- The same values, in the same order, stand under each of the names. -/
def AgreeUnder (names : List Text) (h h' : Headers) : Prop :=
  ∀ name ∈ names, h.getAll name = h'.getAll name

instance (names : List Text) (h h' : Headers) : Decidable (AgreeUnder names h h') :=
  List.decidableBAll _ names

variable {check : Check} {h h' : Headers}

theorem agreeUnder_of_alikeUnder {names : List Text} (halike : AlikeUnder names h.lines h'.lines) :
    AgreeUnder names h h' :=
  fun _ hname => halike.getAll_eq hname

theorem judge_cacheControl (h : Headers) (context : Context) :
    CacheControl.check.judge h context =
      (context, .ok (CacheControl.verdict (h.get? "Cache-Control") (h.get? "Pragma"))) := rfl

theorem judge_contentType (h : Headers) (context : Context) :
    ContentType.check.judge h context =
      (context, .ok (ContentType.verdict (h.get? "Content-Type"))) := rfl

theorem judge_cookie (h : Headers) (context : Context) :
    Cookie.check.judge h context =
      (Json.setField Cookie.contextKey (.list ((h.getAll "Set-Cookie").map .text)) context,
        .ok (Cookie.verdict (h.getAll "Set-Cookie"))) := rfl

theorem judge_age (h : Headers) (context : Context) :
    TransportSecurity.check.judge h context =
      (context, TransportSecurity.verdict (transportSecurityOf h)) := rfl

theorem judge_contentTypeOptions (h : Headers) (context : Context) :
    ContentTypeOptions.check.judge h context =
      (context, .ok (ContentTypeOptions.verdict (h.get? "X-Content-Type-Options"))) := rfl

theorem get?_eq_of_agreeUnder {names : List Text} (hagree : AgreeUnder names h h') {name : Text}
    (hname : name ∈ names) : h.get? name = h'.get? name := by
  rw [Headers.get?, Headers.get?, hagree name hname]

theorem judge_eq_of_agreeUnder (hcheck : check ∈ builtins)
    (hagree : AgreeUnder check.consults h h') (context : Context) :
    check.judge h context = check.judge h' context := by
  obtain rfl | rfl | rfl | rfl | rfl := mem_builtins_cases hcheck
  · rw [judge_cacheControl, judge_cacheControl, get?_eq_of_agreeUnder hagree (by decide),
      get?_eq_of_agreeUnder hagree (by decide)]
  · rw [judge_contentType, judge_contentType, get?_eq_of_agreeUnder hagree (by decide)]
  · rw [judge_cookie, judge_cookie, hagree _ (by decide)]
  · rw [judge_age, judge_age, transportSecurityOf, transportSecurityOf,
      get?_eq_of_agreeUnder hagree (by decide)]
  · rw [judge_contentTypeOptions, judge_contentTypeOptions,
      get?_eq_of_agreeUnder hagree (by decide)]

end Check

namespace Report

/-- The reports agree in what is said of the response as a whole; the lines may be others. -/
structure JudgedAlike (report other : Report) : Prop where
  outcomes_eq : report.outcomes = other.outcomes
  failures_eq : report.failures = other.failures
  context_eq : report.context = other.context
  overall_eq : report.overall = other.overall
  exitCode_eq : report.exitCode = other.exitCode

theorem exitCode_eq_of_overall {report other : Report} (hoverall : report.overall = other.overall)
    (hexcluded : report.excluded = other.excluded) : report.exitCode = other.exitCode := by
  rw [exitCode, exitCode, hoverall, hexcluded]

end Report

namespace Analysis

open Check (builtins consults AgreeUnder)

variable {h h' : Headers} {checks : List Check}

theorem run_eq_of_judge_eq
    (hjudge : ∀ check ∈ checks, ∀ context, check.judge h context = check.judge h' context) :
    run h checks = run h' checks := by
  apply List.foldl_ext
  intro pass check hcheck
  rw [Pass.add, Pass.add, hjudge check hcheck]

theorem analyze_judgedAlike
    (hjudge : ∀ check ∈ checks, ∀ context, check.judge h context = check.judge h' context)
    (method url : Option Text) (registry : Option Registry) :
    (analyze h checks method url registry).JudgedAlike
      (analyze h' checks method url registry) := by
  have hrun := run_eq_of_judge_eq hjudge
  have houtcomes : (analyze h checks method url registry).outcomes =
      (analyze h' checks method url registry).outcomes := congrArg Pass.outcomes hrun
  have hoverall := Report.overall_eq_of_perm (List.Perm.of_eq houtcomes)
  exact ⟨houtcomes, congrArg Pass.failures hrun, congrArg Pass.context hrun, hoverall,
    Report.exitCode_eq_of_overall hoverall rfl⟩

/-- A built-in check comes to the same verdict or the same failure, and leaves the same notes, on
any two responses with the same values under the names that it looks at.  These stay the same when
lines of other names come, go or move, and when the names are written in other letters or white
space is put around names and values; then the reports of any built-in checks agree in the
verdicts, the overall status and the exit code. -/
theorem verdicts_rest_on_consulted_headers :
    builtins.map consults =
      [["Cache-Control".toList, "Pragma".toList], ["Content-Type".toList], ["Set-Cookie".toList],
        ["Strict-Transport-Security".toList], ["X-Content-Type-Options".toList]] ∧
    (∀ check ∈ builtins, ∀ h h' : Headers, AgreeUnder check.consults h h' →
      ∀ context, check.judge h context = check.judge h' context) ∧
    ∀ checks : List Check, (∀ check ∈ checks, check ∈ builtins) → ∀ h h' : Headers,
      AlikeUnder (checks.flatMap consults) h.lines h'.lines →
        (∀ check ∈ checks, ∀ context, check.judge h context = check.judge h' context) ∧
        ∀ method url registry, (analyze h checks method url registry).JudgedAlike
          (analyze h' checks method url registry) := by
  refine ⟨by decide, fun check hcheck h h' => Check.judge_eq_of_agreeUnder hcheck, ?_⟩
  intro checks hchecks h h' halike
  have hjudge : ∀ check ∈ checks, ∀ context,
      check.judge h context = check.judge h' context := by
    intro check hcheck
    apply Check.judge_eq_of_agreeUnder (hchecks check hcheck)
    intro name hname
    exact Check.agreeUnder_of_alikeUnder halike name (List.mem_flatMap.mpr ⟨check, hcheck, hname⟩)
  exact ⟨hjudge, analyze_judgedAlike hjudge⟩

/-! ## A response that is written in another way -/

namespace Rewritten

open Headers (Change Respelt lineOf)

def response : Headers :=
  ⟨["Set-Cookie: a=1; Secure".toList, "Server: x".toList, "Pragma: no-cache".toList], none⟩

/-- The cookie in other letters and with white space around it, behind a line that is new. -/
def other : Headers :=
  ⟨["X-Mood".toList, " set-COOKIE\t:\t a=1; Secure ".toList, "Pragma: no-cache".toList,
    "Server: x".toList], some "HTTP/2 200".toList⟩

def backwards : List Check := builtins.reverse

theorem alikeUnder_other :
    AlikeUnder (backwards.flatMap consults) response.lines other.lines := by
  have hmood : Headers.BearsNoneOf (backwards.flatMap consults) "X-Mood".toList := by decide
  have hserver : Headers.BearsNoneOf (backwards.flatMap consults) "Server: x".toList := by decide
  have hletters : Respelt (lineOf "Set-Cookie".toList (some " a=1; Secure".toList))
      (lineOf "set-COOKIE".toList (some " a=1; Secure".toList)) :=
    .letterCase _ (by decide) (by decide)
  have hname : Respelt (lineOf "set-COOKIE".toList (some " a=1; Secure".toList))
      (lineOf ([' '] ++ "set-COOKIE".toList ++ ['\t']) (some " a=1; Secure".toList)) :=
    .paddedName _ (by decide) (by decide) (by decide)
  have hvalue : Respelt
      (lineOf ([' '] ++ "set-COOKIE".toList ++ ['\t']) (some " a=1; Secure".toList))
      (lineOf ([' '] ++ "set-COOKIE".toList ++ ['\t'])
        (some (['\t'] ++ " a=1; Secure".toList ++ [' ']))) :=
    .paddedValue _ (by decide) (by decide) (by decide)
  apply Relation.EqvGen.trans _ _ _ (.rel _ _ (.respell [] _ hletters))
  apply Relation.EqvGen.trans _ _ _ (.rel _ _ (.respell [] _ hname))
  apply Relation.EqvGen.trans _ _ _ (.rel _ _ (.respell [] _ hvalue))
  apply Relation.EqvGen.trans _ _ _ (.rel _ _ (.insert [] _ hmood))
  exact .rel _ _ (.move ["X-Mood".toList, " set-COOKIE\t:\t a=1; Secure ".toList]
    ["Pragma: no-cache".toList] [] hserver)

theorem rewritten_response_is_judged_alike :
    (∀ check ∈ backwards, check ∈ builtins) ∧
      AlikeUnder (backwards.flatMap consults) response.lines other.lines ∧
      AgreeUnder Cookie.check.consults response other ∧
      Cookie.check.judge response [] = Cookie.check.judge other [] ∧
      (analyze response backwards none none none).JudgedAlike
        (analyze other backwards none none none) := by
  obtain ⟨-, hone, hall⟩ := verdicts_rest_on_consulted_headers
  have hcookie : Cookie.check ∈ builtins := by simp [builtins]
  have hagree : AgreeUnder Cookie.check.consults response other := by decide
  have hchecks : ∀ check ∈ backwards, check ∈ builtins := fun _ => List.mem_reverse.mp
  obtain ⟨-, hreport⟩ := hall backwards hchecks response other alikeUnder_other
  exact ⟨hchecks, alikeUnder_other, hagree, hone Cookie.check hcookie response other hagree [],
    hreport none none none⟩

end Rewritten

end Analysis

end HeaderAudit
