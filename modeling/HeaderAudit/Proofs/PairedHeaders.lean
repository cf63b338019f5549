import HeaderAudit.Proofs.ConsultedHeaders
import HeaderAudit.Proofs.ResponseHeads

/-!
# Headers from pairs

Headers come from a list of names and values, or are read from a response head.  Reading is the
harsher way: it cuts the text into lines, takes the carriage returns from their ends, and leaves out
what has no colon.  But when the lines of the pairs are sent as a head, each pair is read again,
with its name and its value stripped as if it had never been sent.  So the checks judge both alike.
-/

namespace HeaderAudit

namespace Text

/-- The end that is dropped is white space. -/
theorem strip_trimReturns (t : Text) : strip (Headers.trimReturns t) = strip t := by
  have hblank : blank (t.rtakeWhile (· = '\r')) = true := by
    apply List.all_eq_true.mpr
    intro c hc
    have hreturn : c = '\r' := by simpa using List.mem_rtakeWhile_imp hc
    rw [hreturn]
    rfl
  have hpadded := @strip_padded [] _ rfl hblank (Headers.trimReturns t)
  rw [List.nil_append, Headers.trimReturns_eq_rdropWhile,
    List.rdropWhile_append_rtakeWhile] at hpadded
  rw [hpadded, Headers.trimReturns_eq_rdropWhile]

end Text

namespace Headers

open Text (strip)

/-- The pair fits on one line, and its name is all that stands in front of the first colon. -/
structure Sendable (pair : Text × Text) : Prop where
  name_colon : ':' ∉ pair.1
  name_feed : '\n' ∉ pair.1
  value_feed : '\n' ∉ pair.2

structure IsStatusLine (status : Text) : Prop where
  feed : '\n' ∉ status
  http : ("HTTP/" : Text) <+: status

variable {pair : Text × Text} {pairs : List (Text × Text)} {status : Text}

/-- The line of a pair, with a blank behind the colon. -/
def pairLine (pair : Text × Text) : Text := lineOf pair.1 (some (' ' :: pair.2))

theorem lines_ofPairs (pairs : List (Text × Text)) (status : Option Text) :
    (ofPairs pairs status).lines = pairs.map pairLine := by
  apply List.map_congr_left
  rintro ⟨name, value⟩ _
  exact List.append_assoc name [':', ' '] value

theorem Sendable.pairLine_spec (hpair : Sendable pair) :
    '\n' ∉ pairLine pair ∧ ':' ∈ pairLine pair := by
  simp [pairLine, lineOf, hpair.name_feed, hpair.value_feed]

/-! ## What is read from the line of a pair -/

theorem parseLine_pairLine (hpair : Sendable pair) :
    parseLine (pairLine pair) = (strip pair.1, strip pair.2) := by
  have hblank : strip (' ' :: pair.2) = strip pair.2 := by
    simpa using @Text.strip_padded [' '] [] rfl rfl pair.2
  rw [pairLine, parseLine_lineOf hpair.name_colon, Option.getD_some, hblank]

/-- Carriage returns at the end of the line belong to the white space around the value. -/
theorem parseLine_trimReturns_pairLine (hpair : Sendable pair) :
    parseLine (trimReturns (pairLine pair)) = parseLine (pairLine pair) := by
  have htrim : trimReturns (pairLine pair) =
      lineOf pair.1 (some (trimReturns (' ' :: pair.2))) :=
    trimReturns_append_cons (by decide) pair.1 (' ' :: pair.2)
  rw [htrim, pairLine, parseLine_lineOf hpair.name_colon, parseLine_lineOf hpair.name_colon,
    Option.getD_some, Option.getD_some, Text.strip_trimReturns]

theorem items_ofPairs (hpairs : ∀ pair ∈ pairs, Sendable pair) (status : Option Text) :
    (ofPairs pairs status).items = pairs.map fun pair => (strip pair.1, strip pair.2) := by
  rw [items, lines_ofPairs, List.map_map]
  apply List.map_congr_left
  intro pair hpair
  exact parseLine_pairLine (hpairs pair hpair)

theorem items_ofText_print (hpairs : ∀ pair ∈ pairs, Sendable pair) (hstatus : IsStatusLine status)
    (ends : Nat → LineEnd) (body : Text) (given : Option Text) :
    (ofText ((ofPairs pairs (some status)).print ends body)).items =
      (ofPairs pairs given).items := by
  have hlines : ∀ line ∈ (ofPairs pairs (some status)).lines, '\n' ∉ line ∧ ':' ∈ line := by
    rw [lines_ofPairs, List.forall_mem_map]
    exact fun pair hpair => (hpairs pair hpair).pairLine_spec
  have hfirst : ∀ first, some status = some first → '\n' ∉ first ∧ ("HTTP/" : Text) <+: first := by
    rintro _ ⟨⟩
    exact ⟨hstatus.feed, hstatus.http⟩
  rw [ofText_print_eq hlines hfirst (.inl (by simp [ofPairs])), items, items, lines_ofPairs,
    lines_ofPairs, List.map_map, List.map_map, List.map_map]
  apply List.map_congr_left
  intro pair hpair
  exact parseLine_trimReturns_pairLine (hpairs pair hpair)

theorem getAll_eq_of_items {h h' : Headers} (hitems : h.items = h'.items) (name : Text) :
    h.getAll name = h'.getAll name := by
  rw [getAll, getAll, hitems]

end Headers

namespace Analysis

open Headers (Sendable IsStatusLine LineEnd ofPairs ofText)
open Check (builtins)

/-- The items of headers from pairs are the pairs, each with its name and its value stripped.  When
their lines are sent behind a status line, with whatever line ends and body, the same items are read
from the text.  So the same values stand under every name, and the built-in checks come to the same
outcomes. -/
theorem sent_pairs_are_judged_alike {pairs : List (Text × Text)}
    (hpairs : ∀ pair ∈ pairs, Sendable pair) (given : Option Text) :
    (ofPairs pairs given).items = pairs.map (fun pair => (Text.strip pair.1, Text.strip pair.2)) ∧
    ∀ status, IsStatusLine status → ∀ (ends : Nat → LineEnd) (body : Text),
      let sent := ofText ((ofPairs pairs (some status)).print ends body)
      sent.items = (ofPairs pairs given).items ∧
        (∀ name, sent.getAll name = (ofPairs pairs given).getAll name) ∧
        (∀ check ∈ builtins, ∀ context,
          check.judge sent context = check.judge (ofPairs pairs given) context) ∧
        ∀ method url registry, (analyze sent builtins method url registry).JudgedAlike
          (analyze (ofPairs pairs given) builtins method url registry) := by
  refine ⟨Headers.items_ofPairs hpairs given, ?_⟩
  intro status hstatus ends body sent
  have hitems : sent.items = (ofPairs pairs given).items :=
    Headers.items_ofText_print hpairs hstatus ends body given
  have hvalues := Headers.getAll_eq_of_items hitems
  have hjudge : ∀ check ∈ builtins, ∀ context,
      check.judge sent context = check.judge (ofPairs pairs given) context :=
    fun check hcheck => Check.judge_eq_of_agreeUnder hcheck fun name _ => hvalues name
  exact ⟨hitems, hvalues, hjudge, analyze_judgedAlike hjudge⟩

/-! ## Pairs that make odd lines -/

namespace Oddments

/-- Nothing at all, white space, a name like a status line, a value with a colon, and returns. -/
def pairs : List (Text × Text) :=
  [([], []), ("\r".toList, " \r".toList), ("HTTP/1.1".toList, "\r\r".toList),
    ("set-COOKIE\t".toList, "a:b=1\r; Secure\r".toList), ("\x00".toList, "\x0b\x00".toList)]

def ends (n : Nat) : LineEnd := if n % 2 = 0 then .returnAndFeed else .feed

theorem odd_pairs_are_judged_alike :
    (∀ pair ∈ pairs, Sendable pair) ∧ IsStatusLine "HTTP/\r".toList ∧
      (ofText ((ofPairs pairs (some "HTTP/\r".toList)).print ends "X: 1\n\n".toList)).items =
        [([], []), ([], []), ("HTTP/1.1".toList, []),
          ("set-COOKIE".toList, "a:b=1\r; Secure".toList), ("\x00".toList, "\x00".toList)] ∧
      (analyze (ofText ((ofPairs pairs (some "HTTP/\r".toList)).print ends "X: 1\n\n".toList))
          builtins none none none).JudgedAlike
        (analyze (ofPairs pairs (some Headers.defaultStatusLine)) builtins none none none) := by
  have hpairs : ∀ pair ∈ pairs, Sendable pair := by
    intro pair hpair
    simp only [pairs, List.mem_cons, List.not_mem_nil, or_false] at hpair
    obtain rfl | rfl | rfl | rfl | rfl := hpair <;> exact ⟨by decide, by decide, by decide⟩
  have hstatus : IsStatusLine "HTTP/\r".toList := ⟨by decide, by decide⟩
  obtain ⟨hstripped, hsent⟩ :=
    sent_pairs_are_judged_alike hpairs (some Headers.defaultStatusLine)
  obtain ⟨hitems, -, -, hreport⟩ := hsent _ hstatus ends "X: 1\n\n".toList
  refine ⟨hpairs, hstatus, ?_, hreport none none none⟩
  rw [hitems, hstripped]
  decide

end Oddments

end Analysis

end HeaderAudit
