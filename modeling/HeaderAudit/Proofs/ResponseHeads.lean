import HeaderAudit.Headers
import Mathlib.Data.List.DropRight

/-!
# Reading back a response head

There are many ways to write a response head: each of its lines ends with a line feed, and a
carriage return may stand before it.  Whatever the ends of the lines and whatever the body behind
the empty line, reading gives the head back.  So nothing of a body becomes a header, and a head
that has been read and written is read as before.
-/

namespace HeaderAudit.Headers

/-- No line break is in the text, and no carriage return at its end. -/
def IsLine (t : Text) : Prop := '\n' ∉ t ∧ t.getLast? ≠ some '\r'

instance (t : Text) : Decidable (IsLine t) := inferInstanceAs (Decidable (_ ∧ _))

structure WellFormed (h : Headers) : Prop where
  statusLine : ∀ status, h.statusLine = some status → IsLine status ∧ ("HTTP/" : Text) <+: status
  lines : ∀ line ∈ h.lines, IsLine line ∧ ':' ∈ line

inductive LineEnd where
  | feed
  | returnAndFeed

namespace LineEnd

def returns : LineEnd → Text
  | feed => []
  | returnAndFeed => ['\r']

def text (e : LineEnd) : Text := e.returns ++ ['\n']

end LineEnd

/-- The lines one after another; each has an end of its own. -/
def written (ends : Nat → LineEnd) : List Text → Text
  | [] => []
  | line :: rest => line ++ (ends 0).text ++ written (fun i => ends (i + 1)) rest

/-- The lines of a head as it is sent: the status line, or an empty line in its place, the header
lines and an empty line. -/
def headLines (h : Headers) : List Text := h.statusLine.getD [] :: h.lines ++ [[]]

def print (ends : Nat → LineEnd) (body : Text) (h : Headers) : Text :=
  written ends h.headLines ++ body

/-- There is a status line or a header line. -/
def HasBegun (h : Headers) : Prop := h.statusLine ≠ none ∨ h.lines ≠ []

/-! ## Lines and their ends -/

theorem trimReturns_eq_rdropWhile (line : Text) :
    trimReturns line = line.rdropWhile (· = '\r') := rfl

/-- A character that is no carriage return keeps what stands in front of it. -/
theorem trimReturns_append_cons {c : Char} (hc : c ≠ '\r') (before rest : Text) :
    trimReturns (before ++ c :: rest) = before ++ c :: trimReturns rest := by
  simp only [trimReturns_eq_rdropWhile, List.rdropWhile, List.reverse_append, List.reverse_cons,
    List.append_assoc, List.singleton_append, List.dropWhile_append]
  split
  · next hnil =>
    rw [List.isEmpty_iff.mp hnil, List.dropWhile_cons_of_neg (by simpa using hc)]
    simp
  · simp

theorem mem_trimReturns {c : Char} (hc : c ≠ '\r') {line : Text} (hmem : c ∈ line) :
    c ∈ trimReturns line := by
  obtain ⟨before, rest, rfl⟩ := List.append_of_mem hmem
  rw [trimReturns_append_cons hc]
  simp

theorem httpPrefix_trimReturns {status : Text} (hbegins : ("HTTP/" : Text) <+: status) :
    ("HTTP/" : Text) <+: trimReturns status := by
  obtain ⟨rest, rfl⟩ := hbegins
  exact ⟨trimReturns rest, (trimReturns_append_cons (by decide) "HTTP".toList rest).symm⟩

theorem trimReturns_of_isLine {line : Text} (hline : IsLine line) : trimReturns line = line := by
  rw [trimReturns_eq_rdropWhile, List.rdropWhile_eq_self_iff]
  intro hne hlast
  have hreturn : line.getLast hne = '\r' := by simpa using hlast
  apply hline.2
  rw [List.getLast?_eq_getLast_of_ne_nil hne, hreturn]

theorem trimReturns_append_returns (line : Text) (e : LineEnd) :
    trimReturns (line ++ e.returns) = trimReturns line := by
  cases e with
  | feed => rw [LineEnd.returns, List.append_nil]
  | returnAndFeed => exact List.rdropWhile_concat_pos (· = '\r') line '\r' (by simp)

theorem isLine_trimReturns {raw : Text} (hraw : '\n' ∉ raw) : IsLine (trimReturns raw) := by
  rw [trimReturns_eq_rdropWhile]
  have hbegins := List.rdropWhile_prefix (· = '\r') raw
  refine ⟨fun hmem => hraw (hbegins.subset hmem), ?_⟩
  intro hlast
  have hne : raw.rdropWhile (· = '\r') ≠ [] := by
    intro hnil
    simp [hnil] at hlast
  have hreturn : (raw.rdropWhile (· = '\r')).getLast hne = '\r' := by
    simpa [List.getLast?_eq_getLast_of_ne_nil hne] using hlast
  have hkept := List.rdropWhile_last_not (· = '\r') raw hne
  exact hkept (by simpa using hreturn)

theorem fields_line {line : Text} (hline : '\n' ∉ line) (e : LineEnd) (rest : Text) :
    Text.fields '\n' (line ++ e.text ++ rest) = (line ++ e.returns) :: Text.fields '\n' rest := by
  have hfree : '\n' ∉ line ++ e.returns := by
    cases e <;> simp [LineEnd.returns, hline]
  rw [← Text.fields_append hfree rest]
  simp [LineEnd.text]

theorem blank_eq_false_of_mem {line : Text} (hcolon : ':' ∈ line) : Text.blank line = false := by
  rw [Text.blank, List.all_eq_false]
  exact ⟨':', hcolon, by decide⟩

/-! ## Reading what is written -/

/-- The empty line stops the reading, so `body` does not matter. -/
theorem collectLines_written (begun : Bool) {lines : List Text}
    (hlines : ∀ line ∈ lines, '\n' ∉ line ∧ ':' ∈ line) (hbegun : begun = true ∨ lines ≠ [])
    (ends : Nat → LineEnd) (body : Text) :
    collectLines begun (Text.fields '\n' (written ends (lines ++ [[]]) ++ body)) =
      lines.map trimReturns := by
  induction lines generalizing begun ends with
  | nil =>
      have htrue : begun = true := by simpa using hbegun
      have hempty := trimReturns_append_returns [] (ends 0)
      have hfields := fields_line List.not_mem_nil (ends 0) body
      have hblank : Text.blank (trimReturns []) = true := rfl
      simp only [List.nil_append] at hempty hfields
      simp [written, hfields, collectLines, hempty, htrue, hblank]
  | cons line lines ih =>
      obtain ⟨hfree, hcolon⟩ := hlines line List.mem_cons_self
      have hkept : ':' ∈ trimReturns line := mem_trimReturns (by decide) hcolon
      have hrest := ih true (fun l hl => hlines l (List.mem_cons_of_mem line hl)) (.inl rfl)
        (fun i => ends (i + 1))
      rw [List.cons_append, written, List.append_assoc, fields_line hfree, collectLines,
        trimReturns_append_returns, blank_eq_false_of_mem hkept, hrest]
      simp [hkept]

theorem ofText_of_fields {t first : Text} {rest : List Text}
    (hfields : Text.fields '\n' t = first :: rest) :
    ofText t =
      if ("HTTP/" : Text).isPrefixOf (trimReturns first) then
        ⟨collectLines true rest, some (trimReturns first)⟩
      else ⟨collectLines false (first :: rest), none⟩ := by
  simp only [ofText, hfields]

/-- Whatever stands at the ends of the lines, reading drops the carriage returns there and nothing
else. -/
theorem ofText_print_eq {h : Headers} (hlines : ∀ line ∈ h.lines, '\n' ∉ line ∧ ':' ∈ line)
    (hstatus : ∀ status, h.statusLine = some status →
      '\n' ∉ status ∧ ("HTTP/" : Text) <+: status)
    (hbegun : h.HasBegun) (ends : Nat → LineEnd) (body : Text) :
    ofText (h.print ends body) = ⟨h.lines.map trimReturns, h.statusLine.map trimReturns⟩ := by
  obtain ⟨lines, statusLine⟩ := h
  have hprint : ∀ first, print ends body ⟨lines, first⟩ =
      first.getD [] ++ (ends 0).text ++
        (written (fun i => ends (i + 1)) (lines ++ [[]]) ++ body) := by
    intro first
    simp [print, headLines, written]
  cases statusLine with
  | some status =>
      obtain ⟨hfree, hbegins⟩ := hstatus status rfl
      rw [hprint, Option.getD_some, ofText_of_fields (fields_line hfree _ _),
        trimReturns_append_returns,
        if_pos (List.isPrefixOf_iff_prefix.mpr (httpPrefix_trimReturns hbegins)),
        collectLines_written true hlines (.inl rfl), Option.map_some]
  | none =>
      -- The empty line in place of the status line is passed over, as nothing has begun yet.
      have hsome : lines ≠ [] := by simpa [HasBegun] using hbegun
      have hcollected := collectLines_written false hlines (.inr hsome)
        (fun i => ends (i + 1)) body
      have hskip : Text.blank (trimReturns []) = true := rfl
      rw [hprint, Option.getD_none, ofText_of_fields (fields_line List.not_mem_nil _ _),
        trimReturns_append_returns, if_neg (by decide), collectLines,
        trimReturns_append_returns, hskip]
      simpa using hcollected

theorem ofText_print {h : Headers} (hwell : h.WellFormed) (hbegun : h.HasBegun)
    (ends : Nat → LineEnd) (body : Text) : ofText (h.print ends body) = h := by
  have hlines : ∀ line ∈ h.lines, '\n' ∉ line ∧ ':' ∈ line :=
    fun line hline => ⟨(hwell.lines line hline).1.1, (hwell.lines line hline).2⟩
  have hstatus : ∀ status, h.statusLine = some status →
      '\n' ∉ status ∧ ("HTTP/" : Text) <+: status :=
    fun status hsome => ⟨(hwell.statusLine status hsome).1.1, (hwell.statusLine status hsome).2⟩
  have htrimmed : h.lines.map trimReturns = h.lines := by
    rw [List.map_congr_left fun line hline => trimReturns_of_isLine (hwell.lines line hline).1]
    exact List.map_id h.lines
  have hfirst : h.statusLine.map trimReturns = h.statusLine := by
    cases hsome : h.statusLine with
    | none => rfl
    | some status =>
        rw [Option.map_some, trimReturns_of_isLine (hwell.statusLine status hsome).1]
  rw [ofText_print_eq hlines hstatus hbegun, htrimmed, hfirst]

/-! ## Whatever is read is well-formed -/

theorem mem_collectLines {begun : Bool} {raws : List Text} {line : Text}
    (hline : line ∈ collectLines begun raws) :
    ':' ∈ line ∧ ∃ raw ∈ raws, line = trimReturns raw := by
  induction raws generalizing begun with
  | nil => simp [collectLines] at hline
  | cons raw raws ih =>
      have hlater : ∀ begun, line ∈ collectLines begun raws →
          ':' ∈ line ∧ ∃ r ∈ raw :: raws, line = trimReturns r := by
        intro begun h
        obtain ⟨hcolon, r, hr, hrline⟩ := ih h
        exact ⟨hcolon, r, List.mem_cons_of_mem raw hr, hrline⟩
      rw [collectLines] at hline
      split at hline
      · split at hline
        · simp at hline
        · exact hlater begun hline
      · split at hline
        · next hcolon =>
          rcases List.mem_cons.mp hline with rfl | hline
          · exact ⟨by simpa using hcolon, raw, List.mem_cons_self, rfl⟩
          · exact hlater true hline
        · exact hlater begun hline

theorem wellFormed_ofText (t : Text) : (ofText t).WellFormed := by
  obtain ⟨first, rest, hfields⟩ := List.exists_cons_of_ne_nil (Text.fields_ne_nil '\n' t)
  have hraws : ∀ raw ∈ first :: rest, IsLine (trimReturns raw) := by
    intro raw hraw
    rw [← hfields] at hraw
    exact isLine_trimReturns (Text.not_mem_of_mem_fields hraw)
  have hcollected : ∀ begun raws, raws ⊆ first :: rest →
      ∀ line ∈ collectLines begun raws, IsLine line ∧ ':' ∈ line := by
    intro begun raws hsub line hline
    obtain ⟨hcolon, raw, hraw, rfl⟩ := mem_collectLines hline
    exact ⟨hraws raw (hsub hraw), hcolon⟩
  rw [ofText_of_fields hfields]
  split
  · next hstatus =>
    refine ⟨?_, hcollected true rest (List.subset_cons_self first rest)⟩
    intro status hsome
    rw [← Option.some.inj hsome]
    exact ⟨hraws first List.mem_cons_self, List.isPrefixOf_iff_prefix.mp hstatus⟩
  · exact ⟨by simp, hcollected false (first :: rest) (List.Subset.refl _)⟩

/-- Without a status line and header lines, two empty lines are written. -/
theorem ofText_print_of_not_hasBegun {h : Headers} (hbegun : ¬ h.HasBegun)
    (ends : Nat → LineEnd) : ofText (h.print ends []) = h := by
  obtain ⟨lines, statusLine⟩ := h
  simp only [HasBegun, ne_eq, not_or, not_not] at hbegun
  obtain ⟨rfl, rfl⟩ := hbegun
  have hprint : print ends [] ⟨[], none⟩ = (ends 0).text ++ (ends 1).text := by
    simp [print, headLines, written]
  rw [hprint]
  cases ends 0 <;> cases ends 1 <;> rfl

/-- Whatever is read from a text is a well-formed head.  A well-formed head with something in it is
read back from all its written forms, whatever the body behind it.  A head that was read from a text
is read back when it is written without a body, also one with nothing in it. -/
theorem reading_undoes_printing :
    (∀ t, (ofText t).WellFormed) ∧
    (∀ h : Headers, h.WellFormed → h.HasBegun →
      ∀ ends body, ofText (h.print ends body) = h) ∧
    ∀ t ends, ofText ((ofText t).print ends []) = ofText t := by
  refine ⟨wellFormed_ofText, fun h hwell hbegun => ofText_print hwell hbegun, ?_⟩
  intro t ends
  by_cases hbegun : (ofText t).HasBegun
  · exact ofText_print (wellFormed_ofText t) hbegun ends []
  · exact ofText_print_of_not_hasBegun hbegun ends

/-! ## A head whose lines look like something else -/

namespace Decoy

/-- A status line without a number, a line with a return inside, and one without a name. -/
def head : Headers :=
  ⟨["Set-Cookie: a\rb".toList, "HTTP/1.1: x".toList, [':']], some "HTTP/".toList⟩

def alternating (n : Nat) : LineEnd := if n % 2 = 0 then .returnAndFeed else .feed

def body : Text := "X-Injected: 1\n\nmore: 2".toList

theorem body_stays_body :
    head.WellFormed ∧ head.HasBegun ∧ ofText (head.print alternating body) = head := by
  have hwell : head.WellFormed := by
    refine ⟨?_, ?_⟩
    · intro status hstatus
      rw [← Option.some.inj hstatus]
      decide
    · decide
  have hbegun : head.HasBegun := .inl (by decide)
  exact ⟨hwell, hbegun, reading_undoes_printing.2.1 head hwell hbegun alternating body⟩

end Decoy

end HeaderAudit.Headers
