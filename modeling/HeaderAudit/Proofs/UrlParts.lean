import HeaderAudit.Rule.Basic

/-!
# URLs put together from their parts

A URL is a scheme, perhaps the name of a user, a host, perhaps a port, a path, and perhaps a query
and a fragment.  A delimiter of one part may occur in another: an at sign in the path, a colon in
the query, a slash in the fragment.  Taking such a URL apart gives back its authority and its path
all the same, so a rule for hosts sees the host and a rule for paths sees the path.
-/

namespace HeaderAudit
namespace Url

/-- The characters are ASCII, and none of them is a mark. -/
def AsciiWithout (marks t : Text) : Prop := ∀ c ∈ t, c.toNat < 0x80 ∧ c ∉ marks

instance (marks t : Text) : Decidable (AsciiWithout marks t) := List.decidableBAll _ t

/-- These end the authority or stand around an address. -/
def userMarks : Text := ['/', '?', '#', '[', ']']

def placeMarks : Text := '@' :: userMarks

def hostMarks : Text := ':' :: placeMarks

def IsScheme : Text → Prop
  | [] => False
  | first :: rest =>
    first.isAlpha = true ∧
      rest.all (fun c => c.isAlphanum || c == '+' || c == '-' || c == '.') = true

instance : DecidablePred IsScheme
  | [] => inferInstanceAs (Decidable False)
  | _ :: _ => inferInstanceAs (Decidable (_ ∧ _))

def IsPort (t : Text) : Prop :=
  t = [] ∨ t.length ≤ 5 ∧ t.all Char.isDigit = true ∧ Nat.ofDigitChars 10 t 0 ≤ 65535

instance (t : Text) : Decidable (IsPort t) := inferInstanceAs (Decidable (_ ∨ _))

structure Parts where
  scheme : Text
  user : Option Text
  host : Text
  port : Option Text
  path : Text
  query : Option Text
  fragment : Option Text

/-- A part that may be missing, behind its mark. -/
def behind (mark : Char) (part : Option Text) : Text := (part.map (mark :: ·)).getD []

namespace Parts

def authority (p : Parts) : Text :=
  (p.user.map (· ++ ['@'])).getD [] ++ (p.host ++ behind ':' p.port)

/-- What follows the authority. -/
def target (p : Parts) : Text := p.path ++ behind '?' p.query ++ behind '#' p.fragment

def text (p : Parts) : Text := p.scheme ++ ':' :: '/' :: '/' :: (p.authority ++ p.target)

structure Sound (p : Parts) : Prop where
  scheme : IsScheme p.scheme
  user : ∀ user, p.user = some user → AsciiWithout userMarks user
  host : AsciiWithout hostMarks p.host
  host_ne_nil : p.host ≠ []
  port : ∀ port, p.port = some port → IsPort port
  path_head : p.path = [] ∨ p.path.head? = some '/'
  path : '?' ∉ p.path ∧ '#' ∉ p.path
  query : ∀ query, p.query = some query → '#' ∉ query
  spaceless : p.text.any Text.isBlank = false

end Parts

/-! ## Marks -/

theorem cut_behind {mark : Char} {before : Text} (hbefore : mark ∉ before) (part : Option Text) :
    Text.cut mark (before ++ behind mark part) = (before, part) := by
  cases part with
  | none => simpa [behind] using Text.cut_of_not_mem hbefore
  | some after => exact Text.cut_append hbefore after

theorem mem_behind {mark c : Char} {part : Option Text} (hc : c ∈ behind mark part) :
    c = mark ∨ ∃ t, part = some t ∧ c ∈ t := by
  cases part with
  | none => simp [behind] at hc
  | some t => simpa [behind] using hc

theorem AsciiWithout.not_mem {marks t : Text} (ht : AsciiWithout marks t) (mark : Char)
    (hmark : mark ∈ marks) : mark ∉ t := fun hmem => (ht mark hmem).2 hmark

theorem AsciiWithout.append {marks t u : Text} (ht : AsciiWithout marks t)
    (hu : AsciiWithout marks u) : AsciiWithout marks (t ++ u) := by
  intro c hc
  exact (List.mem_append.mp hc).elim (ht c) (hu c)

theorem AsciiWithout.of_cons {mark : Char} {marks t : Text} (ht : AsciiWithout (mark :: marks) t) :
    AsciiWithout marks t :=
  fun c hc => ⟨(ht c hc).1, fun hmark => (ht c hc).2 (List.mem_cons_of_mem mark hmark)⟩

/-! ## Ports -/

theorem digit_bounds {c : Char} (hc : c.isDigit = true) : 48 ≤ c.toNat ∧ c.toNat ≤ 57 := by
  simpa [Char.isDigit, UInt32.le_iff_toNat_le] using hc

theorem digitValue?_of_isDigit {c : Char} (hc : c.isDigit = true) :
    Text.digitValue? c = some (c.toNat - '0'.toNat) := by
  have hrange : '0' ≤ c ∧ c ≤ '9' := by
    simpa [Char.isDigit, Char.le_def] using hc
  rw [Text.digitValue?, if_pos hrange]

theorem readDigits?_of_isDigit {t : Text} (ht : t.all Char.isDigit = true) (hne : t ≠ []) :
    Text.readDigits? 10 t = some (Nat.ofDigitChars 10 t 0) := by
  have hfold : ∀ n, t.foldlM (fun n c => do
      let d ← Text.digitValue? c
      if d < 10 then some (n * 10 + d) else none) n = some (Nat.ofDigitChars 10 t n) := by
    clear hne
    induction t with
    | nil => intro n; rfl
    | cons c t ih =>
        rw [List.all_cons, Bool.and_eq_true] at ht
        intro n
        have hbounds := digit_bounds ht.1
        have hsmall : c.toNat - '0'.toNat < 10 := by
          have hzero : '0'.toNat = 48 := rfl
          omega
        rw [List.foldlM_cons, digitValue?_of_isDigit ht.1, Nat.ofDigitChars_cons, ← ih ht.2,
          Nat.mul_comm 10 n]
        simp only [Option.bind_eq_bind, Option.bind_some, if_pos hsmall]
  cases t with
  | nil => exact absurd rfl hne
  | cons c t => exact hfold 0

theorem portAllowed_of_isPort {t : Text} (ht : IsPort t) : portAllowed t = true := by
  rcases ht with rfl | ⟨hlength, hdigits, hvalue⟩
  · rfl
  · by_cases hne : t = []
    · rw [hne]
      rfl
    · have hall : t.all (fun c => '0' ≤ c && c ≤ '9') = true := by
        rw [List.all_eq_true]
        intro c hc
        simpa [Char.isDigit, Char.le_def] using List.all_eq_true.mp hdigits c hc
      have hshort : t.length ≤ 4300 := by omega
      simp [portAllowed, hall, hshort, readDigits?_of_isDigit hdigits hne, hvalue]

theorem asciiWithout_of_isPort {t : Text} (ht : IsPort t) : AsciiWithout placeMarks t := by
  intro c hc
  rcases ht with rfl | ⟨-, hdigits, -⟩
  · cases hc
  · have hbounds := digit_bounds (List.all_eq_true.mp hdigits c hc)
    have hmarks : ∀ mark ∈ placeMarks, mark.toNat < 48 ∨ 57 < mark.toNat := by
      simp [placeMarks, userMarks]
    refine ⟨by omega, ?_⟩
    intro hmark
    have hout := hmarks c hmark
    omega

/-! ## The scheme and the authority -/

theorem dropScheme_append {scheme : Text} (hscheme : IsScheme scheme) (rest : Text) :
    dropScheme (scheme ++ ':' :: rest) = rest := by
  cases scheme with
  | nil => exact hscheme.elim
  | cons first scheme =>
      obtain ⟨hfirst, hscheme⟩ := hscheme
      have hcolon : ':' ∉ first :: scheme := by
        rw [List.mem_cons, not_or]
        constructor
        · intro hmark
          exact absurd (hmark ▸ hfirst) (by decide)
        · intro hmem
          exact absurd (List.all_eq_true.mp hscheme ':' hmem) (by decide)
      have hchars : scheme.all isSchemeChar = true := by
        simpa [isSchemeChar] using hscheme
      rw [dropScheme, Text.cut_append hcolon]
      simp [isAsciiLetter, hfirst, hchars]

theorem splitAuthority_append {authority target : Text}
    (hauthority : ∀ c ∈ authority, endsAuthority c = false)
    (htarget : ∀ c, target.head? = some c → endsAuthority c = true) :
    splitAuthority ('/' :: '/' :: (authority ++ target)) = (authority, target) := by
  have htake : ∀ c ∈ authority, (!endsAuthority c) = true := by
    intro c hc
    rw [hauthority c hc]
    rfl
  rw [splitAuthority, List.takeWhile_append_of_pos htake, List.dropWhile_append_of_pos htake]
  cases target with
  | nil => simp
  | cons c target => simp [htarget c rfl]

/-- The host and the port, as they are written. -/
theorem Parts.Sound.place {p : Parts} (hp : p.Sound) :
    AsciiWithout placeMarks (p.host ++ behind ':' p.port) := by
  apply hp.host.of_cons.append
  intro c hc
  rcases mem_behind hc with rfl | ⟨port, hport, hc⟩
  · decide
  · exact asciiWithout_of_isPort (hp.port port hport) c hc

theorem Parts.Sound.authority {p : Parts} (hp : p.Sound) : AsciiWithout userMarks p.authority := by
  unfold Parts.authority
  cases huser : p.user with
  | none => exact hp.place.of_cons
  | some user =>
      have hat : AsciiWithout userMarks ['@'] := by decide
      exact ((hp.user user huser).append hat).append hp.place.of_cons

theorem hostAndPort_authority {p : Parts} (hp : p.Sound) :
    hostAndPort p.authority = (p.host, p.port.getD []) := by
  -- The user may have at signs too, the host and the port have none, so the last one counts.
  have hlast : Text.afterLast '@' p.authority = p.host ++ behind ':' p.port := by
    have hat := hp.place.not_mem '@' (by decide)
    unfold Parts.authority
    cases p.user with
    | none => exact Text.afterLast_of_not_mem hat
    | some user => simpa using Text.afterLast_append hat user
  have hbracket := Text.cut_of_not_mem (hp.place.not_mem '[' (by decide))
  have hcolon : ':' ∉ p.host := hp.host.not_mem ':' (by decide)
  simp only [hostAndPort, hlast, hbracket, cut_behind hcolon]

/-! ## Taking a URL apart -/

theorem bracketsAllowed_of_asciiWithout {t : Text} (ht : AsciiWithout userMarks t) :
    bracketsAllowed t = true := by
  have hopen : '[' ∉ t := ht.not_mem '[' (by decide)
  have hclose : ']' ∉ t := ht.not_mem ']' (by decide)
  simp [bracketsAllowed, hopen, hclose]

theorem not_standsForSeparator_of_ascii {c : Char} (hc : c.toNat < 0x80) :
    standsForSeparator c = false := by
  simp only [standsForSeparator, List.contains_eq_mem, decide_eq_false_iff_not]
  intro hmem
  have hbeyond : ∀ code ∈ [0x2047, 0x2048, 0x2049, 0x2100, 0x2101, 0x2105, 0x2106, 0x2A74,
      0xFE13, 0xFE16, 0xFE55, 0xFE56, 0xFE5F, 0xFE6B, 0xFF03, 0xFF0F, 0xFF1A, 0xFF1F, 0xFF20],
      0x80 ≤ code := by
    decide
  have hle := hbeyond c.toNat hmem
  omega

theorem not_endsAuthority_of_asciiWithout {t : Text} (ht : AsciiWithout userMarks t) {c : Char}
    (hc : c ∈ t) : endsAuthority c = false := by
  have hmark := (ht c hc).2
  simp only [endsAuthority, Bool.or_eq_false_iff, decide_eq_false_iff_not]
  refine ⟨⟨?_, ?_⟩, ?_⟩ <;> rintro rfl <;> exact hmark (by decide)

theorem dropQuery_target {p : Parts} (hp : p.Sound) : dropQuery p.target = p.path := by
  -- The fragment is cut off first: a question mark in it begins no query.
  have hfragment : '#' ∉ p.path ++ behind '?' p.query := by
    intro hmem
    rcases List.mem_append.mp hmem with hmem | hmem
    · exact hp.path.2 hmem
    · rcases mem_behind hmem with hmark | ⟨query, hquery, hmem⟩
      · exact absurd hmark (by decide)
      · exact hp.query query hquery hmem
  rw [dropQuery, Parts.target, cut_behind hfragment, cut_behind hp.path.1]

theorem endsAuthority_target_head {p : Parts} (hp : p.Sound) {c : Char}
    (hc : p.target.head? = some c) : endsAuthority c = true := by
  have hpath : ∀ c, p.path.head? = some c → c = '/' := by
    intro c hc
    rcases hp.path_head with hnil | hslash
    · simp [hnil] at hc
    · simpa [hslash, eq_comm] using hc
  have hbehind : ∀ mark (part : Option Text) c, (behind mark part).head? = some c → c = mark := by
    intro mark part c hc
    cases part <;> simp_all [behind]
  rw [Parts.target, List.head?_append, List.head?_append, Option.or_assoc] at hc
  rcases Option.or_eq_some_iff.mp hc with hc | ⟨-, hc⟩
  · rw [hpath c hc]
    rfl
  · rcases Option.or_eq_some_iff.mp hc with hc | ⟨-, hc⟩
    · rw [hbehind _ _ c hc]
      rfl
    · rw [hbehind _ _ c hc]
      rfl

theorem not_isControlOrSpace_of_isAlpha {c : Char} (hc : c.isAlpha = true) :
    isControlOrSpace c = false := by
  have hcodes : ∀ n < 33, (Char.ofNat n).isAlpha = false := by decide
  cases hcontrol : isControlOrSpace c with
  | false => rfl
  | true =>
      have hcode : c.toNat ≤ 0x20 := of_decide_eq_true hcontrol
      have hother := hcodes c.toNat (by omega)
      rw [Char.ofNat_toNat, hc] at hother
      exact Bool.noConfusion hother

theorem dropWhile_text {p : Parts} (hp : p.Sound) :
    p.text.dropWhile isControlOrSpace = p.text := by
  have hscheme := hp.scheme
  unfold Parts.text
  cases hfirst : p.scheme with
  | nil =>
      rw [hfirst] at hscheme
      exact hscheme.elim
  | cons first rest =>
      rw [hfirst] at hscheme
      have hshown : isControlOrSpace first = false := not_isControlOrSpace_of_isAlpha hscheme.1
      rw [List.cons_append, List.dropWhile_cons, hshown]
      rfl

theorem ofText?_text {p : Parts} (hp : p.Sound) :
    ofText? p.text = some ⟨p.authority, p.path⟩ := by
  have hscheme : dropScheme p.text = '/' :: '/' :: (p.authority ++ p.target) :=
    dropScheme_append hp.scheme _
  have hsplit : splitAuthority ('/' :: '/' :: (p.authority ++ p.target)) =
      (p.authority, p.target) :=
    splitAuthority_append (fun c hc => not_endsAuthority_of_asciiWithout hp.authority hc)
      (fun c hc => endsAuthority_target_head hp hc)
  have hseparator : p.authority.any standsForSeparator = false := by
    rw [List.any_eq_false]
    intro c hc
    rw [not_standsForSeparator_of_ascii (hp.authority c hc).1]
    exact Bool.false_ne_true
  have hport : portAllowed (p.port.getD []) = true := by
    cases hport : p.port with
    | none => rfl
    | some port => exact portAllowed_of_isPort (hp.port port hport)
  simp [ofText?, hp.spaceless, dropWhile_text hp, hscheme, hsplit, hseparator,
    bracketsAllowed_of_asciiWithout hp.authority, hostAndPort_authority hp, hport,
    dropQuery_target hp]

/-- The zone of a host keeps its letter case, so the host is compared in small letters only. -/
theorem hostOf?_text {p : Parts} (hp : p.Sound) :
    ∃ host, hostOf? p.text = some host ∧ Text.lower host = Text.lower p.host := by
  have hwhole := Text.append_cut '%' p.host
  have hascii : ∀ c ∈ p.host, c.toNat < 0x80 := fun c hc => (hp.host c hc).1
  rw [← hwhole, List.forall_mem_append] at hascii
  refine ⟨Text.lower (Text.cut '%' p.host).1 ++
    ((Text.cut '%' p.host).2.map ('%' :: ·)).getD [], ?_, ?_⟩
  · obtain ⟨c, host, hhost⟩ := List.exists_cons_of_ne_nil hp.host_ne_nil
    simp [hostOf?, ofText?_text hp, host?, hostAndPort_authority hp, hhost]
  · rw [Text.lower_lower_append hascii.1 hascii.2, hwhole]

theorem pathOf?_text {p : Parts} (hp : p.Sound) :
    pathOf? p.text = some (if p.path = [] then ['/'] else p.path) := by
  simp [pathOf?, ofText?_text hp, pathOrRoot]

end Url

namespace Rule

open Url (Parts)

/-- The pattern without the star at its end begins the path, or there is no such star and the
pattern is the path. -/
def PathFits (pattern path : Text) : Prop :=
  (∃ start, pattern = start ++ ['*'] ∧ start <+: path) ∨
    pattern.getLast? ≠ some '*' ∧ path = pattern

theorem pathFits_iff (pattern path : Text) :
    pathFits pattern path = true ↔ PathFits pattern path := by
  by_cases hstar : pattern.getLast? = some '*'
  · obtain ⟨start, rfl⟩ := List.getLast?_eq_some_iff.mp hstar
    simp [pathFits, PathFits]
  · have hstart : ¬ ∃ start, pattern = start ++ ['*'] ∧ start <+: path := by
      rintro ⟨start, rfl, -⟩
      simp at hstar
    simp [pathFits, PathFits, hstar, hstart]

theorem excludes_host_iff {rule : Rule} (hkind : rule.kind = .host) {p : Parts} (hp : p.Sound)
    (method : Text) :
    rule.excludes method p.text = true ↔ Text.lower rule.pattern = Text.lower p.host := by
  obtain ⟨host, hhost, hlower⟩ := Url.hostOf?_text hp
  simp [excludes, hkind, hhost, hlower, eq_comm]

theorem excludes_path_iff {rule : Rule} (hkind : rule.kind = .path) {p : Parts} (hp : p.Sound)
    (method : Text) :
    rule.excludes method p.text = true ↔
      PathFits rule.pattern (if p.path = [] then ['/'] else p.path) := by
  simp [excludes, hkind, Url.pathOf?_text hp, pathFits_iff]

/-- A rule for hosts answers by the host in small letters and a rule for paths by the path, whatever
the other parts of the URL are. -/
theorem excludes_parts_iff (rule : Rule) (method : Text) {p : Parts} (hp : p.Sound) :
    (rule.kind = .host →
      (rule.excludes method p.text = true ↔ Text.lower rule.pattern = Text.lower p.host)) ∧
    (rule.kind = .path →
      (rule.excludes method p.text = true ↔
        PathFits rule.pattern (if p.path = [] then ['/'] else p.path))) ∧
    ∀ q : Parts, q.Sound →
      (rule.kind = .host ∧ Text.lower q.host = Text.lower p.host ∨
        rule.kind = .path ∧ q.path = p.path) →
      rule.excludes method q.text = rule.excludes method p.text := by
  refine ⟨fun hkind => excludes_host_iff hkind hp method,
    fun hkind => excludes_path_iff hkind hp method, ?_⟩
  rintro q hq (⟨hkind, hhost⟩ | ⟨hkind, hpath⟩)
  · rw [Bool.eq_iff_iff, excludes_host_iff hkind hp, excludes_host_iff hkind hq, hhost]
  · rw [Bool.eq_iff_iff, excludes_path_iff hkind hp, excludes_path_iff hkind hq, hpath]

/-! ## Marks in the wrong places -/

namespace Decoy

def plain : Parts := ⟨"https".toList, none, "shop%A".toList, none, "/a@b:c//d".toList, none, none⟩

/-- Every part that may hold the mark of another one does. -/
def marked : Parts :=
  ⟨"a+b-c.d".toList, some "u:@v@w".toList, "Shop%a".toList, some "08080".toList,
    "/a@b:c//d".toList, some "/x?y@z:[".toList, some "/x?y#z@w:]".toList⟩

def hostRule : Rule := ⟨.host, "SHOP%a".toList, ['h']⟩

def pathRule : Rule := ⟨.path, "/a@b:*".toList, ['p']⟩

theorem plain_sound : plain.Sound := by
  constructor
  case user | port | query => exact fun _ hsome => nomatch hsome
  all_goals decide

theorem marked_sound : marked.Sound := by
  constructor
  case user | port | query =>
    intro part hsome
    rw [← Option.some.inj hsome]
    decide
  all_goals decide

theorem excludes_plain_and_marked :
    plain.Sound ∧ marked.Sound ∧ hostRule.excludes "GET" plain.text = true ∧
      hostRule.excludes "GET" marked.text = true ∧ pathRule.excludes "GET" plain.text = true ∧
      pathRule.excludes "GET" marked.text = true := by
  obtain ⟨hhost, -, hsame⟩ := excludes_parts_iff hostRule "GET" plain_sound
  obtain ⟨-, hpath, hsame'⟩ := excludes_parts_iff pathRule "GET" plain_sound
  have hplain : hostRule.excludes "GET" plain.text = true := (hhost rfl).mpr (by decide)
  have hplain' : pathRule.excludes "GET" plain.text = true :=
    (hpath rfl).mpr (.inl ⟨"/a@b:".toList, by decide, by decide⟩)
  have hmarked := hsame marked marked_sound (.inl ⟨rfl, by decide⟩)
  have hmarked' := hsame' marked marked_sound (.inr ⟨rfl, rfl⟩)
  exact ⟨plain_sound, marked_sound, hplain, hmarked.trans hplain, hplain', hmarked'.trans hplain'⟩

end Decoy

end Rule
end HeaderAudit
