import HeaderAudit.Proofs.UrlParts

/-!
# Texts that are no URLs

Any text may be given as a URL.  It is refused if there is white space in it, if its authority
cannot be taken apart, or if its port is no port; then it has neither host nor path, and no rule for
hosts or paths excludes it.  Every other text has a path with something in it, and perhaps a host
with something in it.  So an empty pattern excludes nothing, while the host and the path of a URL
are patterns that exclude it.
-/

namespace HeaderAudit
namespace Url

variable {t place host : Text}

/-! ## What an authority has to be -/

/-- The authority of a text, whether the text is a URL or not. -/
def authorityOf (t : Text) : Text :=
  (splitAuthority (dropScheme (t.dropWhile isControlOrSpace))).1

/-- The host that stands at a place, perhaps in brackets and perhaps with a port behind it. -/
inductive HostAt : Text → Text → Prop where
  | bare {host : Text} {port : Option Text} : ':' ∉ host → '[' ∉ host ++ behind ':' port →
      HostAt (host ++ behind ':' port) host
  | bracketed {host : Text} {port : Option Text} : ']' ∉ host →
      HostAt ('[' :: (host ++ ']' :: behind ':' port)) host
  | unclosed {host : Text} : ']' ∉ host → HostAt ('[' :: host) host

/-- An address is one of a later version if it begins with the letter of those. -/
def IsAddress (host : Text) : Prop :=
  if host.head? = some 'v' then isFutureAddress host = true else isIPv6 host = true

/-- The authority of the text can be taken apart: it has both brackets and an address between them,
or none, and no character in it stands for a separator. -/
structure Splits (t : Text) : Prop where
  paired : '[' ∈ authorityOf t ↔ ']' ∈ authorityOf t
  address : '[' ∈ authorityOf t →
    ∃ host, HostAt (Text.afterLast '@' (authorityOf t)) host ∧ IsAddress host
  separators : ∀ c ∈ authorityOf t, standsForSeparator c = false

/-- A port is left empty or it is a number in decimal digits, which may have zeros in front. -/
def NamesPort (port : Text) : Prop :=
  port = [] ∨
    port.length ≤ 4300 ∧ port.all Char.isDigit = true ∧ Nat.ofDigitChars 10 port 0 ≤ 65535

theorem behind_cut (mark : Char) (t : Text) :
    (Text.cut mark t).1 ++ behind mark (Text.cut mark t).2 = t :=
  Text.append_cut mark t

theorem eq_behind_iff {rest : Text} :
    (∃ port, rest = behind ':' port) ↔ rest = [] ∨ rest.head? = some ':' := by
  constructor
  · rintro ⟨port, rfl⟩
    cases port with
    | none => exact .inl rfl
    | some port => exact .inr rfl
  · rintro (rfl | hhead)
    · exact ⟨none, rfl⟩
    · obtain ⟨port, rfl⟩ := List.head?_eq_some_iff.mp hhead
      exact ⟨some port, rfl⟩

theorem portAllowed_iff (port : Text) : portAllowed port = true ↔ NamesPort port := by
  by_cases hempty : port = []
  · simp [portAllowed, NamesPort, hempty]
  · have hdigits : port.all (fun c => '0' ≤ c && c ≤ '9') = port.all Char.isDigit := by
      apply List.all_congr rfl
      intro c
      simp [Char.isDigit, Char.le_def]
    rw [portAllowed, hdigits, NamesPort]
    by_cases hall : port.all Char.isDigit = true
    · rw [readDigits?_of_isDigit hall hempty]
      simp [hempty, hall]
    · simp [hempty, hall]

/-! ## Brackets -/

/-- Where a host stands as it should, the brackets are sound if it is an address. -/
theorem HostAt.bracketsAreSound_eq {authority : Text}
    (hhost : HostAt (Text.afterLast '@' authority) host) :
    bracketsAreSound authority =
      if host.head? = some 'v' then isFutureAddress host else isIPv6 host := by
  generalize hplace : Text.afterLast '@' authority = place at hhost
  cases hhost with
  | bare hcolon hbracket =>
      have hopen := Text.cut_of_not_mem hbracket
      simp [bracketsAreSound, hostAndPort, hplace, hopen, cut_behind hcolon]
  | @bracketed _ port hclose =>
      have hhead : behind ':' port = [] ∨ (behind ':' port).head? = some ':' :=
        eq_behind_iff.mp ⟨port, rfl⟩
      have hbeside : ((behind ':' port).isEmpty ||
          decide ((behind ':' port).head? = some ':')) = true := by
        simpa using hhead
      simp [bracketsAreSound, hostAndPort, hplace, Text.cut, Text.cut_append hclose, hbeside]
  | unclosed hclose =>
      simp [bracketsAreSound, hostAndPort, hplace, Text.cut, Text.cut_of_not_mem hclose]

theorem hostAt_of_bare (hbracket : '[' ∉ place) : HostAt place (Text.cut ':' place).1 := by
  have hwhole := behind_cut ':' place
  have hhost := HostAt.bare (Text.not_mem_cut ':' place) (hwhole.symm ▸ hbracket)
  rwa [hwhole] at hhost

theorem hostAt_of_open {bracketed : Text}
    (hbehind : (Text.cut ']' bracketed).2.getD [] = [] ∨
      ((Text.cut ']' bracketed).2.getD []).head? = some ':') :
    HostAt ('[' :: bracketed) (Text.cut ']' bracketed).1 := by
  have hwhole := behind_cut ']' bracketed
  have hclose := Text.not_mem_cut ']' bracketed
  cases hrest : (Text.cut ']' bracketed).2 with
  | none =>
      have hhost := HostAt.unclosed hclose
      rw [hrest, behind, Option.map_none, Option.getD_none, List.append_nil] at hwhole
      rwa [hwhole] at hhost ⊢
  | some rest =>
      rw [hrest, Option.getD_some] at hbehind
      obtain ⟨port, rfl⟩ := eq_behind_iff.mpr hbehind
      have hhost := @HostAt.bracketed _ port hclose
      rw [hrest, behind, Option.map_some, Option.getD_some] at hwhole
      rwa [hwhole] at hhost

theorem exists_hostAt {authority : Text} (hsound : bracketsAreSound authority = true) :
    ∃ host, HostAt (Text.afterLast '@' authority) host := by
  rw [bracketsAreSound] at hsound
  generalize Text.afterLast '@' authority = place at hsound
  have hwhole := behind_cut '[' place
  have hbefore := Text.not_mem_cut '[' place
  cases hcut : Text.cut '[' place with
  | mk before rest =>
      rw [hcut] at hwhole hbefore hsound
      cases rest with
      | none =>
          obtain rfl : before = place := by simpa [behind] using hwhole
          exact ⟨_, hostAt_of_bare hbefore⟩
      | some bracketed =>
          simp only [Bool.and_eq_true, Bool.or_eq_true, List.isEmpty_iff, decide_eq_true_eq]
            at hsound
          obtain ⟨⟨rfl, hbehind⟩, -⟩ := hsound
          obtain rfl : '[' :: bracketed = place := hwhole
          exact ⟨_, hostAt_of_open hbehind⟩

theorem bracketsAreSound_iff (authority : Text) :
    bracketsAreSound authority = true ↔
      ∃ host, HostAt (Text.afterLast '@' authority) host ∧ IsAddress host := by
  constructor
  · intro hsound
    obtain ⟨host, hhost⟩ := exists_hostAt hsound
    rw [hhost.bracketsAreSound_eq] at hsound
    refine ⟨host, hhost, ?_⟩
    rw [IsAddress]
    split at hsound <;> simp_all
  · rintro ⟨host, hhost, haddress⟩
    rw [hhost.bracketsAreSound_eq]
    rw [IsAddress] at haddress
    split at haddress <;> simp_all

theorem bracketsAllowed_iff (authority : Text) :
    bracketsAllowed authority = true ↔
      ('[' ∈ authority ↔ ']' ∈ authority) ∧
        ('[' ∈ authority →
          ∃ host, HostAt (Text.afterLast '@' authority) host ∧ IsAddress host) := by
  rw [← bracketsAreSound_iff]
  by_cases hopen : '[' ∈ authority <;> by_cases hclose : ']' ∈ authority <;>
    simp [bracketsAllowed, hopen, hclose]

/-! ## Texts that are refused -/

theorem splits_iff (t : Text) :
    Splits t ↔ bracketsAllowed (authorityOf t) = true ∧
      (authorityOf t).any standsForSeparator = false := by
  rw [bracketsAllowed_iff, List.any_eq_false]
  simp only [Bool.not_eq_true]
  constructor
  · intro hsplits
    exact ⟨⟨hsplits.paired, hsplits.address⟩, hsplits.separators⟩
  · rintro ⟨⟨hpaired, haddress⟩, hseparators⟩
    exact ⟨hpaired, haddress, hseparators⟩

theorem ofText?_eq_none_iff (t : Text) :
    ofText? t = none ↔ (∃ c ∈ t, Text.isBlank c = true) ∨ ¬ Splits t ∨
      ¬ NamesPort (hostAndPort (authorityOf t)).2 := by
  have hread : ofText? t =
      if t.any Text.isBlank then none
      else if bracketsAllowed (authorityOf t) && !(authorityOf t).any standsForSeparator
          && portAllowed (hostAndPort (authorityOf t)).2 then
        some ⟨authorityOf t,
          dropQuery (splitAuthority (dropScheme (t.dropWhile isControlOrSpace))).2⟩
      else none := rfl
  rw [hread, splits_iff, ← portAllowed_iff, ← List.any_eq_true]
  by_cases hblank : t.any Text.isBlank = true
  · simp [hblank]
  · rw [if_neg hblank]
    cases bracketsAllowed (authorityOf t) <;> cases (authorityOf t).any standsForSeparator <;>
      cases portAllowed (hostAndPort (authorityOf t)).2 <;> simp [hblank]

theorem pathOrRoot_ne_nil (url : Url) : url.pathOrRoot ≠ [] := by
  rw [pathOrRoot]
  split
  · exact List.cons_ne_nil _ _
  · next hpath => simpa using hpath

theorem host?_ne_some_nil (url : Url) : url.host? ≠ some [] := by
  rw [host?]
  cases hhost : (hostAndPort url.authority).1 with
  | nil => simp
  | cons c rest =>
      -- Neither lower-casing the name nor keeping the zone leaves nothing of something.
      intro hnil
      rw [Option.some.injEq, List.append_eq_nil_iff, Text.lower_eq_nil_iff] at hnil
      have hwhole := Text.append_cut '%' (c :: rest)
      rw [hnil.1, hnil.2] at hwhole
      cases hwhole

theorem pathOf?_eq_none_iff : pathOf? t = none ↔ ofText? t = none := Option.map_eq_none_iff

theorem pathOf?_ne_some_nil (t : Text) : pathOf? t ≠ some [] := by
  intro hnil
  obtain ⟨url, -, hpath⟩ := Option.map_eq_some_iff.mp hnil
  exact url.pathOrRoot_ne_nil hpath

theorem hostOf?_ne_some_nil (t : Text) : hostOf? t ≠ some [] := by
  intro hnil
  obtain ⟨url, -, hhost⟩ := Option.bind_eq_some_iff.mp hnil
  exact url.host?_ne_some_nil hhost

theorem hostOf?_eq_none_of_refused (hrefused : pathOf? t = none) : hostOf? t = none := by
  rw [hostOf?, pathOf?_eq_none_iff.mp hrefused, Option.bind_none]

end Url

/-! ## What rules exclude -/

namespace Rule

open Url (pathOf? hostOf? Splits NamesPort hostAndPort authorityOf)

variable {rule : Rule} {url : Text}

theorem excludes_of_refused (hrefused : pathOf? url = none) (hkind : rule.kind ≠ .endpoint)
    (method : Text) : rule.excludes method url = false := by
  rw [excludes]
  cases hrule : rule.kind with
  | host => rw [Url.hostOf?_eq_none_of_refused hrefused, Option.any_none]
  | path => rw [hrefused, Option.any_none]
  | endpoint => exact absurd hrule hkind

theorem excludes_of_empty_pattern (hpattern : rule.pattern = []) (method url : Text) :
    rule.excludes method url = false := by
  rw [excludes, hpattern]
  cases rule.kind with
  | host =>
      cases hhost : hostOf? url with
      | none => rfl
      | some host =>
          have hne : host ≠ [] := fun hnil => Url.hostOf?_ne_some_nil url (hnil ▸ hhost)
          have hlower : Text.lower host ≠ [] := fun hnil => hne (Text.lower_eq_nil_iff.mp hnil)
          simpa [Text.lower_eq_nil_iff.mpr rfl] using hlower
  | path =>
      cases hpath : pathOf? url with
      | none => rfl
      | some path =>
          have hne : path ≠ [] := fun hnil => Url.pathOf?_ne_some_nil url (hnil ▸ hpath)
          simpa [pathFits] using hne
  | endpoint => simp

theorem excludes_own_host (hkind : rule.kind = .host) (hhost : hostOf? url = some rule.pattern)
    (method : Text) : rule.excludes method url = true := by
  simp [excludes, hkind, hhost]

theorem pathFits_self (path : Text) : pathFits path path = true := by
  rw [pathFits_iff]
  by_cases hstar : path.getLast? = some '*'
  · obtain ⟨start, rfl⟩ := List.getLast?_eq_some_iff.mp hstar
    exact .inl ⟨start, rfl, List.prefix_append start ['*']⟩
  · exact .inr ⟨hstar, rfl⟩

theorem excludes_own_path (hkind : rule.kind = .path) (hpath : pathOf? url = some rule.pattern)
    (method : Text) : rule.excludes method url = true := by
  simp [excludes, hkind, hpath, pathFits_self]

theorem excludes_of_star {path : Text} (hkind : rule.kind = .path) (hpattern : rule.pattern = ['*'])
    (hpath : pathOf? url = some path) (method : Text) : rule.excludes method url = true := by
  simp [excludes, hkind, hpattern, hpath, pathFits]

/-- A text is no URL exactly if there is white space in it, its authority cannot be taken apart, or
its port is no port.  Then no rule for hosts or paths excludes it, not even a star.  Else it has a
path that is not empty, which a star fits, and its host is not empty if it has one.  So nothing is
excluded by an empty pattern, and every URL by its own host and by its own path. -/
theorem excludes_only_urls (method url : Text) :
    (pathOf? url = none ↔ (∃ c ∈ url, Text.isBlank c = true) ∨ ¬ Splits url ∨
      ¬ NamesPort (hostAndPort (authorityOf url)).2) ∧
    (pathOf? url = none → hostOf? url = none ∧
      ∀ rule : Rule, rule.kind ≠ .endpoint → rule.excludes method url = false) ∧
    (∀ path, pathOf? url = some path → path ≠ [] ∧ hostOf? url ≠ some [] ∧
      ∀ rule : Rule, rule.kind = .path → rule.pattern = ['*'] → rule.excludes method url = true) ∧
    ∀ rule : Rule, (rule.pattern = [] → rule.excludes method url = false) ∧
      (rule.kind = .host ∧ hostOf? url = some rule.pattern ∨
        rule.kind = .path ∧ pathOf? url = some rule.pattern →
          rule.excludes method url = true) := by
  refine ⟨Url.pathOf?_eq_none_iff.trans (Url.ofText?_eq_none_iff url), ?_, ?_, ?_⟩
  · intro hrefused
    exact ⟨Url.hostOf?_eq_none_of_refused hrefused, fun rule hkind =>
      excludes_of_refused hrefused hkind method⟩
  · intro path hpath
    refine ⟨?_, Url.hostOf?_ne_some_nil url, ?_⟩
    · rintro rfl
      exact Url.pathOf?_ne_some_nil url hpath
    · intro rule hkind hpattern
      exact excludes_of_star hkind hpattern hpath method
  · intro rule
    refine ⟨fun hpattern => excludes_of_empty_pattern hpattern method url, ?_⟩
    rintro (⟨hkind, hhost⟩ | ⟨hkind, hpath⟩)
    · exact excludes_own_host hkind hhost method
    · exact excludes_own_path hkind hpath method

/-! ## A port beyond the last one, and an address with a zone -/

namespace Outskirts

def beyond : Text := "https://shop.example:65536/a*"

def zoned : Text := "https://u@[FE80::1%Zone]:065535/a*?b"

def starRule : Rule := ⟨.path, ['*'], ['s']⟩

def emptyRule : Rule := ⟨.host, [], ['e']⟩

def hostRule : Rule := ⟨.host, "fe80::1%Zone", ['h']⟩

def pathRule : Rule := ⟨.path, "/a*", ['p']⟩

theorem star_misses_port_beyond_last :
    pathOf? beyond = none ∧ starRule.excludes "GET" beyond = false ∧
      pathOf? zoned = some pathRule.pattern ∧ hostOf? zoned = some hostRule.pattern ∧
      starRule.excludes "GET" zoned = true ∧ hostRule.excludes "GET" zoned = true ∧
      pathRule.excludes "GET" zoned = true ∧ emptyRule.excludes "GET" zoned = false := by
  have hbeyond : pathOf? beyond = none := by decide +kernel
  have hpath : pathOf? zoned = some pathRule.pattern := by decide +kernel
  have hhost : hostOf? zoned = some hostRule.pattern := by decide +kernel
  obtain ⟨-, hrefused, -, -⟩ := excludes_only_urls "GET" beyond
  obtain ⟨-, -, hread, hrules⟩ := excludes_only_urls "GET" zoned
  obtain ⟨-, -, hstar⟩ := hread pathRule.pattern hpath
  have hmissed := (hrefused hbeyond).2 starRule (by decide)
  have hown := (hrules hostRule).2 (.inl ⟨rfl, hhost⟩)
  have hown' := (hrules pathRule).2 (.inr ⟨rfl, hpath⟩)
  have hempty := (hrules emptyRule).1 rfl
  exact ⟨hbeyond, hmissed, hpath, hhost, hstar starRule rfl rfl, hown, hown', hempty⟩

end Outskirts

end Rule
end HeaderAudit
