import HeaderAudit.Text.Utf8

/-!
# Decoding UTF-8

Bytes are decoded to a text exactly when they are the encoding of that text.  A sequence of bytes is
compared with the encoding of one character by arithmetic on the six bits that each byte after the
first carries; the bounds on the second byte leave out what is too long, a surrogate or beyond the
last character.
-/

namespace HeaderAudit.Text

variable {c : Char} {b : UInt8} {code n : Nat} {following more : List (UInt8 × UInt8)}
  {bytes : List UInt8} {t : Text}

/-! ## The bytes of a character -/

theorem encodeChar_one (hc : c.toNat < 0x80) : encodeChar c = [UInt8.ofNat c.toNat] := by
  unfold encodeChar String.utf8EncodeChar
  simp only [Char.toNat_val]
  rw [if_pos (by omega)]

theorem encodeChar_two (hlow : 0x80 ≤ c.toNat) (hc : c.toNat < 0x800) :
    encodeChar c = [UInt8.ofNat (0xC0 + c.toNat / 64), UInt8.ofNat (0x80 + c.toNat % 64)] := by
  have hfirst : c.toNat / 64 % 0x20 + 0xc0 = 0xC0 + c.toNat / 64 := by omega
  unfold encodeChar String.utf8EncodeChar
  simp only [Char.toNat_val]
  rw [if_neg (by omega), if_pos (by omega), hfirst, Nat.add_comm (c.toNat % 0x40)]

theorem encodeChar_three (hlow : 0x800 ≤ c.toNat) (hc : c.toNat < 0x10000) :
    encodeChar c = [UInt8.ofNat (0xE0 + c.toNat / 4096), UInt8.ofNat (0x80 + c.toNat / 64 % 64),
      UInt8.ofNat (0x80 + c.toNat % 64)] := by
  have hfirst : c.toNat / 4096 % 0x10 + 0xe0 = 0xE0 + c.toNat / 4096 := by omega
  unfold encodeChar String.utf8EncodeChar
  simp only [Char.toNat_val]
  rw [if_neg (by omega), if_neg (by omega), if_pos (by omega), hfirst,
    Nat.add_comm (c.toNat / 64 % 0x40), Nat.add_comm (c.toNat % 0x40)]

theorem isValidChar_toNat (c : Char) : c.toNat.isValidChar := c.valid

theorem encodeChar_four (hlow : 0x10000 ≤ c.toNat) :
    encodeChar c = [UInt8.ofNat (0xF0 + c.toNat / 262144),
      UInt8.ofNat (0x80 + c.toNat / 4096 % 64), UInt8.ofNat (0x80 + c.toNat / 64 % 64),
      UInt8.ofNat (0x80 + c.toNat % 64)] := by
  have hvalid := isValidChar_toNat c
  unfold Nat.isValidChar at hvalid
  have hfirst : c.toNat / 262144 % 0x08 + 0xf0 = 0xF0 + c.toNat / 262144 := by omega
  unfold encodeChar String.utf8EncodeChar
  simp only [Char.toNat_val]
  rw [if_neg (by omega), if_neg (by omega), if_neg (by omega), hfirst,
    Nat.add_comm (c.toNat / 4096 % 0x40), Nat.add_comm (c.toNat / 64 % 0x40),
    Nat.add_comm (c.toNat % 0x40)]

/-! ## What a first byte announces -/

/-- The second of three bytes makes the sequence neither too long nor a surrogate. -/
def secondOfThree (code : Nat) : UInt8 × UInt8 :=
  (if code = 0 then 0xA0 else 0x80, if code = 13 then 0x9F else 0xBF)

/-- The second of four bytes makes the sequence neither too long nor too large. -/
def secondOfFour (code : Nat) : UInt8 × UInt8 :=
  (if code = 0 then 0x90 else 0x80, if code = 4 then 0x8F else 0xBF)

/-- A byte that begins a sequence, with its own bits and the bounds that it announces. -/
inductive Lead : UInt8 → Nat → List (UInt8 × UInt8) → Prop where
  | one {code : Nat} : code < 0x80 → Lead (UInt8.ofNat code) code []
  | two {code : Nat} : 2 ≤ code → code < 0x20 →
      Lead (UInt8.ofNat (0xC0 + code)) code [(0x80, 0xBF)]
  | three {code : Nat} : code < 0x10 →
      Lead (UInt8.ofNat (0xE0 + code)) code [secondOfThree code, (0x80, 0xBF)]
  | four {code : Nat} : code < 5 →
      Lead (UInt8.ofNat (0xF0 + code)) code [secondOfFour code, (0x80, 0xBF), (0x80, 0xBF)]

theorem Lead.sequenceStart?_eq (hlead : Lead b code following) :
    sequenceStart? b = some (code, following) := by
  have hones : ∀ code < 0x80, sequenceStart? (UInt8.ofNat code) = some (code, []) := by decide
  have htwos : ∀ k < 30, sequenceStart? (UInt8.ofNat (0xC0 + (2 + k))) =
      some (2 + k, [(0x80, 0xBF)]) := by
    decide
  have hthrees : ∀ code < 0x10, sequenceStart? (UInt8.ofNat (0xE0 + code)) =
      some (code, [secondOfThree code, (0x80, 0xBF)]) := by
    decide
  have hfours : ∀ code < 5, sequenceStart? (UInt8.ofNat (0xF0 + code)) =
      some (code, [secondOfFour code, (0x80, 0xBF), (0x80, 0xBF)]) := by
    decide
  cases hlead with
  | one hcode => exact hones _ hcode
  | two hlow hcode =>
      obtain ⟨k, rfl⟩ := Nat.exists_eq_add_of_le hlow
      exact htwos k (by omega)
  | three hcode => exact hthrees _ hcode
  | four hcode => exact hfours _ hcode

theorem lead_or_none (b : UInt8) :
    (∃ code following, Lead b code following) ∨ sequenceStart? b = none := by
  have hcontinuing : ∀ n < 0x42, sequenceStart? (UInt8.ofNat (0x80 + n)) = none := by decide
  have hbeyond : ∀ n < 11, sequenceStart? (UInt8.ofNat (0xF5 + n)) = none := by decide
  have hsize : b.toNat < 256 := b.toNat_lt
  have hoffset : ∀ start ≤ b.toNat, b = UInt8.ofNat (start + (b.toNat - start)) := by
    intro start hstart
    rw [Nat.add_sub_cancel' hstart, UInt8.ofNat_toNat]
  by_cases hone : b.toNat < 0x80
  · refine .inl ⟨b.toNat, [], ?_⟩
    have hlead := Lead.one hone
    rwa [UInt8.ofNat_toNat] at hlead
  by_cases hcontinue : b.toNat < 0xC2
  · right
    rw [hoffset 0x80 (by omega)]
    exact hcontinuing _ (by omega)
  by_cases htwo : b.toNat < 0xE0
  · left
    rw [hoffset 0xC0 (by omega)]
    exact ⟨_, _, .two (by omega) (by omega)⟩
  by_cases hthree : b.toNat < 0xF0
  · left
    rw [hoffset 0xE0 (by omega)]
    exact ⟨_, _, .three (by omega)⟩
  by_cases hfour : b.toNat < 0xF5
  · left
    rw [hoffset 0xF0 (by omega)]
    exact ⟨_, _, .four (by omega)⟩
  · right
    rw [hoffset 0xF5 (by omega)]
    exact hbeyond _ (by omega)

theorem lead_of_sequenceStart? (hstart : sequenceStart? b = some (code, following)) :
    Lead b code following := by
  rcases lead_or_none b with ⟨code', following', hlead⟩ | hnone
  · have hsame := hlead.sequenceStart?_eq
    rw [hstart, Option.some.injEq, Prod.mk.injEq] at hsame
    obtain ⟨rfl, rfl⟩ := hsame
    exact hlead
  · rw [hnone] at hstart
    cases hstart

/-! ## The bytes that follow -/

/-- The byte that carries these six bits is within the bounds. -/
def Allows (bounds : UInt8 × UInt8) (d : Nat) : Prop :=
  bounds.1.toNat ≤ 0x80 + d ∧ 0x80 + d ≤ bounds.2.toNat

/-- Nothing but six bits is within the bounds. -/
def SixBits (bounds : UInt8 × UInt8) : Prop := 0x80 ≤ bounds.1.toNat ∧ bounds.2.toNat ≤ 0xBF

theorem allows_any {d : Nat} (hd : d < 64) : Allows (0x80, 0xBF) d := by
  unfold Allows
  simp
  omega

theorem sixBits_any : SixBits (0x80, 0xBF) := ⟨by decide, by decide⟩

theorem allows_secondOfThree_iff {d : Nat} (hd : d < 64) :
    Allows (secondOfThree code) d ↔ (code = 0 → 32 ≤ d) ∧ (code = 13 → d < 32) := by
  unfold Allows secondOfThree
  by_cases hzero : code = 0
  · simp [hzero]
    omega
  · by_cases hsurrogate : code = 13
    · simp [hsurrogate]
      omega
    · simp [hzero, hsurrogate]
      omega

theorem sixBits_secondOfThree (code : Nat) : SixBits (secondOfThree code) := by
  unfold SixBits secondOfThree
  constructor
  · by_cases hzero : code = 0 <;> simp [hzero]
  · by_cases hsurrogate : code = 13 <;> simp [hsurrogate]

theorem allows_secondOfFour_iff {d : Nat} (hd : d < 64) :
    Allows (secondOfFour code) d ↔ (code = 0 → 16 ≤ d) ∧ (code = 4 → d < 16) := by
  unfold Allows secondOfFour
  by_cases hzero : code = 0
  · simp [hzero]
    omega
  · by_cases hlast : code = 4
    · simp [hlast]
      omega
    · simp [hzero, hlast]
      omega

theorem sixBits_secondOfFour (code : Nat) : SixBits (secondOfFour code) := by
  unfold SixBits secondOfFour
  constructor
  · by_cases hzero : code = 0 <;> simp [hzero]
  · by_cases hlast : code = 4 <;> simp [hlast]

theorem continueSequence_cons {bounds : UInt8 × UInt8} {d : Nat} (hd : d < 64)
    (hallows : Allows bounds d) (hmore : continueSequence (code * 64 + d) more bytes = .ok n) :
    continueSequence code (bounds :: more) (UInt8.ofNat (0x80 + d) :: bytes) = .ok n := by
  obtain ⟨low, high⟩ := bounds
  have hbyte : (UInt8.ofNat (0x80 + d)).toNat = 0x80 + d := by
    rw [UInt8.toNat_ofNat']
    omega
  have hbounds : low ≤ UInt8.ofNat (0x80 + d) ∧ UInt8.ofNat (0x80 + d) ≤ high := by
    rw [UInt8.le_iff_toNat_le, UInt8.le_iff_toNat_le, hbyte]
    exact hallows
  rw [continueSequence, if_pos hbounds, hbyte, Nat.add_sub_cancel_left, hmore]

theorem continueSequence_cons_cases {bounds : UInt8 × UInt8} (hsix : SixBits bounds)
    (hread : continueSequence code (bounds :: more) bytes = .ok n) :
    ∃ d rest, d < 64 ∧ Allows bounds d ∧ bytes = UInt8.ofNat (0x80 + d) :: rest ∧
      continueSequence (code * 64 + d) more rest = .ok n := by
  obtain ⟨low, high⟩ := bounds
  obtain ⟨hlow, hhigh⟩ := hsix
  cases bytes with
  | nil => simp [continueSequence] at hread
  | cons b rest =>
      rw [continueSequence] at hread
      by_cases hbounds : low ≤ b ∧ b ≤ high
      · rw [if_pos hbounds] at hread
        rw [UInt8.le_iff_toNat_le, UInt8.le_iff_toNat_le] at hbounds
        simp only at hlow hhigh
        have hbyte : 0x80 + (b.toNat - 0x80) = b.toNat := by omega
        refine ⟨b.toNat - 0x80, rest, by omega, ?_, ?_, ?_⟩
        · rw [Allows, hbyte]
          exact hbounds
        · rw [hbyte, UInt8.ofNat_toNat]
        · cases hmore : continueSequence (code * 64 + (b.toNat - 0x80)) more rest with
          | error e => simp [hmore] at hread
          | ok m => simpa [hmore] using hread
      · simp [hbounds] at hread

/-! ## One character -/

theorem toNat_ofNat_of_isValidChar (hn : n.isValidChar) : (Char.ofNat n).toNat = n := by
  rw [Char.ofNat, dif_pos hn]
  rfl

/-- A sequence that is read is the encoding of the character that it is read as. -/
theorem encodeChar_of_continueSequence (hlead : Lead b code following)
    (hread : continueSequence code following bytes = .ok n) :
    ∃ good rest, bytes = good ++ rest ∧ good.length = following.length ∧
      encodeChar (Char.ofNat n) = b :: good := by
  cases hlead with
  | one hcode =>
      rw [continueSequence, Except.ok.injEq] at hread
      subst hread
      have hvalue := toNat_ofNat_of_isValidChar (n := code) (.inl (by omega))
      refine ⟨[], bytes, rfl, rfl, ?_⟩
      rw [encodeChar_one (by omega), hvalue]
  | two hlow hcode =>
      obtain ⟨d, rest, hd, -, rfl, hlast⟩ := continueSequence_cons_cases sixBits_any hread
      rw [continueSequence, Except.ok.injEq] at hlast
      have hvalue := toNat_ofNat_of_isValidChar (n := n) (.inl (by omega))
      have hfirst : n / 64 = code := by omega
      have hsecond : n % 64 = d := by omega
      refine ⟨[_], rest, rfl, rfl, ?_⟩
      rw [encodeChar_two (by omega) (by omega), hvalue, hfirst, hsecond]
  | three hcode =>
      obtain ⟨d, _, hd, hallows, rfl, hmore⟩ :=
        continueSequence_cons_cases (sixBits_secondOfThree code) hread
      obtain ⟨e, rest, he, -, rfl, hlast⟩ := continueSequence_cons_cases sixBits_any hmore
      -- without the bounds on the second byte, the number could be small or that of a surrogate
      rw [allows_secondOfThree_iff hd] at hallows
      rw [continueSequence, Except.ok.injEq] at hlast
      have hvalue := toNat_ofNat_of_isValidChar (n := n) (by unfold Nat.isValidChar; omega)
      have hfirst : n / 4096 = code := by omega
      have hsecond : n / 64 % 64 = d := by omega
      have hthird : n % 64 = e := by omega
      refine ⟨[_, _], rest, rfl, rfl, ?_⟩
      rw [encodeChar_three (by omega) (by omega), hvalue, hfirst, hsecond, hthird]
  | four hcode =>
      obtain ⟨d, _, hd, hallows, rfl, hmore⟩ :=
        continueSequence_cons_cases (sixBits_secondOfFour code) hread
      obtain ⟨e, _, he, -, rfl, hthen⟩ := continueSequence_cons_cases sixBits_any hmore
      obtain ⟨f, rest, hf, -, rfl, hlast⟩ := continueSequence_cons_cases sixBits_any hthen
      rw [allows_secondOfFour_iff hd] at hallows
      rw [continueSequence, Except.ok.injEq] at hlast
      have hvalue := toNat_ofNat_of_isValidChar (n := n) (by unfold Nat.isValidChar; omega)
      have hfirst : n / 262144 = code := by omega
      have hsecond : n / 4096 % 64 = d := by omega
      have hthird : n / 64 % 64 = e := by omega
      have hfourth : n % 64 = f := by omega
      refine ⟨[_, _, _], rest, rfl, rfl, ?_⟩
      rw [encodeChar_four (by omega), hvalue, hfirst, hsecond, hthird, hfourth]

theorem continueSequence_encodeChar (c : Char) (rest : List UInt8) :
    ∃ b good code following, encodeChar c = b :: good ∧ Lead b code following ∧
      good.length = following.length ∧
      continueSequence code following (good ++ rest) = .ok c.toNat := by
  have hvalid := isValidChar_toNat c
  unfold Nat.isValidChar at hvalid
  have hbits : c.toNat % 64 < 64 := Nat.mod_lt _ (by decide)
  have hbits' : c.toNat / 64 % 64 < 64 := Nat.mod_lt _ (by decide)
  have hbits'' : c.toNat / 4096 % 64 < 64 := Nat.mod_lt _ (by decide)
  by_cases hone : c.toNat < 0x80
  · exact ⟨_, _, _, _, encodeChar_one hone, .one hone, rfl, rfl⟩
  by_cases htwo : c.toNat < 0x800
  · refine ⟨_, _, _, _, encodeChar_two (by omega) htwo, .two (by omega) (by omega), rfl, ?_⟩
    refine continueSequence_cons hbits (allows_any hbits) ?_
    rw [continueSequence, Nat.div_add_mod']
  by_cases hthree : c.toNat < 0x10000
  · refine ⟨_, _, _, _, encodeChar_three (by omega) hthree, .three (by omega), rfl, ?_⟩
    refine continueSequence_cons hbits' ((allows_secondOfThree_iff hbits').mpr (by omega)) ?_
    refine continueSequence_cons hbits (allows_any hbits) ?_
    rw [continueSequence, Except.ok.injEq]
    omega
  · refine ⟨_, _, _, _, encodeChar_four (by omega), .four (by omega), rfl, ?_⟩
    refine continueSequence_cons hbits'' ((allows_secondOfFour_iff hbits'').mpr (by omega)) ?_
    refine continueSequence_cons hbits' (allows_any hbits') ?_
    refine continueSequence_cons hbits (allows_any hbits) ?_
    rw [continueSequence, Except.ok.injEq]
    omega

/-! ## A whole text -/

theorem decodeFrom_skip (good : List UInt8) (position : Nat) (rest : List UInt8) :
    decodeFrom good.length position (good ++ rest) =
      decodeFrom 0 (position + good.length) rest := by
  induction good generalizing position with
  | nil => rfl
  | cons b good ih =>
      have hnext : position + (b :: good).length = position + 1 + good.length := by
        rw [List.length_cons]
        omega
      rw [hnext, ← ih]
      rfl

theorem decodeFrom_encodeUtf8 (t : Text) (position : Nat) :
    decodeFrom 0 position (encodeUtf8 t) = .ok t := by
  induction t generalizing position with
  | nil => rfl
  | cons c t ih =>
      obtain ⟨b, good, code, following, hbytes, hlead, hlength, hread⟩ :=
        continueSequence_encodeChar c (encodeUtf8 t)
      have hencoded : encodeUtf8 (c :: t) = b :: (good ++ encodeUtf8 t) := by
        rw [encodeUtf8, List.flatMap_cons, hbytes]
        rfl
      rw [hencoded, decodeFrom]
      simp only [hlead.sequenceStart?_eq, hread, ← hlength, decodeFrom_skip, ih, Char.ofNat_toNat]
      rfl

theorem decodeFrom_cons_cases {position : Nat}
    (hread : decodeFrom 0 position (b :: bytes) = .ok t) :
    ∃ code following n rest, Lead b code following ∧ continueSequence code following bytes = .ok n ∧
      decodeFrom following.length (position + 1) bytes = .ok rest ∧ t = Char.ofNat n :: rest := by
  rw [decodeFrom] at hread
  cases hstart : sequenceStart? b with
  | none => simp [hstart] at hread
  | some found =>
      obtain ⟨code, following⟩ := found
      cases hcode : continueSequence code following bytes with
      | error e => simp [hstart, hcode] at hread
      | ok n =>
          cases hrest : decodeFrom following.length (position + 1) bytes with
          | error e => simp [hstart, hcode, hrest, Functor.map, Except.map] at hread
          | ok rest =>
              simp only [hstart, hcode, hrest, Functor.map, Except.map, Except.ok.injEq] at hread
              exact ⟨code, following, n, rest, lead_of_sequenceStart? hstart, hcode, hrest,
                hread.symm⟩

theorem encodeUtf8_of_decodeFrom {position : Nat} (hread : decodeFrom 0 position bytes = .ok t) :
    encodeUtf8 t = bytes := by
  -- each sequence makes one character, so the induction is on the text and not on the bytes
  induction t generalizing bytes position with
  | nil =>
      cases bytes with
      | nil => rfl
      | cons b bytes =>
          obtain ⟨_, _, _, _, -, -, -, hcons⟩ := decodeFrom_cons_cases hread
          cases hcons
  | cons c t ih =>
      cases bytes with
      | nil => simp [decodeFrom] at hread
      | cons b bytes =>
          obtain ⟨code, following, n, rest, hlead, hcode, hrest, hcons⟩ :=
            decodeFrom_cons_cases hread
          obtain ⟨rfl, rfl⟩ := List.cons.inj hcons
          obtain ⟨good, behind, rfl, hlength, hchar⟩ := encodeChar_of_continueSequence hlead hcode
          rw [← hlength, decodeFrom_skip] at hrest
          have hbehind := ih hrest
          rw [encodeUtf8, List.flatMap_cons, hchar]
          rw [encodeUtf8] at hbehind
          rw [hbehind]
          rfl

theorem decodeUtf8_encodeUtf8 (t : Text) : decodeUtf8 (encodeUtf8 t) = .ok t :=
  decodeFrom_encodeUtf8 t 0

/-- Bytes are read as a text exactly when they are its encoding. -/
theorem encodeUtf8_injective {t u : Text} (hsame : encodeUtf8 t = encodeUtf8 u) : t = u := by
  have hdecoded := decodeUtf8_encodeUtf8 t
  rw [hsame, decodeUtf8_encodeUtf8, Except.ok.injEq] at hdecoded
  exact hdecoded.symm

theorem decodeUtf8_eq_ok_iff : decodeUtf8 bytes = .ok t ↔ encodeUtf8 t = bytes := by
  constructor
  · exact encodeUtf8_of_decodeFrom
  · rintro rfl
    exact decodeUtf8_encodeUtf8 t

end HeaderAudit.Text
