import LogIntake.Text.Utf8

/-!
# Bytes decoded and encoded

* `Progress.Wide`: what has been read already makes the character one of at least two bytes; kept by
  `Progress.Wide.step`.
* `Opening.IsFor`: what the first byte of a character says of it; `opening_isFor`.
* **`mem_of_mem_decodeLossy`**: a character of one byte stands only where its byte does.
* `decodeLossy_append_cons`, `isSome_decode?_append_cons`: what stands in front of such a byte and what
  follows it are read on their own.
* `decode?_eq`: what is no text has a malformed stretch.
* `opening_two`, `opening_three`, `opening_four`: the first byte of a character that takes several.
* `unitsFrom_encodeChar`, **`decodeLossy_encode`**: a text is read from its bytes.
* `mem_of_mem_encode`: a byte below 128 stands only where its character does.
-/

namespace LogIntake.Text.Utf8

/-- Inside a character of at least two bytes, which is none of the first 128 characters. -/
structure Progress.Wide (p : Progress) : Prop where
  low : 0x80 ≤ p.low
  code : p.need ≤ 1 → 2 ≤ p.code
  next : 2 ≤ p.code * 64 + (p.low - 0x80)

/-- The progress after one more byte. -/
theorem Progress.Wide.step {p : Progress} (h : p.Wide) {n : Nat} (hn : p.low ≤ n) :
    Progress.Wide ⟨p.need - 1, p.code * 64 + (n - 0x80), 0x80, 0xBF⟩ := by
  have hcode : 2 ≤ p.code * 64 + (n - 0x80) := by
    have := h.next
    omega
  exact ⟨Nat.le_refl _, fun _ => hcode, by simp only; omega⟩

/-- What a byte at the start of a character says of the character. -/
def Opening.IsFor (b : UInt8) : Opening → Prop
  | .whole c => c = Char.ofNat b.toNat ∧ b.toNat < 0x80
  | .opens p => p.Wide
  | .malformed => True

theorem opening_isFor (b : UInt8) : (opening b).IsFor b := by
  unfold opening
  dsimp only
  split
  · exact ⟨rfl, ‹_›⟩
  · repeat' split
    all_goals first
      | exact trivial
      | exact ⟨by simp only; omega, by simp only; omega, by simp only; omega⟩

theorem toNat_ofNat_of_valid {n : Nat} (h : n.isValidChar) : (Char.ofNat n).toNat = n := by
  rw [Char.ofNat, dif_pos h]
  rfl

/-- A number of at least 128 stands for a character beyond the first 128, or for none at all. -/
theorem toNat_ofNat_of_le {n : Nat} (h : 0x80 ≤ n) :
    (Char.ofNat n).toNat = 0 ∨ 0x80 ≤ (Char.ofNat n).toNat := by
  by_cases hn : n.isValidChar
  · right
    rw [toNat_ofNat_of_valid hn]
    exact h
  · left
    rw [Char.ofNat, dif_neg hn]
    rfl

variable {c : Char}

theorem mem_of_mem_unitsFrom (hpos : 0 < c.toNat) (hlt : c.toNat < 0x80) {bytes : List UInt8}
    {progress : Option Progress} (hp : ∀ p ∈ progress, p.Wide)
    (hc : some c ∈ unitsFrom progress bytes) : UInt8.ofNat c.toNat ∈ bytes := by
  induction bytes generalizing progress with
  | nil => cases progress <;> simp [unitsFrom] at hc
  | cons b bytes ih =>
    have hnone : some c ∈ unitsFrom none bytes → UInt8.ofNat c.toNat ∈ b :: bytes := fun h =>
      List.mem_cons_of_mem b (ih (by simp) h)
    have hsome : ∀ p : Progress, p.Wide → some c ∈ unitsFrom (some p) bytes →
        UInt8.ofNat c.toNat ∈ b :: bytes := fun p hp h =>
      List.mem_cons_of_mem b (ih (by simpa using hp) h)
    -- what a byte does that begins a character
    have hopening : some c ∈ unitsFrom none (b :: bytes) → UInt8.ofNat c.toNat ∈ b :: bytes := by
      intro h
      rw [unitsFrom] at h
      have hfor := opening_isFor b
      cases ho : opening b with
      | whole d =>
        rw [ho] at hfor h
        rcases List.mem_cons.mp h with h | h
        · obtain ⟨rfl, hb⟩ := hfor
          rw [Option.some.inj h, toNat_ofNat_of_valid (Or.inl (by omega)), UInt8.ofNat_toNat]
          exact List.mem_cons_self
        · exact hnone h
      | opens p =>
        rw [ho] at hfor h
        exact hsome p hfor h
      | malformed =>
        rw [ho] at h
        exact hnone (by simpa using h)
    cases progress with
    | none => exact hopening hc
    | some p =>
      have hwide := hp p rfl
      rw [unitsFrom] at hc
      split at hc
      · next hb =>
        simp only [Bool.and_eq_true, decide_eq_true_eq] at hb
        split at hc
        · next hneed =>
          rcases List.mem_cons.mp hc with h | h
          · have hcode := hwide.code hneed
            have hle : 0x80 ≤ p.code * 64 + (b.toNat - 0x80) := by omega
            rw [Option.some.inj h] at hpos hlt
            have := toNat_ofNat_of_le hle
            omega
          · exact hnone h
        · exact hsome _ (hwide.step hb.1) hc
      · rcases List.mem_cons.mp hc with h | h
        · exact absurd h (Option.some_ne_none c)
        · exact hopening (by rw [unitsFrom]; exact h)

/-- **A character of one byte stands only where its byte does.** -/
theorem mem_of_mem_decodeLossy {bytes : List UInt8} (hpos : 0 < c.toNat) (hlt : c.toNat < 0x80)
    (hc : c ∈ decodeLossy bytes) : UInt8.ofNat c.toNat ∈ bytes := by
  obtain ⟨unit, hunit, rfl⟩ := List.mem_map.mp hc
  cases unit with
  | none => exact absurd hlt (by decide)
  | some c => exact mem_of_mem_unitsFrom hpos hlt (by simp) hunit

/-! ## Bytes in front of a character of one byte -/

theorem opening_of_lt {b : UInt8} (h : b.toNat < 0x80) :
    opening b = .whole (Char.ofNat b.toNat) :=
  if_pos h

theorem Progress.Wide.of_opening {b : UInt8} {p : Progress} (h : opening b = .opens p) : p.Wide := by
  have hfor := opening_isFor b
  rwa [h] at hfor

/-- A character of one byte ends what stands in front of it. -/
theorem unitsFrom_append_cons {b : UInt8} (hb : b.toNat < 0x80) {progress : Option Progress}
    (hp : ∀ p ∈ progress, p.Wide) (bytes later : List UInt8) :
    unitsFrom progress (bytes ++ b :: later) =
      unitsFrom progress bytes ++ some (Char.ofNat b.toNat) :: unitsFrom none later := by
  fun_induction unitsFrom progress bytes with
  | case1 => simp [unitsFrom, opening_of_lt hb]
  | case2 p =>
    have hlow := (hp p rfl).low
    have hout : ¬ p.low ≤ b.toNat := by omega
    simp [unitsFrom, opening_of_lt hb, hout]
  | case3 a rest c ho ih => simp [unitsFrom, ho, ih]
  | case4 a rest p ho ih =>
    have := ih (by simpa using Progress.Wide.of_opening ho)
    simp [unitsFrom, ho, this]
  | case5 a rest ho ih => simp [unitsFrom, ho, ih]
  | case6 p a rest hin code hneed ih => simp [unitsFrom, hin, hneed, ih, code]
  | case7 p a rest hin code hneed ih =>
    simp only [Bool.and_eq_true, decide_eq_true_eq] at hin
    have := ih (by simpa using (hp p rfl).step hin.1)
    simp [unitsFrom, hin, hneed, this, code]
  | case8 p a rest hout ih ihopens =>
    rw [List.cons_append, unitsFrom, if_neg hout, List.cons_append]
    cases ho : opening a with
    | whole c => simp [ih]
    | opens q => simp [ihopens q (by simpa using Progress.Wide.of_opening ho)]
    | malformed => simp [ih]

theorem decodeLossy_append_cons {b : UInt8} (hb : b.toNat < 0x80) (bytes later : List UInt8) :
    decodeLossy (bytes ++ b :: later) =
      decodeLossy bytes ++ Char.ofNat b.toNat :: decodeLossy later := by
  rw [decodeLossy, units, unitsFrom_append_cons hb (by simp), List.map_append, List.map_cons]
  rfl

/-- Bytes are a text if no stretch of them is malformed. -/
theorem decode?_eq (bytes : List UInt8) :
    decode? bytes = if none ∈ units bytes then none else some (decodeLossy bytes) := by
  rw [decode?, decodeLossy]
  induction units bytes with
  | nil => rfl
  | cons unit units ih =>
    rw [List.mapM_cons, ih]
    cases unit with
    | none => simp
    | some c => by_cases h : none ∈ units <;> simp [h]

theorem isSome_decode?_iff {bytes : List UInt8} : (decode? bytes).isSome ↔ none ∉ units bytes := by
  rw [decode?_eq]
  split <;> simp [*]

theorem isSome_decode?_append_cons {b : UInt8} (hb : b.toNat < 0x80) {bytes later : List UInt8} :
    (decode? (bytes ++ b :: later)).isSome ↔ (decode? bytes).isSome ∧ (decode? later).isSome := by
  rw [isSome_decode?_iff, units, unitsFrom_append_cons hb (by simp), isSome_decode?_iff,
    isSome_decode?_iff]
  simp [units]

/-- The character that stands for what is malformed. -/
theorem mem_decodeLossy_of_malformed {bytes : List UInt8} (h : decode? bytes = none) :
    '\uFFFD' ∈ decodeLossy bytes := by
  rw [decode?_eq] at h
  split at h
  · next hmem => exact List.mem_map.mpr ⟨none, hmem, rfl⟩
  · cases h

/-! ## Written texts -/

/-- The first byte of a character of two bytes. -/
theorem opening_two {n : Nat} (hlow : 2 ≤ n) (hhigh : n < 0x20) :
    opening (UInt8.ofNat (n % 32 + 0xC0)) = .opens ⟨1, n, 0x80, 0xBF⟩ := by
  have hbyte : (UInt8.ofNat (n % 32 + 0xC0)).toNat = n + 0xC0 := by
    rw [UInt8.toNat_ofNat']
    omega
  unfold opening
  dsimp only
  rw [hbyte, if_neg (by omega), if_neg (by omega), if_pos (by omega), Nat.add_sub_cancel]

/-- The first byte of a character of three bytes, and what it asks of the second one. The bounds leave out
overlong forms and surrogates. -/
theorem opening_three (n next : Nat) (hhigh : n < 0x10) (hlong : n = 0 → 0xA0 ≤ next)
    (hchar : n = 0xD → next ≤ 0x9F) (hnext : 0x80 ≤ next ∧ next ≤ 0xBF) :
    ∃ low high, opening (UInt8.ofNat (n % 16 + 0xE0)) = .opens ⟨2, n, low, high⟩ ∧
      low ≤ next ∧ next ≤ high := by
  have hbyte : (UInt8.ofNat (n % 16 + 0xE0)).toNat = n + 0xE0 := by
    rw [UInt8.toNat_ofNat']
    omega
  unfold opening
  dsimp only
  rw [hbyte, if_neg (by omega), if_neg (by omega), if_neg (by omega)]
  by_cases hzero : n = 0
  · exact ⟨0xA0, 0xBF, by rw [if_pos (by omega), hzero], hlong hzero, hnext.2⟩
  rw [if_neg (by omega)]
  by_cases hthirteen : n = 0xD
  · exact ⟨0x80, 0x9F, by rw [if_pos (by omega), hthirteen], hnext.1, hchar hthirteen⟩
  exact ⟨0x80, 0xBF, by rw [if_neg (by omega), if_pos (by omega), Nat.add_sub_cancel], hnext⟩

/-- The first byte of a character of four bytes, and what it asks of the second one. The bounds leave out
overlong forms and what lies beyond the last character. -/
theorem opening_four (n next : Nat) (hhigh : n ≤ 4) (hlong : n = 0 → 0x90 ≤ next)
    (hchar : n = 4 → next ≤ 0x8F) (hnext : 0x80 ≤ next ∧ next ≤ 0xBF) :
    ∃ low high, opening (UInt8.ofNat (n % 8 + 0xF0)) = .opens ⟨3, n, low, high⟩ ∧
      low ≤ next ∧ next ≤ high := by
  have hbyte : (UInt8.ofNat (n % 8 + 0xF0)).toNat = n + 0xF0 := by
    rw [UInt8.toNat_ofNat']
    omega
  unfold opening
  dsimp only
  rw [hbyte, if_neg (by omega), if_neg (by omega), if_neg (by omega), if_neg (by omega),
    if_neg (by omega), if_neg (by omega)]
  by_cases hzero : n = 0
  · exact ⟨0x90, 0xBF, by rw [if_pos (by omega), hzero], hlong hzero, hnext.2⟩
  rw [if_neg (by omega)]
  by_cases hfour : n = 4
  · exact ⟨0x80, 0x8F, by rw [if_neg (by omega), if_pos (by omega), hfour], hnext.1, hchar hfour⟩
  exact ⟨0x80, 0xBF, by rw [if_pos (by omega), Nat.add_sub_cancel], hnext⟩

/-- A byte that goes on with a character. -/
theorem unitsFrom_continued {need code low high n : Nat} (hlow : low ≤ n + 0x80)
    (hhigh : n + 0x80 ≤ high) (hn : n < 0x40) (rest : List UInt8) :
    unitsFrom (some ⟨need, code, low, high⟩) (UInt8.ofNat (n + 0x80) :: rest) =
      if need ≤ 1 then some (Char.ofNat (code * 64 + n)) :: unitsFrom none rest
      else unitsFrom (some ⟨need - 1, code * 64 + n, 0x80, 0xBF⟩) rest := by
  have hbyte : (UInt8.ofNat (n + 0x80)).toNat = n + 0x80 := by
    rw [UInt8.toNat_ofNat']
    omega
  rw [unitsFrom, hbyte, if_pos (by simp [hlow, hhigh]), Nat.add_sub_cancel]

/-- A byte that goes on with a character and does not complete it. -/
theorem unitsFrom_more {need code low high n : Nat} (hneed : 1 < need) (hlow : low ≤ n + 0x80)
    (hhigh : n + 0x80 ≤ high) (hn : n < 0x40) (rest : List UInt8) :
    unitsFrom (some ⟨need, code, low, high⟩) (UInt8.ofNat (n + 0x80) :: rest) =
      unitsFrom (some ⟨need - 1, code * 64 + n, 0x80, 0xBF⟩) rest := by
  rw [unitsFrom_continued hlow hhigh hn, if_neg (by omega)]

/-- The last byte of a character. -/
theorem unitsFrom_last {code low high n : Nat} (hlow : low ≤ n + 0x80)
    (hhigh : n + 0x80 ≤ high) (hn : n < 0x40) (rest : List UInt8) :
    unitsFrom (some ⟨1, code, low, high⟩) (UInt8.ofNat (n + 0x80) :: rest) =
      some (Char.ofNat (code * 64 + n)) :: unitsFrom none rest := by
  rw [unitsFrom_continued hlow hhigh hn, if_pos (Nat.le_refl 1)]

/-- **A character is read from its bytes**, whatever follows. -/
theorem unitsFrom_encodeChar (c : Char) (rest : List UInt8) :
    unitsFrom none (String.utf8EncodeChar c ++ rest) = some c :: unitsFrom none rest := by
  have hc : Char.ofNat c.val.toNat = c := Char.ofNat_toNat c
  have hvalid : c.val.toNat.isValidChar := c.valid
  unfold Nat.isValidChar at hvalid
  unfold String.utf8EncodeChar
  dsimp only
  generalize c.val.toNat = v at hc hvalid
  -- the value, put together from what each byte tells
  have htwo : v / 64 * 64 + v % 64 = v := Nat.div_add_mod' v 64
  have hthree : v / 4096 * 64 + v / 64 % 64 = v / 64 := by omega
  have hfour : v / 262144 * 64 + v / 4096 % 64 = v / 4096 := by omega
  have hsix : ∀ n, n % 64 < 0x40 := fun n => Nat.mod_lt n (by decide)
  by_cases hone : v ≤ 0x7F
  · have hbyte : (UInt8.ofNat v).toNat = v := by
      rw [UInt8.toNat_ofNat']
      omega
    rw [if_pos hone, List.singleton_append, unitsFrom, opening_of_lt (by omega), hbyte]
    dsimp only
    rw [hc]
  rw [if_neg hone]
  by_cases hshort : v ≤ 0x7FF
  · rw [if_pos hshort, List.cons_append, List.singleton_append, unitsFrom,
      opening_two (by omega) (by omega)]
    dsimp only
    rw [unitsFrom_last (by omega) (by omega) (hsix _), htwo, hc]
  rw [if_neg hshort]
  by_cases hmiddle : v ≤ 0xFFFF
  · obtain ⟨low, high, hopens, hlow, hhigh⟩ := opening_three (v / 4096)
      (v / 64 % 64 + 0x80) (by omega) (by omega) (by omega) (by omega)
    rw [if_pos hmiddle, List.cons_append, List.cons_append, List.singleton_append, unitsFrom, hopens]
    dsimp only
    rw [unitsFrom_more (by decide) hlow hhigh (hsix _),
      unitsFrom_last (by omega) (by omega) (hsix _), hthree, htwo, hc]
  · obtain ⟨low, high, hopens, hlow, hhigh⟩ := opening_four (v / 262144)
      (v / 4096 % 64 + 0x80) (by omega) (by omega) (by omega) (by omega)
    rw [if_neg hmiddle, List.cons_append, List.cons_append, List.cons_append, List.singleton_append,
      unitsFrom, hopens]
    dsimp only
    rw [unitsFrom_more (by decide) hlow hhigh (hsix _),
      unitsFrom_more (by decide) (by omega) (by omega) (hsix _),
      unitsFrom_last (by omega) (by omega) (hsix _), hfour, hthree, htwo, hc]

theorem units_encode (s : List Char) : units (encode s) = s.map some := by
  unfold units
  induction s with
  | nil => rfl
  | cons c s ih => rw [encode, List.flatMap_cons, unitsFrom_encodeChar, ← encode, ih, List.map_cons]

/-- **A text is read from its bytes.** -/
theorem decodeLossy_encode (s : List Char) : decodeLossy (encode s) = s := by
  rw [decodeLossy, units_encode, List.map_map]
  exact List.map_id s

theorem encode_append (s t : List Char) : encode (s ++ t) = encode s ++ encode t :=
  List.flatMap_append

/-- A byte below 128 stands only where its character does. -/
theorem mem_of_mem_encode {b : UInt8} (hb : b.toNat < 0x80) {s : List Char} (h : b ∈ encode s) :
    Char.ofNat b.toNat ∈ s := by
  obtain ⟨front, back, hsplit⟩ := List.append_of_mem h
  have hread := congrArg decodeLossy hsplit
  rw [decodeLossy_encode, decodeLossy_append_cons hb] at hread
  rw [hread]
  exact List.mem_append_right _ (.head _)

theorem getLast?_of_getLast?_encode {b : UInt8} (hb : b.toNat < 0x80) {s : List Char}
    (h : (encode s).getLast? = some b) : s.getLast? = some (Char.ofNat b.toNat) := by
  obtain ⟨front, hsplit⟩ := List.getLast?_eq_some_iff.mp h
  have hread := congrArg decodeLossy hsplit
  rw [decodeLossy_encode, decodeLossy_append_cons hb] at hread
  rw [hread]
  exact List.getLast?_concat

end LogIntake.Text.Utf8
