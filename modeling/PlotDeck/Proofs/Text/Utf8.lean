import Mathlib.Algebra.Group.Nat.Defs
import Mathlib.Tactic.SplitIfs
import PlotDeck.Text.Utf8

/-!
# Reading texts back

The bytes of a text are read as that text, whatever follows them (`decodeFrom_utf8_append`). An
ASCII character is a byte by itself: reading starts afresh there, whatever comes before
(`decodeFrom_append_cons`), and no other bytes are read as one (`exists_byte_of_mem_decodeFrom`).
-/

namespace PlotDeck.Text

variable {p : PartialChar} {b : UInt8} {n : Nat} {bytes rest : List UInt8}

/-! ### Reading one byte -/

/-- A byte that does not go on with a character is read as if there were none. -/
theorem decodeFrom_some_cons (p : PartialChar) (b : UInt8) (rest : List UInt8) :
    decodeFrom (some p) (b :: rest) =
      if p.low ≤ b.toNat ∧ b.toNat ≤ p.high then
        if p.left = 1 then
          Char.ofNat (p.bits * 64 + (b.toNat - 0x80)) :: decodeFrom none rest
        else decodeFrom (some ⟨p.left - 1, p.bits * 64 + (b.toNat - 0x80), 0x80, 0xbf⟩) rest
      else replacementChar :: decodeFrom none (b :: rest) := rfl

theorem startChar_of_lt (h : n < 0x80) : startChar n = .inl (Char.ofNat n) := if_pos h

/-- An ASCII character is read by itself. -/
theorem decodeFrom_none_cons (h : b.toNat < 0x80) (rest : List UInt8) :
    decodeFrom none (b :: rest) = Char.ofNat b.toNat :: decodeFrom none rest := by
  rw [decodeFrom, startChar_of_lt h]

/-- What stands for a byte that starts no character. -/
theorem eq_replacementChar_of_startChar {c : Char} (hn : ¬n < 0x80) (h : startChar n = .inl c) :
    c = replacementChar := by
  rw [startChar, if_neg hn] at h
  split_ifs at h
  exact (Sum.inl.inj h).symm

theorem decodeFrom_start (hn : n < 256) (hstart : startChar n = .inr p) (rest : List UInt8) :
    decodeFrom none (UInt8.ofNat n :: rest) = decodeFrom (some p) rest := by
  have hbyte : (UInt8.ofNat n).toNat = n := Nat.mod_eq_of_lt hn
  rw [decodeFrom, hbyte, hstart]

section Continued

variable (hn : n < 256) (hlow : p.low ≤ n) (hhigh : n ≤ p.high)

include hn hlow hhigh

theorem decodeFrom_next (hleft : p.left ≠ 1) (rest : List UInt8) :
    decodeFrom (some p) (UInt8.ofNat n :: rest)
      = decodeFrom (some ⟨p.left - 1, p.bits * 64 + (n - 0x80), 0x80, 0xbf⟩) rest := by
  have hbyte : (UInt8.ofNat n).toNat = n := Nat.mod_eq_of_lt hn
  rw [decodeFrom_some_cons, hbyte, if_pos ⟨hlow, hhigh⟩, if_neg hleft]

theorem decodeFrom_last (hleft : p.left = 1) (rest : List UInt8) :
    decodeFrom (some p) (UInt8.ofNat n :: rest)
      = Char.ofNat (p.bits * 64 + (n - 0x80)) :: decodeFrom none rest := by
  have hbyte : (UInt8.ofNat n).toNat = n := Nat.mod_eq_of_lt hn
  rw [decodeFrom_some_cons, hbyte, if_pos ⟨hlow, hhigh⟩, if_pos hleft]

end Continued

/-! ### Texts -/

/-- The first byte of a character says how many follow, and which the second can be. -/
theorem startChar_two {v : Nat} (hlow : 0x7f < v) (hhigh : v ≤ 0x7ff) :
    startChar (v / 64 % 32 + 192) = .inr ⟨1, v / 64, 0x80, 0xbf⟩ := by
  have hbits : v / 64 % 32 + 192 - 0xc0 = v / 64 := by omega
  rw [startChar, if_neg (by omega), if_pos (by omega), hbits]

theorem exists_startChar_three {v : Nat} (hlow : 0x7ff < v) (hhigh : v ≤ 0xffff)
    (hscalar : v < 0xd800 ∨ 0xdfff < v) :
    ∃ low high, startChar (v / 4096 % 16 + 224) = .inr ⟨2, v / 4096, low, high⟩ ∧
      low ≤ v / 64 % 64 + 128 ∧ v / 64 % 64 + 128 ≤ high := by
  rw [startChar, if_neg (by omega), if_neg (by omega)]
  -- the first byte bars what fewer bytes could say, and the surrogates
  by_cases hfirst : v / 4096 = 0
  · refine ⟨0xa0, 0xbf, ?_, by omega, by omega⟩
    rw [hfirst]
    rfl
  · by_cases hsurrogates : v / 4096 = 13
    · refine ⟨0x80, 0x9f, ?_, by omega, by omega⟩
      rw [hsurrogates]
      rfl
    · have hbits : v / 4096 % 16 + 224 - 0xe0 = v / 4096 := by omega
      refine ⟨0x80, 0xbf, ?_, by omega, by omega⟩
      rw [if_neg (by omega), if_neg (by omega), if_pos (by omega), hbits]

theorem exists_startChar_four {v : Nat} (hlow : 0xffff < v) (hhigh : v < 0x110000) :
    ∃ low high, startChar (v / 262144 % 8 + 240) = .inr ⟨3, v / 262144, low, high⟩ ∧
      low ≤ v / 4096 % 64 + 128 ∧ v / 4096 % 64 + 128 ≤ high := by
  -- the first byte bars what fewer bytes could say, and what is beyond all characters
  obtain hfirst | hfirst | hfirst :
      v / 262144 = 0 ∨ (1 ≤ v / 262144 ∧ v / 262144 ≤ 3) ∨ v / 262144 = 4 := by omega
  · refine ⟨0x90, 0xbf, ?_, by omega, by omega⟩
    rw [hfirst]
    rfl
  · have hbits : v / 262144 % 8 + 240 - 0xf0 = v / 262144 := by omega
    refine ⟨0x80, 0xbf, ?_, by omega, by omega⟩
    rw [startChar, if_neg (by omega), if_neg (by omega), if_neg (by omega), if_neg (by omega),
      if_neg (by omega), if_neg (by omega), if_pos (by omega), hbits]
  · refine ⟨0x80, 0x8f, ?_, by omega, by omega⟩
    rw [hfirst]
    rfl

/-- The bytes of a character are read as that character. -/
theorem decodeFrom_utf8EncodeChar_append (c : Char) (rest : List UInt8) :
    decodeFrom none (String.utf8EncodeChar c ++ rest) = c :: decodeFrom none rest := by
  have hchar : Char.ofNat c.val.toNat = c := Char.ofNat_toNat c
  have hvalid : c.val.toNat < 0xd800 ∨ 0xdfff < c.val.toNat ∧ c.val.toNat < 0x110000 := c.valid
  have hcont : ∀ m, 0x80 ≤ m % 64 + 128 ∧ m % 64 + 128 ≤ 0xbf ∧ m % 64 + 128 < 256 := by omega
  rw [String.utf8EncodeChar.eq_def]
  dsimp only
  generalize c.val.toNat = v at hchar hvalid
  obtain ⟨htail, htail', htail''⟩ := hcont v
  -- one case for each number of bytes
  split
  · next hone =>
    have hbyte : (UInt8.ofNat v).toNat = v := Nat.mod_eq_of_lt (by omega)
    rw [List.singleton_append, decodeFrom_none_cons (by omega), hbyte, hchar]
  · next hone =>
    split
    · next htwo =>
      have hbits : v / 64 * 64 + (v % 64 + 128 - 0x80) = v := by omega
      rw [List.cons_append, List.singleton_append,
        decodeFrom_start (by omega) (startChar_two (by omega) htwo),
        decodeFrom_last htail'' htail htail' rfl, hbits, hchar]
    · next htwo =>
      split
      · next hthree =>
        obtain ⟨low, high, hstart, hlow, hhigh⟩ :=
          exists_startChar_three (v := v) (by omega) hthree (by omega)
        have hbits :
            (v / 4096 * 64 + (v / 64 % 64 + 128 - 0x80)) * 64 + (v % 64 + 128 - 0x80) = v := by
          omega
        rw [List.cons_append, List.cons_append, List.singleton_append,
          decodeFrom_start (by omega) hstart, decodeFrom_next (by omega) hlow hhigh (by simp),
          decodeFrom_last htail'' htail htail' rfl, hbits, hchar]
      · next hthree =>
        obtain ⟨low, high, hstart, hlow, hhigh⟩ :=
          exists_startChar_four (v := v) (by omega) (by omega)
        obtain ⟨hthird, hthird', hthird''⟩ := hcont (v / 64)
        have hbits : ((v / 262144 * 64 + (v / 4096 % 64 + 128 - 0x80)) * 64
            + (v / 64 % 64 + 128 - 0x80)) * 64 + (v % 64 + 128 - 0x80) = v := by
          omega
        rw [List.cons_append, List.cons_append, List.cons_append, List.singleton_append,
          decodeFrom_start (by omega) hstart, decodeFrom_next (by omega) hlow hhigh (by simp),
          decodeFrom_next hthird'' hthird hthird' (by simp),
          decodeFrom_last htail'' htail htail' rfl, hbits, hchar]

/-- The bytes of a text are read as that text. -/
theorem decodeFrom_utf8_append (t : List Char) (rest : List UInt8) :
    decodeFrom none (utf8 t ++ rest) = t ++ decodeFrom none rest := by
  induction t with
  | nil => rfl
  | cons c t ih =>
    rw [utf8, List.flatMap_cons, List.append_assoc, decodeFrom_utf8EncodeChar_append, ← utf8, ih,
      List.cons_append]

theorem decodeFrom_utf8 (t : List Char) : decodeFrom none (utf8 t) = t := by
  have h := decodeFrom_utf8_append t []
  rwa [List.append_nil, decodeFrom, List.append_nil] at h

/-! ### ASCII characters -/

/-- The bytes of a character that is not ASCII are not ASCII. -/
theorem utf8EncodeChar_eq_or (c : Char) :
    (c.toNat < 0x80 ∧ String.utf8EncodeChar c = [UInt8.ofNat c.toNat]) ∨
      (0x80 ≤ c.toNat ∧ String.utf8EncodeChar c ≠ [] ∧
        ∀ b ∈ String.utf8EncodeChar c, 0x80 ≤ b.toNat) := by
  rw [String.utf8EncodeChar.eq_def, Char.toNat]
  dsimp only
  generalize c.val.toNat = v
  split
  · exact .inl ⟨by omega, rfl⟩
  · refine .inr ⟨by omega, ?_, ?_⟩
    · split_ifs <;> simp
    · split_ifs <;> simp <;> omega

/-- The characters that can come of what has been read are not ASCII. -/
structure PartialChar.IsOpen (p : PartialChar) : Prop where
  /-- Nor are the bytes that can come next. -/
  low : 0x80 ≤ p.low
  /-- The least character that can come of it is large enough. -/
  least : 0x80 ≤ (p.bits * 64 + (p.low - 0x80)) * 64 ^ (p.left - 1)

theorem isOpen_of_startChar (h : startChar n = .inr p) : p.IsOpen := by
  rw [startChar] at h
  split_ifs at h <;> cases h <;> constructor <;> dsimp only <;> omega

theorem PartialChar.IsOpen.next (h : p.IsOpen) (hlow : p.low ≤ n) :
    IsOpen ⟨p.left - 1, p.bits * 64 + (n - 0x80), 0x80, 0xbf⟩ := by
  refine ⟨Nat.le_refl _, Nat.le_trans h.least ?_⟩
  have hbits : p.bits * 64 + (p.low - 0x80) ≤ p.bits * 64 + (n - 0x80) := by omega
  have hpower : 64 ^ (p.left - 1) ≤ 64 * 64 ^ (p.left - 1 - 1) := by
    rw [← Nat.pow_succ']
    exact Nat.pow_le_pow_right (by decide) (by omega)
  dsimp only
  rw [Nat.sub_self, Nat.add_zero, Nat.mul_assoc]
  exact Nat.mul_le_mul hbits hpower

/-- A number is that of a character, or it makes the character 0. -/
theorem toNat_ofNat_or (n : Nat) :
    (Char.ofNat n).toNat = n ∨ ¬n.isValidChar ∧ (Char.ofNat n).toNat = 0 := by
  by_cases h : n.isValidChar
  · rw [Char.ofNat, dif_pos h]
    exact .inl rfl
  · rw [Char.ofNat, dif_neg h]
    exact .inr ⟨h, rfl⟩

theorem toNat_ofNat_of_lt (h : n < 256) : (Char.ofNat n).toNat = n :=
  (toNat_ofNat_or n).resolve_right fun hinvalid => hinvalid.1 (.inl (by omega))

/-- What comes of the last byte of a character is not ASCII. -/
theorem PartialChar.IsOpen.ofNat (h : p.IsOpen) (hlow : p.low ≤ n) (hleft : p.left = 1) :
    (Char.ofNat (p.bits * 64 + (n - 0x80))).toNat = 0 ∨
      0x80 ≤ (Char.ofNat (p.bits * 64 + (n - 0x80))).toNat := by
  have hleast := h.least
  rw [hleft, Nat.sub_self, Nat.pow_zero, Nat.mul_one] at hleast
  rcases toNat_ofNat_or (p.bits * 64 + (n - 0x80)) with hchar | ⟨-, hchar⟩
  · exact .inr (by omega)
  · exact .inl hchar

variable {st : Option PartialChar} {c : Char}

theorem forall_mem_none_isOpen : ∀ p ∈ (none : Option PartialChar), p.IsOpen := nofun

theorem forall_mem_some_isOpen (h : p.IsOpen) : ∀ q ∈ some p, q.IsOpen := by
  intro q hq
  exact Option.some.inj hq ▸ h

/-- An ASCII character is read afresh. -/
theorem decodeFrom_append_cons (hst : ∀ p ∈ st, p.IsOpen) (hb : b.toNat < 0x80)
    (bytes rest : List UInt8) :
    decodeFrom st (bytes ++ b :: rest)
      = decodeFrom st bytes ++ Char.ofNat b.toNat :: decodeFrom none rest := by
  induction bytes generalizing st with
  | nil =>
    cases st with
    | none => exact decodeFrom_none_cons hb rest
    | some p =>
      -- an ASCII byte goes on with no character
      have hlow := (hst p rfl).low
      rw [List.nil_append, decodeFrom_some_cons, if_neg (by omega), decodeFrom_none_cons hb]
      rfl
  | cons a bytes ih =>
    have hnone : decodeFrom none (a :: bytes ++ b :: rest)
        = decodeFrom none (a :: bytes) ++ Char.ofNat b.toNat :: decodeFrom none rest := by
      rw [List.cons_append, decodeFrom, decodeFrom]
      cases hstart : startChar a.toNat with
      | inl c => exact congrArg (c :: ·) (ih forall_mem_none_isOpen)
      | inr q => exact ih (forall_mem_some_isOpen (isOpen_of_startChar hstart))
    cases st with
    | none => exact hnone
    | some p =>
      have hopen := hst p rfl
      rw [List.cons_append, decodeFrom_some_cons, decodeFrom_some_cons]
      split
      · next hgoes =>
        have hnext := forall_mem_some_isOpen (hopen.next hgoes.1)
        split
        · rw [ih forall_mem_none_isOpen, List.cons_append]
        · exact ih hnext
      · exact congrArg (replacementChar :: ·) hnone

/-- No other bytes are read as an ASCII character. -/
theorem exists_byte_of_mem_decodeFrom (hst : ∀ p ∈ st, p.IsOpen) (hc : c ∈ decodeFrom st bytes)
    (hpos : 0 < c.toNat) (hascii : c.toNat < 0x80) : ∃ b ∈ bytes, b.toNat = c.toNat := by
  have hshown : c ≠ replacementChar := by
    rintro rfl
    exact absurd hascii (by decide)
  induction bytes generalizing st with
  | nil =>
    cases st with
    | none => cases hc
    | some p => exact absurd (List.mem_singleton.1 hc) hshown
  | cons a bytes ih =>
    have hrest : ∀ st : Option PartialChar, (∀ p ∈ st, p.IsOpen) → c ∈ decodeFrom st bytes →
        ∃ b ∈ a :: bytes, b.toNat = c.toNat := fun st hst hc => by
      obtain ⟨b, hb, hbc⟩ := ih hst hc
      exact ⟨b, List.mem_cons_of_mem a hb, hbc⟩
    have hnone : c ∈ decodeFrom none (a :: bytes) → ∃ b ∈ a :: bytes, b.toNat = c.toNat := by
      intro hc
      by_cases ha : a.toNat < 0x80
      · rw [decodeFrom_none_cons ha] at hc
        rcases List.mem_cons.1 hc with rfl | hc
        · exact ⟨a, List.mem_cons_self, (toNat_ofNat_of_lt a.toNat_lt).symm⟩
        · exact hrest none forall_mem_none_isOpen hc
      · rw [decodeFrom] at hc
        cases hstart : startChar a.toNat with
        | inl d =>
          obtain rfl := eq_replacementChar_of_startChar ha hstart
          rw [hstart] at hc
          exact hrest none forall_mem_none_isOpen ((List.mem_cons.1 hc).resolve_left hshown)
        | inr q =>
          rw [hstart] at hc
          exact hrest _ (forall_mem_some_isOpen (isOpen_of_startChar hstart)) hc
    cases st with
    | none => exact hnone hc
    | some p =>
      have hopen := hst p rfl
      rw [decodeFrom_some_cons] at hc
      split at hc
      · next hgoes =>
        have hnext := forall_mem_some_isOpen (hopen.next hgoes.1)
        split at hc
        · next hleft =>
          rcases List.mem_cons.1 hc with hchar | hc
          · rw [hchar] at hpos hascii
            have hlast := hopen.ofNat hgoes.1 hleft
            omega
          · exact hrest none forall_mem_none_isOpen hc
        · exact hrest _ hnext hc
      · exact hnone ((List.mem_cons.1 hc).resolve_left hshown)

end PlotDeck.Text
