import Mathlib.Tactic.SplitIfs
import PlotDeck.Proofs.Json.Grammar

/-!
# Strings of the grammar

Letters are passed over whatever they are (`passString_letters`), and read as the text that they
spell if they spell one (`toOption_readChars`). Whatever is passed over is letters
(`exists_of_passString`). Every text is spelled by some (`spelled_lettersOf`): the characters that
may not stand in a string are behind a backslash.
-/

namespace PlotDeck.Json

variable {t : List Char}

/-! ### Escapes -/

theorem readEscape_of_short {letter c : Char} (hletter : letter ≠ 'u')
    (h : shortEscape? letter = some c) (t : List Char) :
    readEscape (letter :: t) = .ok (c, t) := by
  rw [readEscape.eq_def]
  split
  · next heq => cases heq
  · next heq => exact absurd (List.cons.inj heq).1 hletter
  · next heq =>
    obtain ⟨rfl, rfl⟩ := List.cons.inj heq
    rw [h]

theorem passEscape_of_short {letter c : Char} (hletter : letter ≠ 'u')
    (h : shortEscape? letter = some c) (t : List Char) : passEscape (letter :: t) = .ok t := by
  rw [passEscape.eq_def]
  split
  · next heq => cases heq
  · next heq => exact absurd (List.cons.inj heq).1 hletter
  · next heq =>
    obtain ⟨rfl, rfl⟩ := List.cons.inj heq
    rw [h]

/-- An escape that is read is a character of the string. -/
theorem readChars_of_escape {t after : List Char} {c : Char} (h : readEscape t = .ok (c, after)) :
    readChars ('\\' :: t) = (readChars after).map fun (s, rest) => (c :: s, rest) := by
  rw [readChars, if_neg (by decide), if_pos rfl]
  split
  · next heq => rw [h] at heq; cases heq
  · next heq =>
    rw [h] at heq
    cases heq
    rfl

theorem passString_of_escape {t after : List Char} (h : passEscape t = .ok after) :
    passString ('\\' :: t) = passString after := by
  rw [passString, if_neg (by decide), if_pos rfl]
  split
  · next heq => rw [h] at heq; cases heq
  · next heq =>
    rw [h] at heq
    cases heq
    rfl

theorem readHex_unit (u : CodeUnit) (t : List Char) : readHex (u.text ++ t) = .ok (u.value, t) := by
  obtain ⟨⟨a, na, ha⟩, ⟨b, nb, hb⟩, ⟨c, nc, hc⟩, ⟨d, nd, hd⟩⟩ := u
  have hsize : ¬Text.byteSize [a, b, c, d] < 4 := by
    have hone : ∀ c : Char, 1 ≤ c.utf8Size := Char.utf8Size_pos
    have h₁ := hone a
    have h₂ := hone b
    have h₃ := hone c
    have h₄ := hone d
    simp only [Text.byteSize_cons, Text.byteSize_nil]
    omega
  change readHex (a :: b :: c :: d :: t) = _
  rw [readHex]
  simp only [List.take_succ_cons, List.take_zero, if_neg hsize, ha, hb, hc, hd]
  rfl

theorem ne_u_of_shortEscape? {letter c : Char} (h : shortEscape? letter = some c) :
    letter ≠ 'u' := by
  rintro rfl
  simp [shortEscape?] at h

/-- Letters are passed over, whatever they are. -/
theorem passString_letters (ls : List Letter) (rest : List Char) :
    passString (lettersText ls ++ '"' :: rest) = .ok rest := by
  induction ls with
  | nil => exact (passString.eq_def _).trans (if_pos rfl)
  | cons l ls ih =>
    rw [lettersText, List.flatMap_cons, List.append_assoc]
    cases l with
    | plain c hc =>
      obtain ⟨hquote, hbackslash, hcontrol⟩ := hc
      rw [Letter.text, List.singleton_append, passString, if_neg hquote,
        if_neg hbackslash, hcontrol]
      exact ih
    | short letter c hc =>
      exact (passString_of_escape (passEscape_of_short (ne_u_of_shortEscape? hc) hc _)).trans ih
    | unit u =>
      refine (passString_of_escape ?_).trans ih
      exact congrArg (Except.map Prod.snd) (readHex_unit u _)

/-! ### Code units -/

theorem readUnicode_lone {u : CodeUnit} (h : isTrailing u.value = true) (t : List Char) :
    (readUnicode (u.text ++ t)).toOption = none := by
  rw [readUnicode, readHex_unit]
  simp only [bind, Except.bind, h]
  rfl

theorem readUnicode_single {u : CodeUnit} (htrailing : isTrailing u.value = false)
    (hleading : isLeading u.value = false) (t : List Char) :
    readUnicode (u.text ++ t) = .ok (Char.ofNat u.value, t) := by
  rw [readUnicode, readHex_unit]
  simp only [bind, Except.bind, htrailing, hleading]
  rfl

theorem readUnicode_pair {u : CodeUnit} (htrailing : isTrailing u.value = false)
    (hleading : isLeading u.value = true) (v : CodeUnit) (t : List Char) :
    (readUnicode (u.text ++ '\\' :: 'u' :: (v.text ++ t))).toOption
      = if isTrailing v.value then some (u.pair v, t) else none := by
  rw [readUnicode, readHex_unit]
  simp only [bind, Except.bind, htrailing, hleading, readHex_unit]
  cases isTrailing v.value <;> rfl

/-- The first of a pair is not read where no other code unit follows. -/
theorem readUnicode_unpaired {u : CodeUnit} (hleading : isLeading u.value = true)
    (hnext : ∀ r, t ≠ '\\' :: 'u' :: r) : (readUnicode (u.text ++ t)).toOption = none := by
  rw [readUnicode, readHex_unit]
  cases htrailing : isTrailing u.value with
  | true =>
    simp only [bind, Except.bind, htrailing]
    rfl
  | false =>
    simp only [bind, Except.bind, htrailing, hleading, Bool.false_eq_true, if_false, if_true]
    split
    · exact absurd rfl (hnext _)
    all_goals rfl

/-! ### Letters -/

theorem toOption_readChars_of_escape {c : Char} {after : List Char}
    (h : (readEscape t).toOption = some (c, after)) :
    (readChars ('\\' :: t)).toOption
      = (readChars after).toOption.map fun (s, rest) => (c :: s, rest) := by
  cases hread : readEscape t with
  | error f => rw [hread] at h; cases h
  | ok p =>
    rw [hread] at h
    obtain rfl : p = (c, after) := Option.some.inj h
    rw [readChars_of_escape hread, toOption_map]

theorem toOption_readChars_of_fault (h : (readEscape t).toOption = none) :
    (readChars ('\\' :: t)).toOption = none := by
  cases hread : readEscape t with
  | ok p => rw [hread] at h; cases h
  | error f =>
    rw [readChars, if_neg (by decide), if_pos rfl]
    split
    · rfl
    · next heq => rw [hread] at heq; cases heq

/-- The text of letters does not go on with a code unit unless the letters do. -/
theorem lettersText_ne_unit {ls : List Letter} (h : ∀ v ls', ls ≠ .unit v :: ls')
    (rest r : List Char) : lettersText ls ++ '"' :: rest ≠ '\\' :: 'u' :: r := by
  intro htext
  cases ls with
  | nil => simp [lettersText] at htext
  | cons l ls =>
    cases l with
    | plain c hc => exact hc.2.1 (List.cons.inj htext).1
    | short letter c hc =>
      exact ne_u_of_shortEscape? hc (List.cons.inj (List.cons.inj htext).2).1
    | unit v => exact h v ls rfl

/-- Letters are read as the text that they spell, if they spell one. -/
theorem toOption_readChars (ls : List Letter) (rest : List Char) :
    (readChars (lettersText ls ++ '"' :: rest)).toOption = (decode ls).map (·, rest) := by
  have hmap : ∀ (c : Char) (s : Option (List Char)),
      ((s.map (·, rest)).map fun (s, rest) => (c :: s, rest)) = (s.map (c :: ·)).map (·, rest) := by
    intro c s
    cases s <;> rfl
  -- the cases are those of `decode`: two for letters, and five for code units by their surrogates
  fun_induction decode ls with
  | case1 =>
    rw [lettersText, List.flatMap_nil, List.nil_append, readChars, if_pos rfl]
    rfl
  | case2 c hc ls ih =>
    obtain ⟨hquote, hbackslash, hcontrol⟩ := hc
    change (readChars (c :: (lettersText ls ++ '"' :: rest))).toOption = _
    rw [readChars, if_neg hquote, if_neg hbackslash, hcontrol, ← hmap, ← ih]
    exact toOption_map _ _
  | case3 letter c hc ls ih =>
    rw [← hmap, ← ih]
    exact toOption_readChars_of_escape
      (congrArg Except.toOption (readEscape_of_short (ne_u_of_shortEscape? hc) hc _))
  | case4 u ls htrailing => exact toOption_readChars_of_fault (readUnicode_lone htrailing _)
  | case5 u htrailing hleading v ls hpaired ih =>
    rw [← hmap, ← ih]
    refine toOption_readChars_of_escape ?_
    have hpair := readUnicode_pair (by simpa using htrailing) hleading v
      (lettersText ls ++ '"' :: rest)
    rwa [if_pos hpaired] at hpair
  | case6 u htrailing hleading v ls hpaired =>
    refine toOption_readChars_of_fault ?_
    have hpair := readUnicode_pair (by simpa using htrailing) hleading v
      (lettersText ls ++ '"' :: rest)
    rwa [if_neg hpaired] at hpair
  | case7 u ls htrailing hleading hnext =>
    exact toOption_readChars_of_fault
      (readUnicode_unpaired hleading (lettersText_ne_unit hnext rest))
  | case8 u ls htrailing hleading ih =>
    rw [← hmap, ← ih]
    exact toOption_readChars_of_escape (congrArg Except.toOption
      (readUnicode_single (by simpa using htrailing) (by simpa using hleading) _))

/-- A string is found to be the text that its letters spell. -/
theorem exists_stringNode (ls : List Letter) (rest : List Char) :
    ∃ value, stringNode (lettersText ls ++ '"' :: rest) = .scalar value rest ∧
      value.toOption = (Scalar.string ls).found? := by
  refine ⟨_, by rw [stringNode, passString_letters, scalarNode_ok], ?_⟩
  rw [toOption_map, toOption_map, readString, toOption_map, toOption_readChars,
    Scalar.found?, spelled]
  cases decode ls <;> rfl

/-! ### What is passed over is a string -/

theorem exists_of_readHex {n : Nat} {r : List Char} (h : readHex t = .ok (n, r)) :
    ∃ u : CodeUnit, t = u.text ++ r := by
  rw [readHex.eq_def] at h
  split at h
  · cases h
  · split at h
    · next a b c d r' _ =>
      split at h
      · next ha hb hc hd =>
        cases h
        exact ⟨⟨⟨a, _, ha⟩, ⟨b, _, hb⟩, ⟨c, _, hc⟩, ⟨d, _, hd⟩⟩, rfl⟩
      · cases h
    · cases h

/-- What is passed over behind a backslash is a letter. -/
theorem exists_of_passEscape {r : List Char} (h : passEscape t = .ok r) :
    ∃ l : Letter, '\\' :: t = l.text ++ r := by
  rw [passEscape.eq_def] at h
  split at h
  · cases h
  · next t' =>
    cases hread : readHex t' with
    | error f => simp [hread, Except.map] at h
    | ok p =>
      obtain ⟨u, hu⟩ := exists_of_readHex hread
      rw [hread] at h
      obtain rfl : p.2 = r := Except.ok.inj h
      exact ⟨.unit u, by rw [hu]; rfl⟩
  · next c t' _ =>
    split at h
    · next e he =>
      cases h
      exact ⟨.short c e he, rfl⟩
    · cases h

/-- What is passed over is a string of the grammar. -/
theorem exists_of_passString {r : List Char} (h : passString t = .ok r) :
    ∃ ls : List Letter, t = lettersText ls ++ '"' :: r := by
  fun_induction passString t with
  | case1 => cases h
  | case2 r' => exact ⟨[], by rw [Except.ok.inj h]; rfl⟩
  | case3 => cases h
  | case4 t' after hescape _ ih =>
    obtain ⟨l, hl⟩ := exists_of_passEscape hescape
    obtain ⟨ls, hls⟩ := ih h
    exact ⟨l :: ls, by rw [hl, hls, lettersText, lettersText, List.flatMap_cons, List.append_assoc]⟩
  | case5 => cases h
  | case6 c t' hquote hbackslash hcontrol ih =>
    obtain ⟨ls, hls⟩ := ih h
    exact ⟨.plain c ⟨hquote, hbackslash, by simpa using hcontrol⟩ :: ls, by rw [hls]; rfl⟩

/-! ### The letters of a text -/

theorem hexValue?_digitChar {n : Nat} (h : n < 16) : hexValue? (Nat.digitChar n) = some n := by
  decide +revert

/-- The digit of a small value. -/
def HexDigit.ofNat (n : Nat) (h : n < 16) : HexDigit := ⟨Nat.digitChar n, n, hexValue?_digitChar h⟩

/-- The code unit of a control character. -/
def CodeUnit.ofControl (c : Char) (h : c.toNat < 0x20) : CodeUnit where
  first := .ofNat 0 (by omega)
  second := .ofNat 0 (by omega)
  third := .ofNat (c.toNat / 16) (by omega)
  fourth := .ofNat (c.toNat % 16) (by omega)

theorem CodeUnit.value_ofControl {c : Char} (h : c.toNat < 0x20) :
    (ofControl c h).value = c.toNat := by
  simp only [value, ofControl, HexDigit.ofNat]
  omega

/-- The letter of a character: it stands for itself if it may, and is behind a backslash if not. -/
def Letter.ofChar (c : Char) : Letter :=
  if hquote : c = '"' then .short '"' c (congrArg some hquote.symm)
  else if hbackslash : c = '\\' then .short '\\' c (congrArg some hbackslash.symm)
  else if hback : c = '\x08' then .short 'b' c (congrArg some hback.symm)
  else if htab : c = '\t' then .short 't' c (congrArg some htab.symm)
  else if hfeed : c = '\n' then .short 'n' c (congrArg some hfeed.symm)
  else if hform : c = '\x0c' then .short 'f' c (congrArg some hform.symm)
  else if hreturn : c = '\r' then .short 'r' c (congrArg some hreturn.symm)
  else if hcontrol : c.toNat < 0x20 then .unit (.ofControl c hcontrol)
  else .plain c ⟨hquote, hbackslash, decide_eq_false hcontrol⟩

/-- The letters of a text. -/
def lettersOf (s : String) : List Letter := s.toList.map Letter.ofChar

theorem decode_ofChar (c : Char) (ls : List Letter) :
    decode (Letter.ofChar c :: ls) = (decode ls).map (c :: ·) := by
  rw [Letter.ofChar]
  split_ifs with _ _ _ _ _ _ _ hcontrol <;> try rfl
  -- only a control character without a letter of its own is given by its number
  have htrailing : isTrailing c.toNat = false := by simp [isTrailing]; omega
  have hleading : isLeading c.toNat = false := by simp [isLeading]; omega
  rw [decode.eq_def]
  dsimp only
  rw [CodeUnit.value_ofControl, htrailing, hleading, Char.ofNat_toNat]
  rfl

/-- The letters of a text spell it. -/
theorem spelled_lettersOf (s : String) : spelled (lettersOf s) = some s := by
  have hdecode : ∀ l : List Char, decode (l.map Letter.ofChar) = some l := by
    intro l
    induction l with
    | nil => rfl
    | cons c l ih => rw [List.map_cons, decode_ofChar, ih, Option.map_some]
  rw [spelled, lettersOf, hdecode, Option.map_some, String.ofList_toList]

end PlotDeck.Json
