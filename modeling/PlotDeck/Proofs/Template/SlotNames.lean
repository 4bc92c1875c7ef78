import PlotDeck.Proofs.Template.Slot

/-!
# Names that denote a slot

A name is read as a slot exactly if it is the name that the slot is written with
(`Slot.ofName?_eq_some_iff`). What decides is the index of a plot slot: a run of digits that does
not start with a zero is the only way to write its value (`Slot.toDigits_ofDigitChars`). So every
slot has one name, and a number that starts with a zero or a sign, that is too large or that is
followed by anything but `TITLE` is no index (`Slot.ofName?_canonical`).
-/

namespace PlotDeck.Template.Slot

variable {t : List Char} {slot : Slot} {k : Nat}

/-! ### Decimal numbers -/

theorem exists_digitChar {c : Char} (hc : c.isDigit = true) : ∃ d < 10, c = Nat.digitChar d := by
  have hrange : 48 ≤ c.toNat ∧ c.toNat ≤ 57 := Char.isDigit_iff_toNat.1 hc
  have hdigit : ∀ d < 10, Char.ofNat (48 + d) = Nat.digitChar d := by decide
  refine ⟨c.toNat - 48, by omega, ?_⟩
  rw [← hdigit _ (by omega), Nat.add_sub_cancel' hrange.1, Char.ofNat_toNat]

/-- Digits that are read behind a positive number are written behind it. -/
theorem toDigits_ofDigitChars_of_pos {ds : List Char} (hds : ∀ c ∈ ds, c.isDigit = true) {n : Nat}
    (hn : 0 < n) : Nat.toDigits 10 (Nat.ofDigitChars 10 ds n) = Nat.toDigits 10 n ++ ds := by
  induction ds generalizing n with
  | nil => simp
  | cons c ds ih =>
    obtain ⟨hc, hrest⟩ := List.forall_mem_cons.1 hds
    obtain ⟨d, hd, rfl⟩ := exists_digitChar hc
    have hnext : Nat.toDigits 10 (10 * n + d) = Nat.toDigits 10 n ++ [d.digitChar] := by
      rw [← Nat.toDigits_append_toDigits (by decide) hn hd, Nat.toDigits_of_lt_base hd]
    rw [Nat.ofDigitChars_cons_digitChar_of_lt_ten hd, ih hrest (by omega), hnext, List.append_assoc,
      List.singleton_append]

/-- A run of digits that does not start with a zero is written for its value, which is positive. -/
theorem toDigits_ofDigitChars {ds : List Char} (hne : ds ≠ []) (hzero : ds.head? ≠ some '0')
    (hds : ∀ c ∈ ds, c.isDigit = true) :
    0 < Nat.ofDigitChars 10 ds 0 ∧ Nat.toDigits 10 (Nat.ofDigitChars 10 ds 0) = ds := by
  obtain ⟨c, r, rfl⟩ := List.exists_cons_of_ne_nil hne
  obtain ⟨hc, hr⟩ := List.forall_mem_cons.1 hds
  obtain ⟨d, hd, rfl⟩ := exists_digitChar hc
  have hpos : 0 < d := by
    refine Nat.pos_of_ne_zero ?_
    rintro rfl
    exact hzero rfl
  have hwritten := toDigits_ofDigitChars_of_pos hr hpos
  rw [Nat.ofDigitChars_cons_digitChar_of_lt_ten hd, Nat.mul_zero, Nat.zero_add, hwritten,
    Nat.toDigits_of_lt_base hd]
  refine ⟨Nat.pos_of_ne_zero fun hvalue => ?_, rfl⟩
  -- nothing but a single zero is written for zero
  rw [hvalue, Nat.toDigits_zero, Nat.toDigits_of_lt_base hd] at hwritten
  exact hzero (congrArg List.head? hwritten).symm

/-! ### Names of plot slots -/

/-- What is read as a plot slot is how the slot is written. -/
theorem name_of_ofPlotName? (h : ofPlotName? t = some slot) :
    slot.HasName ∧ slot.name = "PLOT".toList ++ t := by
  have hsplit := List.takeWhile_append_dropWhile (p := Char.isDigit) (l := t)
  have hds : ∀ c ∈ t.takeWhile Char.isDigit, c.isDigit = true :=
    List.all_eq_true.1 List.all_takeWhile
  rw [ofPlotName?] at h
  generalize t.takeWhile Char.isDigit = ds at h hsplit hds
  split at h
  · cases h
  · next hindex =>
    simp only [not_or, Nat.not_lt] at hindex
    obtain ⟨hne, hzero, hmax⟩ := hindex
    obtain ⟨hpos, hwritten⟩ := toDigits_ofDigitChars hne hzero hds
    split at h
    · next hrest =>
      obtain rfl := Option.some.inj h
      rw [hrest, List.append_nil] at hsplit
      exact ⟨⟨hpos, hmax⟩, by rw [name_plotPath, hwritten, hsplit]⟩
    · next hrest =>
      obtain rfl := Option.some.inj h
      rw [hrest] at hsplit
      refine ⟨⟨hpos, hmax⟩, ?_⟩
      rw [name_plotCaption, hwritten, List.append_assoc, ← hsplit]
      rfl
    · cases h

theorem hasName_of_mem_fixed (h : slot ∈ fixed) : slot.HasName := by
  cases slot with
  | plotPath k | plotCaption k => exact absurd h (by simp [fixed])
  | _ => trivial

/-- A name is read as a slot exactly if the slot is written so. -/
theorem ofName?_eq_some_iff : ofName? t = some slot ↔ slot.HasName ∧ slot.name = t := by
  constructor
  · intro h
    obtain ⟨hfixed, hname⟩ | ⟨r, rfl, hplot⟩ := ofName?_cases h
    · exact ⟨hasName_of_mem_fixed hfixed, hname⟩
    · exact name_of_ofPlotName? hplot
  · rintro ⟨hnamed, rfl⟩
    exact ofName?_name hnamed

/-! ### Names that denote nothing -/

/-- No index starts with a zero. -/
theorem ofPlotName?_zero (r : List Char) : ofPlotName? ('0' :: r) = none := by
  have htake : (('0' :: r).takeWhile Char.isDigit).head? = some '0' := by
    rw [List.takeWhile_cons_of_pos (by decide), List.head?_cons]
  rw [ofPlotName?, if_pos (.inr (.inl htake))]

/-- There is no plot slot without an index. -/
theorem ofPlotName?_of_no_digit {r : List Char} (hr : ∀ c ∈ r.head?, c.isDigit = false) :
    ofPlotName? r = none := by
  have htake : r.takeWhile Char.isDigit = [] :=
    (takeWhile_append_boundary (t := []) (by simp) hr).1
  rw [ofPlotName?, if_pos (.inl htake)]

/-- Behind the index there is nothing but `TITLE`. -/
theorem ofPlotName?_of_other_ending {r : List Char} (hr : ∀ c ∈ r.head?, c.isDigit = false)
    (hne : r ≠ []) (htitle : r ≠ "TITLE".toList) (k : Nat) :
    ofPlotName? (Nat.toDigits 10 k ++ r) = none := by
  obtain ⟨-, hdrop⟩ := takeWhile_toDigits_append k hr
  rw [ofPlotName?, hdrop]
  split
  · rfl
  · split
    · exact absurd rfl hne
    · exact absurd rfl htitle
    · rfl

/-- No index is larger than the largest one. -/
theorem ofPlotName?_of_large (hk : maxIndex < k) {r : List Char}
    (hr : ∀ c ∈ r.head?, c.isDigit = false) : ofPlotName? (Nat.toDigits 10 k ++ r) = none := by
  obtain ⟨htake, -⟩ := takeWhile_toDigits_append k hr
  rw [ofPlotName?, htake, Nat.ofDigitChars_ten_toDigits, if_pos (.inr (.inr hk))]

/-- **Names and slots.** The nine fixed slots have these names, and the name of a plot slot is its
index in decimal digits behind `PLOT`, for a caption with `TITLE` behind it. A name is read as a
slot exactly if the slot has a name, which is this one. So a slot has one name only; and an index
that starts with a zero, that does not start with a digit, behind which something else than `TITLE`
stands or that is larger than any index denotes nothing. -/
theorem ofName?_canonical :
    (fixed.map fun slot => String.ofList slot.name) = ["SLIDE_TITLE", "SLIDE_SECTION", "TOPTEXT",
      "BOTTOMTEXT", "TITLE", "SUBTITLE", "AUTHOR", "FILE", "TOC"] ∧
    (∀ k, (plotPath k).name = "PLOT".toList ++ (toString k).toList ∧
      (plotCaption k).name = (plotPath k).name ++ "TITLE".toList) ∧
    (∀ t slot, ofName? t = some slot ↔ slot.HasName ∧ slot.name = t) ∧
    (∀ t t' slot, ofName? t = some slot → ofName? t' = some slot → t = t') ∧
    (∀ r, ofName? ("PLOT0".toList ++ r) = none) ∧
    (∀ r, (∀ c ∈ r.head?, c.isDigit = false) → ofName? ("PLOT".toList ++ r) = none) ∧
    (∀ k r, (∀ c ∈ r.head?, c.isDigit = false) → r ≠ [] → r ≠ "TITLE".toList →
      ofName? ((plotPath k).name ++ r) = none) ∧
    ∀ k > Nat.pow 2 64 - 1,
      ofName? (plotPath k).name = none ∧ ofName? (plotCaption k).name = none := by
  refine ⟨by decide, fun k => ⟨?_, rfl⟩, fun t slot => ofName?_eq_some_iff,
    fun t t' slot h h' => ?_,
    fun r => ?_, fun r hr => ?_, fun k r hr hne htitle => ?_, fun k hk => ⟨?_, ?_⟩⟩
  · have hdigits : (toString k).toList = Nat.toDigits 10 k := by
      rw [Nat.toString_eq_ofList_toDigits, String.toList_ofList]
    rw [name_plotPath, hdigits]
  · exact (ofName?_eq_some_iff.1 h).2.symm.trans (ofName?_eq_some_iff.1 h').2
  · exact (ofName?_plot _).trans (ofPlotName?_zero r)
  · exact (ofName?_plot _).trans (ofPlotName?_of_no_digit hr)
  · rw [name_plotPath, List.append_assoc]
    exact (ofName?_plot _).trans (ofPlotName?_of_other_ending hr hne htitle k)
  · have hlarge := ofPlotName?_of_large (r := []) hk (by simp)
    rw [List.append_nil] at hlarge
    exact (ofName?_plot _).trans hlarge
  · rw [name_plotCaption, List.append_assoc]
    exact (ofName?_plot _).trans (ofPlotName?_of_large hk (by decide))

/-- The largest index is read and the next one is not; nor are other spellings and endings of an
index. -/
theorem ofName?_canonical_largest :
    ofName? "PLOT18446744073709551615TITLE".toList = some (plotCaption maxIndex) ∧
    (∀ t, ofName? t = some (plotCaption maxIndex) → t = "PLOT18446744073709551615TITLE".toList) ∧
    ofName? "PLOT18446744073709551616".toList = none ∧
    ofName? "PLOT010".toList = none ∧ ofName? "PLOT+10".toList = none ∧
    ofName? "PLOT10TITLES".toList = none := by
  obtain ⟨-, -, hread, hone, hzero, hsign, hending, hlarge⟩ := ofName?_canonical
  have hlargest : ofName? "PLOT18446744073709551615TITLE".toList = some (plotCaption maxIndex) :=
    (hread _ _).2 ⟨by constructor <;> decide, by decide +kernel⟩
  have hnext : (plotPath 18446744073709551616).name = "PLOT18446744073709551616".toList := by
    decide +kernel
  have hten : (plotPath 10).name ++ "TITLES".toList = "PLOT10TITLES".toList := by decide
  exact ⟨hlargest, fun t ht => hone _ _ _ ht hlargest,
    hnext ▸ (hlarge 18446744073709551616 (by decide)).1, hzero "10".toList,
    hsign "+10".toList (by decide),
    hten ▸ hending 10 "TITLES".toList (by decide) (by decide) (by decide)⟩

end PlotDeck.Template.Slot
