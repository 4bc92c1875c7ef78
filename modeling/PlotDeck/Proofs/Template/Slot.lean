import PlotDeck.Proofs.Template.Token
import PlotDeck.Template.Slot

/-!
# Names of slots

A slot **has a name** unless it is a plot slot whose index is zero or too large. `ofName?_name` says
that the name of such a slot reads back as the slot, and `isNameChar_of_mem_name` that a placeholder
can hold it.
-/

namespace PlotDeck.Template.Slot

/-- A slot has a name unless its index cannot be written. -/
def HasName : Slot → Prop
  | plotCaption k | plotPath k => 0 < k ∧ k ≤ maxIndex
  | _ => True

theorem name_plotPath (k : Nat) : (plotPath k).name = "PLOT".toList ++ Nat.toDigits 10 k := rfl

theorem name_plotCaption (k : Nat) :
    (plotCaption k).name = "PLOT".toList ++ Nat.toDigits 10 k ++ "TITLE".toList := rfl

/-- A slot has a fixed name or belongs to a plot. -/
theorem mem_fixed_or_plot (slot : Slot) :
    slot ∈ fixed ∨ ∃ k, slot = plotPath k ∨ slot = plotCaption k := by
  cases slot with
  | plotPath k => exact .inr ⟨k, .inl rfl⟩
  | plotCaption k => exact .inr ⟨k, .inr rfl⟩
  | _ => exact .inl (by simp [fixed])

/-- The decimal digits of a positive number do not start with a zero. -/
theorem head?_toDigits_ne_zero {k : Nat} (hk : 0 < k) :
    (Nat.toDigits 10 k).head? ≠ some '0' := by
  -- the first digit of a number with more digits is the first digit of its tenth part
  induction k using Nat.strongRecOn with
  | _ k ih =>
    rcases Nat.lt_or_ge k 10 with hlt | hge
    · have hd : ∀ n < 10, 0 < n → n.digitChar ≠ '0' := by decide
      simpa [Nat.toDigits_of_lt_base hlt] using hd k hlt hk
    · rw [Nat.toDigits_of_base_le (by decide) hge, List.head?_append]
      have hne := Nat.toDigits_ne_nil (n := k / 10) (b := 10)
      have hhead := ih (k / 10) (by omega) (by omega)
      cases hd : Nat.toDigits 10 (k / 10) with
      | nil => exact absurd hd hne
      | cons c r => simpa [hd] using hhead

/-- A number's digits are a longest run of digits before text that starts with none. -/
theorem takeWhile_toDigits_append (k : Nat) {r : List Char}
    (hr : ∀ c ∈ r.head?, c.isDigit = false) :
    (Nat.toDigits 10 k ++ r).takeWhile Char.isDigit = Nat.toDigits 10 k ∧
      (Nat.toDigits 10 k ++ r).dropWhile Char.isDigit = r :=
  takeWhile_append_boundary
    (fun _ hc => Nat.isDigit_of_mem_toDigits (by decide) (by decide) hc) hr

theorem ofPlotName?_toDigits {k : Nat} (hk : 0 < k) (hmax : k ≤ maxIndex) :
    ofPlotName? (Nat.toDigits 10 k) = some (plotPath k) := by
  obtain ⟨htake, hdrop⟩ := takeWhile_toDigits_append k (r := []) (by simp)
  rw [List.append_nil] at htake hdrop
  have hif : ¬(Nat.toDigits 10 k = [] ∨ (Nat.toDigits 10 k).head? = some '0' ∨ maxIndex < k) := by
    simp [Nat.toDigits_ne_nil, head?_toDigits_ne_zero hk, hmax]
  simp only [ofPlotName?, htake, hdrop, Nat.ofDigitChars_ten_toDigits, if_neg hif]

theorem ofPlotName?_toDigits_title {k : Nat} (hk : 0 < k) (hmax : k ≤ maxIndex) :
    ofPlotName? (Nat.toDigits 10 k ++ "TITLE".toList) = some (plotCaption k) := by
  obtain ⟨htake, hdrop⟩ := takeWhile_toDigits_append k (r := "TITLE".toList) (by decide)
  have hif : ¬(Nat.toDigits 10 k = [] ∨ (Nat.toDigits 10 k).head? = some '0' ∨ maxIndex < k) := by
    simp [Nat.toDigits_ne_nil, head?_toDigits_ne_zero hk, hmax]
  simp only [ofPlotName?, htake, hdrop, Nat.ofDigitChars_ten_toDigits, if_neg hif]
  rfl

/-- No fixed name starts like the name of a plot slot. -/
theorem ofName?_plot (r : List Char) : ofName? ('P' :: 'L' :: 'O' :: 'T' :: r) = ofPlotName? r := by
  have hfind : fixed.find? (fun slot => slot.name == 'P' :: 'L' :: 'O' :: 'T' :: r) = none := by
    rw [List.find?_eq_none]
    intro slot hslot heq
    have htake : slot.name.take 4 = "PLOT".toList := by rw [beq_iff_eq.1 heq]; rfl
    have hfixed : ∀ slot ∈ fixed, slot.name.take 4 ≠ "PLOT".toList := by decide
    exact hfixed slot hslot htake
  rw [ofName?, hfind]

/-- The name of a slot reads back as the slot. -/
theorem ofName?_name {slot : Slot} (h : slot.HasName) : ofName? slot.name = some slot := by
  have hfixed : ∀ slot ∈ fixed, ofName? slot.name = some slot := by decide
  rcases mem_fixed_or_plot slot with hmem | ⟨k, rfl | rfl⟩
  · exact hfixed slot hmem
  · exact (ofName?_plot _).trans (ofPlotName?_toDigits h.1 h.2)
  · rw [name_plotCaption, List.append_assoc]
    exact (ofName?_plot _).trans (ofPlotName?_toDigits_title h.1 h.2)

/-- A name consists of characters that can follow a placeholder mark. -/
theorem isNameChar_of_mem_name {slot : Slot} {c : Char} (hc : c ∈ slot.name) :
    isNameChar c = true := by
  have hdigits : ∀ {k : Nat}, c ∈ Nat.toDigits 10 k → isNameChar c = true := fun {k} h => by
    have hd : c.isDigit = true := Nat.isDigit_of_mem_toDigits (by decide) (by decide) h
    simp [isNameChar, Char.isAlphanum, hd]
  have hplot : ∀ c ∈ "PLOT".toList, isNameChar c = true := by decide
  have htitle : ∀ c ∈ "TITLE".toList, isNameChar c = true := by decide
  have hfixed : ∀ slot ∈ fixed, ∀ c ∈ slot.name, isNameChar c = true := by decide
  rcases mem_fixed_or_plot slot with hmem | ⟨k, rfl | rfl⟩
  · exact hfixed slot hmem c hc
  · rcases List.mem_append.1 (name_plotPath k ▸ hc) with h | h
    · exact hplot c h
    · exact hdigits h
  · rw [name_plotCaption, List.append_assoc, List.mem_append, List.mem_append] at hc
    rcases hc with h | h | h
    · exact hplot c h
    · exact hdigits h
    · exact htitle c h

theorem isPlot_of_ofPlotName? {t : List Char} {slot : Slot} (h : ofPlotName? t = some slot) :
    slot.isPlot = true := by
  unfold ofPlotName? at h
  dsimp only at h
  split at h
  · cases h
  · split at h <;> cases h <;> rfl

/-- A name is read as a slot by its fixed name or as the name of a plot slot. -/
theorem ofName?_cases {t : List Char} {slot : Slot} (h : ofName? t = some slot) :
    (slot ∈ fixed ∧ slot.name = t) ∨ ∃ r, t = "PLOT".toList ++ r ∧ ofPlotName? r = some slot := by
  unfold ofName? at h
  split at h
  · next found hfound =>
    obtain rfl := Option.some.inj h
    have hname := List.find?_some hfound
    exact .inl ⟨List.mem_of_find?_eq_some hfound, beq_iff_eq.1 hname⟩
  · split at h
    · next r _ => exact .inr ⟨r, rfl, h⟩
    · cases h

/-- What is read as a slot with a fixed name is this name. -/
theorem name_eq_of_ofName? {t : List Char} {slot : Slot} (h : ofName? t = some slot)
    (hplot : slot.isPlot = false) : slot.name = t := by
  obtain ⟨-, hname⟩ | ⟨r, -, hread⟩ := ofName?_cases h
  · exact hname
  · exact absurd (isPlot_of_ofPlotName? hread) (by simp [hplot])

end PlotDeck.Template.Slot
