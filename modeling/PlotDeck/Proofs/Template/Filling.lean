import PlotDeck.Proofs.Template.OpenDirective
import PlotDeck.Proofs.Template.Slot

/-!
# What a token does to a line

`Filling.Step` lists what one token can do to a line that is being filled, and `Filling.step_add`
says that it lists everything. So a line is only ever lengthened at its end or, where an unfilled
path takes its directive along, cut back to a first part of what is there (`Filling.Step.text`).
-/

namespace PlotDeck.Template

/-- A token **stays** unless it is a placeholder that is replaced by a value or erased with its
plot. -/
def Token.Stays (value? : Slot → Option (List Char)) : Token → Prop
  | .placeholder name =>
    ∀ slot, Slot.ofName? name = some slot → value? slot = none ∧ slot.isPlot = false
  | _ => True

namespace Filling

variable {value? : Slot → Option (List Char)} {f f' : Filling} {t : Token}

/-- What one token can do to a line that is being filled. -/
inductive Step (value? : Slot → Option (List Char)) (f : Filling) : Token → Filling → Prop
  /-- A slot with a value is replaced by it. -/
  | value {name : List Char} {slot : Slot} {v : List Char} (hslot : Slot.ofName? name = some slot)
    (hv : value? slot = some v) :
    Step value? f (.placeholder name) ({ f with heldPlot := f.heldPlot || slot.isPlot }.write v)
  /-- A placeholder that is no slot of a slide, or a line feed, stays. -/
  | copy {t : Token} (ht : ∀ u, t ≠ .literal u) (hstays : t.Stays value?) :
    Step value? f t (f.write t.text)
  /-- Literal text stays, but for the closing brace of a directive that has just been cut. -/
  | literal (u : List Char) :
    Step value? f (.literal u) (f.write (if f.closing then afterClosing u else u))
  /-- A caption without a value leaves nothing. -/
  | caption {name : List Char} {k : Nat} (hslot : Slot.ofName? name = some (.plotCaption k))
    (hv : value? (.plotCaption k) = none) :
    Step value? f (.placeholder name) ({ f with heldPlot := true }.write [])
  /-- A path without a value takes the directive before it along. -/
  | cut {name : List Char} {k : Nat} {before : List Char}
    (hslot : Slot.ofName? name = some (.plotPath k)) (hv : value? (.plotPath k) = none)
    (hcut : cutEmbed? f.text = some before) :
    Step value? f (.placeholder name)
      { f with heldPlot := true, text := before, closing := true }
  /-- A path without a value and without a directive drops the line. -/
  | drop {name : List Char} {k : Nat} (hslot : Slot.ofName? name = some (.plotPath k))
    (hv : value? (.plotPath k) = none) (hcut : cutEmbed? f.text = none) :
    Step value? f (.placeholder name)
      { f with heldPlot := true, dropped := true, closing := false }

/-- A slot of the front page stays as it was written. -/
theorem addSlot_of_none {slot : Slot} (hv : value? slot = none) (hplot : slot.isPlot = false) :
    f.addSlot value? slot = f.write ('@' :: slot.name) := by
  cases slot <;> simp_all [addSlot, Slot.isPlot]

/-- An unfilled path behind a directive cuts the directive. -/
theorem add_of_cut {name before : List Char} {k : Nat}
    (hslot : Slot.ofName? name = some (.plotPath k)) (hv : value? (.plotPath k) = none)
    (hcut : cutEmbed? f.text = some before) :
    f.add value? (.placeholder name)
      = { f with heldPlot := true, text := before, closing := true } := by
  simp [add, hslot, addSlot, hv, Slot.isPlot, erasePath, hcut]

theorem step_add (value? : Slot → Option (List Char)) (f : Filling) (t : Token) :
    Step value? f t (f.add value? t) := by
  cases t with
  | newline => exact .copy (by simp) trivial
  | literal u => exact .literal u
  | placeholder name =>
    cases hslot : Slot.ofName? name with
    | none =>
      have hadd : f.add value? (.placeholder name) = f.write ('@' :: name) := by simp [add, hslot]
      exact hadd ▸ .copy (by simp) fun slot h => by simp [hslot] at h
    | some slot =>
      have hadd : f.add value? (.placeholder name) = f.addSlot value? slot := by simp [add, hslot]
      cases hv : value? slot with
      | some v =>
        have hvalue : f.addSlot value? slot
            = { f with heldPlot := f.heldPlot || slot.isPlot }.write v := by simp [addSlot, hv]
        rw [hadd, hvalue]
        exact .value hslot hv
      | none =>
        cases hplot : slot.isPlot with
        | false =>
          rw [hadd, addSlot_of_none hv hplot, Slot.name_eq_of_ofName? hslot hplot]
          refine .copy (by simp) fun other h => ?_
          obtain rfl : slot = other := Option.some.inj (hslot.symm.trans h)
          exact ⟨hv, hplot⟩
        | true =>
          cases slot with
          | plotCaption k =>
            have hcaption : f.addSlot value? (.plotCaption k)
                = { f with heldPlot := true }.write [] := by simp [addSlot, hv, Slot.isPlot]
            rw [hadd, hcaption]
            exact .caption hslot hv
          | plotPath k =>
            cases hcut : cutEmbed? f.text with
            | some before =>
              rw [add_of_cut hslot hv hcut]
              exact .cut hslot hv hcut
            | none =>
              have hdrop : f.addSlot value? (.plotPath k)
                  = { f with heldPlot := true, dropped := true, closing := false } := by
                simp [addSlot, hv, Slot.isPlot, erasePath, hcut]
              rw [hadd, hdrop]
              exact .drop hslot hv hcut
          | _ => cases hplot

theorem afterClosing_suffix (u : List Char) : afterClosing u <:+ u := by
  have hstart : Text.trimStart u <:+ u := List.dropWhile_suffix _
  unfold afterClosing
  split
  · next r hr => exact (List.suffix_cons _ r).trans (hr ▸ hstart)
  · exact List.suffix_refl u

/-! ### Literal text -/

theorem write_nil (hf : f.closing = false) : f.write [] = f := by
  cases f
  simp_all [write]

theorem write_write (u w : List Char) : (f.write u).write w = f.write (u ++ w) := by
  simp [write]

theorem foldl_add_literals (hf : f.closing = false) (t : List Char) :
    (literals t).foldl (Filling.add value?) f = f.write t := by
  by_cases ht : t = []
  · rw [ht, write_nil hf]
    rfl
  · simp [literals, ht, add, hf]

/-- Tokens without placeholders are copied. -/
theorem foldl_add_of_no_placeholder {toks : List Token} (hf : f.closing = false)
    (htoks : ∀ name, .placeholder name ∉ toks) :
    toks.foldl (Filling.add value?) f = f.write (toks.flatMap Token.text) := by
  induction toks generalizing f with
  | nil => rw [List.flatMap_nil, write_nil hf, List.foldl_nil]
  | cons t toks ih =>
    have htoks' : ∀ name, .placeholder name ∉ toks := fun name h =>
      htoks name (List.mem_cons_of_mem t h)
    have hadd : f.add value? t = f.write t.text := by
      cases t with
      | placeholder name => exact absurd List.mem_cons_self (htoks name)
      | literal u => simp [add, hf, Token.text]
      | newline => rfl
    rw [List.foldl_cons, hadd, ih rfl htoks', write_write, List.flatMap_cons]

/-! ### Characters of a filled line -/

/-- What holds of all characters of the line and of what a token puts there holds of the line after
the token. -/
theorem Step.forall_mem_text {P : Char → Prop} (h : Step value? f t f')
    (hf : ∀ c ∈ f.text, P c) (ht : t.Stays value? → ∀ c ∈ t.text, P c)
    (hvalues : ∀ slot v, value? slot = some v → ∀ c ∈ v, P c) : ∀ c ∈ f'.text, P c := by
  have hwrite : ∀ w : List Char, (∀ c ∈ w, P c) → ∀ c ∈ f.text ++ w, P c := fun w hw =>
    List.forall_mem_append.2 ⟨hf, hw⟩
  cases h with
  | value _ hv => exact hwrite _ (hvalues _ _ hv)
  | copy _ hstays => exact hwrite _ (ht hstays)
  | literal u =>
    refine hwrite _ fun c hc => ht trivial c ?_
    split at hc
    · exact (afterClosing_suffix u).subset hc
    · exact hc
  | caption => exact hwrite _ (by simp)
  | cut _ _ hcut => exact fun c hc => hf c ((cutEmbed?_isPrefix hcut).subset hc)
  | drop => exact hf

/-- What holds of all characters of values and of tokens that stay holds of the filled line. -/
theorem forall_mem_foldl {P : Char → Prop} {toks : List Token} (hf : ∀ c ∈ f.text, P c)
    (htoks : ∀ t ∈ toks, t.Stays value? → ∀ c ∈ t.text, P c)
    (hvalues : ∀ slot v, value? slot = some v → ∀ c ∈ v, P c) :
    ∀ c ∈ (toks.foldl (Filling.add value?) f).text, P c := by
  induction toks generalizing f with
  | nil => exact hf
  | cons t toks ih =>
    obtain ⟨ht, htoks⟩ := List.forall_mem_cons.1 htoks
    exact ih ((step_add value? f t).forall_mem_text hf ht hvalues) htoks

/-- A line is lengthened, or cut back. -/
theorem Step.text (h : Step value? f t f') :
    (∃ w, f'.text = f.text ++ w) ∨ f'.text <+: f.text := by
  cases h with
  | value | copy | literal | caption => exact .inl ⟨_, rfl⟩
  | cut _ _ hcut => exact .inr (cutEmbed?_isPrefix hcut)
  | drop => exact .inr (List.prefix_refl _)

end Filling

end PlotDeck.Template
