import PlotDeck.Proofs.Template.Decisive
import PlotDeck.Proofs.Template.Filling
import PlotDeck.Proofs.Template.Kept
import PlotDeck.Proofs.Template.Value

/-!
# Outlines

An **outline** is a filled line with its values left open: template text and slots, one after the
other. What is cut off a line when a path is missing is searched for in all the text before the
path, values included, so in general a line has no outline. It has one if the text that the template
has written since the last value is decisive wherever a path is missing (`Outline.Decided`). Then
nothing but template text is ever cut, so every value stands whole, and what goes with the missing
paths depends on the number of plots alone (`Outline.fill_foldl`, `Outline.losses_fill`). Otherwise
there are values that make up a directive at some missing path, and values that do not
(`Outline.lossesFrom_ne`).
-/

namespace PlotDeck

open Template Text

namespace Template

/-! ### What goes with a missing path -/

/-- Whether a token is the path of a plot that has no value. -/
def Token.isMissing (filled : Slot → Bool) : Token → Bool
  | .placeholder name =>
    match Slot.ofName? name with
    | some (.plotPath k) => !filled (.plotPath k)
    | _ => false
  | _ => false

/-- The slot of a token that is replaced by a value. -/
def Token.filledSlot? (filled : Slot → Bool) : Token → Option Slot
  | .placeholder name => (Slot.ofName? name).filter filled
  | _ => none

/-- Only filled slots are replaced. -/
theorem Token.of_filledSlot?_eq_some {filled : Slot → Bool} {t : Token} {slot : Slot}
    (h : t.filledSlot? filled = some slot) : filled slot = true := by
  cases t with
  | newline | literal => cases h
  | placeholder => exact (Option.filter_eq_some_iff.1 h).2

namespace Filling

/-- What a missing path takes along: the directive that the line ends with, or else the whole
line. -/
def loss (f : Filling) : Option (List Char) :=
  (cutEmbed? f.text).map fun before => f.text.drop before.length

/-- What the missing paths among these tokens take along, in order. -/
def losses (value? : Slot → Option (List Char)) : Filling → List Token → List (Option (List Char))
  | _, [] => []
  | f, t :: ts =>
    (if t.isMissing fun slot => (value? slot).isSome then [f.loss] else [])
      ++ losses value? (f.add value? t) ts

variable {value? : Slot → Option (List Char)} {f : Filling} {t : Token} {a : List Char}

/-- The line with more text in front. -/
def behind (f : Filling) (a : List Char) : Filling := { f with text := a ++ f.text }

theorem behind_write (f : Filling) (a u : List Char) :
    (f.behind a).write u = (f.write u).behind a := by
  simp [behind, write]

theorem loss_behind (h : cutEmbed? (a ++ f.text) = (cutEmbed? f.text).map (a ++ ·)) :
    (f.behind a).loss = f.loss := by
  rw [loss, behind, h, loss]
  cases cutEmbed? f.text with
  | none => rfl
  | some before => simp [List.drop_append]

/-- Text in front of a line stays there, unless a missing path cuts into it. -/
theorem add_behind (h : t.isMissing (fun slot => (value? slot).isSome) = true →
      cutEmbed? (a ++ f.text) = (cutEmbed? f.text).map (a ++ ·)) :
    (f.behind a).add value? t = (f.add value? t).behind a := by
  cases t with
  | newline => exact behind_write f a _
  | literal u => exact behind_write f a _
  | placeholder name =>
    cases hslot : Slot.ofName? name with
    | none => simp [add, hslot, behind, write]
    | some slot =>
      cases hv : value? slot with
      | some v => simp [add, hslot, addSlot, hv, behind, write]
      | none =>
        cases slot with
        | plotPath k =>
          have hcut := h (by simp [Token.isMissing, hslot, hv])
          simp only [add, hslot, addSlot, hv, erasePath, behind, hcut]
          cases cutEmbed? f.text <;> rfl
        | _ => simp [add, hslot, addSlot, hv, behind, write]

/-- A token that is not replaced by a value does the same where no slot has one. -/
theorem add_of_filledSlot?_eq_none (ht : t.filledSlot? (fun slot => (value? slot).isSome) = none) :
    f.add value? t = f.add (fun _ => none) t := by
  cases t with
  | newline | literal => rfl
  | placeholder name =>
    cases hslot : Slot.ofName? name with
    | none => simp only [add, hslot]
    | some slot =>
      have hv : value? slot = none := by simpa [Token.filledSlot?, hslot] using ht
      simp only [add, hslot]
      cases slot <;> simp only [addSlot, hv]

/-- A token that is replaced by a value adds the value. -/
theorem add_of_filledSlot?_eq_some {slot : Slot} {v : List Char} (hv : value? slot = some v)
    (ht : t.filledSlot? (fun slot => (value? slot).isSome) = some slot) :
    f.add value? t = { f with heldPlot := f.heldPlot || slot.isPlot }.write v := by
  cases t with
  | newline | literal => cases ht
  | placeholder name =>
    obtain ⟨hslot, -⟩ := Option.filter_eq_some_iff.1 ht
    simp only [add, hslot, addSlot, hv]

end Filling

/-! ### Outlines -/

/-- A filled line with its values left open. -/
structure Outline where
  /-- The slots of the line so far, each with the template text between it and the one before. -/
  pieces : List (List Char × Slot)
  /-- The line since the last slot. -/
  rest : Filling

namespace Outline

/-- The line before its first token. -/
def start : Outline := ⟨[], .start⟩

/-- The text up to the last slot, with these values. -/
def before (value? : Slot → Option (List Char)) (o : Outline) : List Char :=
  o.pieces.flatMap fun p => p.1 ++ (value? p.2).getD []

/-- The line with these values. -/
def fill (value? : Slot → Option (List Char)) (o : Outline) : Filling :=
  o.rest.behind (o.before value?)

/-- Adds a token of the template, knowing only which slots are filled. -/
def add (filled : Slot → Bool) (o : Outline) (t : Token) : Outline :=
  match t.filledSlot? filled with
  | some slot =>
    { pieces := o.pieces ++ [(o.rest.text, slot)]
      rest := { o.rest with
        text := [], heldPlot := o.rest.heldPlot || slot.isPlot, closing := false } }
  | none => { o with rest := o.rest.add (fun _ => none) t }

/-- What the missing paths among these tokens take along, as far as it is template text since the
last slot. -/
def losses (filled : Slot → Bool) : Outline → List Token → List (Option (List Char))
  | _, [] => []
  | o, t :: ts =>
    (if t.isMissing filled then [o.rest.loss] else []) ++ losses filled (o.add filled t) ts

/-- Wherever a path is missing, the template text since the last slot is decisive, or there is no
slot yet. -/
def Decided (filled : Slot → Bool) : Outline → List Token → Prop
  | _, [] => True
  | o, t :: ts =>
    (t.isMissing filled → o.pieces = [] ∨ IsDecisive o.rest.text) ∧
    Decided filled (o.add filled t) ts

/-- Whether a line is decided is found token by token. -/
instance decidableDecided (filled : Slot → Bool) :
    (o : Outline) → (ts : List Token) → Decidable (Decided filled o ts)
  | _, [] => isTrue trivial
  | o, t :: ts =>
    have := decidableDecided filled (o.add filled t) ts
    inferInstanceAs (Decidable
      ((t.isMissing filled → o.pieces = [] ∨ IsDecisive o.rest.text) ∧
        Decided filled (o.add filled t) ts))

variable {value? : Slot → Option (List Char)} {filled : Slot → Bool} {o : Outline} {t : Token}
  {ts : List Token}

theorem cutEmbed?_before (h : o.pieces = [] ∨ IsDecisive o.rest.text) :
    cutEmbed? (o.before value? ++ o.rest.text)
      = (cutEmbed? o.rest.text).map (o.before value? ++ ·) := by
  rcases h with h | h
  · simp [before, h]
  · exact h _

/-- One token does to a filled line what it does to its outline. -/
theorem fill_add (hfill : ∀ slot, (value? slot).isSome = filled slot)
    (h : t.isMissing filled → o.pieces = [] ∨ IsDecisive o.rest.text) :
    (o.fill value?).add value? t = (o.add filled t).fill value? := by
  obtain rfl : (fun slot => (value? slot).isSome) = filled := funext hfill
  cases ht : t.filledSlot? fun slot => (value? slot).isSome with
  | none =>
    rw [fill, Filling.add_behind fun hmissing => cutEmbed?_before (h hmissing),
      Filling.add_of_filledSlot?_eq_none ht, add, ht]
    rfl
  | some slot =>
    obtain ⟨v, hv⟩ := Option.isSome_iff_exists.1 (Token.of_filledSlot?_eq_some ht)
    rw [Filling.add_of_filledSlot?_eq_some hv ht, add, ht]
    simp [fill, Filling.behind, Filling.write, before, hv]

/-- A run of tokens does to a filled line what it does to its outline. -/
theorem fill_foldl (hfill : ∀ slot, (value? slot).isSome = filled slot) (h : Decided filled o ts) :
    ts.foldl (Filling.add value?) (o.fill value?) = (ts.foldl (add filled) o).fill value? := by
  induction ts generalizing o with
  | nil => rfl
  | cons t ts ih => rw [List.foldl_cons, fill_add hfill h.1, ih h.2, List.foldl_cons]

/-- What goes with the missing paths is then template text. -/
theorem losses_fill (hfill : ∀ slot, (value? slot).isSome = filled slot) (h : Decided filled o ts) :
    (o.fill value?).losses value? ts = losses filled o ts := by
  obtain rfl : (fun slot => (value? slot).isSome) = filled := funext hfill
  induction ts generalizing o with
  | nil => rfl
  | cons t ts ih =>
    rw [Filling.losses, losses, fill_add hfill h.1, ih h.2]
    congr 1
    by_cases ht : t.isMissing fun slot => (value? slot).isSome
    · rw [if_pos ht, if_pos ht, fill, Filling.loss_behind (cutEmbed?_before (h.1 ht))]
    · rw [if_neg ht, if_neg ht]

/-- The slots of an outline are the filled slots of its tokens. -/
theorem slots_foldl :
    (ts.foldl (add filled) o).pieces.map Prod.snd
      = o.pieces.map Prod.snd ++ ts.filterMap (Token.filledSlot? filled) := by
  induction ts generalizing o with
  | nil => simp
  | cons t ts ih =>
    rw [List.foldl_cons, ih, add, List.filterMap_cons]
    cases t.filledSlot? filled <;> simp

/-! ### Values that matter -/

/-- The same value for every filled slot. -/
def uniform (filled : Slot → Bool) (v : List Char) (slot : Slot) : Option (List Char) :=
  if filled slot then some v else none

theorem isSome_uniform (filled : Slot → Bool) (v : List Char) (slot : Slot) :
    (uniform filled v slot).isSome = filled slot := by
  rw [uniform]
  split <;> simp_all

/-- Only filled slots get into an outline. -/
theorem forall_filled_add (ho : ∀ p ∈ o.pieces, filled p.2 = true) (t : Token) :
    ∀ p ∈ (o.add filled t).pieces, filled p.2 = true := by
  rw [add]
  cases ht : t.filledSlot? filled with
  | none => exact ho
  | some slot =>
    refine List.forall_mem_append.2 ⟨ho, ?_⟩
    simpa using Token.of_filledSlot?_eq_some ht

/-- The text up to the last slot ends with the value of that slot. -/
theorem exists_before_uniform (ho : ∀ p ∈ o.pieces, filled p.2 = true) (hne : o.pieces ≠ [])
    (v : List Char) : ∃ x, o.before (uniform filled v) = x ++ v := by
  obtain ⟨ps, p, hp⟩ := List.eq_nil_or_concat o.pieces |>.resolve_left hne
  have hlast : filled p.2 = true := ho p (by simp [hp])
  exact ⟨(ps.flatMap fun q => q.1 ++ (uniform filled v q.2).getD []) ++ p.1, by
    simp [before, hp, uniform, hlast]⟩

/-- A line that is not decided is dropped if all values are a barrier. -/
theorem none_mem_losses_barrier (ho : ∀ p ∈ o.pieces, filled p.2 = true)
    (h : ¬Decided filled o ts) :
    none ∈ (o.fill (uniform filled barrier)).losses (uniform filled barrier) ts := by
  have hfill := isSome_uniform filled barrier
  have hfilled : (fun slot => (uniform filled barrier slot).isSome) = filled := funext hfill
  induction ts generalizing o with
  | nil => exact absurd trivial h
  | cons t ts ih =>
    rw [Filling.losses, List.mem_append, hfilled]
    by_cases ht : t.isMissing filled → o.pieces = [] ∨ IsDecisive o.rest.text
    · refine .inr ?_
      rw [fill_add hfill ht]
      exact ih (forall_filled_add ho t) fun hts => h ⟨ht, hts⟩
    · -- the first missing path that is not decided: the last value stands in front of what is there
      obtain ⟨hmissing, hopen⟩ := Classical.not_imp.1 ht
      obtain ⟨hne, hrest⟩ := not_or.1 hopen
      obtain ⟨x, hx⟩ := exists_before_uniform ho hne barrier
      refine .inl ?_
      rw [if_pos hmissing, List.mem_singleton, eq_comm, Filling.loss, Option.map_eq_none_iff, fill,
        Filling.behind, hx]
      exact cutEmbed?_barrier (cutEmbed?_of_not_isDecisive hrest) x

end Outline

end Template

end PlotDeck
