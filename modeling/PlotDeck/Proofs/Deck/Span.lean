import PlotDeck.Deck.Parse
import PlotDeck.Proofs.Text.Boundary
import PlotDeck.Report

/-!
# Where errors point

A span **cuts out** a part of a text if it starts and ends at boundaries, in this order
(`Span.CutsOut`); only then can the text be cut by it. The span of a fault goes from a boundary to
the next one, so it cuts out a character, or nothing at the end of the text
(`Span.cutsOut_nextBoundary`). The label of a report is made for every span: it starts inside the
text and covers at least one place, and it covers what the span cuts out, if that is anything
(`Span.label_of_append`).

Offsets are computed in machine words. A column can be so large that its place is no word; then the
offset is that of another place, but still a boundary of the text, and a program that checks its
sums ends. The line and column of a fault name a place in the text, so this does not happen to them
(`DeckError.placeOf_fault_le`).
-/

namespace PlotDeck

open Text

namespace Span

variable {t before inside after : List Char} {n : Nat}

/-- The span starts and ends at boundaries of the text, in this order. -/
def CutsOut (s : Span) (t : List Char) : Prop :=
  ∃ before inside after, t = before ++ (inside ++ after) ∧ byteSize before = s.start ∧
    byteSize (before ++ inside) = s.stop

/-- From a boundary to the next one there is a character, or nothing at the end of the text. -/
theorem cutsOut_nextBoundary (h : IsBoundary t n) : CutsOut ⟨n, nextBoundary t n⟩ t := by
  obtain ⟨s, r, rfl, rfl⟩ := h
  refine ⟨s, r.take 1, r.drop 1, ?_, rfl, ?_⟩
  · rw [List.take_append_drop]
  · rw [byteSize_append, nextBoundary_append]

/-! ### Labels -/

theorem label_fst_le_length (s : Span) (t : List Char) : (s.label t).1 ≤ t.length :=
  charIndex_le_length t s.start

theorem label_fst_lt_snd (s : Span) (t : List Char) : (s.label t).1 < (s.label t).2 :=
  Nat.lt_of_succ_le (Nat.le_max_right _ _)

/-- The label of what a span cuts out counts the characters before its start and its end. -/
theorem label_of_append (before after : List Char) (hinside : inside ≠ []) :
    label ⟨byteSize before, byteSize (before ++ inside)⟩ (before ++ (inside ++ after))
      = (before.length, (before ++ inside).length) := by
  have hstart := charIndex_append before (inside ++ after)
  have hstop := charIndex_append (before ++ inside) after
  rw [List.append_assoc] at hstop
  have hlength : before.length + 1 ≤ (before ++ inside).length := by
    have hpos := List.length_pos_iff.2 hinside
    rw [List.length_append]
    omega
  rw [label, hstart, hstop, Nat.max_eq_left hlength]

end Span

namespace DeckError

/-- The span of a fault in a JSON text starts at the offset of its line and column. -/
theorem span_ofJson (t : List Char) (f : Json.Fault) {line column : Nat}
    (h : Json.Fault.lineAndColumn t (f.offset t) = (line, column)) :
    (ofJson t f).span?
      = some ⟨offsetOf t line column, nextBoundary t (offsetOf t line column)⟩ := by
  rw [ofJson, span?, h]

/-- The line and column of a fault in a JSON text name a place in the text. -/
theorem placeOf_fault_le (t : List Char) (f : Json.Fault) {line column : Nat}
    (h : Json.Fault.lineAndColumn t (f.offset t) = (line, column)) :
    placeOf t line column ≤ byteSize t := by
  obtain ⟨rfl, rfl⟩ := Prod.mk.inj h
  have hstart := lineStart_add_columnOf (isBoundary_floorBoundary t (f.offset t))
  have hfloor := floorBoundary_le t (f.offset t)
  have hinside : f.offset t ≤ byteSize t := Nat.min_le_left _ _
  rw [placeOf]
  omega

/-- A fault in a YAML text is pointed at by its index, but not beyond the end. -/
theorem span_ofYaml (t : List Char) {f : Yaml.Failure} {m : Yaml.Mark} (hm : f.mark? = some m) :
    (ofYaml t f).span?
      = some ⟨min m.index (byteSize t), nextBoundary t (min m.index (byteSize t))⟩ := by
  rw [ofYaml, span?, hm]
  rfl

end DeckError

end PlotDeck
