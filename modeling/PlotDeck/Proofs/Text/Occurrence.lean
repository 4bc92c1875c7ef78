import Mathlib.Data.List.Infix

/-!
# Occurrences

The positions at which a pattern stands in a text, in ascending order. Text on both sides of a
character that the pattern does not hold has its occurrences apart (`occurrences_append_cons`), so
the occurrences in a line can be read off its parts.
-/

namespace PlotDeck.Text

/-- The positions at which the pattern stands. -/
def occurrences (p t : List Char) : List Nat :=
  (List.range t.length).filter fun i => p.isPrefixOf (t.drop i)

theorem occurrences_cons (p : List Char) (c : Char) (r : List Char) :
    occurrences p (c :: r)
      = (if p.isPrefixOf (c :: r) then [0] else []) ++ (occurrences p r).map (· + 1) := by
  rw [occurrences, List.length_cons, List.range_succ_eq_map, List.filter_cons, List.filter_map,
    List.drop_zero]
  split <;> rfl

/-- A pattern occurs nowhere exactly when it is no part of the text. -/
theorem occurrences_eq_nil_iff {p : List Char} (hp : p ≠ []) {t : List Char} :
    occurrences p t = [] ↔ ¬p <:+: t := by
  induction t with
  | nil => simp [occurrences, hp]
  | cons c r ih =>
    rw [occurrences_cons, List.append_eq_nil_iff, List.map_eq_nil_iff, ih, List.infix_cons_iff,
      not_or, ← List.isPrefixOf_iff_prefix]
    simp

/-- A pattern cannot reach over a character that it does not hold. -/
theorem prefix_append_cons_iff {p : List Char} {c : Char} (hc : c ∉ p) (a b : List Char) :
    p <+: a ++ c :: b ↔ p <+: a := by
  refine ⟨fun h => ?_, fun h => h.trans (List.prefix_append a _)⟩
  have hle : p.length ≤ a.length := by
    by_contra hlt
    have hreach : a ++ [c] <+: p := by
      refine List.prefix_of_prefix_length_le ?_ h (by simp; omega)
      exact ⟨b, by simp⟩
    exact hc (hreach.subset (by simp))
  exact List.prefix_of_prefix_length_le h (List.prefix_append a _) hle

/-- Text on both sides of a character outside the pattern has its occurrences apart. -/
theorem occurrences_append_cons {p : List Char} (hp : p ≠ []) {c : Char} (hc : c ∉ p)
    (a b : List Char) :
    occurrences p (a ++ c :: b)
      = occurrences p a ++ (occurrences p b).map (· + (a.length + 1)) := by
  induction a with
  | nil =>
    have hprefix : p.isPrefixOf (c :: b) = false := by
      rw [Bool.eq_false_iff, Ne, List.isPrefixOf_iff_prefix, ← List.nil_append (c :: b),
        prefix_append_cons_iff hc, List.prefix_nil]
      exact hp
    rw [List.nil_append, occurrences_cons, hprefix]
    rfl
  | cons x a ih =>
    have hprefix : p.isPrefixOf (x :: a ++ c :: b) = p.isPrefixOf (x :: a) := by
      rw [Bool.eq_iff_iff, List.isPrefixOf_iff_prefix, List.isPrefixOf_iff_prefix,
        prefix_append_cons_iff hc]
    rw [List.cons_append, occurrences_cons, ih, ← List.cons_append, hprefix, occurrences_cons,
      List.map_append, List.map_map, List.append_assoc]
    rfl

/-- Behind a character outside the pattern, occurrences are those of what follows. -/
theorem occurrences_append_singleton_append {p : List Char} (hp : p ≠ []) {c : Char} (hc : c ∉ p)
    (a b : List Char) :
    occurrences p (a ++ [c] ++ b)
      = occurrences p (a ++ [c]) ++ (occurrences p b).map (· + (a ++ [c]).length) := by
  have hlast : occurrences p (a ++ [c]) = occurrences p a := by
    rw [occurrences_append_cons hp hc]
    simp [occurrences]
  rw [hlast, List.append_assoc, List.singleton_append, occurrences_append_cons hp hc,
    List.length_append, List.length_singleton]

/-- Parts on both sides of a character outside the pattern cannot make up an occurrence. -/
theorem not_infix_append_cons {p : List Char} (hp : p ≠ []) {c : Char} (hc : c ∉ p)
    {a b : List Char} (ha : ¬p <:+: a) (hb : ¬p <:+: b) : ¬p <:+: a ++ c :: b := by
  rw [← occurrences_eq_nil_iff hp] at ha hb ⊢
  rw [occurrences_append_cons hp hc, ha, hb]
  rfl

end PlotDeck.Text
