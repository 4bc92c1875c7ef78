import Mathlib.Data.List.Infix

/-!
# Braces

A text is **balanced** when each of its braces has a partner: read from left to right, it never
closes a brace that is not open, and it leaves none open.
-/

namespace PlotDeck.Text

/-- How many braces a text opens, less those that it closes. -/
def depth (t : List Char) : Int := t.count '{' - t.count '\x7d'

/-- From depth `d` on, the text **stays up** when no first part of it closes more than is open. -/
def StaysUp (d : Int) (t : List Char) : Prop := ∀ p, p <+: t → 0 ≤ d + depth p

/-- A text is **balanced** when it stays up from the ground and ends there. -/
structure Balanced (t : List Char) : Prop where
  /-- No brace is closed that is not open. -/
  staysUp : StaysUp 0 t
  /-- Every brace that is opened is closed. -/
  depth_eq : depth t = 0

@[simp] theorem depth_nil : depth [] = 0 := rfl

theorem depth_append (a b : List Char) : depth (a ++ b) = depth a + depth b := by
  simp only [depth, List.count_append]
  omega

theorem depth_eq_zero_of_not_mem {t : List Char} (hopen : '{' ∉ t) (hclose : '\x7d' ∉ t) :
    depth t = 0 := by
  rw [depth, List.count_eq_zero_of_not_mem hopen, List.count_eq_zero_of_not_mem hclose]
  rfl

namespace StaysUp

variable {d : Int} {a b t : List Char}

theorem nonneg_add (h : StaysUp d t) : 0 ≤ d + depth t := h t (List.prefix_refl t)

theorem of_isPrefix (h : StaysUp d t) (ha : a <+: t) : StaysUp d a := fun p hp => h p (hp.trans ha)

/-- A text that stays up from the ground stays up from anywhere above. -/
theorem of_zero (h : StaysUp 0 t) (hd : 0 ≤ d) : StaysUp d t := fun p hp => by
  have := h p hp
  omega

theorem append_iff : StaysUp d (a ++ b) ↔ StaysUp d a ∧ StaysUp (d + depth a) b := by
  constructor
  · refine fun h => ⟨h.of_isPrefix (List.prefix_append a b), fun p hp => ?_⟩
    have hup := h (a ++ p) ((List.prefix_append_right_inj a).2 hp)
    rw [depth_append] at hup
    omega
  · rintro ⟨ha, hb⟩ p hp
    rcases List.prefix_or_prefix_of_prefix hp (List.prefix_append a b) with h | ⟨q, rfl⟩
    · exact ha p h
    · have hup := hb q ((List.prefix_append_right_inj a).1 hp)
      rw [depth_append]
      omega

end StaysUp

namespace Balanced

variable {a b : List Char}

theorem nil : Balanced [] := by
  refine ⟨fun p hp => ?_, rfl⟩
  obtain rfl := List.prefix_nil.1 hp
  simp

theorem append (ha : Balanced a) (hb : Balanced b) : Balanced (a ++ b) where
  staysUp := by
    refine StaysUp.append_iff.2 ⟨ha.staysUp, ?_⟩
    rw [ha.depth_eq]
    exact hb.staysUp
  depth_eq := by rw [depth_append, ha.depth_eq, hb.depth_eq, Int.add_zero]

theorem flatten {ts : List (List Char)} (h : ∀ t ∈ ts, Balanced t) : Balanced ts.flatten := by
  induction ts with
  | nil => exact nil
  | cons t ts ih =>
    obtain ⟨ht, hts⟩ := List.forall_mem_cons.1 h
    exact ht.append (ih hts)

end Balanced

instance : DecidablePred Balanced := fun t =>
  decidable_of_iff ((∀ p ∈ t.inits, 0 ≤ 0 + depth p) ∧ depth t = 0)
    ⟨fun h => ⟨fun p hp => h.1 p ((List.mem_inits p t).2 hp), h.2⟩,
      fun h => ⟨fun p hp => h.staysUp p ((List.mem_inits p t).1 hp), h.depth_eq⟩⟩

end PlotDeck.Text
