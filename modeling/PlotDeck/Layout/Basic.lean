/-!
# Layouts and their registry

A **layout** is a slide template with room for a number of plots, its capacity. A **registry** keeps
layouts under their capacities, at most one for each, and picks the smallest that has room.
-/

namespace PlotDeck

/-- A slide template and the number of plots it has room for. -/
structure Layout where
  /-- The name of the layout. -/
  name : String
  /-- The most plots that the layout can hold. -/
  capacity : Nat
  /-- The template. -/
  source : String
deriving DecidableEq, Repr

/-- Why a slide could not be laid out, or a layout not registered. -/
inductive LayoutError where
  /-- A slide has `count` plots where at most `max` can be placed. -/
  | unsupported (count max : Nat)
  /-- A layout of this capacity is registered already. -/
  | duplicateCapacity (capacity : Nat) (name : String)
  /-- The slide at this 1-based position failed. -/
  | inSlide (index : Nat) (title : String) (cause : LayoutError)
deriving DecidableEq, Repr

namespace LayoutError

/-- The text of an error. -/
def message : LayoutError → String
  | unsupported count max =>
    s!"cannot make a slide with {count} plots (at most {max} supported)"
  | duplicateCapacity capacity name =>
    s!"duplicate layout for capacity {capacity}: '" ++ name ++ "'"
  | inSlide index title cause =>
    s!"slide {index} ('" ++ title ++ "'): " ++ cause.message

/-- The number of plots that was refused, whichever slide it was. -/
def unsupportedCount : LayoutError → Option Nat
  | unsupported count _ => some count
  | duplicateCapacity _ _ => none
  | inSlide _ _ cause => cause.unsupportedCount

end LayoutError

/-- Layouts under keys, which are their capacities. -/
structure Registry where
  /-- The keys in ascending order, each with the layout that stands under it. -/
  entries : List (Nat × Layout) := []
  /-- No key is there twice, and smaller ones come first. -/
  ascending : entries.Pairwise (·.1 < ·.1) := by simp
  /-- Every layout stands under its own capacity. -/
  keyed : ∀ e ∈ entries, e.1 = e.2.capacity := by simp

namespace Registry

/-- The registry without layouts. -/
def empty : Registry := {}

/-- The registered layouts. -/
def layouts (r : Registry) : List Layout := r.entries.map Prod.snd

/-- The capacities that are taken, in ascending order. -/
def capacities (r : Registry) : List Nat := r.entries.map Prod.fst

/-- How many layouts are registered. -/
def size (r : Registry) : Nat := r.entries.length

/-- Whether no layout is registered. -/
def isEmpty (r : Registry) : Bool := r.entries.isEmpty

/-- The largest capacity that is taken; zero when there is none. -/
def maxCapacity (r : Registry) : Nat := (r.entries.getLast?.map Prod.fst).getD 0

/-- The layout registered for exactly this capacity. -/
def get? (r : Registry) (capacity : Nat) : Option Layout := r.entries.lookup capacity

/-- The smallest layout with room for `count` plots. -/
def resolve (r : Registry) (count : Nat) : Except LayoutError Layout :=
  match r.entries.find? (count ≤ ·.1) with
  | some (_, layout) => .ok layout
  | none => .error (.unsupported count r.maxCapacity)

/-- Puts an entry before the first one with a larger key. -/
def insertAscending (entry : Nat × Layout) : List (Nat × Layout) → List (Nat × Layout)
  | [] => [entry]
  | e :: es => if entry.1 < e.1 then entry :: e :: es else e :: insertAscending entry es

theorem mem_insertAscending {entry e : Nat × Layout} {es : List (Nat × Layout)} :
    e ∈ insertAscending entry es ↔ e = entry ∨ e ∈ es := by
  induction es with
  | nil => simp [insertAscending]
  | cons a as ih =>
    rw [insertAscending]
    split
    · simp
    · simp only [List.mem_cons, ih]
      exact or_left_comm

theorem pairwise_insertAscending {entry : Nat × Layout} {es : List (Nat × Layout)}
    (hes : es.Pairwise (·.1 < ·.1)) (hentry : ∀ e ∈ es, e.1 ≠ entry.1) :
    (insertAscending entry es).Pairwise (·.1 < ·.1) := by
  induction es with
  | nil => simp [insertAscending]
  | cons a as ih =>
    obtain ⟨ha, has⟩ := List.pairwise_cons.1 hes
    rw [insertAscending]
    split
    · rename_i hlt
      refine List.pairwise_cons.2 ⟨fun e he => ?_, hes⟩
      rcases List.mem_cons.1 he with rfl | he
      · exact hlt
      · exact Nat.lt_trans hlt (ha e he)
    · rename_i hle
      refine List.pairwise_cons.2
        ⟨fun e he => ?_, ih has fun e he => hentry e (List.mem_cons_of_mem _ he)⟩
      rcases mem_insertAscending.1 he with rfl | he
      · have := hentry a List.mem_cons_self
        omega
      · exact ha e he

/-- Registers a layout under its capacity, unless that is taken. -/
def register (r : Registry) (l : Layout) : Except LayoutError Registry :=
  if h : ∃ e ∈ r.entries, e.1 = l.capacity then
    .error (.duplicateCapacity l.capacity l.name)
  else
    .ok {
      entries := insertAscending (l.capacity, l) r.entries
      ascending := pairwise_insertAscending r.ascending fun e he hc => h ⟨e, he, hc⟩
      keyed := fun _ he => (mem_insertAscending.1 he).elim (fun heq => heq ▸ rfl) (r.keyed _) }

/-- Registers layouts one after the other; the first that is refused is the answer. -/
def registerAll (r : Registry) (ls : List Layout) : Except LayoutError Registry :=
  ls.foldlM register r

/-- Offers a layout: the answer, and the registry after it. A layout that is refused leaves the
registry as it was. -/
def offer (r : Registry) (l : Layout) : Except LayoutError Unit × Registry :=
  match r.register l with
  | .ok r' => (.ok (), r')
  | .error e => (.error e, r)

/-- The registry after layouts were offered to it one after the other. -/
def offerAll (r : Registry) : List Layout → Registry
  | [] => r
  | l :: ls => (r.offer l).2.offerAll ls

end Registry

end PlotDeck
