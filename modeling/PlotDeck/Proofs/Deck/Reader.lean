import Mathlib.Data.List.Forall2
import PlotDeck.Deck.Reader

/-!
# Reading without a fault

What it takes for a record or a list to be read: a record is opened, its members are read one after
the other, and its draft can be finished; a list is opened, and each of its items is read.
-/

namespace PlotDeck

variable {ν ε δ α : Type} {src : Source (Except ε) ν ε}

/-! ### Records -/

section Record

variable {declared : List (DeclaredMember (Except ε) ν δ)} {member : DeclaredMember (Except ε) ν δ}
  {given : GivenMember (Except ε) ν ε} {rest : List (GivenMember (Except ε) ν ε)} {name : String}
  {d d' : δ}

/-- A declared member that the draft does not hold is read into it. -/
theorem readByName_cons_of_find? (hname : given.name = .ok name)
    (hfind : declared.find? (·.name == name) = some member) (hset : member.isSet d = false)
    (hread : member.read given.value d = .ok d') :
    readByName src declared (given :: rest) d = readByName src declared rest d' := by
  rw [readByName, hname]
  simp [bind, Except.bind, hfind, hset, hread]

/-- A record by name is what its finished draft amounts to. -/
theorem readRecord_of_readByName {shape : RecordShape (Except ε) ν δ α} {v : ν}
    {members : GivenMembers (Except ε) ν ε} {a : α}
    (hopen : src.record shape.title v = .ok (.byName members))
    (hread : readByName src shape.members members.members shape.start = .ok d)
    (hclose : members.close = .ok ()) (hfinish : shape.finish d = .ok a) :
    readRecord src shape v = .ok a := by
  rw [readRecord, hopen]
  simp only [bind, Except.bind, hread, hclose, pure, Except.pure, hfinish]

end Record

/-! ### Lists -/

section Items

variable {read : GivenItem (Except ε) ν ε → Except ε α}

/-- Items are read one for one. -/
theorem readItems_eq_ok_iff {items : List (GivenItem (Except ε) ν ε)} {l : List α} :
    readItems read items = .ok l ↔ List.Forall₂ (fun item a => read item = .ok a) items l := by
  induction items generalizing l with
  | nil => cases l <;> simp [readItems, pure, Except.pure]
  | cons item items ih =>
    cases hitem : read item with
    | error e => cases l <;> simp [readItems, bind, Except.bind, hitem]
    | ok a =>
      cases hrest : readItems read items with
      | error e => cases l <;> simp [readItems, bind, Except.bind, hitem, hrest, ← ih]
      | ok l' =>
        cases l <;> simp [readItems, bind, Except.bind, pure, Except.pure, hitem, hrest, ← ih]

/-- A list is what its items are read as. -/
theorem readList_of_readItems {v : ν} {given : GivenItems (Except ε) ν ε} {l : List α}
    (hopen : src.list v = .ok given) (hread : readItems read given.items = .ok l)
    (hclose : given.close = .ok ()) : readList src read v = .ok l := by
  rw [readList, hopen]
  simp only [bind, Except.bind, hread, hclose, pure, Except.pure]

end Items

end PlotDeck
