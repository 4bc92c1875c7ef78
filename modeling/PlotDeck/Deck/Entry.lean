import PlotDeck.Deck.Basic

/-!
# Plot entries

A plot may be spelled in four ways: as a path, as a list of a path, as a list of a path and a
caption, or as a record with a `path` and perhaps a `caption`. Which one it is shows only when the
entry has been read, so entries are read as plain data first.
-/

namespace PlotDeck

/-- Plain data, as far as a plot entry can tell it apart. -/
inductive Data where
  /-- A text. -/
  | text (s : String)
  /-- A whole number that is not negative. -/
  | count (n : Nat)
  /-- A list. -/
  | list (items : List Data)
  /-- Members, each with a name and a value. -/
  | record (members : List (Data × Data))
  /-- Anything else. -/
  | other
deriving Repr

namespace Plot

/-- The members of a plot entry. -/
inductive Member where
  /-- The path of the image. -/
  | path
  /-- The caption. -/
  | caption
deriving DecidableEq, Repr

/-- The member that a name stands for: `some none` for a member that is passed over, `none` where
the name is none. Members may also be named by their number. -/
def Member.ofName? : Data → Option (Option Member)
  | .text "path" | .count 0 => some (some path)
  | .text "caption" | .count 1 => some (some caption)
  | .text _ | .count _ => some none
  | _ => none

/-- Reads the members of an entry in order, given what was read so far. A member may be given once,
and has to be a text. -/
def ofMembers? : Option String → Option String → List (Data × Data) → Option Plot
  | some path, caption, [] => some ⟨path, caption.getD ""⟩
  | none, _, [] => none
  | path, caption, (name, value) :: rest =>
    match Member.ofName? name, value with
    | some none, _ => ofMembers? path caption rest
    | some (some .path), .text s => if path.isSome then none else ofMembers? (some s) caption rest
    | some (some .caption), .text s =>
      if caption.isSome then none else ofMembers? path (some s) rest
    | _, _ => none

/-- The plot that an entry spells. -/
def ofData? : Data → Option Plot
  | .text path => some ⟨path, ""⟩
  | .list [.text path] => some ⟨path, ""⟩
  | .list [.text path, .text caption] => some ⟨path, caption⟩
  | .record members => ofMembers? none none members
  | _ => none

end Plot

end PlotDeck
