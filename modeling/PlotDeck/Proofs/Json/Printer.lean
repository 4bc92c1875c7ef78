import PlotDeck.Json.Printer
import PlotDeck.Proofs.Json.Written

/-!
# Printed values are parsed

A tree **shows** a value when it is a tree of that value's parts, without a fault. A printed value
is one of the many ways to write it (`Value.written`), so it is parsed, and what its tree presents
is the value (`shows_parse_print`).
-/

namespace PlotDeck.Json

/-! ### What trees show -/

mutual
/-- The tree is one of the value, and this is what is left after it. -/
inductive Shows : Node → Value → List Char → Prop
  /-- A text. -/
  | text (s : String) (after : List Char) : Shows (.scalar (.ok (.text s)) after) (.text s) after
  /-- A truth value. -/
  | flag (b : Bool) (after : List Char) : Shows (.scalar (.ok (.flag b)) after) (.flag b) after
  /-- A list. -/
  | list {start after : List Char} {items : Items} {vs : List Value} :
    ShowsItems items vs → Shows (.list start items (.ok after)) (.list vs) after
  /-- Members. -/
  | record {start after : List Char} {members : Members} {ms : List (String × Value)} :
    ShowsMembers members ms → Shows (.record start members (.ok after)) (.record ms) after

/-- The items are trees of the values. -/
inductive ShowsItems : Items → List Value → Prop
  /-- No items. -/
  | nil : ShowsItems .nil []
  /-- An item and the items after it. -/
  | cons {item : Node} {rest : Items} {v : Value} {vs : List Value} {after : List Char} :
    Shows item v after → ShowsItems rest vs → ShowsItems (.cons item rest) (v :: vs)

/-- The members are trees of the values, under the same names. -/
inductive ShowsMembers : Members → List (String × Value) → Prop
  /-- No members. -/
  | nil : ShowsMembers .nil []
  /-- A member and the members after it. -/
  | cons {node : Node} {rest : Members} {afterName after : List Char} {name : String} {v : Value}
      {ms : List (String × Value)} :
    Shows node v after → ShowsMembers rest ms →
      ShowsMembers (.cons (.ok name) afterName node rest) ((name, v) :: ms)
end

variable {node : Node} {v : Value} {rest : List Char} {before : Gap} {level : Nat}

theorem Shows.ending (h : Shows node v rest) : node.ending = .ok rest := by
  cases h <;> rfl

/-! ### Printed values are written -/

/-- The space between lines. -/
def newLineGap (level : Nat) : Gap := ⟨newLine level, by simp [newLine, isSpace]⟩

/-- A single space. -/
def spaceGap : Gap := ⟨[' '], by simp [isSpace]⟩

mutual
/-- A printed value behind space. -/
def Value.written (before : Gap) (level : Nat) : Value → Written
  | .text s => .scalar before (.string (lettersOf s)) .empty
  | .flag b => .scalar before (.flag b) .empty
  | .list vs =>
    .list before (writtenItems (level + 1) vs)
      (if vs.isEmpty then .empty else newLineGap level) .empty
  | .record ms =>
    .record before (writtenMembers (level + 1) ms) (if ms.isEmpty then .empty else newLineGap level)
      .empty

/-- Printed items, each on a line of its own. -/
def writtenItems (level : Nat) : List Value → List Written
  | [] => []
  | v :: vs => v.written (newLineGap level) level :: writtenItems level vs

/-- Printed members, each on a line of its own. -/
def writtenMembers (level : Nat) : List (String × Value) → List (Label × Written)
  | [] => []
  | (name, v) :: ms =>
    (⟨newLineGap level, lettersOf name, .empty⟩, v.written spaceGap level) ::
      writtenMembers level ms
end

theorem text_ofChar (c : Char) : (Letter.ofChar c).text = escapeChar c := by
  rw [Letter.ofChar, escapeChar]
  split_ifs <;> rfl

/-- A text is printed as its letters. -/
theorem lettersText_lettersOf (s : String) :
    lettersText (lettersOf s) = s.toList.flatMap escapeChar := by
  rw [lettersText, lettersOf, List.flatMap_map]
  exact congrArg (s.toList.flatMap ·) (funext text_ofChar)

mutual
/-- A printed value is the text of how it is written. -/
theorem text_written (before : Gap) (level : Nat) (v : Value) :
    (v.written before level).text = before.text ++ v.print level := by
  match v with
  | .text s =>
    rw [Value.written, Written.text, Scalar.text, lettersText_lettersOf, Value.print, printString]
    simp [Gap.empty]
  | .flag b => cases b <;> simp [Value.written, Written.text, Scalar.text, Value.print, Gap.empty]
  | .list [] => simp [Value.written, writtenItems, Written.text, Value.print, Gap.empty]
  | .list (v :: vs) =>
    rw [Value.written, writtenItems, Written.text, text_written, itemsText_writtenItems,
      Value.print]
    simp [newLineGap, Gap.empty]
  | .record [] => simp [Value.written, writtenMembers, Written.text, Value.print, Gap.empty]
  | .record ((name, v) :: ms) =>
    rw [Value.written, writtenMembers, Written.text, text_written, membersText_writtenMembers,
      Value.print]
    simp [newLineGap, spaceGap, Label.text, Gap.empty, printString, lettersText_lettersOf]

theorem itemsText_writtenItems (level : Nat) (vs : List Value) :
    itemsText (writtenItems level vs) = printItems level vs := by
  match vs with
  | [] => rfl
  | v :: vs =>
    rw [writtenItems, itemsText, text_written, itemsText_writtenItems, printItems]
    simp [newLineGap]

theorem membersText_writtenMembers (level : Nat) (ms : List (String × Value)) :
    membersText (writtenMembers level ms) = printMembers level ms := by
  match ms with
  | [] => rfl
  | (name, v) :: ms =>
    rw [writtenMembers, membersText, text_written, membersText_writtenMembers, printMembers]
    simp [newLineGap, spaceGap, Label.text, Gap.empty, printString, lettersText_lettersOf]
end

/-! ### What their trees show -/

mutual
/-- A tree that presents a printed value shows it. -/
theorem shows_of_presents (v : Value) {node : Node} {before : Gap} {level : Nat} {rest : List Char}
    (h : Presents node (v.written before level) rest) : Shows node v rest := by
  match v with
  | .text s =>
    rw [Value.written] at h
    cases h with
    | scalar _ _ _ hvalue =>
      rw [Scalar.found?, spelled_lettersOf] at hvalue
      obtain rfl := toOption_eq_some_iff.1 hvalue
      exact .text s rest
  | .flag b =>
    rw [Value.written] at h
    cases h with
    | scalar _ _ _ hvalue =>
      obtain rfl := toOption_eq_some_iff.1 hvalue
      exact .flag b rest
  | .list vs =>
    rw [Value.written] at h
    cases h with
    | list _ _ _ _ _ hitems => exact .list (showsItems_of_presents vs hitems)
  | .record ms =>
    rw [Value.written] at h
    cases h with
    | record _ _ _ _ _ hmembers => exact .record (showsMembers_of_presents ms hmembers)

theorem showsItems_of_presents (vs : List Value) {items : Items} {level : Nat}
    (h : PresentsItems items (writtenItems level vs)) : ShowsItems items vs := by
  match vs with
  | [] =>
    cases h
    exact .nil
  | v :: vs =>
    cases h with
    | cons hitem _ hitems =>
      exact .cons (shows_of_presents v hitem) (showsItems_of_presents vs hitems)

theorem showsMembers_of_presents (ms : List (String × Value)) {members : Members} {level : Nat}
    (h : PresentsMembers members (writtenMembers level ms)) : ShowsMembers members ms := by
  match ms with
  | [] =>
    cases h
    exact .nil
  | (name, v) :: ms =>
    cases h with
    | cons _ hname hvalue hmembers =>
      obtain rfl := toOption_eq_some_iff.1 (hname.trans (spelled_lettersOf name))
      exact .cons (shows_of_presents v hvalue) (showsMembers_of_presents ms hmembers)
end

/-- **A printed value is parsed**: the tree of its text shows it, and nothing is left. -/
theorem shows_parse_print (v : Value) : Shows (parse (v.print 0)) v [] := by
  have hpresents := presents_parse (v.written .empty 0)
  have hafter : (v.written .empty 0).after = .empty := by
    cases v <;> rw [Value.written, Written.after]
  rw [text_written, hafter] at hpresents
  exact shows_of_presents v hpresents

end PlotDeck.Json
