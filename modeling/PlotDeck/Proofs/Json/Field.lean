import PlotDeck.Proofs.Json.Meaning

/-!
# Decks with a hole

A record with a **hole** is one of which the value of a field is left open; a list with a hole lacks
an item. What such a record is read as depends on the value by what the field alone makes of it
(`FieldHole.exists_readRecord_fill`): the other members of the record are read no matter what it is.
-/

namespace PlotDeck.Json

open Written (named)

/-! ### Records and lists with a hole -/

/-- A record of which the value of the field `name` is left open; by order, it is the one that
`fields` has at its place. -/
inductive FieldHole (fields : List String) (name : String) where
  /-- The field is a member. -/
  | byName (before : Gap) (front : List (Label × Written)) (label : Label)
    (isName : label.name? = some name) (back : List (Label × Written)) (inner after : Gap)
  /-- The field is an item. -/
  | byOrder (before : Gap) (front : List Written) (isPlace : fields[front.length]? = some name)
    (back : List Written) (inner after : Gap)

/-- The record with a value of the field. -/
def FieldHole.fill {fields : List String} {name : String} (v : Written) :
    FieldHole fields name → Written
  | .byName before front label _ back inner after =>
    .record before (front ++ (label, v) :: back) inner after
  | .byOrder before front _ back inner after => .list before (front ++ v :: back) inner after

/-- A list of which an item is left open. -/
structure ItemHole where
  /-- The space before the list. -/
  before : Gap
  /-- The items before the one left open. -/
  front : List Written
  /-- The items after it. -/
  back : List Written
  /-- The space before the closing bracket. -/
  inner : Gap
  /-- The space behind the list. -/
  after : Gap

/-- The list with an item. -/
def ItemHole.fill (v : Written) (hole : ItemHole) : Written :=
  .list hole.before (hole.front ++ v :: hole.back) hole.inner hole.after

/-! ### What they are read as -/

/-- Items are read one for one. -/
theorem mapM_eq_some_iff {α : Type} {read : Written → Option α} {ws : List Written} {l : List α} :
    ws.mapM read = some l ↔ List.Forall₂ (fun w a => read w = some a) ws l := by
  induction ws generalizing l with
  | nil => cases l <;> simp
  | cons w ws ih =>
    rw [List.mapM_cons]
    cases hw : read w with
    | none => cases l <;> simp [hw]
    | some a =>
      cases hws : ws.mapM read with
      | none => cases l <;> simp [hw, ← ih, hws]
      | some l' => cases l <;> simp [hw, ← ih, hws]

theorem ItemHole.mapM_fill {α : Type} (hole : ItemHole) (read : Written → Option α) (v : Written) :
    (hole.fill v).items?.bind (List.mapM read)
      = (hole.front.mapM read).bind fun front => (read v).bind fun a =>
          (hole.back.mapM read).map fun back => front ++ a :: back := by
  change (hole.front ++ v :: hole.back).mapM read = _
  rw [List.mapM_append, List.mapM_cons]
  cases hole.front.mapM read <;> cases read v <;> cases hole.back.mapM read <;> rfl

section Record

variable {δ α : Type} {declared : List (DeclaredMember Option Written δ)} {name : String}
  {m : DeclaredMember Option Written δ}

/-- Members by order go by their names one by one. -/
theorem exists_nameInOrder_append {front : List Written}
    (h : (declared.map (·.name))[front.length]? = some name) (back : List Written) :
    ∃ ends : Option (List (Option String × Written) × List (Option String × Written)),
      ∀ v, nameInOrder declared (front ++ v :: back)
        = ends.map fun (l, l') => l ++ (some name, v) :: l' := by
  induction front generalizing declared with
  | nil =>
    cases declared with
    | nil => cases h
    | cons m ms =>
      obtain rfl : m.name = name := Option.some.inj h
      refine ⟨(nameInOrder ms back).map ([], ·), fun v => ?_⟩
      rw [List.nil_append, nameInOrder, Option.map_map]
      rfl
  | cons w front ih =>
    cases declared with
    | nil => cases h
    | cons m ms =>
      have hplace : (ms.map (·.name))[front.length]? = some name := h
      obtain ⟨ends, hends⟩ := ih hplace
      refine ⟨ends.map fun (l, l') => ((some m.name, w) :: l, l'), fun v => ?_⟩
      rw [List.cons_append, nameInOrder, hends, Option.map_map, Option.map_map]
      rfl

/-- The members of a record with a hole, but for the one left open. -/
theorem FieldHole.exists_members? (hole : FieldHole (declared.map (·.name)) name) :
    ∃ ends : Option (List (Option String × Written) × List (Option String × Written)),
      ∀ v, (hole.fill v).opened?.bind (Opened.members? declared)
        = ends.map fun (l, l') => l ++ (some name, v) :: l' := by
  cases hole with
  | byName before front label isName back inner after =>
    refine ⟨some (named front, named back), fun v => ?_⟩
    simp [fill, Written.opened?, Opened.members?, named, isName]
  | byOrder before front isPlace back inner after =>
    obtain ⟨ends, hends⟩ := exists_nameInOrder_append isPlace back
    exact ⟨ends, fun v => hends v⟩

/-- A written record is read from its members. -/
theorem readRecord_written {shape : RecordShape Option Written δ α} (hshape : KeepsApart shape)
    (w : Written) :
    readRecord Written.source shape w
      = (w.opened?.bind (Opened.members? shape.members)).bind fun ms =>
        (readMembers shape.members ms shape.start).bind fun d => (shape.finish d).toOption := by
  have hrecord : Written.source.record shape.title w = w.opened?.map Opened.given := rfl
  cases hopen : w.opened? with
  | none =>
    rw [hopen] at hrecord
    rw [readRecord, hrecord]
    rfl
  | some o =>
    rw [hopen] at hrecord
    exact hshape.readRecord_eq (fun _ => rfl) hrecord

/-- **A record with a hole** is read from the draft of its other members. -/
theorem FieldHole.exists_readRecord_fill {shape : RecordShape Option Written δ α}
    (hshape : KeepsApart shape) (hole : FieldHole (shape.members.map (·.name)) name)
    (hm : m ∈ shape.members) (hname : m.name = name) :
    ∃ draft : Option δ, ∀ v, readRecord Written.source shape (hole.fill v)
      = draft.bind fun d => (m.read v d).bind fun d' => (shape.finish d').toOption := by
  obtain ⟨ends, hends⟩ := hole.exists_members?
  refine ⟨ends.bind fun (l, l') =>
    (readMembers shape.members (l ++ l') shape.start).filter fun d => !m.isSet d, fun v => ?_⟩
  rw [readRecord_written hshape, hends]
  cases ends with
  | none => rfl
  | some ends =>
    obtain ⟨l, l'⟩ := ends
    -- the field is read as if it stood behind all other members
    have hperm : (l ++ (some name, v) :: l').Perm ((l ++ l') ++ [(some name, v)]) := by
      rw [List.append_assoc]
      exact (List.perm_append_singleton (some name, v) l').symm.append_left l
    have hfind := hname ▸ find?_of_nodup hshape.nodup hm
    simp only [Option.map_some, Option.bind_some]
    rw [hshape.apart.readMembers_perm hperm, readMembers_append]
    cases readMembers shape.members (l ++ l') shape.start with
    | none => rfl
    | some d =>
      have hstep : readMembers shape.members [(some name, v)] d
          = if m.isSet d then none else m.read v d := by
        rw [readMembers, List.foldlM_cons, readMember_known hfind]
        exact bind_pure _
      rw [Option.bind_some, hstep]
      cases hset : m.isSet d <;> simp [hset, Option.filter]

end Record

end PlotDeck.Json
