import Mathlib.Data.List.Nodup
import Mathlib.Data.List.Pairwise
import Mathlib.Tactic.MkIffOfInductiveProp
import PlotDeck.Deck.Reader

/-!
# The order of members

How a record is read when nobody asks what the faults are. Members are read into the draft one after
the other (`readMember`). The members that a deck, a front page or a slide declares are kept apart
in the draft (`Apart`), so they can be read in any order (`Apart.readMembers_perm`), and a record by
order is read as if the names were there (`KeepsApart.readRecord_eq`).
-/

namespace PlotDeck

variable {ν δ α : Type} {declared : List (DeclaredMember Option ν δ)} {src : Source Option ν Unit}
  {d d' : δ} {v v' : ν}

/-! ### Members by name -/

/-- Reads a member into the draft: an unknown one is passed over, and none is read twice. -/
def readMember (declared : List (DeclaredMember Option ν δ)) (d : δ) (given : Option String × ν) :
    Option δ := do
  let name ← given.1
  match declared.find? (·.name == name) with
  | none => some d
  | some member => if member.isSet d then none else member.read given.2 d

/-- The members are kept apart in the draft: each has its own place, and is read no matter what the
others are. -/
structure Apart (declared : List (DeclaredMember Option ν δ)) : Prop where
  /-- A member that has been read is in the draft. -/
  isSet_of_read : ∀ m ∈ declared, ∀ {v d d'}, m.read v d = some d' → m.isSet d' = true
  /-- The others are in the draft as they were. -/
  isSet_eq_of_read : ∀ m ∈ declared, ∀ m' ∈ declared, m.name ≠ m'.name →
    ∀ {v d d'}, m.read v d = some d' → m'.isSet d' = m'.isSet d
  /-- Two members are read in either order. -/
  read_comm : ∀ m ∈ declared, ∀ m' ∈ declared, m.name ≠ m'.name →
    ∀ v v' d, (m.read v d).bind (m'.read v') = (m'.read v' d).bind (m.read v)

section

variable {name : String} {m m' : DeclaredMember Option ν δ}

theorem readMember_unnamed : readMember declared d (none, v) = none := rfl

theorem readMember_unknown (h : declared.find? (·.name == name) = none) :
    readMember declared d (some name, v) = some d := by
  simp [readMember, h]

theorem readMember_known (h : declared.find? (·.name == name) = some m) :
    readMember declared d (some name, v) = if m.isSet d then none else m.read v d := by
  simp [readMember, h]

/-- A member is not read twice. -/
theorem Apart.readMember_twice (hapart : Apart declared)
    (h : declared.find? (·.name == name) = some m) :
    (readMember declared d (some name, v)).bind (readMember declared · (some name, v')) = none := by
  rw [readMember_known h, Option.bind_eq_none_iff]
  intro d' hread
  split at hread
  · cases hread
  · rw [readMember_known h,
      if_pos (hapart.isSet_of_read m (List.mem_of_find?_eq_some h) hread)]

/-- Of two members that are kept apart, each is read if it is not in the draft. -/
theorem Apart.readMember_both (hapart : Apart declared) {name' : String}
    (h : declared.find? (·.name == name) = some m)
    (h' : declared.find? (·.name == name') = some m') (hne : m.name ≠ m'.name) :
    (readMember declared d (some name, v)).bind (readMember declared · (some name', v'))
      = if m.isSet d || m'.isSet d then none else (m.read v d).bind (m'.read v') := by
  have hkept : ∀ d', m.read v d = some d' → m'.isSet d' = m'.isSet d := fun _ =>
    hapart.isSet_eq_of_read m (List.mem_of_find?_eq_some h) m' (List.mem_of_find?_eq_some h') hne
  rw [readMember_known h]
  cases hset : m.isSet d with
  | true => simp
  | false =>
    cases hread : m.read v d with
    | none => simp
    | some d' => simp [readMember_known h', hkept d' hread]

/-- Two members are read in either order, whatever they are. -/
theorem Apart.readMember_comm (hapart : Apart declared) (a b : Option String × ν) (d : δ) :
    (readMember declared d a).bind (readMember declared · b)
      = (readMember declared d b).bind (readMember declared · a) := by
  obtain ⟨_ | name, v⟩ := a
  · simp [readMember_unnamed]
  obtain ⟨_ | name', v'⟩ := b
  · simp [readMember_unnamed]
  cases hm : declared.find? (·.name == name) with
  | none => simp [readMember_unknown hm]
  | some m =>
    cases hm' : declared.find? (·.name == name') with
    | none => simp [readMember_unknown hm']
    | some m' =>
      have hname : m.name = name := by simpa using List.find?_some hm
      have hname' : m'.name = name' := by simpa using List.find?_some hm'
      have hmem := List.mem_of_find?_eq_some hm
      have hmem' := List.mem_of_find?_eq_some hm'
      by_cases hne : name = name'
      · subst hne
        rw [hapart.readMember_twice hm, hapart.readMember_twice hm']
      · have hne : m.name ≠ m'.name := by rwa [hname, hname']
        rw [hapart.readMember_both hm hm' hne, hapart.readMember_both hm' hm hne.symm,
          Bool.or_comm, hapart.read_comm m hmem m' hmem' hne]

end

/-- Reads members into the draft in order. -/
def readMembers (declared : List (DeclaredMember Option ν δ)) (given : List (Option String × ν))
    (d : δ) : Option δ :=
  given.foldlM (readMember declared) d

theorem readMembers_append (given given' : List (Option String × ν)) (d : δ) :
    readMembers declared (given ++ given') d
      = (readMembers declared given d).bind (readMembers declared given') :=
  List.foldlM_append ..

/-- **Members can be read in any order.** -/
theorem Apart.readMembers_perm (hapart : Apart declared) {given given' : List (Option String × ν)}
    (h : given.Perm given') (d : δ) :
    readMembers declared given d = readMembers declared given' d := by
  induction h generalizing d with
  | nil => rfl
  | cons a _ ih => exact congrArg _ (funext ih)
  | swap a b l =>
    simp only [readMembers, List.foldlM_cons, Option.bind_eq_bind, ← Option.bind_assoc]
    rw [hapart.readMember_comm]
  | trans _ _ ih ih' => exact (ih d).trans (ih' d)

/-- Members that a record does not declare are passed over. -/
theorem readMembers_unknown {given : List (Option String × ν)}
    (h : ∀ g ∈ given, ∃ name, g.1 = some name ∧ name ∉ declared.map (·.name)) (d : δ) :
    readMembers declared given d = some d := by
  induction given with
  | nil => rfl
  | cons g given ih =>
    obtain ⟨⟨name, hname, hunknown⟩, hrest⟩ := List.forall_mem_cons.1 h
    obtain ⟨_, v⟩ := g
    obtain rfl := hname
    have hfind : declared.find? (·.name == name) = none := by
      rw [List.find?_eq_none]
      intro m hm hmname
      exact hunknown (List.mem_map.2 ⟨m, hm, by simpa using hmname⟩)
    rw [readMembers, List.foldlM_cons, readMember_unknown hfind]
    exact ih hrest

/-! ### Members by order -/

/-- The members that are given by order, with the names that are declared. Where the list ends
early, the members that are left have to be ones that may lack. -/
def nameInOrder : List (DeclaredMember Option ν δ) → List ν → Option (List (Option String × ν))
  | [], [] => some []
  | [], _ :: _ => none
  | m :: ms, [] => if (m :: ms).all (·.mayLack) then some [] else none
  | m :: ms, v :: vs => (nameInOrder ms vs).map ((some m.name, v) :: ·)

/-- The items of a list that can be ended behind the last of them only. -/
def itemsOf : List ν → List (GivenItem Option ν Unit)
  | [] => []
  | v :: vs =>
    { value := v, leave := if vs.isEmpty then some () else none, refuse := fun _ => () } ::
      itemsOf vs

/-- The items of a list, none of which is a fault. -/
def givenItems (vs : List ν) : GivenItems Option ν Unit where
  items := itemsOf vs
  close := some ()
  refuse _ := ()

/-- The members of a record, none of which is a fault unless its name is. -/
def givenMembers (ms : List (Option String × ν)) : GivenMembers Option ν Unit where
  members := ms.map fun (name, value) => { name, value, refuse := fun _ => () }
  close := some ()
  refuse _ := ()

theorem readByName_eq_readMembers (hpass : ∀ v, src.pass v = some ())
    (ms : List (Option String × ν))
    (d : δ) : readByName src declared (givenMembers ms).members d = readMembers declared ms d := by
  induction ms generalizing d with
  | nil => rfl
  | cons g ms ih =>
    obtain ⟨name?, v⟩ := g
    change readByName src declared (_ :: (givenMembers ms).members) d
      = (readMember declared d (name?, v)).bind (readMembers declared ms)
    rw [readByName]
    cases name? with
    | none => rfl
    | some name =>
      cases hm : declared.find? (·.name == name) with
      | none =>
        rw [readMember_unknown hm]
        simp [hm, hpass, ih]
      | some m =>
        rw [readMember_known hm]
        cases hset : m.isSet d with
        | true => simp [hm, hset]
        | false => simp [hm, hset, ih]

theorem find?_of_nodup (hnodup : (declared.map (·.name)).Nodup) {m : DeclaredMember Option ν δ}
    (hm : m ∈ declared) : declared.find? (·.name == m.name) = some m := by
  cases hfind : declared.find? (·.name == m.name) with
  | none => exact absurd (List.find?_eq_none.1 hfind m hm) (by simp)
  | some m' =>
    have hname : m'.name = m.name := by simpa using List.find?_some hfind
    rw [List.inj_on_of_nodup_map hnodup (List.mem_of_find?_eq_some hfind) hm hname]

/-- Members that the draft does not hold are read by order as they are by name. -/
theorem Apart.readByOrder_eq (hapart : Apart declared) (hnodup : (declared.map (·.name)).Nodup)
    (title : String) (all : List ν) (vs : List ν) :
    ∀ (ms : List (DeclaredMember Option ν δ)) (count : Nat) (leave : Option Unit) (d : δ),
      (∀ m ∈ ms, m ∈ declared) → (ms.map (·.name)).Nodup → (∀ m ∈ ms, m.isSet d = false) →
      (ms = [] → leave = if vs.isEmpty then some () else none) →
      readByOrder title (givenItems all) count leave ms (itemsOf vs) d
        = (nameInOrder ms vs).bind (readMembers declared · d) := by
  intro ms
  induction ms generalizing vs with
  | nil =>
    intro count leave d _ _ _ hleave
    rw [readByOrder, hleave rfl]
    cases vs <;> rfl
  | cons m ms ih =>
    intro count leave d hmem hdistinct hfresh _
    obtain ⟨hm, hms⟩ := List.forall_mem_cons.1 hmem
    cases vs with
    | nil =>
      rw [itemsOf, readByOrder, nameInOrder]
      by_cases hlack : (m :: ms).all (·.mayLack) = true
      · simp [givenItems, hlack, readMembers]
      · simp [givenItems, hlack]
    | cons v vs =>
      obtain ⟨hother, hdistinct⟩ := List.nodup_cons.1 hdistinct
      obtain ⟨hset, hfresh⟩ := List.forall_mem_cons.1 hfresh
      have hfind := find?_of_nodup hnodup hm
      have hstep : ∀ l, readMembers declared ((some m.name, v) :: l) d
          = (m.read v d).bind (readMembers declared l) := by
        intro l
        rw [readMembers, List.foldlM_cons, readMember_known hfind, if_neg (by simp [hset])]
        rfl
      rw [itemsOf, readByOrder, nameInOrder, Option.bind_map]
      simp only [Function.comp_def, hstep]
      cases hread : m.read v d with
      | none => simp
      | some d' =>
        have hstill : ∀ m' ∈ ms, m'.isSet d' = false := by
          intro m' hm'
          have hne : m.name ≠ m'.name := fun hname => hother (List.mem_map.2 ⟨m', hm', hname.symm⟩)
          rw [hapart.isSet_eq_of_read m hm m' (hms m' hm') hne hread, hfresh m' hm']
        exact ih vs _ _ d' hms hdistinct hstill fun _ => rfl

/-! ### Records -/

/-- A record that was opened: its members with or without their names. -/
inductive Opened (ν : Type) where
  /-- Members with their names. -/
  | byName (members : List (Option String × ν))
  /-- Members in the order in which the record declares them. -/
  | byOrder (values : List ν)

/-- The record as it was given. -/
def Opened.given : Opened ν → GivenRecord Option ν Unit
  | .byName ms => .byName (givenMembers ms)
  | .byOrder vs => .byOrder (givenItems vs)

/-- The members of a record with their names. -/
def Opened.members? (declared : List (DeclaredMember Option ν δ)) :
    Opened ν → Option (List (Option String × ν))
  | .byName ms => some ms
  | .byOrder vs => nameInOrder declared vs

/-- The members of a record are kept apart in its draft, and none of them is there at the start. -/
structure KeepsApart (shape : RecordShape Option ν δ α) : Prop where
  /-- The members are kept apart. -/
  apart : Apart shape.members
  /-- They have different names. -/
  nodup : (shape.members.map (·.name)).Nodup
  /-- The draft starts without them. -/
  fresh : ∀ m ∈ shape.members, m.isSet shape.start = false
  /-- There is one. -/
  notEmpty : shape.members ≠ []

section Record

variable {shape : RecordShape Option ν δ α}

/-- A finished draft is the record, or nothing. -/
theorem finish_eq_toOption (shape : RecordShape Option ν δ α) (d : δ) (refuse : Mismatch → Unit) :
    (match shape.finish d with
      | .ok a => pure a
      | .error mismatch => throw (refuse mismatch) : Option α) = (shape.finish d).toOption := by
  cases shape.finish d <;> rfl

theorem readRecord_byName {given : GivenMembers Option ν Unit}
    (hopen : src.record shape.title v = some (.byName given)) (hclose : given.close = some ()) :
    readRecord src shape v = (readByName src shape.members given.members shape.start).bind
      fun d => (shape.finish d).toOption := by
  rw [readRecord, hopen]
  simp only [Option.pure_def, Option.bind_eq_bind, Option.bind_some, hclose]
  exact congrArg _ (funext fun d => finish_eq_toOption shape d given.refuse)

theorem readRecord_byOrder {given : GivenItems Option ν Unit}
    (hopen : src.record shape.title v = some (.byOrder given)) :
    readRecord src shape v
      = (readByOrder (shape.title ++ s!" with {shape.members.length} elements") given 0 given.close
          shape.members given.items shape.start).bind fun d => (shape.finish d).toOption := by
  rw [readRecord, hopen]
  simp only [Option.pure_def, Option.bind_eq_bind, Option.bind_some]
  exact congrArg _ (funext fun d => finish_eq_toOption shape d given.refuse)

/-- **A record is read from its members**, with or without their names. -/
theorem KeepsApart.readRecord_eq (hshape : KeepsApart shape) (hpass : ∀ v, src.pass v = some ())
    {o : Opened ν} (hopen : src.record shape.title v = some o.given) :
    readRecord src shape v = (o.members? shape.members).bind fun ms =>
      (readMembers shape.members ms shape.start).bind fun d => (shape.finish d).toOption := by
  cases o with
  | byName ms =>
    rw [readRecord_byName hopen rfl, readByName_eq_readMembers hpass, Opened.members?,
      Option.bind_some]
  | byOrder vs =>
    have hread := hshape.apart.readByOrder_eq hshape.nodup
      (shape.title ++ s!" with {shape.members.length} elements") vs vs shape.members 0 (some ())
      shape.start (fun _ => id) hshape.nodup hshape.fresh fun hnil => absurd hnil hshape.notEmpty
    rw [readRecord_byOrder hopen, Opened.members?, ← Option.bind_assoc]
    exact congrArg (Option.bind · _) hread

end Record

/-! ### The records of a deck -/

/-- A member that has a place of its own in the draft. -/
structure Slot (ν δ : Type) where
  /-- The name of the member. -/
  name : String
  /-- What its value is read as. -/
  β : Type
  /-- What the draft holds of it. -/
  get : δ → Option β
  /-- Puts it into the draft. -/
  put : β → δ → δ
  /-- Reads its value. -/
  value : ν → Option β
  /-- Whether it may lack. -/
  mayLack : Bool := true

namespace Slot

/-- The member as it is declared. -/
def member (s : Slot ν δ) : DeclaredMember Option ν δ where
  name := s.name
  isSet d := (s.get d).isSome
  read v d := return s.put (← s.value v) d
  mayLack := s.mayLack

/-- What is put into the draft is there. -/
def Holds (s : Slot ν δ) : Prop := ∀ b d, (s.get (s.put b d)).isSome = true

/-- What is put into one place does not reach the other. -/
@[mk_iff]
structure Separate (s t : Slot ν δ) : Prop where
  /-- The second place is as it was. -/
  left : ∀ b d, t.get (s.put b d) = t.get d
  /-- The first place is as it was. -/
  right : ∀ b d, s.get (t.put b d) = s.get d
  /-- The order does not matter. -/
  comm : ∀ b c d, s.put b (t.put c d) = t.put c (s.put b d)

instance : Std.Symm (@Separate ν δ) where
  symm _ _ h := ⟨h.right, h.left, fun b c d => (h.comm c b d).symm⟩

theorem apart_map_member (slots : List (Slot ν δ)) (hholds : ∀ s ∈ slots, s.Holds)
    (hseparate : slots.Pairwise Separate) : Apart (slots.map member) := by
  have hpair : ∀ s ∈ slots, ∀ t ∈ slots, s.member.name ≠ t.member.name → Separate s t :=
    fun s hs t ht hne => hseparate.forall hs ht fun h => hne (h ▸ rfl)
  have hread : ∀ {s : Slot ν δ} {v : ν} {d d' : δ}, s.member.read v d = some d' →
      ∃ b, s.value v = some b ∧ s.put b d = d' := by
    intro s v d d' hread
    obtain ⟨b, hb, hput⟩ := Option.bind_eq_some_iff.1 hread
    exact ⟨b, hb, Option.some.inj hput⟩
  constructor
  · intro m hm v d d' h
    obtain ⟨s, hs, rfl⟩ := List.mem_map.1 hm
    obtain ⟨b, -, rfl⟩ := hread h
    exact hholds s hs b d
  · intro m hm m' hm' hne v d d' h
    obtain ⟨s, hs, rfl⟩ := List.mem_map.1 hm
    obtain ⟨t, ht, rfl⟩ := List.mem_map.1 hm'
    obtain ⟨b, -, rfl⟩ := hread h
    exact congrArg Option.isSome ((hpair s hs t ht hne).left b d)
  · intro m hm m' hm' hne v v' d
    obtain ⟨s, hs, rfl⟩ := List.mem_map.1 hm
    obtain ⟨t, ht, rfl⟩ := List.mem_map.1 hm'
    have hcomm := (hpair s hs t ht hne).comm
    simp only [member]
    cases s.value v <;> cases t.value v' <;> simp [hcomm]

end Slot

theorem FrontPage.keepsApart (src : Source Option ν Unit) : KeepsApart (FrontPage.shape src) where
  apart := Slot.apart_map_member [
      ⟨"title", String, Draft.title, fun b d => { d with title := some b }, src.text, true⟩,
      ⟨"subtitle", String, Draft.subtitle, fun b d => { d with subtitle := some b }, src.text,
        true⟩,
      ⟨"author", String, Draft.author, fun b d => { d with author := some b }, src.text, true⟩]
    (by simp [Slot.Holds]) (by simp [Slot.separate_iff])
  nodup := by simp [shape]
  fresh := by simp [shape]
  notEmpty := List.cons_ne_nil _ _

theorem Slide.keepsApart (src : Source Option ν Unit) : KeepsApart (Slide.shape src) where
  apart := Slot.apart_map_member [
      ⟨"title", String, Draft.title, fun b d => { d with title := some b }, src.text, true⟩,
      ⟨"section", Option String, Draft.sectionTitle, fun b d => { d with sectionTitle := some b },
        src.optionalText, true⟩,
      ⟨"toptext", Option String, Draft.topText, fun b d => { d with topText := some b },
        src.optionalText, true⟩,
      ⟨"bottomtext", Option String, Draft.bottomText, fun b d => { d with bottomText := some b },
        src.optionalText, true⟩,
      ⟨"plots", List Plot, Draft.plots, fun b d => { d with plots := some b },
        readList src (readPlot src), true⟩]
    (by simp [Slot.Holds]) (by simp [Slot.separate_iff])
  nodup := by simp [shape]
  fresh := by simp [shape]
  notEmpty := List.cons_ne_nil _ _

theorem Deck.keepsApart (src : Source Option ν Unit) : KeepsApart (Deck.shape src) where
  apart := Slot.apart_map_member [
      ⟨"frontpage", FrontPage, Draft.frontPage, fun b d => { d with frontPage := some b },
        readRecord src (FrontPage.shape src), false⟩,
      ⟨"slides", List Slide, Draft.slides, fun b d => { d with slides := some b },
        readList src (readRecord src (Slide.shape src) ·.value), false⟩,
      ⟨"table_of_contents", Bool, Draft.outline, fun b d => { d with outline := some b },
        src.flag, true⟩]
    (by simp [Slot.Holds]) (by simp [Slot.separate_iff])
  nodup := by simp [shape]
  fresh := by simp [shape]
  notEmpty := List.cons_ne_nil _ _

end PlotDeck
