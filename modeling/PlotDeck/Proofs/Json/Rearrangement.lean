import PlotDeck.Proofs.Json.PlotEntry

/-!
# The order of members does not matter

The members of a record may stand in any order, and others may stand among them. A deck is
**rearranged** (`RearrangedDeck`) by doing so in its record and in those of its front page, its
slides and their plots, all at once; items of lists stay where they are. Rearranged decks mean the
same (`Deck.parse_rearranged`).
-/

namespace PlotDeck.Json

open Written (named)

/-! ### Rearranged records and lists -/

/-- The value is a string, a truth value or null. What escapes an unpaired surrogate is no string:
it spells no text. -/
inductive IsPlain : Written → Prop
  /-- Null. -/
  | null (before after : Gap) : IsPlain (.scalar before .null after)
  /-- A truth value. -/
  | flag (before after : Gap) (b : Bool) : IsPlain (.scalar before (.flag b) after)
  /-- A string. -/
  | string {w : Written} {s : String} : IsText w s → IsPlain w

/-- The member is none of the fields, and its value is plain. -/
def IsExtra (fields : List String) (m : Label × Written) : Prop :=
  (∃ name, m.1.name? = some name ∧ name ∉ fields) ∧ IsPlain m.2

/-- The values of the fields that are given in order are rearranged, each in its own way. -/
inductive RearrangedInOrder (part : String → Written → Written → Prop) :
    List String → List Written → List Written → Prop
  /-- The fields that are left may lack. -/
  | nil (fields : List String) : RearrangedInOrder part fields [] []
  /-- A field and the fields after it. -/
  | cons {name : String} {fields : List String} {w w' : Written} {ws ws' : List Written} :
    part name w w' → RearrangedInOrder part fields ws ws' →
      RearrangedInOrder part (name :: fields) (w :: ws) (w' :: ws')

/-- The member has the same name, and its value is rearranged in the way of that field. -/
def RearrangedMember (part : String → Written → Written → Prop) (m m' : Label × Written) : Prop :=
  m.1.letters = m'.1.letters ∧ ∀ name, m.1.name? = some name → part name m.2 m'.2

/-- The record has its members in another order, and extra ones among them; the values of its fields
are rearranged in turn. -/
inductive RearrangedRecord (fields : List String) (part : String → Written → Written → Prop) :
    Written → Written → Prop
  /-- A record of members with names. -/
  | byName {ms ms'' : List (Label × Written)} (ms' extra : List (Label × Written))
    (before inner after before' inner' after' : Gap) :
    List.Forall₂ (RearrangedMember part) ms ms' → (∀ m ∈ extra, IsExtra fields m) →
      (ms' ++ extra).Perm ms'' →
        RearrangedRecord fields part (.record before ms inner after)
          (.record before' ms'' inner' after')
  /-- A record of members without names stays as it is, but for their values. -/
  | byOrder {ws ws' : List Written} (before inner after : Gap) :
      RearrangedInOrder part fields ws ws' →
    RearrangedRecord fields part (.list before ws inner after) (.list before ws' inner after)
  /-- Another value stays as it is. -/
  | refl (w : Written) : RearrangedRecord fields part w w

/-- The items of the list are rearranged, and stay where they are. -/
inductive RearrangedList (item : Written → Written → Prop) : Written → Written → Prop
  /-- A list. -/
  | items {ws ws' : List Written} (before inner after : Gap) : List.Forall₂ item ws ws' →
    RearrangedList item (.list before ws inner after) (.list before ws' inner after)
  /-- Another value stays as it is. -/
  | refl (w : Written) : RearrangedList item w w

/-- The fields of a front page. -/
def frontPageFields : List String := ["title", "subtitle", "author"]

/-- The fields of a plot entry. -/
def plotFields : List String := ["path", "caption"]

/-- A plot entry is rearranged. -/
def RearrangedPlot : Written → Written → Prop := RearrangedRecord plotFields fun _ => Eq

/-- A front page is rearranged. -/
def RearrangedFrontPage : Written → Written → Prop := RearrangedRecord frontPageFields fun _ => Eq

/-- A slide is rearranged. -/
def RearrangedSlide : Written → Written → Prop :=
  RearrangedRecord slideFields fun name =>
    if name = "plots" then RearrangedList RearrangedPlot else Eq

/-- A deck is rearranged. -/
def RearrangedDeck : Written → Written → Prop :=
  RearrangedRecord deckFields fun name =>
    if name = "frontpage" then RearrangedFrontPage
    else if name = "slides" then RearrangedList RearrangedSlide else Eq

/-! ### What rearranged records are read as -/

section Record

variable {δ α : Type} {declared : List (DeclaredMember Option Written δ)}
  {part : String → Written → Written → Prop} {w w' : Written}

/-- The field is read as before from a value that is rearranged. -/
def ReadsAlike (declared : List (DeclaredMember Option Written δ))
    (part : String → Written → Written → Prop) : Prop :=
  ∀ m ∈ declared, ∀ {w w' d d'}, part m.name w w' → m.read w d = some d' → m.read w' d = some d'

/-- The members have the same names, and their values are rearranged. -/
def SameNames (part : String → Written → Written → Prop) :
    List (Option String × Written) → List (Option String × Written) → Prop :=
  List.Forall₂ fun g g' => g.1 = g'.1 ∧ ∀ name, g.1 = some name → part name g.2 g'.2

theorem readMember_of_part (halike : ReadsAlike declared part) {name? : Option String} {d d' : δ}
    (hpart : ∀ name, name? = some name → part name w w')
    (h : readMember declared d (name?, w) = some d') :
    readMember declared d (name?, w') = some d' := by
  cases name? with
  | none => cases h
  | some name =>
    cases hfind : declared.find? (·.name == name) with
    | none => rwa [readMember_unknown hfind] at h ⊢
    | some m =>
      have hname : m.name = name := by simpa using List.find?_some hfind
      rw [readMember_known hfind] at h ⊢
      split at h
      · cases h
      · next hset =>
        rw [if_neg hset]
        exact halike m (List.mem_of_find?_eq_some hfind) (hname ▸ hpart name rfl) h

theorem readMembers_of_sameNames (halike : ReadsAlike declared part)
    {l l' : List (Option String × Written)} (h : SameNames part l l') {d d' : δ}
    (hread : readMembers declared l d = some d') : readMembers declared l' d = some d' := by
  induction h generalizing d with
  | nil => exact hread
  | @cons g g' _ _ hg _ ih =>
    obtain ⟨name?, v⟩ := g
    obtain ⟨_, v'⟩ := g'
    obtain ⟨rfl, hpart⟩ := hg
    obtain ⟨d₁, hstep, hrest⟩ := Option.bind_eq_some_iff.1 hread
    exact Option.bind_eq_some_iff.2 ⟨d₁, readMember_of_part halike hpart hstep, ih hrest⟩

theorem exists_nameInOrder {ws ws' : List Written}
    (h : RearrangedInOrder part (declared.map (·.name)) ws ws')
    {l : List (Option String × Written)} (hnames : nameInOrder declared ws = some l) :
    ∃ l', nameInOrder declared ws' = some l' ∧ SameNames part l l' := by
  induction declared generalizing ws ws' l with
  | nil =>
    cases h
    exact ⟨l, hnames, by cases hnames; exact .nil⟩
  | cons m ms ih =>
    cases h with
    | nil =>
      rw [nameInOrder] at hnames
      split at hnames
      · next hlack =>
        cases hnames
        exact ⟨[], by rw [nameInOrder, if_pos hlack], .nil⟩
      · cases hnames
    | @cons _ _ v v' vs vs' hpart hrest =>
      rw [nameInOrder] at hnames
      obtain ⟨l₁, hl₁, rfl⟩ := Option.map_eq_some_iff.1 hnames
      obtain ⟨l', hl', hsame⟩ := ih hrest hl₁
      refine ⟨(some m.name, v') :: l', by rw [nameInOrder, hl']; rfl, .cons ⟨rfl, ?_⟩ hsame⟩
      rintro _ ⟨⟩
      exact hpart

/-- **A rearranged record is read as before**, if the fields are read as before from rearranged
values. -/
theorem readRecord_of_rearranged {shape : RecordShape Option Written δ α}
    (hshape : KeepsApart shape)
    (halike : ReadsAlike shape.members part)
    (h : RearrangedRecord (shape.members.map (·.name)) part w w') {a : α}
    (hread : readRecord Written.source shape w = some a) :
    readRecord Written.source shape w' = some a := by
  rw [readRecord_written hshape] at hread ⊢
  obtain ⟨l, hl, hread⟩ := Option.bind_eq_some_iff.1 hread
  obtain ⟨d, hd, hfinish⟩ := Option.bind_eq_some_iff.1 hread
  -- the same draft is finished in the same way, however it came about
  suffices hmembers : ∃ l', w'.opened?.bind (Opened.members? shape.members) = some l' ∧
      readMembers shape.members l' shape.start = some d by
    obtain ⟨l', hl', hd'⟩ := hmembers
    rw [hl', Option.bind_some, hd', Option.bind_some, hfinish]
  cases h with
  | refl => exact ⟨l, hl, hd⟩
  | byOrder before inner after h =>
    obtain ⟨l', hl', hsame⟩ := exists_nameInOrder h hl
    exact ⟨l', hl', readMembers_of_sameNames halike hsame hd⟩
  | @byName ms ms'' ms' extra before inner after before' inner' after' hms hextra hperm =>
    cases hl
    -- the values are rearranged first, then the extra members are put behind, then all are permuted
    have hsame : SameNames part (named ms) (named ms') := by
      rw [SameNames, named, named, List.forall₂_map_left_iff, List.forall₂_map_right_iff]
      refine hms.imp fun m m' h => ⟨congrArg spelled h.1, h.2⟩
    have hunknown : readMembers shape.members (named extra) d = some d := by
      refine readMembers_unknown (fun g hg => ?_) d
      obtain ⟨m, hm, rfl⟩ := List.mem_map.1 hg
      exact (hextra m hm).1
    have hnamed : (named ms' ++ named extra).Perm (named ms'') := by
      rw [named, named, ← List.map_append]
      exact hperm.map _
    refine ⟨named ms'', rfl, ?_⟩
    rw [← hshape.apart.readMembers_perm hnamed, readMembers_append]
    exact Option.bind_eq_some_iff.2 ⟨d, readMembers_of_sameNames halike hsame hd, hunknown⟩

end Record

/-- A rearranged list is read as before, if its items are. -/
theorem mapM_of_rearranged {α : Type} {read : Written → Option α} {item : Written → Written → Prop}
    (hitem : ∀ {w w' a}, item w w' → read w = some a → read w' = some a) {w w' : Written}
    {l : List α}
    (h : RearrangedList item w w') (hread : w.items?.bind (List.mapM read) = some l) :
    w'.items?.bind (List.mapM read) = some l := by
  cases h with
  | refl => exact hread
  | items before inner after h =>
    change List.mapM read _ = some l at hread ⊢
    rw [mapM_eq_some_iff] at hread ⊢
    induction h generalizing l with
    | nil => exact hread
    | cons h _ ih =>
      obtain _ | ⟨ha, hl⟩ := hread
      exact .cons (hitem h ha) (ih hl)

/-! ### Plot entries -/

section Entry

variable {w w' : Written} {ms ms' : List (Label × Written)}

theorem valuesOf_perm (name : String) (h : ms.Perm ms') :
    (valuesOf name ms).Perm (valuesOf name ms') :=
  (h.filter _).map _

theorem valuesOf_extra {name : String} {extra : List (Label × Written)} (hname : name ∈ plotFields)
    (h : ∀ m ∈ extra, IsExtra plotFields m) : valuesOf name extra = [] := by
  rw [valuesOf, List.map_eq_nil_iff, List.filter_eq_nil_iff]
  intro m hm hother
  obtain ⟨⟨other, hother', hunknown⟩, -⟩ := h m hm
  rw [hother'] at hother
  obtain rfl : other = name := by simpa using hother
  exact hunknown hname

theorem IsPlain.withinLimits {depth : Nat} (h : IsPlain w) : WithinLimits depth w := by
  cases h with
  | null before after => exact .scalar depth before after rfl
  | flag before after b => exact .scalar depth before after rfl
  | string h =>
    obtain ⟨before, after, hs⟩ := h
    exact .scalar depth before after (by simp [Scalar.found?, hs])

theorem eq_of_inOrder {fields : List String} {ws ws' : List Written}
    (h : RearrangedInOrder (fun _ => Eq) fields ws ws') : ws = ws' := by
  induction h with
  | nil => rfl
  | cons h _ ih => rw [h, ih]

theorem valuesOf_of_sameMembers (h : List.Forall₂ (RearrangedMember fun _ => Eq) ms ms')
    (name : String) : valuesOf name ms = valuesOf name ms' := by
  induction h with
  | nil => rfl
  | @cons m m' _ _ hm _ ih =>
    have hname : m.1.name? = m'.1.name? := congrArg spelled hm.1
    rw [valuesOf, valuesOf, List.filter_cons, List.filter_cons, ← hname]
    split
    · next hthis => exact congrArg₂ List.cons (hm.2 name (by simpa using hthis)) ih
    · exact ih

theorem othersWithinLimits_of_sameMembers (h : List.Forall₂ (RearrangedMember fun _ => Eq) ms ms')
    (hothers : OthersWithinLimits ms) : OthersWithinLimits ms' := by
  induction h with
  | nil => exact hothers
  | @cons m m' _ _ hm _ ih =>
    obtain ⟨⟨name, hname, hwithin⟩, hrest⟩ := List.forall_mem_cons.1 hothers
    have hname' : m'.1.name? = some name := (congrArg spelled hm.1).symm.trans hname
    exact List.forall_mem_cons.2 ⟨⟨name, hname', hm.2 name hname ▸ hwithin⟩, ih hrest⟩

theorem othersWithinLimits_extra {extra : List (Label × Written)}
    (h : ∀ m ∈ extra, IsExtra plotFields m) : OthersWithinLimits extra := fun m hm =>
  let ⟨⟨name, hname, _⟩, hplain⟩ := h m hm
  ⟨name, hname, fun _ _ => hplain.withinLimits⟩

/-- **A rearranged entry spells the same plot.** -/
theorem SpellsPlot.of_rearranged {p : Plot} (h : SpellsPlot w p) (hw : RearrangedPlot w w') :
    SpellsPlot w' p := by
  cases hw with
  | refl => exact h
  | byOrder before inner after hws => rwa [← eq_of_inOrder hws]
  | @byName ms ms'' ms' extra before inner after before' inner' after' hms hextra hperm =>
    have hvalues : ∀ name ∈ plotFields, (valuesOf name ms).Perm (valuesOf name ms'') := by
      intro name hname
      rw [valuesOf_of_sameMembers hms]
      refine List.Perm.trans ?_ (valuesOf_perm name hperm)
      have happend : valuesOf name (ms' ++ extra) = valuesOf name ms' ++ valuesOf name extra := by
        simp [valuesOf]
      rw [happend, valuesOf_extra hname hextra, List.append_nil]
    have hothers : OthersWithinLimits ms → OthersWithinLimits ms'' := by
      intro hothers m hm
      rcases List.mem_append.1 (hperm.mem_iff.2 hm) with hm | hm
      · exact othersWithinLimits_of_sameMembers hms hothers m hm
      · exact othersWithinLimits_extra hextra m hm
    have hpath : (valuesOf "path" ms).Perm (valuesOf "path" ms'') := hvalues _ (by decide)
    have hcaption : (valuesOf "caption" ms).Perm (valuesOf "caption" ms'') := hvalues _ (by decide)
    cases h with
    | path h => cases h
    | bare _ _ _ hvalue h hnone hwithin =>
      rw [hvalue, List.singleton_perm] at hpath
      rw [hnone, List.nil_perm] at hcaption
      exact .bare before' inner' after' hpath.symm h hcaption (hothers hwithin)
    | captioned _ _ _ hvalue h hvalue' h' hwithin =>
      rw [hvalue, List.singleton_perm] at hpath
      rw [hvalue', List.singleton_perm] at hcaption
      exact .captioned before' inner' after' hpath.symm h hcaption.symm h' (hothers hwithin)

end Entry

/-! ### Decks -/

section Deck

variable {w w' : Written}

theorem plot?_of_rearranged {p : Plot} (hw : RearrangedPlot w w') (h : w.plot? = some p) :
    w'.plot? = some p :=
  plot?_eq_some_iff.2 ((plot?_eq_some_iff.1 h).of_rearranged hw)

theorem frontPage?_of_rearranged {p : FrontPage} (hw : RearrangedFrontPage w w')
    (h : w.frontPage? = some p) : w'.frontPage? = some p := by
  refine readRecord_of_rearranged (FrontPage.keepsApart Written.source) ?_ hw h
  intro m _ v v' d d' hv hread
  exact hv ▸ hread

theorem slide?_of_rearranged {s : Slide} (hw : RearrangedSlide w w') (h : w.slide? = some s) :
    w'.slide? = some s := by
  refine readRecord_of_rearranged (Slide.keepsApart Written.source) ?_ hw h
  intro m hm v v' d d' hv hread
  by_cases hplots : m.name = "plots"
  · rw [if_pos hplots] at hv
    rw [read_plots hm hplots, Option.map_eq_some_iff] at hread ⊢
    obtain ⟨l, hl, hd⟩ := hread
    exact ⟨l, mapM_of_rearranged (fun hw h => plot?_of_rearranged hw h) hv hl, hd⟩
  · rw [if_neg hplots] at hv
    exact hv ▸ hread

theorem read_frontPage {m : DeclaredMember Option Written Deck.Draft}
    (hm : m ∈ (Deck.shape Written.source).members) (hname : m.name = "frontpage") (v : Written)
    (d : Deck.Draft) : m.read v d = v.frontPage?.map fun p => { d with frontPage := some p } := by
  simp only [Deck.shape, List.mem_cons, List.not_mem_nil, or_false] at hm
  obtain rfl | rfl | rfl := hm
  case inl =>
    change (v.frontPage?.bind fun p => some { d with frontPage := some p }) = _
    cases v.frontPage? <;> rfl
  all_goals exact absurd hname (by decide)

theorem deck?_of_rearranged {d : Deck} (hw : RearrangedDeck w w') (h : w.deck? = some d) :
    w'.deck? = some d := by
  refine readRecord_of_rearranged (Deck.keepsApart Written.source) ?_ hw h
  intro m hm v v' d d' hv hread
  by_cases hfront : m.name = "frontpage"
  · rw [if_pos hfront] at hv
    rw [read_frontPage hm hfront, Option.map_eq_some_iff] at hread ⊢
    obtain ⟨p, hp, hd⟩ := hread
    exact ⟨p, frontPage?_of_rearranged hv hp, hd⟩
  · rw [if_neg hfront] at hv
    by_cases hslides : m.name = "slides"
    · rw [if_pos hslides] at hv
      rw [read_slides hm hslides, Option.map_eq_some_iff] at hread ⊢
      obtain ⟨l, hl, hd⟩ := hread
      exact ⟨l, mapM_of_rearranged (fun hw h => slide?_of_rearranged hw h) hv hl, hd⟩
    · rw [if_neg hslides] at hv
      exact hv ▸ hread

end Deck

/-! ### The order of slides and plots -/

/-- The value is read as the slide on its own, and its plots are those of its list, in order. -/
def DescribesSlide (u : Written) (s : Slide) : Prop :=
  readRecord source (Slide.shape source) (parse u.text) = .ok s ∧
    ∀ (hole : FieldHole slideFields "plots") (v : Written), hole.fill v = u →
      ∃ before ws inner after, v = .list before ws inner after ∧ List.Forall₂ SpellsPlot ws s.plots

/-- The slides of the deck are those of its list, in order. -/
def DescribesDeck (w : Written) (d : Deck) : Prop :=
  ∀ (hole : FieldHole deckFields "slides") (v : Written), hole.fill v = w →
    ∃ before ws inner after, v = .list before ws inner after ∧
      List.Forall₂ DescribesSlide ws d.slides

/-- What a list is read as is read from its items, one for one. -/
theorem forall₂_of_mapM {α : Type} {read : Written → Option α} {v : Written} {l : List α}
    (h : v.items?.bind (List.mapM read) = some l) :
    ∃ before ws inner after, v = .list before ws inner after ∧
      List.Forall₂ (fun w a => read w = some a) ws l := by
  cases v with
  | scalar => cases h
  | record => cases h
  | list before ws inner after =>
    exact ⟨before, ws, inner, after, rfl, mapM_eq_some_iff.1 h⟩

theorem describesSlide {u : Written} {s : Slide} (h : u.slide? = some s) : DescribesSlide u s := by
  refine ⟨toOption_eq_some_iff.1 ((toOption_slide (presents_parse u)).trans h), ?_⟩
  rintro hole v rfl
  obtain ⟨rest, hrest⟩ := hole.exists_slide?_fill
  rw [hrest] at h
  obtain ⟨s', -, h⟩ := Option.bind_eq_some_iff.1 h
  obtain ⟨l, hl, rfl⟩ := Option.map_eq_some_iff.1 h
  obtain ⟨before, ws, inner, after, hv, hitems⟩ := forall₂_of_mapM hl
  exact ⟨before, ws, inner, after, hv, hitems.imp fun _ _ => plot?_eq_some_iff.1⟩

theorem describesDeck {w : Written} {d : Deck} (h : w.deck? = some d) : DescribesDeck w d := by
  rintro hole v rfl
  obtain ⟨rest, hrest⟩ := hole.exists_deck?_fill
  rw [hrest] at h
  obtain ⟨d', -, h⟩ := Option.bind_eq_some_iff.1 h
  obtain ⟨l, hl, rfl⟩ := Option.map_eq_some_iff.1 h
  obtain ⟨before, ws, inner, after, hv, hitems⟩ := forall₂_of_mapM hl
  exact ⟨before, ws, inner, after, hv, hitems.imp fun _ _ => describesSlide⟩

/-- **The order of members does not matter, and other members do not**: a text that is accepted is
written as a value, and however its records are rearranged, it is accepted as the same deck. The
slides and the plots of the deck are in the order of their lists. The value of a member that is
added is plain (`IsPlain`); a string that escapes a surrogate without its partner spells no text and
is not among the plain values. -/
theorem parse_rearranged {t : String} {d : Deck} (h : Deck.parse .json t = .ok d) :
    (∃ w : Written, String.ofList w.text = t) ∧
    ∀ w : Written, String.ofList w.text = t →
      (∀ w', RearrangedDeck w w' → Deck.parse .json (String.ofList w'.text) = .ok d) ∧
      DescribesDeck w d := by
  refine ⟨Deck.exists_written_of_parse h, ?_⟩
  rintro w rfl
  have hdeck := Deck.parse_written_iff.1 h
  exact ⟨fun w' hw => Deck.parse_written_iff.2 (deck?_of_rearranged hw hdeck), describesDeck hdeck⟩

section Sample

/-- A member that no record declares. -/
def note : String × Written := ("note", .scalar .empty (.flag true) .empty)

/-- A path and a caption. -/
def pathAndCaption : List (String × Written) := [("path", .tight "p"), ("caption", .tight "c")]

/-- A slide of one plot with these members. -/
def slideOf (ms : List (String × Written)) : List (String × Written) :=
  [("plots", .tightList [.tightRecord ms])]

/-- A deck of one slide with these members. -/
def deckOf (frontPage slide : List (String × Written)) : List (String × Written) :=
  [("frontpage", .tightRecord frontPage), ("slides", .tightList [.tightRecord slide])]

/-- A deck of one slide, which has one plot with a caption. -/
def ordered : List (String × Written) := deckOf [] (slideOf pathAndCaption)

/-- The members backwards and behind a note. -/
def behindNote (ms : List (String × Written)) : List (String × Written) := note :: ms.reverse

/-- The same deck with the members of each of its records backwards and behind a note. -/
def backwards : List (String × Written) :=
  behindNote (deckOf (behindNote []) (behindNote (slideOf (behindNote pathAndCaption))))

/-- A record is rearranged by putting its members backwards and behind a note. -/
theorem rearrangedRecord_behindNote {fields : List String}
    {part : String → Written → Written → Prop}
    {ms ms' : List (String × Written)} (hnote : "note" ∉ fields)
    (h : List.Forall₂ (fun m m' => m.1 = m'.1 ∧ part m.1 m.2 m'.2) ms ms') :
    RearrangedRecord fields part (.tightRecord ms) (.tightRecord (behindNote ms')) := by
  have hmembers : List.Forall₂ (RearrangedMember part) (tightMembers ms) (tightMembers ms') := by
    rw [tightMembers, tightMembers, List.forall₂_map_left_iff, List.forall₂_map_right_iff]
    refine h.imp fun m m' hm => ⟨congrArg lettersOf hm.1, fun name hname => ?_⟩
    obtain rfl := Option.some.inj ((spelled_lettersOf m.1).symm.trans hname)
    exact hm.2
  have hextra : ∀ m ∈ tightMembers [note], IsExtra fields m :=
    List.forall_mem_singleton.2 ⟨⟨"note", spelled_lettersOf _, hnote⟩, .flag .empty .empty true⟩
  have hperm : (tightMembers ms' ++ tightMembers [note]).Perm (tightMembers (behindNote ms')) := by
    rw [tightMembers, tightMembers, ← List.map_append]
    exact List.Perm.map _ (List.perm_append_comm.trans ((List.reverse_perm ms').symm.cons note))
  exact .byName _ _ _ _ _ _ _ _ hmembers hextra hperm

theorem rearrangedDeck_backwards :
    RearrangedDeck (.tightRecord ordered) (.tightRecord backwards) := by
  have hentry : RearrangedPlot (.tightRecord pathAndCaption)
      (.tightRecord (behindNote pathAndCaption)) :=
    rearrangedRecord_behindNote (by decide) (.cons ⟨rfl, rfl⟩ (.cons ⟨rfl, rfl⟩ .nil))
  have hslide : RearrangedSlide (.tightRecord (slideOf pathAndCaption))
      (.tightRecord (behindNote (slideOf (behindNote pathAndCaption)))) :=
    rearrangedRecord_behindNote (by decide) (.cons ⟨rfl, .items _ _ _ (.cons hentry .nil)⟩ .nil)
  have hfrontPage : RearrangedFrontPage (.tightRecord []) (.tightRecord (behindNote [])) :=
    rearrangedRecord_behindNote (by decide) .nil
  exact rearrangedRecord_behindNote (by decide)
    (.cons ⟨rfl, hfrontPage⟩ (.cons ⟨rfl, .items _ _ _ (.cons hslide .nil)⟩ .nil))

/-- A deck with its members backwards is the same deck. -/
theorem parse_rearranged_backwards :
    Deck.parse .json (String.ofList (Written.tightRecord ordered).text)
      = .ok ⟨{}, [{ plots := [⟨"p", "c"⟩] }], true⟩ ∧
    Deck.parse .json (String.ofList (Written.tightRecord backwards).text)
      = .ok ⟨{}, [{ plots := [⟨"p", "c"⟩] }], true⟩ := by
  have haccepted := Deck.parse_written_iff.2 (show (Written.tightRecord ordered).deck?
    = some ⟨{}, [{ plots := [⟨"p", "c"⟩] }], true⟩ by decide)
  exact ⟨haccepted, ((parse_rearranged haccepted).2 _ rfl).1 _ rearrangedDeck_backwards⟩

end Sample

end PlotDeck.Json
