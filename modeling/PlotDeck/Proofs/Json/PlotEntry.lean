import PlotDeck.Proofs.Json.Field

/-!
# The spellings of a plot entry

An entry of a list of plots has four spellings, and each value is an entry in one of them at most
(`SpellsPlot`): a string, a list of one or two strings, and a record with a path and perhaps a
caption. In a deck of which an entry is left open (`PlotHole`), a value is accepted if and only if
it spells a plot, and then it is that plot which the deck has at the place of the entry
(`Deck.parse_fill_iff`).
-/

namespace PlotDeck.Json

variable {w v : Written} {ws : List Written} {ms : List (Label × Written)} {s : String}
  {depth : Nat}

/-! ### What spells a plot -/

/-- The value is a string that spells a text; with the escape of an unpaired surrogate it spells
none. -/
inductive IsText : Written → String → Prop
  /-- The letters of the string spell the text. -/
  | letters (before after : Gap) {letters : List Letter} {s : String} :
    spelled letters = some s → IsText (.scalar before (.string letters) after) s

/-- The value is within the limits of the parser where it stands inside `depth` lists and records:
there are not too many of them, its numbers are in range, and its strings spell texts. -/
inductive WithinLimits : Nat → Written → Prop
  /-- A value without parts. -/
  | scalar (depth : Nat) (before after : Gap) {value : Scalar} :
    value.found?.isSome → WithinLimits depth (.scalar before value after)
  /-- A list. -/
  | list {depth : Nat} (before inner after : Gap) {ws : List Written} :
    depth < maxDepth → (∀ w ∈ ws, WithinLimits (depth + 1) w) →
      WithinLimits depth (.list before ws inner after)
  /-- A record. -/
  | record {depth : Nat} (before inner after : Gap) {ms : List (Label × Written)} :
    depth < maxDepth → (∀ m ∈ ms, m.1.name?.isSome) → (∀ m ∈ ms, WithinLimits (depth + 1) m.2) →
      WithinLimits depth (.record before ms inner after)

/-- The values that members of this name have. -/
def valuesOf (name : String) (ms : List (Label × Written)) : List Written :=
  (ms.filter fun m => m.1.name? == some name).map Prod.snd

/-- The other members can be passed over: the deck, its slides, a slide, its plots and the entry are
around them. -/
def OthersWithinLimits (ms : List (Label × Written)) : Prop :=
  ∀ m ∈ ms, ∃ name, m.1.name? = some name ∧ (name ≠ "path" → name ≠ "caption" → WithinLimits 5 m.2)

/-- The value spells the plot. -/
inductive SpellsPlot : Written → Plot → Prop
  /-- A string is a path. -/
  | path {w : Written} {path : String} : IsText w path → SpellsPlot w ⟨path, ""⟩
  /-- A list of one string is a path. -/
  | single (before inner after : Gap) {w : Written} {path : String} :
    IsText w path → SpellsPlot (.list before [w] inner after) ⟨path, ""⟩
  /-- A list of two strings is a path and a caption. -/
  | pair (before inner after : Gap) {w w' : Written} {path caption : String} :
    IsText w path → IsText w' caption →
    SpellsPlot (.list before [w, w'] inner after) ⟨path, caption⟩
  /-- A record may have a path only. -/
  | bare (before inner after : Gap) {ms : List (Label × Written)} {w : Written} {path : String} :
    valuesOf "path" ms = [w] → IsText w path → valuesOf "caption" ms = [] → OthersWithinLimits ms →
      SpellsPlot (.record before ms inner after) ⟨path, ""⟩
  /-- A record may have a path and a caption. -/
  | captioned (before inner after : Gap) {ms : List (Label × Written)} {w w' : Written}
    {path caption : String} :
    valuesOf "path" ms = [w] → IsText w path → valuesOf "caption" ms = [w'] → IsText w' caption →
      OthersWithinLimits ms → SpellsPlot (.record before ms inner after) ⟨path, caption⟩

/-! ### Plain data -/

theorem dataOf_eq_text {f : Found} (h : dataOf f = .text s) : f = .text s := by
  rcases f with _ | b | (n | n) | n | x | t | _ | _ <;> cases h
  rfl

theorem data_eq_text_iff : w.data depth = some (.text s) ↔ IsText w s := by
  constructor
  · intro h
    cases w with
    | scalar before value after =>
      obtain ⟨f, hfound, hf⟩ := Option.map_eq_some_iff.1 h
      obtain rfl := dataOf_eq_text hf
      cases value with
      | null => cases hfound
      | flag b => cases hfound
      | number n => nomatch n.isNumber_of_found? hfound
      | string letters =>
        obtain ⟨t, ht, hts⟩ := Option.map_eq_some_iff.1 hfound
        cases hts
        exact .letters before after ht
    | list before ws inner after =>
      rw [Written.data] at h
      split at h
      · cases h
      · obtain ⟨l, -, hl⟩ := Option.map_eq_some_iff.1 h
        cases hl
    | record before ms inner after =>
      rw [Written.data] at h
      split at h
      · cases h
      · obtain ⟨l, -, hl⟩ := Option.map_eq_some_iff.1 h
        cases hl
  · rintro ⟨before, after, h⟩
    rw [Written.data, Scalar.found?, h]
    rfl

theorem itemsData_eq_some_iff {l : List Data} :
    itemsData depth ws = some l ↔ List.Forall₂ (fun w a => w.data depth = some a) ws l := by
  induction ws generalizing l with
  | nil => cases l <;> simp [itemsData]
  | cons w ws ih =>
    rw [itemsData]
    cases hw : w.data depth with
    | none => cases l <;> simp [hw]
    | some a =>
      cases hws : itemsData depth ws with
      | none => cases l <;> simp [hw, ← ih, hws]
      | some l' => cases l <;> simp [hw, ← ih, hws]

mutual
theorem isSome_data_iff (depth : Nat) (w : Written) :
    (w.data depth).isSome ↔ WithinLimits depth w := by
  match w with
  | .scalar before value after =>
    rw [Written.data, Option.isSome_map]
    exact ⟨.scalar depth before after, fun | .scalar _ _ _ h => h⟩
  | .list before ws inner after =>
    have hitems := isSome_itemsData_iff (depth + 1) ws
    rw [Written.data]
    split
    · next hdeep => exact ⟨nofun, fun | .list _ _ _ h _ => absurd h (Nat.not_lt.2 hdeep)⟩
    · next hdepth =>
      rw [Option.isSome_map, hitems]
      exact ⟨.list before inner after (Nat.lt_of_not_le hdepth), fun | .list _ _ _ _ h => h⟩
  | .record before ms inner after =>
    have hmembers := isSome_membersData_iff (depth + 1) ms
    rw [Written.data]
    split
    · next hdeep => exact ⟨nofun, fun | .record _ _ _ h _ _ => absurd h (Nat.not_lt.2 hdeep)⟩
    · next hdepth =>
      rw [Option.isSome_map, hmembers]
      exact ⟨fun h => .record before inner after (Nat.lt_of_not_le hdepth) (fun m hm => (h m hm).1)
        fun m hm => (h m hm).2, fun | .record _ _ _ _ h h' => fun m hm => ⟨h m hm, h' m hm⟩⟩

theorem isSome_itemsData_iff (depth : Nat) (ws : List Written) :
    (itemsData depth ws).isSome ↔ ∀ w ∈ ws, WithinLimits depth w := by
  match ws with
  | [] => simp [itemsData]
  | w :: ws =>
    rw [List.forall_mem_cons, ← isSome_data_iff depth w, ← isSome_itemsData_iff depth ws, itemsData]
    cases w.data depth <;> cases itemsData depth ws <;> simp

theorem isSome_membersData_iff (depth : Nat) (ms : List (Label × Written)) :
    (membersData depth ms).isSome ↔ ∀ m ∈ ms, m.1.name?.isSome ∧ WithinLimits depth m.2 := by
  match ms with
  | [] => simp [membersData]
  | (label, w) :: ms =>
    rw [List.forall_mem_cons, ← isSome_data_iff depth w, ← isSome_membersData_iff depth ms,
      membersData]
    cases label.name? <;> cases w.data depth <;> cases membersData depth ms <;> simp
end

/-! ### Members of an entry -/

/-- Other names are passed over. -/
theorem ofName?_text {name : String} (hpath : name ≠ "path") (hcaption : name ≠ "caption") :
    Plot.Member.ofName? (.text name) = some none := by
  rw [Plot.Member.ofName?.eq_def]
  split
  · next h => exact absurd (Data.text.inj h) hpath
  · next h => cases h
  · next h => exact absurd (Data.text.inj h) hcaption
  · next h => cases h
  · rfl
  · next h => cases h
  · next h _ => exact absurd rfl (h name)

section OfMembers

variable {path caption : Option String} {plot : Plot} {a : Data} {l : List (Data × Data)}

theorem ofMembers?_path_iff :
    Plot.ofMembers? path caption ((.text "path", a) :: l) = some plot
      ↔ path = none ∧ ∃ s, a = .text s ∧ Plot.ofMembers? (some s) caption l = some plot := by
  rw [Plot.ofMembers?.eq_def]
  cases path <;> cases a <;> simp [Plot.Member.ofName?]

theorem ofMembers?_caption_iff :
    Plot.ofMembers? path caption ((.text "caption", a) :: l) = some plot
      ↔ caption = none ∧ ∃ s, a = .text s ∧ Plot.ofMembers? path (some s) l = some plot := by
  rw [Plot.ofMembers?.eq_def]
  cases caption <;> cases a <;> simp [Plot.Member.ofName?]

theorem ofMembers?_other {name : String} (hpath : name ≠ "path") (hcaption : name ≠ "caption") :
    Plot.ofMembers? path caption ((.text name, a) :: l) = Plot.ofMembers? path caption l := by
  rw [Plot.ofMembers?.eq_def]
  simp only [ofName?_text hpath hcaption]

section Cons

variable {label : Label} {name : String}

/-- The members from one on are read from its value on. -/
theorem bind_ofMembers?_cons (hname : label.name? = some name) :
    (membersData 5 ((label, w) :: ms)).bind (Plot.ofMembers? path caption) = some plot
      ↔ ∃ a, w.data 5 = some a ∧ ∃ l, membersData 5 ms = some l ∧
        Plot.ofMembers? path caption ((.text name, a) :: l) = some plot := by
  rw [membersData, hname]
  cases w.data 5 <;> cases membersData 5 ms <;> simp

theorem bind_ofMembers?_path (hname : label.name? = some "path") :
    (membersData 5 ((label, w) :: ms)).bind (Plot.ofMembers? path caption) = some plot
      ↔ path = none ∧ ∃ s, IsText w s ∧
        (membersData 5 ms).bind (Plot.ofMembers? (some s) caption) = some plot := by
  have htext : ∀ s, IsText w s ↔ w.data 5 = some (.text s) := fun s => data_eq_text_iff.symm
  simp only [bind_ofMembers?_cons hname, ofMembers?_path_iff, htext, Option.bind_eq_some_iff]
  constructor
  · rintro ⟨a, ha, l, hl, hpath, s, rfl, hrest⟩
    exact ⟨hpath, s, ha, l, hl, hrest⟩
  · rintro ⟨hpath, s, ha, l, hl, hrest⟩
    exact ⟨_, ha, l, hl, hpath, s, rfl, hrest⟩

theorem bind_ofMembers?_caption (hname : label.name? = some "caption") :
    (membersData 5 ((label, w) :: ms)).bind (Plot.ofMembers? path caption) = some plot
      ↔ caption = none ∧ ∃ s, IsText w s ∧
        (membersData 5 ms).bind (Plot.ofMembers? path (some s)) = some plot := by
  have htext : ∀ s, IsText w s ↔ w.data 5 = some (.text s) := fun s => data_eq_text_iff.symm
  simp only [bind_ofMembers?_cons hname, ofMembers?_caption_iff, htext, Option.bind_eq_some_iff]
  constructor
  · rintro ⟨a, ha, l, hl, hcaption, s, rfl, hrest⟩
    exact ⟨hcaption, s, ha, l, hl, hrest⟩
  · rintro ⟨hcaption, s, ha, l, hl, hrest⟩
    exact ⟨_, ha, l, hl, hcaption, s, rfl, hrest⟩

theorem bind_ofMembers?_other (hname : label.name? = some name) (hpath : name ≠ "path")
    (hcaption : name ≠ "caption") :
    (membersData 5 ((label, w) :: ms)).bind (Plot.ofMembers? path caption) = some plot
      ↔ WithinLimits 5 w ∧ (membersData 5 ms).bind (Plot.ofMembers? path caption) = some plot := by
  simp only [bind_ofMembers?_cons hname, ofMembers?_other hpath hcaption, Option.bind_eq_some_iff,
    ← isSome_data_iff, Option.isSome_iff_exists]
  exact ⟨fun ⟨a, ha, h⟩ => ⟨⟨a, ha⟩, h⟩, fun ⟨⟨a, ha⟩, h⟩ => ⟨a, ha, h⟩⟩

end Cons

end OfMembers

/-- What is known of a text and what the values are that are still to come make it this text. -/
def Gives (known : Option String) (ws : List Written) (s : String) : Prop :=
  (known = some s ∧ ws = []) ∨ (known = none ∧ ∃ w, ws = [w] ∧ IsText w s)

theorem gives_some_iff {t : String} : Gives (some t) ws s ↔ t = s ∧ ws = [] := by
  simp [Gives]

theorem gives_cons_iff {known : Option String} :
    Gives known (w :: ws) s ↔ known = none ∧ ws = [] ∧ IsText w s := by
  simp [Gives]

/-- What is known of a caption and what is still to come make it this one; it may also be left
out. -/
def GivesCaption (known : Option String) (ws : List Written) (s : String) : Prop :=
  Gives known ws s ∨ (known = none ∧ ws = [] ∧ s = "")

theorem givesCaption_some_iff {t : String} : GivesCaption (some t) ws s ↔ t = s ∧ ws = [] := by
  simp [GivesCaption, gives_some_iff]

theorem givesCaption_cons_iff {known : Option String} :
    GivesCaption known (w :: ws) s ↔ known = none ∧ ws = [] ∧ IsText w s := by
  simp [GivesCaption, gives_cons_iff]

theorem valuesOf_cons {label : Label} {name : String} (hname : label.name? = some name)
    (other : String) :
    valuesOf other ((label, w) :: ms)
      = if name = other then w :: valuesOf other ms else valuesOf other ms := by
  rw [valuesOf, List.filter_cons]
  by_cases h : name = other <;> simp [hname, h, valuesOf]

theorem othersWithinLimits_cons {label : Label} {name : String} (hname : label.name? = some name) :
    OthersWithinLimits ((label, w) :: ms)
      ↔ (name ≠ "path" → name ≠ "caption" → WithinLimits 5 w) ∧ OthersWithinLimits ms := by
  simp [OthersWithinLimits, hname]

/-- The members of an entry make it a plot where each of its texts is known or given once. -/
theorem ofMembers?_membersData_iff {path caption : Option String} {plot : Plot} :
    (membersData 5 ms).bind (Plot.ofMembers? path caption) = some plot
      ↔ Gives path (valuesOf "path" ms) plot.path ∧
        GivesCaption caption (valuesOf "caption" ms) plot.caption ∧ OthersWithinLimits ms := by
  -- what is known of each text grows from member to member, and what its values are shrinks
  induction ms generalizing path caption with
  | nil =>
    obtain ⟨p, c⟩ := plot
    cases path <;> cases caption <;>
      simp [membersData, Plot.ofMembers?, Gives, GivesCaption, valuesOf,
        OthersWithinLimits, eq_comm]
  | cons m ms ih =>
    obtain ⟨label, w⟩ := m
    cases hname : label.name? with
    | none => simp [membersData, hname, OthersWithinLimits]
    | some name =>
      rw [othersWithinLimits_cons hname, valuesOf_cons hname, valuesOf_cons hname]
      by_cases hpath : name = "path"
      · subst hpath
        simp only [bind_ofMembers?_path hname, ih, gives_some_iff, gives_cons_iff, if_true,
          if_neg (show "path" ≠ "caption" by decide), ne_eq, not_true_eq_false, false_imp_iff,
          true_and]
        constructor
        · rintro ⟨hnone, s, hs, ⟨rfl, hvalues⟩, hrest⟩
          exact ⟨⟨hnone, hvalues, hs⟩, hrest⟩
        · rintro ⟨⟨hnone, hvalues, hs⟩, hrest⟩
          exact ⟨hnone, _, hs, ⟨rfl, hvalues⟩, hrest⟩
      · by_cases hcaption : name = "caption"
        · subst hcaption
          simp only [bind_ofMembers?_caption hname, ih, givesCaption_some_iff,
            givesCaption_cons_iff, if_true, if_neg hpath, ne_eq, not_true_eq_false, false_imp_iff,
            imp_true_iff, true_and]
          constructor
          · rintro ⟨hnone, s, hs, hgives, ⟨rfl, hvalues⟩, hrest⟩
            exact ⟨hgives, ⟨hnone, hvalues, hs⟩, hrest⟩
          · rintro ⟨hgives, ⟨hnone, hvalues, hs⟩, hrest⟩
            exact ⟨hnone, _, hs, hgives, ⟨rfl, hvalues⟩, hrest⟩
        · rw [bind_ofMembers?_other hname hpath hcaption, ih, if_neg hpath, if_neg hcaption]
          simp only [hpath, hcaption, ne_eq, not_false_eq_true, true_imp_iff]
          constructor
          · rintro ⟨hwithin, hgives, hcaption, hrest⟩
            exact ⟨hgives, hcaption, hwithin, hrest⟩
          · rintro ⟨hgives, hcaption, hwithin, hrest⟩
            exact ⟨hwithin, hgives, hcaption, hrest⟩

/-! ### Entries -/

section Entry

variable {before inner after : Gap} {plot : Plot}

/-- A value without parts is an entry if it is a path. -/
theorem plot?_scalar_iff {value : Scalar} :
    (Written.scalar before value after).plot? = some plot
      ↔ SpellsPlot (.scalar before value after) plot := by
  constructor
  · intro h
    obtain ⟨a, ha, hplot⟩ := Option.bind_eq_some_iff.1 h
    obtain ⟨f, -, rfl⟩ := Option.map_eq_some_iff.1 ha
    rcases f with _ | b | (n | n) | n | x | t | _ | _ <;> cases hplot
    exact .path (data_eq_text_iff.1 ha)
  · rintro ⟨h⟩
    rw [Written.plot?, data_eq_text_iff.2 h]
    rfl

/-- A list is an entry if it is one of a path and perhaps a caption. -/
theorem plot?_list_iff :
    (Written.list before ws inner after).plot? = some plot
      ↔ SpellsPlot (.list before ws inner after) plot := by
  have hplot : (Written.list before ws inner after).plot?
      = (itemsData 5 ws).bind fun l => Plot.ofData? (.list l) := by
    rw [Written.plot?, Written.data, if_neg (by decide), Option.bind_map]
    rfl
  rw [hplot, Option.bind_eq_some_iff]
  constructor
  · rintro ⟨l, hl, hspelled⟩
    rw [itemsData_eq_some_iff] at hl
    rw [Plot.ofData?.eq_def] at hspelled
    split at hspelled
    · next heq => cases heq
    · next heq =>
      cases heq
      cases hspelled
      obtain _ | ⟨hw, ⟨⟩⟩ := hl
      exact .single before inner after (data_eq_text_iff.1 hw)
    · next heq =>
      cases heq
      cases hspelled
      obtain _ | ⟨hw, _ | ⟨hw', ⟨⟩⟩⟩ := hl
      exact .pair before inner after (data_eq_text_iff.1 hw) (data_eq_text_iff.1 hw')
    · next heq => cases heq
    · cases hspelled
  · intro h
    cases h with
    | path h => cases h
    | single _ _ _ h =>
      exact ⟨_, itemsData_eq_some_iff.2 (.cons (data_eq_text_iff.2 h) .nil), rfl⟩
    | pair _ _ _ h h' =>
      exact ⟨_, itemsData_eq_some_iff.2
        (.cons (data_eq_text_iff.2 h) (.cons (data_eq_text_iff.2 h') .nil)), rfl⟩

/-- A record is an entry if it has a path and perhaps a caption. -/
theorem plot?_record_iff :
    (Written.record before ms inner after).plot? = some plot
      ↔ SpellsPlot (.record before ms inner after) plot := by
  have hplot : (Written.record before ms inner after).plot?
      = (membersData 5 ms).bind (Plot.ofMembers? none none) := by
    rw [Written.plot?, Written.data, if_neg (by decide), Option.bind_map]
    rfl
  rw [hplot, ofMembers?_membersData_iff]
  constructor
  · obtain ⟨path, caption⟩ := plot
    rintro ⟨hgives, hcaption, hothers⟩
    obtain ⟨h, -⟩ | ⟨-, w, hw, hpath⟩ := hgives
    · cases h
    obtain (⟨h, -⟩ | ⟨-, w', hw', hcaption⟩) | ⟨-, hnone, hempty⟩ := hcaption
    · cases h
    · exact .captioned before inner after hw hpath hw' hcaption hothers
    · subst hempty
      exact .bare before inner after hw hpath hnone hothers
  · intro h
    cases h with
    | path h => cases h
    | bare _ _ _ hw h hnone hothers =>
      exact ⟨.inr ⟨rfl, _, hw, h⟩, .inr ⟨rfl, hnone, rfl⟩, hothers⟩
    | captioned _ _ _ hw h hw' h' hothers =>
      exact ⟨.inr ⟨rfl, _, hw, h⟩, .inl (.inr ⟨rfl, _, hw', h'⟩), hothers⟩

/-- **An entry is read as the plot that it spells**, if it spells one. -/
theorem plot?_eq_some_iff : w.plot? = some plot ↔ SpellsPlot w plot := by
  cases w with
  | scalar => exact plot?_scalar_iff
  | list => exact plot?_list_iff
  | record => exact plot?_record_iff

end Entry

/-- A value spells one plot at most. -/
theorem SpellsPlot.unique {p q : Plot} (h : SpellsPlot w p) (h' : SpellsPlot w q) : p = q :=
  Option.some.inj ((plot?_eq_some_iff.2 h).symm.trans (plot?_eq_some_iff.2 h'))

/-! ### An entry of a deck -/

/-- The fields of a deck. -/
def deckFields : List String := ["frontpage", "slides", "table_of_contents"]

/-- The fields of a slide. -/
def slideFields : List String := ["title", "section", "toptext", "bottomtext", "plots"]

/-- A deck of which an entry of a list of plots is left open. -/
structure PlotHole where
  /-- The deck, but for its slides. -/
  slides : FieldHole deckFields "slides"
  /-- The slides, but for one. -/
  slide : ItemHole
  /-- The slide, but for its plots. -/
  plots : FieldHole slideFields "plots"
  /-- The plots, but for one. -/
  plot : ItemHole

/-- The deck with an entry. -/
def PlotHole.fill (v : Written) (hole : PlotHole) : Written :=
  hole.slides.fill (hole.slide.fill (hole.plots.fill (hole.plot.fill v)))

/-- The plots that a list of entries spells. -/
def Written.plots? (w : Written) : Option (List Plot) := w.items?.bind (List.mapM Written.plot?)

/-- The slides that a list of records describes. -/
def Written.slides? (w : Written) : Option (List Slide) := w.items?.bind (List.mapM Written.slide?)

section Members

variable {m : DeclaredMember Option Written Slide.Draft}
  {m' : DeclaredMember Option Written Deck.Draft}

theorem read_plots (hm : m ∈ (Slide.shape Written.source).members) (hname : m.name = "plots")
    (v : Written) (d : Slide.Draft) :
    m.read v d = v.plots?.map fun l => { d with plots := some l } := by
  have hplots : readList Written.source (readPlot Written.source) v = v.plots? := by
    rw [readPlot_eq, readList_eq, Written.plots?]
  simp only [Slide.shape, List.mem_cons, List.not_mem_nil, or_false] at hm
  obtain rfl | rfl | rfl | rfl | rfl := hm
  case inr.inr.inr.inr =>
    dsimp only
    rw [hplots]
    cases v.plots? <;> rfl
  all_goals exact absurd hname (by decide)

theorem read_slides (hm : m' ∈ (Deck.shape Written.source).members) (hname : m'.name = "slides")
    (v : Written) (d : Deck.Draft) :
    m'.read v d = v.slides?.map fun l => { d with slides := some l } := by
  have hslides : readList Written.source
      (readRecord Written.source (Slide.shape Written.source) ·.value) v = v.slides? :=
    readList_eq Written.slide? v
  simp only [Deck.shape, List.mem_cons, List.not_mem_nil, or_false] at hm
  obtain rfl | rfl | rfl := hm
  case inr.inl =>
    dsimp only
    rw [hslides]
    cases v.slides? <;> rfl
  all_goals exact absurd hname (by decide)

end Members

/-- A slide of which the plots are left open is read but for its plots. -/
theorem FieldHole.exists_slide?_fill (hole : FieldHole slideFields "plots") :
    ∃ rest : Option Slide, ∀ v, (hole.fill v).slide?
      = rest.bind fun s => v.plots?.map fun l => { s with plots := l } := by
  obtain ⟨m, hm, hname⟩ : ∃ m ∈ (Slide.shape Written.source).members, m.name = "plots" :=
    ⟨_, List.mem_of_getElem? (i := 4) rfl, rfl⟩
  obtain ⟨draft, hdraft⟩ := hole.exists_readRecord_fill (Slide.keepsApart Written.source) hm hname
  refine ⟨draft.map fun d => ⟨d.title.getD "", d.sectionTitle.getD none, d.topText.getD none,
    d.bottomText.getD none, []⟩, fun v => (hdraft v).trans ?_⟩
  simp only [read_plots hm hname]
  cases draft <;> cases v.plots? <;> rfl

/-- A deck of which the slides are left open is read but for its slides. -/
theorem FieldHole.exists_deck?_fill (hole : FieldHole deckFields "slides") :
    ∃ rest : Option Deck, ∀ v, (hole.fill v).deck?
      = rest.bind fun d => v.slides?.map fun l => { d with slides := l } := by
  obtain ⟨m, hm, hname⟩ : ∃ m ∈ (Deck.shape Written.source).members, m.name = "slides" :=
    ⟨_, List.mem_of_getElem? (i := 1) rfl, rfl⟩
  obtain ⟨draft, hdraft⟩ := hole.exists_readRecord_fill (Deck.keepsApart Written.source) hm hname
  refine ⟨draft.bind fun d => d.frontPage.map fun frontPage => ⟨frontPage, [], d.outline.getD true⟩,
    fun v => (hdraft v).trans ?_⟩
  simp only [read_slides hm hname]
  rcases draft with _ | ⟨_ | frontPage, slides, outline⟩ <;> cases v.slides? <;> rfl

end PlotDeck.Json

namespace PlotDeck

/-- The slide with another plot at a place. -/
def Slide.setPlot (place : Nat) (p : Plot) (s : Slide) : Slide :=
  { s with plots := s.plots.set place p }

/-- The deck with another plot at a place of a slide. -/
def Deck.setPlot (slide place : Nat) (p : Plot) (d : Deck) : Deck :=
  { d with slides := d.slides.modify slide (Slide.setPlot place p) }

/-- The plot at a place of a slide. -/
def Deck.plot? (slide place : Nat) (d : Deck) : Option Plot :=
  d.slides[slide]?.bind fun s => s.plots[place]?

end PlotDeck

namespace PlotDeck.Json

/-- **What a deck with an entry left open is read as** depends on the entry by the plot that it
spells alone. -/
theorem PlotHole.exists_deck?_fill (hole : PlotHole) :
    ∃ make : Option (Plot → Deck), (∀ v, (hole.fill v).deck? = make.bind fun f => v.plot?.map f) ∧
      ∀ f ∈ make, ∀ p, (f p).plot? hole.slide.front.length hole.plot.front.length = some p ∧
        ∀ q, f q = (f p).setPlot hole.slide.front.length hole.plot.front.length q := by
  obtain ⟨deck, hdeck⟩ := hole.slides.exists_deck?_fill
  obtain ⟨slide, hslide⟩ := hole.plots.exists_slide?_fill
  refine ⟨do
    let d ← deck
    let slides ← hole.slide.front.mapM Written.slide?
    let s ← slide
    let plots ← hole.plot.front.mapM Written.plot?
    let plots' ← hole.plot.back.mapM Written.plot?
    let slides' ← hole.slide.back.mapM Written.slide?
    return fun p =>
      { d with slides := slides ++ { s with plots := plots ++ p :: plots' } :: slides' },
    fun v => ?_, fun f hf p => ?_⟩
  · -- whichever part is not read, there is no deck on either side
    rw [fill, hdeck, Written.slides?, ItemHole.mapM_fill, hslide, Written.plots?,
      ItemHole.mapM_fill]
    cases deck <;> cases hole.slide.front.mapM Written.slide? <;> cases slide <;>
      cases hole.plot.front.mapM Written.plot? <;> cases v.plot? <;>
      cases hole.plot.back.mapM Written.plot? <;> cases hole.slide.back.mapM Written.slide? <;> rfl
  · obtain ⟨d, -, hf⟩ := Option.bind_eq_some_iff.1 hf
    obtain ⟨slides, hslides, hf⟩ := Option.bind_eq_some_iff.1 hf
    obtain ⟨s, -, hf⟩ := Option.bind_eq_some_iff.1 hf
    obtain ⟨plots, hplots, hf⟩ := Option.bind_eq_some_iff.1 hf
    obtain ⟨plots', -, hf⟩ := Option.bind_eq_some_iff.1 hf
    obtain ⟨slides', -, hf⟩ := Option.bind_eq_some_iff.1 hf
    obtain rfl := Option.some.inj hf
    rw [(mapM_eq_some_iff.1 hslides).length_eq, (mapM_eq_some_iff.1 hplots).length_eq]
    constructor
    · simp [Deck.plot?]
    · intro q
      simp [Deck.setPlot, Slide.setPlot, List.modify_eq_set_getElem?]

/-- **A plot entry is accepted in its spellings only**: in a deck that is accepted with some entry
at a place, any other value is accepted there if and only if it spells a plot, and then the deck is
the same but for that plot. A value spells one plot at most, so that no spelling hides another.
Strings are texts here: one that escapes a surrogate without its partner spells no text, so it is
neither a path nor a caption, and a record in which another member holds it spells no plot. -/
theorem parse_fill_iff (hole : PlotHole) (w v : Written) (d₀ : Deck)
    (h : Deck.parse .json (String.ofList (hole.fill w).text) = .ok d₀) (d : Deck) :
    (Deck.parse .json (String.ofList (hole.fill v).text) = .ok d ↔
      ∃ p, SpellsPlot v p ∧ d = d₀.setPlot hole.slide.front.length hole.plot.front.length p ∧
        d.plot? hole.slide.front.length hole.plot.front.length = some p) ∧
    ∀ p q, SpellsPlot v p → SpellsPlot v q → p = q := by
  refine ⟨?_, fun p q => SpellsPlot.unique⟩
  obtain ⟨make, hfill, hmake⟩ := hole.exists_deck?_fill
  rw [Deck.parse_written_iff, hfill] at h ⊢
  obtain ⟨f, rfl, h⟩ := Option.bind_eq_some_iff.1 h
  obtain ⟨p₀, -, rfl⟩ := Option.map_eq_some_iff.1 h
  rw [Option.bind_some, Option.map_eq_some_iff]
  simp only [plot?_eq_some_iff]
  constructor
  · rintro ⟨p, hp, rfl⟩
    exact ⟨p, hp, (hmake f rfl p₀).2 p, (hmake f rfl p).1⟩
  · rintro ⟨p, hp, rfl, -⟩
    exact ⟨p, hp, (hmake f rfl p₀).2 p⟩

section Sample

/-- A name without space around it. -/
def Label.tight (name : String) : Label := ⟨.empty, lettersOf name, .empty⟩

/-- A string without space around it. -/
def Written.tight (s : String) : Written := .scalar .empty (.string (lettersOf s)) .empty

/-- A list without space. -/
def Written.tightList (ws : List Written) : Written := .list .empty ws .empty .empty

/-- Members without space. -/
def tightMembers (ms : List (String × Written)) : List (Label × Written) :=
  ms.map fun m => (.tight m.1, m.2)

/-- A record without space. -/
def Written.tightRecord (ms : List (String × Written)) : Written :=
  .record .empty (tightMembers ms) .empty .empty

/-- A deck of one slide, which has one plot; the entry of the plot is left open. -/
def oneEntry : PlotHole where
  slides := .byName .empty [(.tight "frontpage", .tightRecord [])] (.tight "slides")
    (spelled_lettersOf _) [] .empty .empty
  slide := ⟨.empty, [], [], .empty, .empty⟩
  plots := .byName .empty [] (.tight "plots") (spelled_lettersOf _) [] .empty .empty
  plot := ⟨.empty, [], [], .empty, .empty⟩

/-- A path behind its caption and another member. -/
def pathLast : Written :=
  .tightRecord [("caption", .tight "c"), ("note", .scalar .empty .null .empty),
    ("path", .tight "p")]

/-- With a string as the entry the deck is accepted; so it is with a record that has its caption
first and another member behind that, and not with an empty list. -/
theorem parse_fill_iff_oneEntry :
    Deck.parse .json (String.ofList (oneEntry.fill (.tight "a")).text)
      = .ok ⟨{}, [{ plots := [⟨"a", ""⟩] }], true⟩ ∧
    Deck.parse .json (String.ofList (oneEntry.fill pathLast).text)
      = .ok ⟨{}, [{ plots := [⟨"p", "c"⟩] }], true⟩ ∧
    ∀ d, Deck.parse .json (String.ofList (oneEntry.fill (.tightList [])).text) ≠ .ok d := by
  have haccepted := Deck.parse_written_iff.2 (show
    (oneEntry.fill (.tight "a")).deck? = some ⟨{}, [{ plots := [⟨"a", ""⟩] }], true⟩ by decide)
  have htext : ∀ s, IsText (.tight s) s := fun s => .letters .empty .empty (spelled_lettersOf s)
  refine ⟨haccepted, ?_, fun d hd => ?_⟩
  · refine (parse_fill_iff oneEntry _ _ _ haccepted _).1.2 ⟨⟨"p", "c"⟩, ?_, rfl, rfl⟩
    have hothers : OthersWithinLimits
        [(.tight "caption", .tight "c"), (.tight "note", .scalar .empty .null .empty),
          (.tight "path", .tight "p")] := by
      refine List.forall_mem_cons.2 ⟨⟨"caption", spelled_lettersOf _, fun _ h => absurd rfl h⟩, ?_⟩
      refine List.forall_mem_cons.2
        ⟨⟨"note", spelled_lettersOf _, fun _ _ => .scalar 5 .empty .empty rfl⟩, ?_⟩
      refine List.forall_mem_singleton.2 ⟨"path", spelled_lettersOf _, fun h => absurd rfl h⟩
    exact .captioned .empty .empty .empty rfl (htext "p") rfl (htext "c") hothers
  · obtain ⟨p, hp, -⟩ := (parse_fill_iff oneEntry _ _ _ haccepted d).1.1 hd
    cases hp with
    | path h => cases h

end Sample

end PlotDeck.Json
