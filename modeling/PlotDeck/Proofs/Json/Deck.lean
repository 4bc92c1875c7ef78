import PlotDeck.Deck.Parse
import PlotDeck.Proofs.Deck.Reader
import PlotDeck.Proofs.Json.Printer

/-!
# Printed decks are read back

A tree that shows the value of a deck is read as that deck (`read_of_shows_deckValue`), and the tree
of a printed deck shows its value. So a description that was printed is parsed as the deck that was
printed, whatever its texts, slides and plots are (`Deck.parse_printDeck`).
-/

namespace PlotDeck.Json

variable {node : Node} {after : List Char}

/-! ### Values without parts -/

theorem text_of_shows {s : String} (h : Shows node (.text s) after) : source.text node = .ok s := by
  cases h
  rfl

theorem optionalText_of_shows {s : String} (h : Shows node (.text s) after) :
    source.optionalText node = .ok (some s) := by
  cases h
  rfl

theorem flag_of_shows {b : Bool} (h : Shows node (.flag b) after) : source.flag node = .ok b := by
  cases h
  rfl

/-! ### Records and lists -/

section Record

variable {δ α : Type} {declared : List (DeclaredMember (Except Fault) Node δ)}
  {member : DeclaredMember (Except Fault) Node δ} {name : String} {v : Value}
  {ms : List (String × Value)} {d d' d'' : δ}

/-- Whatever tree shows the members, they are read into the draft one after the other. -/
def ReadsMembers (declared : List (DeclaredMember (Except Fault) Node δ))
    (ms : List (String × Value)) (d d' : δ) : Prop :=
  ∀ members, ShowsMembers members ms → readByName source declared members.given d = .ok d'

theorem readsMembers_nil : ReadsMembers declared [] d d := by
  intro members h
  cases h
  rfl

/-- A declared member that the draft does not hold is read before the members after it. -/
theorem ReadsMembers.cons (d' : δ) (hfind : declared.find? (·.name == name) = some member)
    (hset : member.isSet d = false)
    (hread : ∀ node after, Shows node v after → member.read node d = .ok d')
    (hrest : ReadsMembers declared ms d' d'') : ReadsMembers declared ((name, v) :: ms) d d'' := by
  intro members h
  cases h with
  | cons hv hms =>
    rw [Members.given, readByName_cons_of_find? rfl hfind hset (hread _ _ hv)]
    exact hrest _ hms

/-- A text that may be left out is read where it is there; `put` is the draft that holds it. -/
theorem ReadsMembers.optional (put : Option (Option String) → δ) {t : Option String}
    (hfind : declared.find? (·.name == name) = some member) (hset : member.isSet (put none) = false)
    (hread : ∀ node s after, Shows node (.text s) after →
      member.read node (put none) = .ok (put (some (some s))))
    (hrest : ReadsMembers declared ms (put (t.map some)) d'') :
    ReadsMembers declared ((t.map fun s => (name, Value.text s)).toList ++ ms) (put none) d'' := by
  cases t with
  | none => exact hrest
  | some s => exact .cons _ hfind hset (fun node after => hread node s after) hrest

/-- What is read is put into the draft. -/
theorem read_into {β : Type} {x : Except Fault β} {b : β} (put : β → δ) (h : x = .ok b) :
    (do return put (← x)) = Except.ok (put b) := by
  rw [h]
  rfl

/-- A record is read from its members. -/
theorem readRecord_of_shows {shape : RecordShape (Except Fault) Node δ α} {a : α}
    (h : Shows node (.record ms) after) (hread : ReadsMembers shape.members ms shape.start d)
    (hfinish : shape.finish d = .ok a) : readRecord source shape node = .ok a := by
  cases h with
  | record hms => exact readRecord_of_readByName rfl (hread _ hms) rfl hfinish

end Record

/-- A list is read item by item. -/
theorem readList_of_shows {α : Type} {read : GivenItem (Except Fault) Node Fault → Except Fault α}
    {value : α → Value} {l : List α} (h : Shows node (.list (l.map value)) after)
    (hread : ∀ a ∈ l, ∀ item after, Shows item.value (value a) after → read item = .ok a) :
    readList source read node = .ok l := by
  have hitems : ∀ (l : List α) (items : Items), ShowsItems items (l.map value) →
      (∀ a ∈ l, ∀ item after, Shows item.value (value a) after → read item = .ok a) →
      readItems read items.given = .ok l := by
    intro l
    induction l with
    | nil =>
      intro items h _
      cases h
      rfl
    | cons a l ih =>
      intro items h hread
      cases h with
      | cons ha hl =>
        obtain ⟨hreadFirst, hreadRest⟩ := List.forall_mem_cons.1 hread
        rw [readItems_eq_ok_iff]
        exact .cons (hreadFirst _ _ ha) (readItems_eq_ok_iff.1 (ih _ hl hreadRest))
  cases h with
  | list h => exact readList_of_readItems rfl (hitems l _ h hread) rfl

/-! ### The parts of a deck -/

theorem read_frontPage_of_shows {p : FrontPage}
    (h : Shows node (.record [("title", .text p.title), ("subtitle", .text p.subtitle),
      ("author", .text p.author)]) after) :
    readRecord source (FrontPage.shape source) node = .ok p := by
  refine readRecord_of_shows h ?_ (d := ⟨some p.title, some p.subtitle, some p.author⟩) rfl
  refine .cons ⟨some p.title, none, none⟩ rfl rfl (fun _ _ h => read_into _ (text_of_shows h)) ?_
  refine .cons ⟨some p.title, some p.subtitle, none⟩ rfl rfl
    (fun _ _ h => read_into _ (text_of_shows h)) ?_
  exact .cons _ rfl rfl (fun _ _ h => read_into _ (text_of_shows h)) readsMembers_nil

theorem data_of_shows_plotValue {p : Plot} (h : Shows node (plotValue p) after) :
    source.data node
      = .ok (.record [(.text "path", .text p.path), (.text "caption", .text p.caption)]) := by
  cases h with
  | record h =>
    obtain _ | ⟨hpath, h⟩ := h
    obtain _ | ⟨hcaption, h⟩ := h
    cases h
    cases hpath
    cases hcaption
    rfl

theorem readPlot_of_shows {p : Plot} {item : GivenItem (Except Fault) Node Fault}
    (h : Shows item.value (plotValue p) after) : readPlot source item = .ok p := by
  rw [readPlot, data_of_shows_plotValue h]
  rfl

/-- A text that a slide may lack is what it was, once the draft is finished. -/
theorem getD_map_some (t : Option String) : (t.map some).getD none = t := by
  cases t <;> rfl

theorem read_slide_of_shows {s : Slide} (h : Shows node (slideValue s) after) :
    readRecord source (Slide.shape source) node = .ok s := by
  have hplots : ∀ node after, Shows node (.list (s.plots.map plotValue)) after →
      readList source (readPlot source) node = .ok s.plots :=
    fun _ _ h => readList_of_shows h fun _ _ _ _ => readPlot_of_shows
  let section? := s.sectionTitle.map some
  let top? := s.topText.map some
  let bottom? := s.bottomText.map some
  rw [slideValue] at h
  simp only [List.append_assoc, List.singleton_append] at h
  refine readRecord_of_shows h ?_ (d := ⟨some s.title, section?, top?, bottom?, some s.plots⟩) ?_
  · refine .cons ⟨some s.title, none, none, none, none⟩ rfl rfl
      (fun _ _ h => read_into _ (text_of_shows h)) ?_
    refine .optional (fun t => (⟨some s.title, t, none, none, none⟩ : Slide.Draft)) rfl rfl
      (fun _ _ _ h => read_into _ (optionalText_of_shows h)) ?_
    refine .optional (fun t => (⟨some s.title, section?, t, none, none⟩ : Slide.Draft)) rfl rfl
      (fun _ _ _ h => read_into _ (optionalText_of_shows h)) ?_
    refine .optional (fun t => (⟨some s.title, section?, top?, t, none⟩ : Slide.Draft)) rfl rfl
      (fun _ _ _ h => read_into _ (optionalText_of_shows h)) ?_
    exact .cons _ rfl rfl (fun node after h => read_into _ (hplots node after h)) readsMembers_nil
  · change Except.ok (Slide.mk _ _ _ _ _) = _
    simp only [section?, top?, bottom?, getD_map_some]
    rfl

theorem read_deck_of_shows {d : Deck} (h : Shows node (deckValue d) after) :
    Deck.read source node = .ok d := by
  have hslides : ∀ node after, Shows node (.list (d.slides.map slideValue)) after →
      readList source (readRecord source (Slide.shape source) ·.value) node = .ok d.slides :=
    fun _ _ h => readList_of_shows h fun _ _ _ _ => read_slide_of_shows
  refine readRecord_of_shows h ?_ (d := ⟨some d.frontPage, some d.slides, some d.outline⟩) rfl
  refine .cons ⟨some d.frontPage, none, none⟩ rfl rfl
    (fun _ _ h => read_into _ (read_frontPage_of_shows h)) ?_
  refine .cons ⟨some d.frontPage, some d.slides, none⟩ rfl rfl
    (fun node after h => read_into _ (hslides node after h)) ?_
  exact .cons _ rfl rfl (fun _ _ h => read_into _ (flag_of_shows h)) readsMembers_nil

/-! ### Whole texts -/

theorem readDeck_print (d : Deck) : readDeck ((deckValue d).print 0) = .ok d := by
  have hshows := shows_parse_print (deckValue d)
  rw [readDeck]
  simp only [bind, Except.bind, read_deck_of_shows hshows, hshows.ending]
  rfl

end PlotDeck.Json

namespace PlotDeck

/-- **A printed deck is read back**, whatever its texts are and whichever of them it has, and
however many slides and plots. -/
theorem Deck.parse_printDeck (d : Deck) : Deck.parse .json (Json.printDeck d) = .ok d := by
  rw [parse, Json.printDeck, String.toList_ofList, Json.readDeck_print]
  rfl

end PlotDeck
