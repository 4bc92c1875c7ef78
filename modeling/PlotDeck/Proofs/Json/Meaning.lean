import PlotDeck.Deck.Parse
import PlotDeck.Proofs.Deck.Members
import PlotDeck.Proofs.Json.OnlyWritten

/-!
# What a written deck means

A written value is read as a deck without a look at the places in its text (`Written.deck?`): the
same readers as ever, of a source that presents written values and knows no faults. Reading the tree
of a text comes to the same, once the fault is forgotten (`toOption_read`), so a text is accepted if
and only if it is a written deck (`Deck.parse_written_iff`).
-/

namespace PlotDeck.Json

/-! ### Written values as a source -/

mutual
/-- A value as plain data, inside `depth` lists and records. -/
def Written.data (depth : Nat) : Written → Option Data
  | .scalar _ s _ => s.found?.map dataOf
  | .list _ ws _ _ => if maxDepth ≤ depth then none else (itemsData (depth + 1) ws).map .list
  | .record _ ms _ _ => if maxDepth ≤ depth then none else (membersData (depth + 1) ms).map .record

/-- The items of a list as plain data. -/
def itemsData (depth : Nat) : List Written → Option (List Data)
  | [] => some []
  | w :: ws => do return (← w.data depth) :: (← itemsData depth ws)

/-- The members of a record as plain data. -/
def membersData (depth : Nat) : List (Label × Written) → Option (List (Data × Data))
  | [] => some []
  | (label, w) :: ms => do
    return (.text (← label.name?), ← w.data depth) :: (← membersData depth ms)
end

namespace Written

/-- What a value without parts is found to be. -/
def found? : Written → Option Found
  | .scalar _ s _ => s.found?
  | _ => none

/-- Reads a text. -/
def text? (w : Written) : Option String := w.found?.bind fun
  | .text s => some s
  | _ => none

/-- Reads a text, or null for none. -/
def optionalText? (w : Written) : Option (Option String) := w.found?.bind fun
  | .null => some none
  | .text s => some (some s)
  | _ => none

/-- Reads a truth value. -/
def flag? (w : Written) : Option Bool := w.found?.bind fun
  | .flag b => some b
  | _ => none

/-- The members of a record with the names that they spell. -/
def named (ms : List (Label × Written)) : List (Option String × Written) :=
  ms.map fun m => (m.1.name?, m.2)

/-- Opens a record. -/
def opened? : Written → Option (Opened Written)
  | .scalar .. => none
  | .list _ ws _ _ => some (.byOrder ws)
  | .record _ ms _ _ => some (.byName (named ms))

/-- Opens a list. -/
def items? : Written → Option (List Written)
  | .list _ ws _ _ => some ws
  | _ => none

/-- How written values present a deck. -/
def source : Source Option Written Unit where
  text := text?
  optionalText := optionalText?
  flag := flag?
  record _ w := w.opened?.map Opened.given
  list w := w.items?.map givenItems
  data := data 4
  pass _ := some ()

/-- The plot that an entry spells. -/
def plot? (w : Written) : Option Plot := (w.data 4).bind Plot.ofData?

/-- Reads a front page. -/
def frontPage? (w : Written) : Option FrontPage := readRecord source (FrontPage.shape source) w

/-- Reads a slide. -/
def slide? (w : Written) : Option Slide := readRecord source (Slide.shape source) w

/-- Reads a deck. -/
def deck? (w : Written) : Option Deck := Deck.read source w

end Written

/-! ### Forgetting faults -/

theorem toOption_bind {ε α β : Type} (x : Except ε α) (f : α → Except ε β) :
    (x >>= f).toOption = x.toOption >>= fun a => (f a).toOption := by
  cases x <;> rfl

variable {node : Node} {w : Written} {rest : List Char} {items : Items} {ws : List Written}
  {members : Members} {ms : List (Label × Written)}

/-! #### Values without parts -/

/-- A reader that looks at values without parts only is told by what it makes of what is found. -/
theorem toOption_of_found {α : Type} {read : Node → Except Fault α} {view : Found → Option α}
    (h : Presents node w rest)
    (hscalar : ∀ f rest, (read (.scalar (.ok f) rest)).toOption = view f)
    (hfault : ∀ f rest, (read (.scalar (.error f) rest)).toOption = none)
    (hlist : ∀ start items ending, (read (.list start items ending)).toOption = none)
    (hrecord : ∀ start members ending, (read (.record start members ending)).toOption = none) :
    (read node).toOption = w.found?.bind view := by
  cases h with
  | list => exact hlist _ _ _
  | record => exact hrecord _ _ _
  | @scalar value s before after rest hvalue =>
    change _ = s.found?.bind view
    rw [← hvalue]
    cases value with
    | error f => exact hfault f rest
    | ok f => exact hscalar f rest

theorem toOption_text (h : Presents node w rest) : (source.text node).toOption = w.text? :=
  toOption_of_found h (fun f _ => by cases f <;> rfl) (fun _ _ => rfl) (fun _ _ _ => rfl)
    fun _ _ _ => rfl

theorem toOption_optionalText (h : Presents node w rest) :
    (source.optionalText node).toOption = w.optionalText? :=
  toOption_of_found h (fun f _ => by cases f <;> rfl) (fun _ _ => rfl) (fun _ _ _ => rfl)
    fun _ _ _ => rfl

theorem toOption_flag (h : Presents node w rest) : (source.flag node).toOption = w.flag? :=
  toOption_of_found h (fun f _ => by cases f <;> rfl) (fun _ _ => rfl) (fun _ _ _ => rfl)
    fun _ _ _ => rfl

theorem pass_of_presents (h : Presents node w rest) : source.pass node = .ok () := by
  simp only [source, Node.pass, h.ending]

/-! #### Plain data -/

mutual
theorem toOption_data (depth : Nat) {node : Node} {w : Written} {rest : List Char}
    (h : Presents node w rest) : (node.data depth).toOption = w.data depth := by
  cases h with
  | scalar before after rest hvalue =>
    rw [Node.data, Written.data, toOption_map, hvalue]
  | list start before inner after rest hitems =>
    rw [Node.data, Written.data]
    split
    · rfl
    · rw [toOption_bind, toOption_itemsData (depth + 1) hitems]
      cases itemsData (depth + 1) _ <;> rfl
  | record start before inner after rest hmembers =>
    rw [Node.data, Written.data]
    split
    · rfl
    · rw [toOption_bind, toOption_membersData (depth + 1) hmembers]
      cases membersData (depth + 1) _ <;> rfl

theorem toOption_itemsData (depth : Nat) {items : Items} {ws : List Written}
    (h : PresentsItems items ws) : (items.data depth).toOption = itemsData depth ws := by
  cases h with
  | nil => rfl
  | cons hitem hleave hitems =>
    rw [Items.data, itemsData, toOption_bind, toOption_data depth hitem]
    simp only [toOption_bind, toOption_itemsData depth hitems]
    rfl

theorem toOption_membersData (depth : Nat) {members : Members} {ms : List (Label × Written)}
    (h : PresentsMembers members ms) : (members.data depth).toOption = membersData depth ms := by
  cases h with
  | nil => rfl
  | cons afterName hname hvalue hmembers =>
    rw [Members.data, membersData, toOption_bind, hname]
    simp only [toOption_bind, toOption_data depth hvalue, toOption_membersData depth hmembers]
    rfl
end

/-! #### Records -/

/-- Two members are declared alike, one to be read from trees and one from written values. -/
structure Alike {δ : Type} (m : DeclaredMember (Except Fault) Node δ)
    (m' : DeclaredMember Option Written δ) : Prop where
  /-- They have one name. -/
  name : m.name = m'.name
  /-- They are found in the same drafts. -/
  isSet : m.isSet = m'.isSet
  /-- They may lack alike. -/
  mayLack : m.mayLack = m'.mayLack
  /-- They are read alike, but for the fault. -/
  read : ∀ {node w rest}, Presents node w rest → ∀ d, (m.read node d).toOption = m'.read w d

section Records

variable {δ α : Type} {declared : List (DeclaredMember (Except Fault) Node δ)}
  {declared' : List (DeclaredMember Option Written δ)}

theorem rel_find? (h : List.Forall₂ Alike declared declared') (name : String) :
    Option.Rel Alike (declared.find? (·.name == name)) (declared'.find? (·.name == name)) := by
  induction h with
  | nil => exact .none
  | cons hm _ ih =>
    simp only [List.find?_cons, hm.name]
    split
    · exact .some hm
    · exact ih

theorem toOption_readByName (h : List.Forall₂ Alike declared declared')
    (hms : PresentsMembers members ms) (d : δ) :
    (readByName source declared members.given d).toOption
      = readByName Written.source declared' (givenMembers (Written.named ms)).members d := by
  induction ms generalizing members d with
  | nil =>
    cases hms
    rfl
  | cons m ms ih =>
    cases hms with
    | @cons _ _ _ label w _ _ afterName hname hvalue hrest =>
      change _ = readByName Written.source declared'
        (⟨label.name?, w, fun _ => ()⟩ :: (givenMembers (Written.named ms)).members) d
      rw [Members.given, readByName, readByName, toOption_bind, hname]
      cases label.name? with
      | none => rfl
      | some name =>
        have hfind := rel_find? h name
        simp only [Option.bind_eq_bind, Option.bind_some]
        revert hfind
        cases declared.find? (·.name == name) <;> cases declared'.find? (·.name == name) <;>
          intro hfind <;> cases hfind
        · -- nobody reads an unknown member, but it has to have an end
          rw [pass_of_presents hvalue]
          exact ih hrest d
        · next m m' hm =>
          dsimp only
          rw [hm.isSet]
          split
          · rfl
          · rw [toOption_bind, hm.read hvalue]
            exact congrArg _ (funext fun d' => ih hrest d')

theorem all_mayLack (h : List.Forall₂ Alike declared declared') :
    declared.all (·.mayLack) = declared'.all (·.mayLack) := by
  induction h with
  | nil => rfl
  | cons hm _ ih => rw [List.all_cons, List.all_cons, hm.mayLack, ih]

theorem toOption_readByOrder (h : List.Forall₂ Alike declared declared')
    {given : GivenItems (Except Fault) Node Fault} (hclose : given.close.toOption = some ())
    (title title' : String) (all : List Written) {leave : Except Fault Unit}
    (hws : PresentsItems items ws) (count count' : Nat) (d : δ) :
    (readByOrder title given count leave declared items.given d).toOption
      = readByOrder title' (givenItems all) count' leave.toOption declared' (itemsOf ws) d := by
  induction h generalizing items ws leave count count' d with
  | nil =>
    rw [readByOrder, readByOrder, toOption_bind]
    rfl
  | cons hm hms ih =>
    cases hws with
    | nil =>
      rw [Items.given, readByOrder, itemsOf, readByOrder, toOption_bind, hclose,
        all_mayLack (.cons hm hms)]
      simp only [givenItems, Option.bind_eq_bind, Option.bind_some]
      split <;> rfl
    | @cons item _ w ws rest hitem hleave hrest =>
      have hafter : item.ending.toOption.getD [] = rest := by rw [hitem.ending]; rfl
      rw [Items.given, readByOrder, itemsOf, readByOrder, toOption_bind, hm.read hitem]
      simp only [hafter]
      rw [← hleave]
      exact congrArg _ (funext fun d' => ih hrest _ _ d')

section Shape

variable {shape : RecordShape (Except Fault) Node δ α}

theorem toOption_readRecord_byName {given : GivenMembers (Except Fault) Node Fault}
    (hopen : source.record shape.title node = .ok (.byName given)) (hclose : given.close = .ok ()) :
    (readRecord source shape node).toOption
      = (readByName source shape.members given.members shape.start).toOption.bind
        fun d => (shape.finish d).toOption := by
  rw [readRecord, hopen]
  simp only [bind, Except.bind, hclose, pure, Except.pure]
  cases readByName source shape.members given.members shape.start with
  | error f => rfl
  | ok d =>
    change _ = (shape.finish d).toOption
    dsimp only
    cases shape.finish d <;> rfl

theorem toOption_readRecord_byOrder {given : GivenItems (Except Fault) Node Fault}
    (hopen : source.record shape.title node = .ok (.byOrder given)) :
    (readRecord source shape node).toOption
      = (readByOrder (shape.title ++ s!" with {shape.members.length} elements") given 0 given.close
          shape.members given.items shape.start).toOption.bind fun d =>
            (shape.finish d).toOption := by
  rw [readRecord, hopen]
  simp only [bind, Except.bind, pure, Except.pure]
  cases readByOrder (shape.title ++ s!" with {shape.members.length} elements") given 0 given.close
    shape.members given.items shape.start with
  | error f => rfl
  | ok d =>
    change _ = (shape.finish d).toOption
    dsimp only
    cases shape.finish d <;> rfl

/-- A record of the same shape is read alike, but for the fault. -/
theorem toOption_readRecord {shape' : RecordShape Option Written δ α}
    (hmembers : List.Forall₂ Alike shape.members shape'.members)
    (hstart : shape.start = shape'.start) (hfinish : shape.finish = shape'.finish)
    (h : Presents node w rest) :
    (readRecord source shape node).toOption = readRecord Written.source shape' w := by
  cases h with
  | scalar before after rest hvalue => rfl
  | @list items ws start before inner after rest hitems =>
    rw [toOption_readRecord_byOrder rfl, readRecord_byOrder rfl, ← hfinish, ← hstart]
    exact congrArg (Option.bind · _) (toOption_readByOrder hmembers rfl _ _ ws hitems 0 0 _)
  | record start before inner after rest hms =>
    rw [toOption_readRecord_byName rfl rfl, readRecord_byName rfl rfl, ← hfinish, ← hstart]
    exact congrArg (Option.bind · _) (toOption_readByName hmembers hms _)

end Shape

end Records

/-! #### Lists -/

section Lists

variable {α : Type}

/-- A list is read item by item. -/
theorem readList_eq (read : Written → Option α) (w : Written) :
    readList Written.source (fun item => read item.value) w = w.items?.bind (List.mapM read) := by
  have hitems : ∀ ws : List Written,
      readItems (fun item => read item.value) (itemsOf ws) = ws.mapM read := by
    intro ws
    induction ws with
    | nil => rfl
    | cons w ws ih => rw [itemsOf, readItems, List.mapM_cons, ih]
  rw [readList]
  cases w with
  | list before ws inner after =>
    simp only [Written.source, Written.items?, Option.map_some, Option.bind_eq_bind,
      Option.bind_some,
      givenItems, hitems]
    cases ws.mapM read <;> rfl
  | scalar => rfl
  | record => rfl

/-- The items of a list are read one for one, but for the fault. -/
theorem toOption_readList {read : GivenItem (Except Fault) Node Fault → Except Fault α}
    {read' : Written → Option α}
    (hread : ∀ item {w rest}, Presents item.value w rest → (read item).toOption = read' w)
    (h : Presents node w rest) :
    (readList source read node).toOption
      = readList Written.source (fun item => read' item.value) w := by
  have hitems : ∀ {items : Items} {ws : List Written}, PresentsItems items ws →
      (readItems read items.given).toOption = ws.mapM read' := by
    intro items ws h
    induction ws generalizing items with
    | nil => cases h; rfl
    | cons w ws ih =>
      cases h with
      | cons hitem hleave hrest =>
        rw [Items.given, readItems, toOption_bind, hread _ hitem, List.mapM_cons]
        simp only [toOption_bind, ih hrest]
        rfl
  rw [readList_eq, readList, toOption_bind]
  cases h with
  | scalar => rfl
  | record => rfl
  | @list items ws start before inner after rest h =>
    change (readItems read items.given >>= fun l => do
      close (.ok rest)
      return l).toOption = ws.mapM read'
    rw [toOption_bind, hitems h]
    cases ws.mapM read' <;> rfl

end Lists

/-! ### Decks -/

theorem readPlot_eq : readPlot Written.source = fun item => Written.plot? item.value := by
  funext item
  rw [readPlot, Written.plot?]
  change (item.value.data 4).bind _ = _
  congr
  funext a
  cases Plot.ofData? a <;> rfl

theorem toOption_readPlot (item : GivenItem (Except Fault) Node Fault)
    (h : Presents item.value w rest) : (readPlot source item).toOption = w.plot? := by
  rw [readPlot, toOption_bind, Written.plot?]
  change (item.value.data 4).toOption.bind _ = _
  rw [toOption_data 4 h]
  congr
  funext a
  cases Plot.ofData? a <;> rfl

/-- Members that put what they read into the same place are alike, if what they read is. -/
theorem Alike.of_put {β δ : Type} {name : String} {isSet : δ → Bool} {mayLack : Bool}
    {read : Node → Except Fault β} {read' : Written → Option β} {put : β → δ → δ}
    (h : ∀ {node w rest}, Presents node w rest → (read node).toOption = read' w) :
    Alike ⟨name, isSet, fun v d => return put (← read v) d, mayLack⟩
      ⟨name, isSet, fun w d => return put (← read' w) d, mayLack⟩ where
  name := rfl
  isSet := rfl
  mayLack := rfl
  read hv d := by
    rw [toOption_bind, h hv]
    rfl

theorem toOption_frontPage (h : Presents node w rest) :
    (readRecord source (FrontPage.shape source) node).toOption = w.frontPage? :=
  toOption_readRecord (.cons (.of_put toOption_text)
    (.cons (.of_put toOption_text) (.cons (.of_put toOption_text) .nil))) rfl rfl h

theorem toOption_slide (h : Presents node w rest) :
    (readRecord source (Slide.shape source) node).toOption = w.slide? := by
  have hplots : ∀ {node w rest}, Presents node w rest →
      (readList source (readPlot source) node).toOption
        = readList Written.source (readPlot Written.source) w := by
    intro node w rest h
    rw [toOption_readList (fun item _ _ => toOption_readPlot item) h, readPlot_eq]
  exact toOption_readRecord (.cons (.of_put toOption_text) (.cons (.of_put toOption_optionalText)
    (.cons (.of_put toOption_optionalText) (.cons (.of_put toOption_optionalText)
      (.cons (.of_put hplots) .nil))))) rfl rfl h

theorem toOption_read (h : Presents node w rest) : (Deck.read source node).toOption = w.deck? :=
  toOption_readRecord (.cons (.of_put toOption_frontPage)
    (.cons (.of_put fun h => toOption_readList (fun _ => toOption_slide) h)
      (.cons (.of_put toOption_flag) .nil))) rfl rfl h

/-- The text of a written value is read as the deck that it means, and nothing else. -/
theorem toOption_readDeck (w : Written) : (readDeck w.text).toOption = w.deck? := by
  have hpresents := presents_parse w
  have hspace : skipSpace w.after.text = [] := by
    rw [← List.append_nil w.after.text, skipSpace_gap]
    rfl
  rw [readDeck]
  simp only [toOption_bind, toOption_read hpresents, hpresents.ending, hspace]
  exact bind_pure w.deck?

/-- **Only written decks are accepted.** -/
theorem exists_written_of_readDeck {t : List Char} {d : Deck} (h : readDeck t = .ok d) :
    ∃ w : Written, w.text = t := by
  rw [readDeck] at h
  cases hread : Deck.read source (parse t) with
  | error f => simp [hread, bind, Except.bind] at h
  | ok deck =>
    simp only [hread, bind, Except.bind] at h
    split at h
    · cases h
    · next rest hend =>
      split at h
      · next hspace => exact exists_written hend hspace
      · cases h

end PlotDeck.Json

namespace PlotDeck

open Json (Written)

/-- **A text is accepted if it is written as a deck**, whatever its spacing and however its names
and texts are spelled, and then it is that deck. -/
theorem Deck.parse_written_iff {w : Written} {d : Deck} :
    Deck.parse .json (String.ofList w.text) = .ok d ↔ w.deck? = some d := by
  have hread := Json.toOption_readDeck w
  rw [parse, String.toList_ofList]
  cases hdeck : Json.readDeck w.text with
  | error f => simp [← hread, hdeck, Except.mapError, Except.toOption]
  | ok d' => simp [← hread, hdeck, Except.mapError, Except.toOption]

/-- **Only what is written is accepted.** -/
theorem Deck.exists_written_of_parse {t : String} {d : Deck} (h : Deck.parse .json t = .ok d) :
    ∃ w : Written, String.ofList w.text = t := by
  rw [parse] at h
  cases hdeck : Json.readDeck t.toList with
  | error f => simp [hdeck, Except.mapError] at h
  | ok d' =>
    obtain ⟨w, hw⟩ := Json.exists_written_of_readDeck hdeck
    exact ⟨w, by rw [hw, String.ofList_toList]⟩

end PlotDeck
