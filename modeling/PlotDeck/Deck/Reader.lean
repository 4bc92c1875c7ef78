import PlotDeck.Deck.Entry
import PlotDeck.Deck.Mismatch

/-!
# Reading a deck

A deck is read from structured data in one of several formats. What the formats have in common is
kept here: which members a deck, a front page and a slide have, which of them may be left out, and
in which order faults are found. A `Source` says how one format presents its data.

A record may be given by name or by order. By name, members may come in any order, unknown ones are
passed over, and none may be given twice. By order, the members stand in a list without their names.
-/

namespace PlotDeck

/-- A member of a record as it was given. -/
structure GivenMember (m : Type → Type) (ν ε : Type) where
  /-- Its name. -/
  name : m String
  /-- Its value. -/
  value : ν
  /-- What a mismatch in the member as such amounts to. -/
  refuse : Mismatch → ε

/-- An item of a list as it was given. -/
structure GivenItem (m : Type → Type) (ν ε : Type) where
  /-- Its value. -/
  value : ν
  /-- Ends the list after this item. -/
  leave : m Unit
  /-- What a mismatch that is found after this item amounts to. -/
  refuse : Mismatch → ε

/-- The members of a record. -/
structure GivenMembers (m : Type → Type) (ν ε : Type) where
  /-- The members in order. -/
  members : List (GivenMember m ν ε)
  /-- Ends the record after its last member. -/
  close : m Unit
  /-- What a mismatch in the record as a whole amounts to. -/
  refuse : Mismatch → ε

/-- The items of a list. -/
structure GivenItems (m : Type → Type) (ν ε : Type) where
  /-- The items in order. -/
  items : List (GivenItem m ν ε)
  /-- Ends the list after its last item. -/
  close : m Unit
  /-- What a mismatch in the list as a whole amounts to. -/
  refuse : Mismatch → ε

/-- A record as it was given. -/
inductive GivenRecord (m : Type → Type) (ν ε : Type) where
  /-- Members with their names. -/
  | byName (given : GivenMembers m ν ε)
  /-- Members in the order in which the record declares them. -/
  | byOrder (given : GivenItems m ν ε)

/-- How a format presents its data: `ν` are its values, `ε` its faults. -/
structure Source (m : Type → Type) (ν ε : Type) where
  /-- Reads a text. -/
  text : ν → m String
  /-- Reads a text that may be absent. -/
  optionalText : ν → m (Option String)
  /-- Reads a truth value. -/
  flag : ν → m Bool
  /-- Opens a record; its title is what was expected of another value. -/
  record : String → ν → m (GivenRecord m ν ε)
  /-- Opens a list. -/
  list : ν → m (GivenItems m ν ε)
  /-- Reads a value as plain data. -/
  data : ν → m Data
  /-- Passes over a value. -/
  pass : ν → m Unit

section
variable {m : Type → Type} {ν ε δ α : Type} [Monad m] [MonadExceptOf ε m]

/-! ### Records -/

/-- A member that a record declares, to be read into a draft `δ` of it. -/
structure DeclaredMember (m : Type → Type) (ν δ : Type) where
  /-- The name of the member. -/
  name : String
  /-- Whether the draft holds the member already. -/
  isSet : δ → Bool
  /-- Reads the member into the draft. -/
  read : ν → δ → m δ
  /-- Whether the member may be left out of a record given by order. -/
  mayLack : Bool := true

/-- What a record consists of. -/
structure RecordShape (m : Type → Type) (ν δ α : Type) where
  /-- What a value of another kind is told was expected. -/
  title : String
  /-- The members in order of declaration. -/
  members : List (DeclaredMember m ν δ)
  /-- The draft before any member is read. -/
  start : δ
  /-- The record that a draft amounts to, unless a member is missing. -/
  finish : δ → Except Mismatch α

/-- Reads members given by name. -/
def readByName (src : Source m ν ε) (declared : List (DeclaredMember m ν δ)) :
    List (GivenMember m ν ε) → δ → m δ
  | [], d => pure d
  | given :: rest, d => do
    let name ← given.name
    match declared.find? (·.name == name) with
    | none =>
      src.pass given.value
      readByName src declared rest d
    | some member =>
      if member.isSet d then throw (given.refuse (.duplicate member.name))
      else readByName src declared rest (← member.read given.value d)

/-- Reads members given by order, of which `count` have been read. Where the list ends early, the
members that are left have to be ones that may lack. -/
def readByOrder (title : String) (given : GivenItems m ν ε) :
    Nat → m Unit → List (DeclaredMember m ν δ) → List (GivenItem m ν ε) → δ → m δ
  | _, leave, [], _, d => do
    leave
    pure d
  | count, _, member :: rest, item :: items, d => do
    readByOrder title given (count + 1) item.leave rest items (← member.read item.value d)
  | count, _, member :: rest, [], d => do
    given.close
    if (member :: rest).all (·.mayLack) then pure d
    else throw (given.refuse (.wrongLength count title))

/-- Reads a record of a given shape. -/
def readRecord (src : Source m ν ε) (shape : RecordShape m ν δ α) (v : ν) : m α := do
  let (draft, refuse) ← match ← src.record shape.title v with
    | .byName given =>
      let d ← readByName src shape.members given.members shape.start
      given.close
      pure (d, given.refuse)
    | .byOrder given =>
      let title := shape.title ++ s!" with {shape.members.length} elements"
      let d ← readByOrder title given 0 given.close shape.members given.items shape.start
      pure (d, given.refuse)
  match shape.finish draft with
  | .ok a => pure a
  | .error mismatch => throw (refuse mismatch)

/-- Reads the items of a list in order. -/
def readItems (read : GivenItem m ν ε → m α) : List (GivenItem m ν ε) → m (List α)
  | [] => pure []
  | item :: rest => do
    let a ← read item
    return a :: (← readItems read rest)

/-- Reads a list. -/
def readList (src : Source m ν ε) (read : GivenItem m ν ε → m α) (v : ν) : m (List α) := do
  let given ← src.list v
  let l ← readItems read given.items
  given.close
  return l

/-! ### The front page -/

/-- A front page that is being read. -/
structure FrontPage.Draft where
  /-- The title, once it has been read. -/
  title : Option String := none
  /-- The subtitle, once it has been read. -/
  subtitle : Option String := none
  /-- The author, once it has been read. -/
  author : Option String := none
deriving DecidableEq, Repr

/-- A front page has a title, a subtitle and an author; each is empty if it is left out. -/
def FrontPage.shape (src : Source m ν ε) : RecordShape m ν FrontPage.Draft FrontPage where
  title := "struct FrontMatter"
  members := [
    { name := "title", isSet := fun d => d.title.isSome
      read := fun v d => return { d with title := some (← src.text v) } },
    { name := "subtitle", isSet := fun d => d.subtitle.isSome
      read := fun v d => return { d with subtitle := some (← src.text v) } },
    { name := "author", isSet := fun d => d.author.isSome
      read := fun v d => return { d with author := some (← src.text v) } }]
  start := {}
  finish d := .ok ⟨d.title.getD "", d.subtitle.getD "", d.author.getD ""⟩

/-! ### Slides -/

/-- A slide that is being read. -/
structure Slide.Draft where
  /-- The title, once it has been read. -/
  title : Option String := none
  /-- The section, once it has been read. -/
  sectionTitle : Option (Option String) := none
  /-- The text above the plots, once it has been read. -/
  topText : Option (Option String) := none
  /-- The text below the plots, once it has been read. -/
  bottomText : Option (Option String) := none
  /-- The plots, once they have been read. -/
  plots : Option (List Plot) := none
deriving DecidableEq, Repr

/-- Reads one entry of a list of plots. -/
def readPlot (src : Source m ν ε) (item : GivenItem m ν ε) : m Plot := do
  match Plot.ofData? (← src.data item.value) with
  | some plot => pure plot
  | none => throw (item.refuse .unknownSpelling)

/-- A slide has a title, a section, texts above and below its plots, and the plots; all of them may
be left out. -/
def Slide.shape (src : Source m ν ε) : RecordShape m ν Slide.Draft Slide where
  title := "struct SlideSpec"
  members := [
    { name := "title", isSet := fun d => d.title.isSome
      read := fun v d => return { d with title := some (← src.text v) } },
    { name := "section", isSet := fun d => d.sectionTitle.isSome
      read := fun v d => return { d with sectionTitle := some (← src.optionalText v) } },
    { name := "toptext", isSet := fun d => d.topText.isSome
      read := fun v d => return { d with topText := some (← src.optionalText v) } },
    { name := "bottomtext", isSet := fun d => d.bottomText.isSome
      read := fun v d => return { d with bottomText := some (← src.optionalText v) } },
    { name := "plots", isSet := fun d => d.plots.isSome
      read := fun v d => return { d with plots := some (← readList src (readPlot src) v) } }]
  start := {}
  finish d := .ok {
    title := d.title.getD ""
    sectionTitle := d.sectionTitle.getD none
    topText := d.topText.getD none
    bottomText := d.bottomText.getD none
    plots := d.plots.getD [] }

/-! ### Decks -/

/-- A deck that is being read. -/
structure Deck.Draft where
  /-- The front page, once it has been read. -/
  frontPage : Option FrontPage := none
  /-- The slides, once they have been read. -/
  slides : Option (List Slide) := none
  /-- Whether there is an outline, once it has been read. -/
  outline : Option Bool := none
deriving DecidableEq, Repr

/-- A deck has a front page and slides, both of which have to be given, and an outline unless it
says otherwise. -/
def Deck.shape (src : Source m ν ε) : RecordShape m ν Deck.Draft Deck where
  title := "struct DeckSpec"
  members := [
    { name := "frontpage", isSet := fun d => d.frontPage.isSome, mayLack := false
      read := fun v d => return {
        d with frontPage := some (← readRecord src (FrontPage.shape src) v) } },
    { name := "slides", isSet := fun d => d.slides.isSome, mayLack := false
      read := fun v d => return {
        d with slides := some (← readList src (readRecord src (Slide.shape src) ·.value) v) } },
    { name := "table_of_contents", isSet := fun d => d.outline.isSome
      read := fun v d => return { d with outline := some (← src.flag v) } }]
  start := {}
  finish d :=
    match d.frontPage, d.slides with
    | none, _ => .error (.missing "frontpage")
    | _, none => .error (.missing "slides")
    | some frontPage, some slides => .ok { frontPage, slides, outline := d.outline.getD true }

/-- Reads a deck. -/
def Deck.read (src : Source m ν ε) (v : ν) : m Deck := readRecord src (Deck.shape src) v

end

end PlotDeck
