/-!
# Decks

A **deck** is a front page and a sequence of slides, each with any number of plots. This is the
description that everything else is made from; it says nothing of how a slide is laid out.
-/

namespace PlotDeck

/-- An image on a slide and the caption shown with it. -/
structure Plot where
  /-- The path of the image, as the document refers to it. -/
  path : String
  /-- The text shown above the image; it may be empty. -/
  caption : String
deriving DecidableEq, Repr

/-- One slide. -/
structure Slide where
  /-- The title of the frame. -/
  title : String := ""
  /-- The section that the slide opens, where it is not named after the title. -/
  sectionTitle : Option String := none
  /-- The text above the plots. -/
  topText : Option String := none
  /-- The text below the plots. -/
  bottomText : Option String := none
  /-- The plots in order. -/
  plots : List Plot := []
deriving DecidableEq, Repr

/-- The heading of the section that a slide opens: its own, or else its title. -/
def Slide.heading (s : Slide) : String := s.sectionTitle.getD s.title

/-- What the title page shows. -/
structure FrontPage where
  /-- The title of the deck. -/
  title : String := ""
  /-- The line below the title. -/
  subtitle : String := ""
  /-- Who gives the talk. -/
  author : String := ""
deriving DecidableEq, Repr

/-- A complete deck. -/
structure Deck where
  /-- The title page. -/
  frontPage : FrontPage := {}
  /-- The slides in order. -/
  slides : List Slide := []
  /-- Whether an outline follows the title page. -/
  outline : Bool := true
deriving DecidableEq, Repr

end PlotDeck
