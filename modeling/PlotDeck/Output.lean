import PlotDeck.Path

/-!
# Names of the generated files

A deck with stem `s` in directory `d` produces `d/s_slides.tex`, the main document,
`d/s_slides_input.tex`, the body, and, once it has been typeset, `d/s_slides.pdf`.
-/

namespace PlotDeck

/-- The paths of everything that is made from a deck. -/
structure OutputPaths where
  /-- The main document. -/
  main : Path
  /-- The body that the main document reads in. -/
  body : Path
  /-- The typeset document. -/
  pdf : Path
deriving DecidableEq, Repr

namespace OutputPaths

/-- The outputs in a directory, named after a stem. -/
def ofStem (dir : Path) (stem : String) : OutputPaths where
  main := dir.join ⟨stem ++ "_slides.tex"⟩
  body := dir.join ⟨stem ++ "_slides_input.tex"⟩
  pdf := dir.join ⟨stem ++ "_slides.pdf"⟩

/-- The outputs next to a file, named after its stem. The stem of a path that is no text is not a
text either; what is made of it there is said by `RawPath.outputs`. -/
def ofConfig (config : Path) : OutputPaths :=
  ofStem (config.parent?.getD ⟨""⟩) (config.fileStem?.getD "")

/-- The directory that the outputs are in. -/
def dir (o : OutputPaths) : Path := o.main.parent?.getD ⟨""⟩

/-- How the main document refers to the body: its path, with slashes for backslashes. -/
def bodyReference (o : OutputPaths) : String :=
  String.ofList (o.body.text.toList.map fun c => if c = '\\' then '/' else c)

end OutputPaths

end PlotDeck
