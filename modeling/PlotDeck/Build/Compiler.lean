import PlotDeck.Host.Basic
import PlotDeck.Output

/-!
# Invoking the compiler

A deck is typeset by an external **compiler**, which is started for a fixed number of passes. This
module says what is started and what is known of the files it leaves; it starts nothing.
-/

namespace PlotDeck

/-- How the compiler is to be run. -/
structure Compiler where
  /-- The program that typesets a document. -/
  program : String := "lualatex"
  /-- How many times it is run; two passes settle section numbers and the outline. -/
  passes : Nat := 2
  /-- Whether it runs without stopping at errors. -/
  nonstop : Bool := false
  /-- Whether intermediate files are removed afterwards. -/
  cleanup : Bool := true
  /-- Whether it runs at the lowest priority. -/
  lowPriority : Bool := false
  /-- The directory to write to, where it is not that of the document. -/
  outputDir : Option Path := none
deriving DecidableEq, Repr

namespace Compiler

/-- The arguments for a document. -/
def arguments (c : Compiler) (tex : Path) : List String :=
  (if c.nonstop then ["-interaction", "nonstopmode"] else []) ++
    (c.outputDir.map fun dir => "-output-directory=" ++ dir.text).toList ++ [tex.text]

/-- What is started for one pass over a document. -/
def command (c : Compiler) (tex : Path) : Command :=
  if c.lowPriority then ⟨"nice", ["-n", "19", c.program] ++ c.arguments tex⟩
  else ⟨c.program, c.arguments tex⟩

/-- The path of everything that is made from a document, less the extension. -/
def artifactBase (c : Compiler) (tex : Path) : Path :=
  let dir := (c.outputDir.orElse fun _ => tex.parent?).getD ⟨""⟩
  dir.join ⟨tex.fileStem?.getD ""⟩

/-- The typeset document. -/
def pdf (c : Compiler) (tex : Path) : Path := (c.artifactBase tex).addExtension "pdf"

end Compiler

/-- The extensions of the files that the compiler leaves beside the document it makes, in the order
in which they are removed. -/
def intermediateExtensions : List String := ["toc", "snm", "out", "nav", "log", "aux"]

/-- The intermediate files that belong to a base path. -/
def intermediates (base : Path) : List Path := intermediateExtensions.map base.addExtension

/-- A pass that did not succeed. -/
structure FailedPass where
  /-- The compiler. -/
  program : String
  /-- Which pass it was, counted from 1. -/
  pass : Nat
  /-- Its exit code; none if a signal ended it. -/
  code : Option Int
deriving DecidableEq, Repr

/-- The text that reports a failed pass. -/
def FailedPass.message (f : FailedPass) : String :=
  f.program ++ s!" failed on pass {f.pass} (" ++
    (match f.code with
      | some code => s!"exit code {code}"
      | none => "terminated by signal") ++ ")"

/-- What is started to show a document. -/
def viewerCommand (pdf : Path) : Command := ⟨"xdg-open", [pdf.text]⟩

end PlotDeck
