import PlotDeck.CommandLine.Request
import PlotDeck.Generate
import PlotDeck.Json.Printer
import PlotDeck.Report

/-!
# Running a request

A run of the program on any host: the request is carried out, an error is printed, and the exit code
tells whether all went well. A compiler pass that fails is no error.
-/

namespace PlotDeck

variable {m : Type → Type} [Monad m] [Host m]

/-- The compiler for a deck with these outputs. It writes to their directory, if they have one. -/
def BuildOptions.compilerFor (b : BuildOptions) (o : OutputPaths) (nonstop : Bool) : Compiler where
  program := b.compiler
  nonstop := nonstop
  cleanup := b.cleanup
  lowPriority := b.lowPriority
  outputDir := if o.dir.text = "" then none else some o.dir

/-- How a deck is rendered with a front matter template, if there is one. -/
def BuildOptions.renderOptions (b : BuildOptions) (frontTemplate : Option String) :
    RenderOptions where
  frontTemplate := frontTemplate
  outline := if b.outline then none else some false

/-- Makes the documents of a deck, has them typeset and shows the result, as far as that is
wanted. -/
def Deck.build (d : Deck) (o : OutputPaths) (b : BuildOptions) (nonstop : Bool) :
    ExceptT RunError m Unit := do
  let frontTemplate ← match b.template with
    | some p => do pure (some (← p.readText.adapt .file))
    | none => pure none
  let _ ← d.make o (b.renderOptions frontTemplate)
  if b.typeset then
    let _ ← ((b.compilerFor o nonstop).compile o.main).adapt .start
  if b.view then
    let _ ← ExceptT.lift (openViewer o.pdf)

/-- Loads a deck. A fault in its description is also shown where it lies. -/
def Deck.loadReporting (p : Path) : ExceptT RunError m Deck :=
  ExceptT.mk do
    match ← (Deck.load p).run with
    | .ok d => return .ok d
    | .error e =>
      if e.span?.isSome then
        if let .ok source := ← Host.readText p then
          Host.printError (e.report source p.text)
      return .error (.deck e)

/-- Carries out a request. A comparison never stops at an error of the compiler. -/
def Request.run : Request → ExceptT RunError m Unit
  | .make config options => do
    let d ← Deck.loadReporting config
    d.build (.ofConfig config) options options.nonstop
  | .compare output comparison save options => do
    let d ← comparison.deck.adapt .compare
    if save then
      ((output.withExtension "json").writeText (Json.printDeck d)).adapt .file
    d.build (.ofConfig output) options true

namespace CommandLine

/-- Runs a command line and answers with the exit code: 0 if all went well, 1 after an error of the
run, and 2 if the command line itself is at fault. -/
def run (args : List String) : m Nat := do
  match parse args with
  | .error .asked =>
    Host.print usage
    return 0
  | .error reply =>
    Host.printError ("Error: " ++ reply.message ++ "\n\n" ++ usage)
    return 2
  | .ok request =>
    match ← request.run.run with
    | .ok () => return 0
    | .error e =>
      Host.printError ("Error: " ++ e.message ++ "\n")
      return 1

end CommandLine

end PlotDeck
