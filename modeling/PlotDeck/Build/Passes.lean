import PlotDeck.Build.Compiler

/-!
# Running the compiler

A build runs the compiler pass after pass and then removes the files that it leaves beside the
document. A pass that fails is reported and does not stop the build; a compiler that cannot be
started does, and then nothing is removed.
-/

namespace PlotDeck

/-- The compiler could not be started. -/
structure StartError where
  /-- The compiler. -/
  program : String
  /-- Why it could not be started. -/
  cause : OsError
deriving DecidableEq, Repr

/-- The text of an error. -/
def StartError.message (e : StartError) : String :=
  "failed to run " ++ e.program ++ ": " ++ e.cause.message

/-- What came of a build. -/
structure BuildReport where
  /-- The typeset document. -/
  pdf : Path
  /-- How many passes were run. -/
  passes : Nat
  /-- The passes that failed, in order. -/
  failures : List FailedPass
  /-- The files that were removed, in order. -/
  removed : List Path
deriving DecidableEq, Repr

/-- Whether all passes succeeded. -/
def BuildReport.isSuccess (r : BuildReport) : Bool := r.failures.isEmpty

variable {m : Type → Type} [Monad m] [Host m]

/-- Removes those of some paths that are files and can be removed. -/
def removeFiles : List Path → m (List Path)
  | [] => return []
  | p :: rest => do
    let gone ← removeFile p
    let more ← removeFiles rest
    return if gone then p :: more else more
where
  /-- Removes a file, and tells whether it was there and is gone. -/
  removeFile (p : Path) : m Bool := do
    if ← Host.isFile p then return (← Host.removeFile p) matches .ok _ else return false

/-- Removes the intermediate files that belong to a base path. -/
def removeIntermediates (base : Path) : m (List Path) := removeFiles (intermediates base)

namespace Compiler

/-- Runs a number of passes, the first of which is counted as `pass`, and collects those that
fail. -/
def runPasses (c : Compiler) (tex : Path) : Nat → Nat → ExceptT StartError m (List FailedPass)
  | 0, _ => return []
  | left + 1, pass => do
    let exit ← ExceptT.mk do return (← Host.run (c.command tex)).mapError (⟨c.program, ·⟩)
    let failures ← c.runPasses tex left (pass + 1)
    return if exit.isSuccess then failures else ⟨c.program, pass, exit.code?⟩ :: failures

/-- Typesets a document. -/
def compile (c : Compiler) (tex : Path) : ExceptT StartError m BuildReport := do
  let failures ← c.runPasses tex c.passes 1
  let removed : List Path ←
    if c.cleanup then ExceptT.lift (removeIntermediates (c.artifactBase tex)) else pure []
  return { pdf := c.pdf tex, passes := c.passes, failures, removed }

end Compiler

/-- Shows a document in a viewer without waiting for it, and tells whether the viewer was started. A
document that is not there is not shown. -/
def openViewer (pdf : Path) : m Bool := do
  if ← Host.isFile pdf then return (← Host.launch (viewerCommand pdf)) matches .ok _
  else return false

end PlotDeck
