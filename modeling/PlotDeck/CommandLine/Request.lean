import PlotDeck.CommandLine.Scan
import PlotDeck.Compare.Comparison

/-!
# Requests

What the user can ask for: to **make** a deck from its description, or to **compare** directories.
Both take the same options on how the deck is built.
-/

namespace PlotDeck

/-- How a deck is built once it is known. -/
structure BuildOptions where
  /-- The file of a front matter template to use instead of the built-in one. -/
  template : Option Path := none
  /-- Whether the documents are typeset. -/
  typeset : Bool := true
  /-- Whether intermediate files are removed. -/
  cleanup : Bool := true
  /-- Whether the outline may be shown. -/
  outline : Bool := true
  /-- Whether the compiler runs without stopping at errors. -/
  nonstop : Bool := false
  /-- Whether the compiler runs at the lowest priority. -/
  lowPriority : Bool := false
  /-- The compiler. -/
  compiler : String := "lualatex"
  /-- Whether the document is shown afterwards. -/
  view : Bool := false
deriving DecidableEq, Repr

/-- What the user asks for. -/
inductive Request where
  /-- Make the deck that a file describes. -/
  | make (config : Path) (options : BuildOptions)
  /-- Make a deck that compares directories, named after an output, and perhaps save its
  description. -/
  | compare (output : Path) (comparison : Comparison) (save : Bool) (options : BuildOptions)
deriving DecidableEq, Repr

namespace CommandLine

/-- The option that every command understands. -/
def verbose : OptionSpec := ⟨"verbose", .flag, false⟩

/-- The options on how a deck is built. -/
def buildSpecs : List OptionSpec :=
  [⟨"template", .path, false⟩, ⟨"no-compile", .flag, false⟩, ⟨"no-cleanup", .flag, false⟩,
    ⟨"no-toc", .flag, false⟩, ⟨"nonstop", .flag, false⟩, ⟨"nice", .flag, false⟩,
    ⟨"latex", .text, false⟩, ⟨"open", .flag, false⟩, verbose]

/-- The options of a comparison. -/
def compareSpecs : List OptionSpec :=
  [⟨"dir", .path, true⟩, ⟨"label", .text, true⟩, ⟨"plot", .text, true⟩, ⟨"ext", .text, false⟩,
    ⟨"title", .text, false⟩, ⟨"save-config", .flag, false⟩] ++ buildSpecs

/-- The build options that were found. -/
def Found.buildOptions (f : Found) : BuildOptions :=
  let preset : BuildOptions := {}
  { template := (f.value? "template").map (⟨·⟩)
    typeset := !f.hasFlag "no-compile"
    cleanup := !f.hasFlag "no-cleanup"
    outline := !f.hasFlag "no-toc"
    nonstop := f.hasFlag "nonstop"
    lowPriority := f.hasFlag "nice"
    compiler := (f.value? "latex").getD preset.compiler
    view := f.hasFlag "open" }

/-- The comparison that was found. -/
def Found.comparison (f : Found) : Comparison :=
  let preset : Comparison := { dirs := [] }
  { dirs := (f.valuesOf "dir").map (⟨·⟩)
    labels := f.valuesOf "label"
    plots :=
      match f.valuesOf "plot", f.value? "ext" with
      | [], none => preset.plots
      | [], some ext => .withExtension ext
      | names, _ => .named names
    title := (f.value? "title").getD preset.title }

/-- The request to make a deck. -/
def Found.makeRequest (f : Found) : Except UsageReply Request :=
  match f.operands with
  | [] => .error (.missing "CONFIG")
  | config :: _ => .ok (.make ⟨config⟩ f.buildOptions)

/-- The request for a comparison. -/
def Found.compareRequest (f : Found) : Except UsageReply Request :=
  match f.operands with
  | [] => .error (.missing "OUTPUT")
  | output :: _ =>
    if f.valuesOf "dir" = [] then .error (.missing "--dir")
    else if f.valuesOf "plot" ≠ [] ∧ (f.value? "ext").isSome then
      .error (.conflict "--plot" "--ext")
    else .ok (.compare ⟨output⟩ f.comparison (f.hasFlag "save-config") f.buildOptions)

/-- Whether the user can ask for help on something. -/
def helpTopics : List String := ["make", "compare", "help"]

/-- What the command after the word `help` is answered with. -/
def helpReply : List String → UsageReply
  | [] => .asked
  | topic :: rest =>
    if topic ∉ helpTopics then .unknownCommand topic
    else match rest with
      | [] => .asked
      | other :: _ => .unknownCommand other

/-- Reads a request off a command line. Options before the command are those that every command
understands. -/
def request (f : Found) : List String → Except UsageReply Request
  | [] => .error .missingCommand
  | "make" :: args => do (← scan buildSpecs 1 {} args).makeRequest
  | "compare" :: args => do (← scan compareSpecs 1 {} args).compareRequest
  | "help" :: args => .error (helpReply args)
  | arg :: args =>
    if isOption arg ∧ arg ≠ "--" then do request (← scan [verbose] 0 f [arg]) args
    else .error (.unknownCommand arg)

/-- The request of a command line. -/
def parse (args : List String) : Except UsageReply Request := request {} args

/-- How the program is used. -/
def usage : String := String.join <| [
  "Makes slides of plots from a description of a deck.",
  "",
  "Usage:",
  "  plotdeck make CONFIG [OPTIONS]",
  "  plotdeck compare OUTPUT --dir DIR... [--label LABEL...] [--plot NAME... | --ext EXT]",
  "                   [--title TITLE] [--save-config] [OPTIONS]",
  "",
  "Options:",
  "  --template FILE  Front matter template",
  "  --no-compile     Only write the documents",
  "  --no-cleanup     Keep intermediate files",
  "  --no-toc         Leave out the outline",
  "  --nonstop        Run the compiler without stopping at errors",
  "  --nice           Run the compiler at low priority",
  "  --latex CMD      The compiler (lualatex if not given)",
  "  --open           Show the document afterwards",
  "  -v, --verbose    Say more",
  "  -h, --help       Show this text"].map (· ++ "\n")

end CommandLine

end PlotDeck
