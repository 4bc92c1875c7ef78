import PlotDeck.CommandLine.Run

/-!
# The program

The command line on the operating system as a host. Programs are not started from here: a run that
would typeset a deck writes its documents and then ends with an error.
-/

namespace PlotDeck.System

/-- The number of an error, which some calls give with the opposite sign. -/
def unsigned (number : UInt32) : Nat :=
  if number < 0x80000000 then number.toNat else (-number).toNat

/-- The cause of an error of the operating system. -/
def causeOf : IO.Error → OsError
  | .alreadyExists _ number text | .invalidArgument _ number text | .permissionDenied _ number text
  | .resourceExhausted _ number text | .inappropriateType _ number text
  | .noSuchThing _ number text | .noFileOrDirectory _ number text | .interrupted _ number text
  | .otherError number text | .resourceBusy number text | .resourceVanished number text
  | .unsupportedOperation number text | .hardwareFault number text
  | .unsatisfiedConstraints number text | .illegalOperation number text
  | .protocolError number text | .timeExpired number text => .ofNumber (unsigned number) text
  | .unexpectedEof => .other 0 "unexpected end of file"
  | .userError text => .other 0 text

/-- Does something with a path, and catches what goes wrong. -/
def attempt (p : Path) (act : IO α) : IO (Except OsError α) :=
  if p.text.toList.contains '\x00' then return .error .nullInName
  else if p.text = "" then return .error .notFound
  else do
    match ← act.toBaseIO with
    | .ok a => return .ok a
    | .error e => return .error (causeOf e)

/-- The kind of what a path leads to. -/
def kindOf? (p : Path) : IO (Option IO.FS.FileType) := do
  let here ← IO.currentDir
  return (← attempt p (here / p.text).metadata).toOption.map (·.type)

/-- What is in a directory. -/
def entriesOf (p : Path) : IO (List DirectoryEntry) := do
  let here ← IO.currentDir
  (← (here / p.text).readDir).toList.mapM fun entry => do
    return ⟨entry.fileName, (← kindOf? (p.join ⟨entry.fileName⟩)) == some .file⟩

instance : Host IO where
  readText p := do
    return (← attempt p (IO.FS.readBinFile p.text)).bind fun content =>
      match String.fromUTF8? content with
      | some text => .ok text
      | none => .error .notText
  writeText p text := attempt p (IO.FS.writeFile p.text text)
  makeDirectory p := attempt p (IO.FS.createDir p.text)
  entries p := attempt p (entriesOf p)
  isFile p := return (← kindOf? p) == some .file
  isDirectory p := return (← kindOf? p) == some .dir
  removeFile p := attempt p (IO.FS.removeFile p.text)
  run _ := return .error .notPermitted
  launch _ := return .error .notPermitted
  print := IO.print
  printError := IO.eprint

end PlotDeck.System

/-- Runs the command line. -/
def main (args : List String) : IO UInt32 := do
  let code : Nat ← PlotDeck.CommandLine.run args
  return code.toUInt32
