/-!
# Errors of the operating system

The causes for which an operation on files or programs fails, with the texts and numbers that the
operating system gives them.
-/

namespace PlotDeck

/-- Why an operation on files or programs failed. -/
inductive OsError where
  /-- The operation is not allowed. -/
  | notPermitted
  /-- Nothing has that name. -/
  | notFound
  /-- A program is in a form that cannot be run. -/
  | notRunnable
  /-- The file may not be used in that way. -/
  | accessDenied
  /-- Something has that name already. -/
  | alreadyExists
  /-- A name on the way is not that of a directory. -/
  | notDirectory
  /-- The name is that of a directory. -/
  | isDirectory
  /-- A name is too long. -/
  | nameTooLong
  /-- A file that should hold text holds something else. -/
  | notText
  /-- A path holds a null character. -/
  | nullInName
  /-- A command holds a null character. -/
  | nullInCommand
  /-- Another cause, with its number and text. -/
  | other (number : Nat) (text : String)
deriving DecidableEq, Repr

/-- The text of an error. -/
def OsError.message : OsError → String
  | notPermitted => "Operation not permitted (os error 1)"
  | notFound => "No such file or directory (os error 2)"
  | notRunnable => "Exec format error (os error 8)"
  | accessDenied => "Permission denied (os error 13)"
  | alreadyExists => "File exists (os error 17)"
  | notDirectory => "Not a directory (os error 20)"
  | isDirectory => "Is a directory (os error 21)"
  | nameTooLong => "File name too long (os error 36)"
  | notText => "stream did not contain valid UTF-8"
  | nullInName => "file name contained an unexpected NUL byte"
  | nullInCommand => "nul byte found in provided data"
  | other number text => text ++ s!" (os error {number})"

/-- The error with a number, which has this text unless it is one of those that have a name. -/
def OsError.ofNumber (number : Nat) (text : String) : OsError :=
  match number with
  | 1 => notPermitted
  | 2 => notFound
  | 8 => notRunnable
  | 13 => accessDenied
  | 17 => alreadyExists
  | 20 => notDirectory
  | 21 => isDirectory
  | 36 => nameTooLong
  | number => other number text

end PlotDeck
