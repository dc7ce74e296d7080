/-!
# Errors of the operating system

The reasons why a path cannot be looked up, read, entered or run, with their
numbers and wordings, and the two failures that are found before or after the
system is asked: a name that holds a NUL byte and content that is not text.
-/

namespace AppLauncher

inductive OsError where
  | noEntry
  | argumentListTooLong
  | notExecutableFormat
  | accessDenied
  | fileExists
  | notDirectory
  | isDirectory
  | nameTooLong
  | directoryNotEmpty
  | tooManyLinks
  /-- Any other reason, with its number and the system's words for it. -/
  | other (number : Nat) (description : String)
deriving DecidableEq, Repr

namespace OsError

def number : OsError → Nat
  | .noEntry => 2
  | .argumentListTooLong => 7
  | .notExecutableFormat => 8
  | .accessDenied => 13
  | .fileExists => 17
  | .notDirectory => 20
  | .isDirectory => 21
  | .nameTooLong => 36
  | .directoryNotEmpty => 39
  | .tooManyLinks => 40
  | .other number _ => number

def description : OsError → String
  | .noEntry => "No such file or directory"
  | .argumentListTooLong => "Argument list too long"
  | .notExecutableFormat => "Exec format error"
  | .accessDenied => "Permission denied"
  | .fileExists => "File exists"
  | .notDirectory => "Not a directory"
  | .isDirectory => "Is a directory"
  | .nameTooLong => "File name too long"
  | .directoryNotEmpty => "Directory not empty"
  | .tooManyLinks => "Too many levels of symbolic links"
  | .other _ description => description

end OsError

inductive FileError where
  | os (reason : OsError)
  /-- The path holds a NUL byte, so that the system cannot be asked. -/
  | nulInPath
  /-- The content was to be text but is not UTF-8. -/
  | notUtf8
deriving DecidableEq, Repr

namespace FileError

def message : FileError → String
  | .os reason =>
    reason.description ++ " (os error " ++ toString reason.number ++ ")"
  | .nulInPath => "file name contained an unexpected NUL byte"
  | .notUtf8 => "stream did not contain valid UTF-8"

def reason : FileError → String
  | .os reason => reason.description
  | error => error.message

def isNotFound : FileError → Bool
  | .os reason => reason.number == OsError.noEntry.number
  | _ => false

end FileError

end AppLauncher
