/-!
# What can go wrong with a file
-/

namespace TrialSeries

inductive FileError where
  | notFound
  | isFolder
  /-- A path goes on after a file. -/
  | notFolder
  | noPermission
  | nameTooLong
  /-- A path contains the character NUL. -/
  | nulInPath
  /-- The content of a file is not text in UTF-8. -/
  | notText
  /-- What else a file system may report. -/
  | other (message : String)
deriving DecidableEq, Inhabited

namespace FileError

def message : FileError → String
  | notFound => "No such file or directory (os error 2)"
  | isFolder => "Is a directory (os error 21)"
  | notFolder => "Not a directory (os error 20)"
  | noPermission => "Permission denied (os error 13)"
  | nameTooLong => "File name too long (os error 36)"
  | nulInPath => "file name contained an unexpected NUL byte"
  | notText => "stream did not contain valid UTF-8"
  | other message => message

end FileError

end TrialSeries
