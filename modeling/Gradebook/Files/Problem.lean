/-!
# Problems with files

Why a file or directory could not be used, and the text the system gives for it.
-/

namespace Gradebook

/-- Why a file operation failed. -/
inductive FileProblem where
  | missing
  | alreadyThere
  | notADirectory
  | isADirectory
  | notText
  | nameTooLong
  | nullByte
  | denied (text : String)
  | other (text : String)
deriving DecidableEq, Repr

def FileProblem.message : FileProblem → String
  | missing => "No such file or directory (os error 2)"
  | alreadyThere => "File exists (os error 17)"
  | notADirectory => "Not a directory (os error 20)"
  | isADirectory => "Is a directory (os error 21)"
  | notText => "stream did not contain valid UTF-8"
  | nameTooLong => "File name too long (os error 36)"
  | nullByte => "file name contained an unexpected NUL byte"
  | denied text => text
  | other text => text

end Gradebook
