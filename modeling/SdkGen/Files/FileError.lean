/-!
# Errors of files and directories

`FileError.text` is what the system says about each.
-/

namespace SdkGen

/-- Why a file or directory cannot be used. -/
inductive FileError
  | notFound
  | exists
  | notDirectory
  | isDirectory
  /-- The file holds no text. -/
  | notText
  /-- The path holds the character that ends paths. -/
  | endMark
  deriving DecidableEq, Repr, Inhabited

namespace FileError

/-- What the system says. -/
def text : FileError → String
  | notFound => "No such file or directory (os error 2)"
  | .exists => "File exists (os error 17)"
  | notDirectory => "Not a directory (os error 20)"
  | isDirectory => "Is a directory (os error 21)"
  | notText => "stream did not contain valid UTF-8"
  | endMark => "file name contained an unexpected NUL byte"

end FileError

end SdkGen
