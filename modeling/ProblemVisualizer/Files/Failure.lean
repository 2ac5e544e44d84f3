/-! How a file operation can fail. -/
namespace ProblemVisualizer.Files

inductive Failure where
  | notFound
  | alreadyExists
  | notDirectory
  | isDirectory
  | nameTooLong
  /-- A path cannot hold the zero character. -/
  | zeroInPath
  /-- A file that was to be read as text is not UTF-8. -/
  | notText
  /-- A failure of a device, in its own words. -/
  | device (message : String)
deriving DecidableEq, Repr

def Failure.message : Failure → String
  | notFound => "No such file or directory (os error 2)"
  | alreadyExists => "File exists (os error 17)"
  | notDirectory => "Not a directory (os error 20)"
  | isDirectory => "Is a directory (os error 21)"
  | nameTooLong => "File name too long (os error 36)"
  | zeroInPath => "file name contained an unexpected NUL byte"
  | notText => "stream did not contain valid UTF-8"
  | device message => message

end ProblemVisualizer.Files
