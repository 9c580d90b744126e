/-!
# File-system errors

The causes for which the system refuses a file operation, with their texts and numbers.
-/
namespace BulkTransfer

inductive IoError where
  | notFound
  | permissionDenied
  | alreadyExists
  | notADirectory
  | isADirectory
  | invalidArgument
  | noSpace
  | nameTooLong
  | tooManyLinks
  | directoryNotEmpty
  | notUtf8
  | nulInPath
  deriving DecidableEq, Repr

namespace IoError

def numbered (text : String) (number : Nat) : String :=
  text ++ " (os error " ++ toString number ++ ")"

def message : IoError → String
  | notFound => numbered "No such file or directory" 2
  | permissionDenied => numbered "Permission denied" 13
  | alreadyExists => numbered "File exists" 17
  | notADirectory => numbered "Not a directory" 20
  | isADirectory => numbered "Is a directory" 21
  | invalidArgument => numbered "Invalid argument" 22
  | noSpace => numbered "No space left on device" 28
  | nameTooLong => numbered "File name too long" 36
  | tooManyLinks => numbered "Too many levels of symbolic links" 40
  | directoryNotEmpty => numbered "Directory not empty" 39
  | notUtf8 => "stream did not contain valid UTF-8"
  | nulInPath => "file name contained an unexpected NUL byte"

end IoError

end BulkTransfer
