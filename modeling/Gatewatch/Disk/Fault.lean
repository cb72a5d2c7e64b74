/-
The ways in which the operating system refuses a file or a connection.
-/

namespace Gatewatch.Disk

/-- Why an operation on files failed. -/
inductive Fault where
  | notFound
  | alreadyExists
  | notDirectory
  | isDirectory
  | invalid
  | notEmpty
  | nameTooLong
  | loop
  | denied
  | noDevice
  | inUse
  | refused
  | nullInName
  | longSocketName
deriving DecidableEq, Repr

/-- The description and the number of a fault. -/
def Fault.text : Fault → String
  | notFound => "No such file or directory (os error 2)"
  | noDevice => "No such device or address (os error 6)"
  | denied => "Permission denied (os error 13)"
  | alreadyExists => "File exists (os error 17)"
  | notDirectory => "Not a directory (os error 20)"
  | isDirectory => "Is a directory (os error 21)"
  | invalid => "Invalid argument (os error 22)"
  | nameTooLong => "File name too long (os error 36)"
  | notEmpty => "Directory not empty (os error 39)"
  | loop => "Too many levels of symbolic links (os error 40)"
  | inUse => "Address already in use (os error 98)"
  | refused => "Connection refused (os error 111)"
  | nullInName => "file name contained an unexpected NUL byte"
  | longSocketName => "path must be shorter than SUN_LEN"

end Gatewatch.Disk
