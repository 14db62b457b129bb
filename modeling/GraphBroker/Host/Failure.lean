namespace GraphBroker.Host

/-!
# What the machine may refuse

The reasons for which nothing could be done with a file, or for which the broker
cannot listen.  Most of them have a number, which the messages show.
-/

/-- Why something could not be done with a file. -/
inductive FileError where
  | missing
  | denied
  | taken
  | notADirectory
  | isADirectory
  | nameTooLong
  /-- The name holds a character that no name may hold. -/
  | invalidName
  /-- Some other reason, with its number. -/
  | other (code : Nat) (reason : String)
  deriving Repr, DecidableEq

/-- Why the broker cannot listen at an address. -/
inductive ListenError where
  | denied
  | inUse
  /-- The address belongs to another machine. -/
  | notHere
  /-- No machine has this name. -/
  | unknownName
  deriving Repr, DecidableEq

namespace FileError

/-- The words for a reason with a number. -/
def numbered (reason : String) (code : Nat) : String :=
  reason ++ " (os error " ++ toString code ++ ")"

/-- The words for a reason. -/
def message : FileError → String
  | .missing => numbered "No such file or directory" 2
  | .denied => numbered "Permission denied" 13
  | .taken => numbered "File exists" 17
  | .notADirectory => numbered "Not a directory" 20
  | .isADirectory => numbered "Is a directory" 21
  | .nameTooLong => numbered "File name too long" 36
  | .invalidName => "file name contained an unexpected NUL byte"
  | .other code reason => numbered reason code

/-- The reason with a number. -/
def ofCode (reason : String) : Nat → FileError
  | 2 => .missing
  | 13 => .denied
  | 17 => .taken
  | 20 => .notADirectory
  | 21 => .isADirectory
  | 36 => .nameTooLong
  | code => .other code reason

end FileError

namespace ListenError

/-- The words for a reason. -/
def message : ListenError → String
  | .denied => FileError.numbered "Permission denied" 13
  | .inUse => FileError.numbered "Address already in use" 98
  | .notHere => FileError.numbered "Cannot assign requested address" 99
  | .unknownName => "failed to lookup address information: Name or service not known"

/-- The reason with a number; any other reason counts as an address of another machine. -/
def ofCode : Nat → ListenError
  | 13 => .denied
  | 98 => .inUse
  | _ => .notHere

end ListenError

end GraphBroker.Host
