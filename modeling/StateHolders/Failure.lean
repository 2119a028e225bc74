import StateHolders.Error

/-!
# Failures of reading and writing

What the world outside answers when a file or an output cannot be used: a numbered failure of the
system, or one that an output reports about itself.
-/

namespace StateHolders

/-- The kinds of failure. -/
inductive FailureKind where
  /-- There is nothing at that place. -/
  | notFound
  /-- The access is not permitted. -/
  | permissionDenied
  /-- A directory is needed. -/
  | notADirectory
  /-- A directory cannot be used so. -/
  | isADirectory
  /-- The data is malformed. -/
  | invalidData
  /-- The request is malformed. -/
  | invalidInput
  /-- The name of a file cannot be one. -/
  | invalidFilename
  /-- The input ends too early. -/
  | unexpectedEof
  /-- An output accepts nothing more. -/
  | writeZero
  /-- Anything else. -/
  | other
deriving DecidableEq, Repr

namespace FailureKind

/-- The word by which diagnostics show the kind. -/
def word : FailureKind → String
  | .notFound => "NotFound"
  | .permissionDenied => "PermissionDenied"
  | .notADirectory => "NotADirectory"
  | .isADirectory => "IsADirectory"
  | .invalidData => "InvalidData"
  | .invalidInput => "InvalidInput"
  | .invalidFilename => "InvalidFilename"
  | .unexpectedEof => "UnexpectedEof"
  | .writeZero => "WriteZero"
  | .other => "Other"

/-- The message of a failure of which only the kind is known. -/
def message : FailureKind → String
  | .notFound => "entity not found"
  | .permissionDenied => "permission denied"
  | .notADirectory => "not a directory"
  | .isADirectory => "is a directory"
  | .invalidData => "invalid data"
  | .invalidInput => "invalid input parameter"
  | .invalidFilename => "invalid filename"
  | .unexpectedEof => "unexpected end of file"
  | .writeZero => "write zero"
  | .other => "other error"

end FailureKind

/-- A failure of reading or writing. -/
inductive Failure where
  /-- The system's own failure, with its number. -/
  | system (code : Nat) (kind : FailureKind) (text : String)
  /-- A failure with a message of its own. -/
  | reported (kind : FailureKind) (message : String)
  /-- A failure with a fixed message. -/
  | fixed (kind : FailureKind) (message : String)
  /-- A failure of which only the kind is known. -/
  | bare (kind : FailureKind)
deriving DecidableEq, Repr

namespace Failure

/-- Nothing is at the place. -/
def notFound : Failure := .system 2 .notFound "No such file or directory"

/-- A part of the path is not a directory. -/
def notADirectory : Failure := .system 20 .notADirectory "Not a directory"

/-- The path leads to a directory. -/
def isADirectory : Failure := .system 21 .isADirectory "Is a directory"

/-- A name of the path is too long. -/
def nameTooLong : Failure := .system 36 .invalidFilename "File name too long"

/-- The path holds a byte that no name can hold. -/
def nulInPath : Failure :=
  .fixed .invalidInput "file name contained an unexpected NUL byte"

/-- A name encodes no text. -/
def invalidName : Failure := .fixed .invalidFilename "file name is not valid UTF-8"

/-- The output accepts nothing more. -/
def wroteNothing : Failure := .fixed .writeZero "failed to write whole buffer"

/-- The message of the failure. -/
def message : Failure → String
  | .system code _ text => text ++ " (os error " ++ toString code ++ ")"
  | .reported _ message => message
  | .fixed _ message => message
  | .bare kind => kind.message

/-- How diagnostics show the failure. -/
def shape : Failure → Text.Shape
  | .system code kind text =>
    .record "Os" [.labelled "code" (.word (toString code)),
      .labelled "kind" (.word kind.word), .labelled "message" (.text text)] true
  | .reported kind message =>
    .record "Custom"
      [.labelled "kind" (.word kind.word), .labelled "error" (.text message)] true
  | .fixed kind message =>
    .record "Error"
      [.labelled "kind" (.word kind.word), .labelled "message" (.text message)] true
  | .bare kind => .tuple "Kind" [.word kind.word]

/-- The failure as the cause of an error. -/
def toCause (f : Failure) : Cause := .foreign f.message f.shape none

end Failure

end StateHolders
