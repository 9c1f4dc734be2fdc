/-!
What can go wrong in the work with documents and servers, as causes; the wording of each cause is
in one place.
-/

set_option autoImplicit false
set_option relaxedAutoImplicit false

namespace SchemaSeed

/-- Why a file or directory could not be used. -/
inductive FileFault where
  | notFound
  | isDirectory
  | notDirectory
  | alreadyExists
  | nameTooLong
  /-- A name with a zero byte in it, which no file can have. -/
  | zeroInName
  | notText
  | other (reason : String)
  deriving DecidableEq, Repr

/-- The text of a file fault. -/
def FileFault.message : FileFault → String
  | .notFound => "No such file or directory (os error 2)"
  | .isDirectory => "Is a directory (os error 21)"
  | .notDirectory => "Not a directory (os error 20)"
  | .alreadyExists => "File exists (os error 17)"
  | .nameTooLong => "File name too long (os error 36)"
  | .zeroInName => "file name contained an unexpected NUL byte"
  | .notText => "stream did not contain valid UTF-8"
  | .other reason => reason

/-- Why a piece of work ended early. -/
inductive Failure where
  /-- A document that is malformed or lacks something. -/
  | invalidDocument (reason : String)
  /-- A backend that no dialect is known for. -/
  | unsupportedDialect (name : String)
  /-- A connection that could not be opened or is gone. -/
  | connectionUnavailable (reason : String)
  /-- A statement that the server refused. -/
  | statementFailed (reason : String) (statement : Option String)
  /-- A pattern that is none. -/
  | invalidPattern (pattern reason : String)
  /-- A lookup in a table without rows. -/
  | emptyReference (table column : String)
  /-- Several match columns without a word on how to join them. -/
  | missingOperator (table : String)
  /-- A documents directory that does not exist. -/
  | directoryNotFound (path : String)
  /-- A file that could not be read or written. -/
  | file (fault : FileFault)
  deriving DecidableEq, Repr

namespace Failure

/-- The text of a failure. -/
def message : Failure → String
  | .invalidDocument reason => "Invalid document: " ++ reason
  | .unsupportedDialect name => "Unsupported database dialect: " ++ name
  | .connectionUnavailable reason => "Connection unavailable: " ++ reason
  | .statementFailed reason _ => "SQL execution failed: " ++ reason
  | .invalidPattern pattern reason => "Invalid regex '" ++ pattern ++ "': " ++ reason
  | .emptyReference table column => "No rows available in " ++ table ++ "." ++ column
  | .missingOperator table =>
    "createOrUpdate on table '" ++ table ++ "' has multiple match columns but no operator"
  | .directoryNotFound path => "Directory not found: " ++ path
  | .file fault => "IO error: " ++ fault.message

/-- Failures after which a run goes on. -/
def isRecoverable : Failure → Bool
  | .invalidPattern .. => true
  | .emptyReference .. => true
  | _ => false

end Failure

end SchemaSeed
