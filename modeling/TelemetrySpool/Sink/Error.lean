import TelemetrySpool.Files.Tree
import TelemetrySpool.Text.Digits

/-!
# Sink errors

Why a sink, or an operation on the files it writes, did not do its work. Two of the causes stand
for work that was given up on purpose: its request was cancelled, or the output has been shut down.
-/

namespace TelemetrySpool

/-- Why a sink failed. -/
inductive SinkError where
  /-- Fewer octets are free than a write has to leave free. -/
  | insufficientSpace (path : Path) (available required : Nat)
  /-- An operation on a file failed. -/
  | file (path : Path) (error : FileError)
  /-- The volume failed at a path for a reason of its own. -/
  | device (path : Path) (reason : String)
  /-- The write was given up before it started. -/
  | cancelled
  /-- The files have been shut down. -/
  | shutDown
  /-- There is no file for the unspecified signal. -/
  | unspecifiedSignal
  /-- Finding out the free space did not come to an end. -/
  | spaceAborted (reason : String)
  /-- The sink broke down in the middle of its work. -/
  | brokeDown
  /-- Any other reason. -/
  | other (reason : String)
  deriving DecidableEq, Repr

namespace SinkError

/-- What is said of a query of free space that did not come to an end. -/
def spaceAbortedText (reason : String) : String := "Disk space query aborted: " ++ reason

/-- The text of an error on a path. -/
def ioText (path : Path) (cause : String) : String := "I/O error on " ++ path ++ ": " ++ cause

/-- The text of an error without a kind of its own. -/
def failedText (reason : String) : String := "Sink failed: " ++ reason

/-- The text of an error. -/
def message : SinkError → String
  | insufficientSpace path available required =>
    "Insufficient disk space for " ++ path ++ ": " ++ Digits.text available ++
      " bytes available, " ++ Digits.text required ++ " bytes required"
  | file path error => ioText path error.message
  | device path reason => ioText path reason
  | cancelled => "Write cancelled before it started"
  | shutDown => "File output has been shut down"
  | unspecifiedSignal => failedText "Cannot resolve a file for the unspecified signal"
  | spaceAborted reason => failedText (spaceAbortedText reason)
  | brokeDown => failedText "sink panicked"
  | other reason => failedText reason

end SinkError

end TelemetrySpool
