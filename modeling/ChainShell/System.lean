/-
This file states what a shell asks of the operating system. The shell is written against this
interface only, so its laws hold for every system.
-/

import ChainShell.Environment
import ChainShell.Status

namespace ChainShell

/-- The causes for which the system refuses a request. -/
inductive OsError where
  | operationNotPermitted
  | notFound
  | noDevice
  | argumentListTooLong
  | execFormat
  | badDescriptor
  | permissionDenied
  | busy
  | fileExists
  | crossDevice
  | notDirectory
  | isDirectory
  | invalidArgument
  | tooManyFiles
  | fileTooLarge
  | noSpace
  | brokenPipe
  | nameTooLong
  | directoryNotEmpty
  | tooManyLinks
  | nulInPath
  | nulInData
  /-- Any other cause is known by its text only. -/
  | other (text : String)
  deriving DecidableEq, Repr

/-- The cause in words. -/
def OsError.reason : OsError → String
  | .operationNotPermitted => "Operation not permitted"
  | .notFound => "No such file or directory"
  | .noDevice => "No such device or address"
  | .argumentListTooLong => "Argument list too long"
  | .execFormat => "Exec format error"
  | .badDescriptor => "Bad file descriptor"
  | .permissionDenied => "Permission denied"
  | .busy => "Device or resource busy"
  | .fileExists => "File exists"
  | .crossDevice => "Invalid cross-device link"
  | .notDirectory => "Not a directory"
  | .isDirectory => "Is a directory"
  | .invalidArgument => "Invalid argument"
  | .tooManyFiles => "Too many open files"
  | .fileTooLarge => "File too large"
  | .noSpace => "No space left on device"
  | .brokenPipe => "Broken pipe"
  | .nameTooLong => "File name too long"
  | .directoryNotEmpty => "Directory not empty"
  | .tooManyLinks => "Too many levels of symbolic links"
  | .nulInPath => "file name contained an unexpected NUL byte"
  | .nulInData => "nul byte found in provided data"
  | .other text => text

/-- The number of a cause that the system itself reports. -/
def OsError.numberText : OsError → String
  | .operationNotPermitted => " (os error 1)"
  | .notFound => " (os error 2)"
  | .noDevice => " (os error 6)"
  | .argumentListTooLong => " (os error 7)"
  | .execFormat => " (os error 8)"
  | .badDescriptor => " (os error 9)"
  | .permissionDenied => " (os error 13)"
  | .busy => " (os error 16)"
  | .fileExists => " (os error 17)"
  | .crossDevice => " (os error 18)"
  | .notDirectory => " (os error 20)"
  | .isDirectory => " (os error 21)"
  | .invalidArgument => " (os error 22)"
  | .tooManyFiles => " (os error 24)"
  | .fileTooLarge => " (os error 27)"
  | .noSpace => " (os error 28)"
  | .brokenPipe => " (os error 32)"
  | .nameTooLong => " (os error 36)"
  | .directoryNotEmpty => " (os error 39)"
  | .tooManyLinks => " (os error 40)"
  | .nulInPath | .nulInData | .other _ => ""

/-- The text names the cause and its number where it has one. -/
def OsError.message (cause : OsError) : String :=
  cause.reason ++ cause.numberText

/-- A program that is missing or may not be executed counts as not found. -/
def OsError.meansNotFound : OsError → Bool
  | .notFound | .permissionDenied | .operationNotPermitted => true
  | _ => false

/-- A child is started from a file with its own name for itself, its arguments, the whole
environment and a directory. -/
structure SpawnRequest where
  program : Path
  name : String
  arguments : List String
  vars : Variables
  directory : Path
  deriving DecidableEq, Repr

/-- A child ends by itself or by a signal. -/
inductive Ending where
  | exited (code : ExitCode)
  | signaled (signal : Nat)
  deriving DecidableEq, Repr

/-- A shell waits for its child. The system can refuse even that. -/
inductive WaitResult where
  | ended (ending : Ending)
  | failed (cause : OsError)
  deriving DecidableEq, Repr

/-- What a child did before it ended, as seen from outside. -/
structure ChildReport where
  awaited : WaitResult
  output : String
  errors : String
  deriving DecidableEq, Repr

/-- What a system says of the file behind a path. The permissions are the low bits of the mode. -/
structure FileMetadata where
  isRegular : Bool
  mode : UInt32
  deriving DecidableEq, Repr

/-- The requests of a shell to a system in state `σ`. Reading requests leave the state alone. -/
class OperatingSystem (σ : Type) where
  /-- The directory of the shell's own process. -/
  workingDir : σ → Except OsError Path
  /-- A refused change leaves the directory as it was. -/
  changeDir : σ → Path → Except OsError σ
  /-- The absolute path without links, dots and repeated slashes. -/
  canonicalize : σ → Path → Except OsError Path
  /-- Links are followed. -/
  metadata : σ → Path → Except OsError FileMetadata
  /-- Reading a directory can fail at the start and at each entry. -/
  listDir : σ → Path → Except OsError (List (Except OsError String))
  /-- The child runs to its end before the call returns. -/
  spawn : σ → SpawnRequest → Except OsError ChildReport × σ
  fileText : σ → Path → Except OsError String
  /-- A missing file is created, an existing one is replaced. -/
  storeFile : σ → Path → String → Except OsError σ
  /-- At most the given number of bytes is taken from standard input. -/
  readInput : σ → Nat → List UInt8 × σ

end ChainShell
