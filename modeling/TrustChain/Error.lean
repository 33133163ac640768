import TrustChain.Der.Error
import TrustChain.Status

/-!
# Errors

The causes for which an operation of the library fails. A cause that carries no status says that
something could not be evaluated, which callers are told as `FailureKind.cryptoEvaluationFailure`.
-/

namespace TrustChain

inductive IoProblem where
  | notFound
  | permissionDenied
  | connectionRefused
  | connectionReset
  | hostUnreachable
  | networkUnreachable
  | connectionAborted
  | notConnected
  | addrInUse
  | addrNotAvailable
  | networkDown
  | brokenPipe
  | alreadyExists
  | wouldBlock
  | notADirectory
  | isADirectory
  | directoryNotEmpty
  | readOnlyFilesystem
  | staleNetworkFileHandle
  | invalidInput
  | invalidData
  | timedOut
  | writeZero
  | storageFull
  | notSeekable
  | quotaExceeded
  | fileTooLarge
  | resourceBusy
  | executableFileBusy
  | deadlock
  | crossesDevices
  | tooManyLinks
  | invalidFilename
  | argumentListTooLong
  | interrupted
  | unsupported
  | unexpectedEof
  | outOfMemory
  | other
  deriving DecidableEq, Repr

namespace IoProblem

def name : IoProblem → String
  | notFound => "NotFound"
  | permissionDenied => "PermissionDenied"
  | connectionRefused => "ConnectionRefused"
  | connectionReset => "ConnectionReset"
  | hostUnreachable => "HostUnreachable"
  | networkUnreachable => "NetworkUnreachable"
  | connectionAborted => "ConnectionAborted"
  | notConnected => "NotConnected"
  | addrInUse => "AddrInUse"
  | addrNotAvailable => "AddrNotAvailable"
  | networkDown => "NetworkDown"
  | brokenPipe => "BrokenPipe"
  | alreadyExists => "AlreadyExists"
  | wouldBlock => "WouldBlock"
  | notADirectory => "NotADirectory"
  | isADirectory => "IsADirectory"
  | directoryNotEmpty => "DirectoryNotEmpty"
  | readOnlyFilesystem => "ReadOnlyFilesystem"
  | staleNetworkFileHandle => "StaleNetworkFileHandle"
  | invalidInput => "InvalidInput"
  | invalidData => "InvalidData"
  | timedOut => "TimedOut"
  | writeZero => "WriteZero"
  | storageFull => "StorageFull"
  | notSeekable => "NotSeekable"
  | quotaExceeded => "QuotaExceeded"
  | fileTooLarge => "FileTooLarge"
  | resourceBusy => "ResourceBusy"
  | executableFileBusy => "ExecutableFileBusy"
  | deadlock => "Deadlock"
  | crossesDevices => "CrossesDevices"
  | tooManyLinks => "TooManyLinks"
  | invalidFilename => "InvalidFilename"
  | argumentListTooLong => "ArgumentListTooLong"
  | interrupted => "Interrupted"
  | unsupported => "Unsupported"
  | unexpectedEof => "UnexpectedEof"
  | outOfMemory => "OutOfMemory"
  | other => "Other"

def all : List IoProblem := [
  notFound, permissionDenied, connectionRefused, connectionReset, hostUnreachable,
  networkUnreachable, connectionAborted, notConnected, addrInUse, addrNotAvailable, networkDown,
  brokenPipe, alreadyExists, wouldBlock, notADirectory, isADirectory, directoryNotEmpty,
  readOnlyFilesystem, staleNetworkFileHandle, invalidInput, invalidData, timedOut, writeZero,
  storageFull, notSeekable, quotaExceeded, fileTooLarge, resourceBusy, executableFileBusy, deadlock,
  crossesDevices, tooManyLinks, invalidFilename, argumentListTooLong, interrupted, unsupported,
  unexpectedEof, outOfMemory, other]

def ofName? (name : String) : Option IoProblem := all.find? (·.name = name)

end IoProblem

inductive Error where
  | pathValidation (status : Status)
  | notFound
  /-- No verifier recognises the algorithm, or no decoder the extension. -/
  | unrecognized
  /-- A key or a file could not be read as what it should be. -/
  | parse
  | asn1 (error : Der.Error)
  | io (problem : IoProblem)
  deriving DecidableEq, Repr

namespace Error

def kind : Error → FailureKind
  | pathValidation status => status.kind?.getD .cryptoEvaluationFailure
  | _ => .cryptoEvaluationFailure

def status? : Error → Option Status
  | pathValidation status => some status
  | _ => none

def message : Error → String
  | pathValidation status => "PathValidationError: " ++ status.text
  | notFound => "NotFound"
  | unrecognized => "Unrecognized"
  | parse => "ParseError"
  | asn1 error => "Asn1Error: " ++ error.message
  | io problem => "StdError: " ++ problem.name

end Error

end TrustChain
