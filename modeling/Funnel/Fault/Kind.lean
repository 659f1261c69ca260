/-!
Kinds of input and output errors, with the description that an error of a bare kind shows.
-/

namespace Funnel

/-- What went wrong in an operation of the operating system, coarsely. -/
inductive IoKind where
  | notFound
  | permissionDenied
  | connectionRefused
  | connectionReset
  | hostUnreachable
  | networkUnreachable
  | connectionAborted
  | notConnected
  | addrInUse
  | addrNotAvailable
  | networkDown
  | brokenPipe
  | alreadyExists
  | wouldBlock
  | notADirectory
  | isADirectory
  | directoryNotEmpty
  | readOnlyFilesystem
  | filesystemLoop
  | staleNetworkFileHandle
  | invalidInput
  | invalidData
  | timedOut
  | writeZero
  | storageFull
  | notSeekable
  | quotaExceeded
  | fileTooLarge
  | resourceBusy
  | executableFileBusy
  | deadlock
  | crossesDevices
  | tooManyLinks
  | invalidFilename
  | argumentListTooLong
  | interrupted
  | unsupported
  | unexpectedEof
  | outOfMemory
  | inProgress
  | other
  | uncategorized
deriving DecidableEq, Repr

namespace IoKind

/-- The name of a kind and its description. -/
def texts : IoKind → String × String
  | notFound => ("NotFound", "entity not found")
  | permissionDenied => ("PermissionDenied", "permission denied")
  | connectionRefused => ("ConnectionRefused", "connection refused")
  | connectionReset => ("ConnectionReset", "connection reset")
  | hostUnreachable => ("HostUnreachable", "host unreachable")
  | networkUnreachable => ("NetworkUnreachable", "network unreachable")
  | connectionAborted => ("ConnectionAborted", "connection aborted")
  | notConnected => ("NotConnected", "not connected")
  | addrInUse => ("AddrInUse", "address in use")
  | addrNotAvailable => ("AddrNotAvailable", "address not available")
  | networkDown => ("NetworkDown", "network down")
  | brokenPipe => ("BrokenPipe", "broken pipe")
  | alreadyExists => ("AlreadyExists", "entity already exists")
  | wouldBlock => ("WouldBlock", "operation would block")
  | notADirectory => ("NotADirectory", "not a directory")
  | isADirectory => ("IsADirectory", "is a directory")
  | directoryNotEmpty => ("DirectoryNotEmpty", "directory not empty")
  | readOnlyFilesystem => ("ReadOnlyFilesystem", "read-only filesystem or storage medium")
  | filesystemLoop =>
    ("FilesystemLoop", "filesystem loop or indirection limit (e.g. symlink loop)")
  | staleNetworkFileHandle => ("StaleNetworkFileHandle", "stale network file handle")
  | invalidInput => ("InvalidInput", "invalid input parameter")
  | invalidData => ("InvalidData", "invalid data")
  | timedOut => ("TimedOut", "timed out")
  | writeZero => ("WriteZero", "write zero")
  | storageFull => ("StorageFull", "no storage space")
  | notSeekable => ("NotSeekable", "seek on unseekable file")
  | quotaExceeded => ("QuotaExceeded", "quota exceeded")
  | fileTooLarge => ("FileTooLarge", "file too large")
  | resourceBusy => ("ResourceBusy", "resource busy")
  | executableFileBusy => ("ExecutableFileBusy", "executable file busy")
  | deadlock => ("Deadlock", "deadlock")
  | crossesDevices => ("CrossesDevices", "cross-device link or rename")
  | tooManyLinks => ("TooManyLinks", "too many links")
  | invalidFilename => ("InvalidFilename", "invalid filename")
  | argumentListTooLong => ("ArgumentListTooLong", "argument list too long")
  | interrupted => ("Interrupted", "operation interrupted")
  | unsupported => ("Unsupported", "unsupported")
  | unexpectedEof => ("UnexpectedEof", "unexpected end of file")
  | outOfMemory => ("OutOfMemory", "out of memory")
  | inProgress => ("InProgress", "in progress")
  | other => ("Other", "other error")
  | uncategorized => ("Uncategorized", "uncategorized error")

def name (k : IoKind) : String := k.texts.1

def description (k : IoKind) : String := k.texts.2

def all : List IoKind :=
  [notFound, permissionDenied, connectionRefused, connectionReset, hostUnreachable,
    networkUnreachable, connectionAborted, notConnected, addrInUse, addrNotAvailable, networkDown,
    brokenPipe, alreadyExists, wouldBlock, notADirectory, isADirectory, directoryNotEmpty,
    readOnlyFilesystem, filesystemLoop, staleNetworkFileHandle, invalidInput, invalidData,
    timedOut, writeZero, storageFull, notSeekable, quotaExceeded, fileTooLarge, resourceBusy,
    executableFileBusy, deadlock, crossesDevices, tooManyLinks, invalidFilename,
    argumentListTooLong, interrupted, unsupported, unexpectedEof, outOfMemory, inProgress, other,
    uncategorized]

def ofName? (s : String) : Option IoKind := all.find? (·.name = s)

/-- Kinds that say that the peer ended the connection. -/
def saysClosed : IoKind → Bool
  | brokenPipe | connectionReset | connectionAborted | unexpectedEof => true
  | _ => false

end IoKind

end Funnel
