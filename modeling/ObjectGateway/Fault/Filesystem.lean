import ObjectGateway.Fault.Backend
/-!
# Failures of filesystem operations

Every failure carries the path it concerns. Each has one status of the file
transfer protocol and one wording.
-/
namespace ObjectGateway

/-- Status codes of the file transfer protocol. -/
inductive TransferStatus
  | ok
  | eof
  | noSuchFile
  | permissionDenied
  | failure
  | badMessage
  | unsupported
deriving DecidableEq, Repr

namespace TransferStatus

def all : List TransferStatus :=
  [ok, eof, noSuchFile, permissionDenied, failure, badMessage, unsupported]

def text : TransferStatus → String
  | ok => "ok"
  | eof => "eof"
  | noSuchFile => "no_such_file"
  | permissionDenied => "permission_denied"
  | failure => "failure"
  | badMessage => "bad_message"
  | unsupported => "op_unsupported"

def code : TransferStatus → Nat
  | ok => 0
  | eof => 1
  | noSuchFile => 2
  | permissionDenied => 3
  | failure => 4
  | badMessage => 5
  | unsupported => 8

end TransferStatus

/-- How a filesystem operation fails. -/
inductive FsError
  | notFound (path : String)
  | permissionDenied (path : String)
  | unsupported (path reason : String)
  | invalid (path reason : String)
  | notAFile (path : String)
  | notADirectory (path : String)
  | alreadyExists (path : String)
  | cancelled (path : String)
  | timedOut (operation path : String)
  | staging (path : String) (cause : IoError)
  | backend (operation path : String) (cause : BackendError)
deriving DecidableEq

namespace FsError

/-- A backend failure seen from the path and the operation it hit. The causes
that mean something to a client become failures of their own. -/
def ofBackend (operation path : String) : BackendError → FsError
  | .notFound => notFound path
  | .cancelled => cancelled path
  | .timedOut _ => timedOut operation path
  | cause => backend operation path cause

def status : FsError → TransferStatus
  | notFound _ => .noSuchFile
  | permissionDenied _ => .permissionDenied
  | unsupported _ _ => .unsupported
  | invalid _ _ => .badMessage
  | _ => .failure

def message : FsError → String
  | notFound path => "`" ++ path ++ "`: no such file or directory"
  | permissionDenied path => "`" ++ path ++ "`: permission denied (read-only gateway)"
  | unsupported path reason => "`" ++ path ++ "`: unsupported operation: " ++ reason
  | invalid path reason => "`" ++ path ++ "`: invalid argument: " ++ reason
  | notAFile path => "`" ++ path ++ "`: not a regular file"
  | notADirectory path => "`" ++ path ++ "`: not a directory"
  | alreadyExists path => "`" ++ path ++ "`: already exists"
  | cancelled path => "`" ++ path ++ "`: request cancelled"
  | timedOut operation path => "`" ++ path ++ "`: backend timed out during " ++ operation
  | staging path cause => "`" ++ path ++ "`: staging failed: " ++ cause.message
  | backend operation path cause =>
    "`" ++ path ++ "`: backend " ++ operation ++ " failed: " ++ cause.message

end FsError
end ObjectGateway
