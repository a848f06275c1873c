import ObjectGateway.Gateway.Dispatch
import ObjectGateway.Http.Target
import ObjectGateway.Json.Value
/-!
# HTTP messages

Requests as they arrive and answers as they leave. The body of a read is
produced only while it is sent.
-/
namespace ObjectGateway.Http

/-- The characters of a method's name besides letters and digits. -/
def methodMarks : List Char := "!#$%&\x27*+-.^_\x60|~".toList

/-- Whether a text can be the name of a method. -/
def isMethod (name : String) : Bool :=
  !name.isEmpty && name.toList.all fun c => c.isAlphanum || methodMarks.contains c

structure Request where
  method : String
  target : Target
  /-- The chunks of the body. A body may break off with a failure. -/
  body : List (Except String Bytes) := []

inductive Body
  | empty
  | bytes (content : Bytes)
  /-- A window of an object in pieces of at most `chunk` bytes. -/
  | window (reader : Reader) (offset : Nat) (length : Option Nat) (chunk : Nat)
deriving DecidableEq

structure Response where
  status : Nat
  contentType : Option String := none
  contentLength : Option Nat := none
  /-- The methods a resource allows, in alphabetical order. -/
  allow : List String := []
  body : Body := .empty
deriving DecidableEq

/-- A failure as a client sees it. -/
structure Failure where
  status : Nat
  code : TransferStatus := .failure
  message : String
deriving DecidableEq

namespace Failure

/-- A request that makes no sense. -/
def badRequest (message : String) : Failure := ⟨400, .badMessage, message⟩

def statusOf : FsError → Nat
  | .notFound _ => 404
  | .permissionDenied _ => 403
  | .unsupported .. => 501
  | .invalid .. | .notAFile _ | .notADirectory _ => 400
  | .alreadyExists _ => 409
  | .cancelled _ => 408
  | .timedOut .. => 504
  | .staging .. => 500
  | .backend .. => 502

def ofFsError (e : FsError) : Failure :=
  ⟨statusOf e, e.status, e.message⟩

def document (f : Failure) : Json.Value :=
  .object
    [("code", .text f.code.text), ("error", .text f.message), ("status", .number f.status)]

end Failure

namespace Response

/-- A body of known length. -/
def ofBytes (status : Nat) (contentType : String) (content : Bytes) : Response where
  status := status
  contentType := some contentType
  contentLength := some content.length
  body := .bytes content

def json (status : Nat) (document : Json.Value) : Response :=
  ofBytes status "application/json" (Bytes.ofText (String.ofList document.render))

def plain (status : Nat) (message : String) : Response :=
  ofBytes status "text/plain; charset=utf-8" (Bytes.ofText message)

def ofFailure (f : Failure) : Response :=
  json f.status f.document

/-- Success without a body. -/
def noContent : Response := { status := 204, contentLength := some 0 }

/-- A path that no resource has. -/
def notFound : Response := { status := 404 }

/-- A target that is no resource at all. -/
def noResource : Response := { status := 404, contentLength := some 0 }

def notAllowed (allow : List String) : Response :=
  { status := 405, contentLength := some 0, allow }

/-- The answer to the same request that asks for the head only. -/
def headOnly (r : Response) : Response := { r with body := .empty }

end Response

/-- The parts of a body as it is sent, and the failure that breaks it off, if any. -/
def Body.send : Body → Program (List Bytes × Option FsError)
  | empty => return ([], none)
  | bytes content => return (if content.isEmpty then [] else [content], none)
  | window reader offset length chunk => reader.stream offset length chunk

/-- A directory entry as clients see it. -/
def entryView (e : Entry) : Json.Value :=
  .object
    [("name", .text e.name), ("size", .number e.size),
      ("modified", .text (Calendar.instantText e.modified)), ("is_dir", .bool e.isDir),
      ("mode", .number e.mode)]

end ObjectGateway.Http
