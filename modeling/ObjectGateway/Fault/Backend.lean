import ObjectGateway.Fault.System
import ObjectGateway.Identifier
import ObjectGateway.Json.Failure
import ObjectGateway.Time.Span
/-!
# Failures of a storage backend
-/
namespace ObjectGateway

/-- What makes stored metadata unusable. -/
inductive Corruption
  | unknownAcl (text : String)
  | negativeSize (id : ObjectId)
  | attributes (cause : Json.Failure)
  | payloadMissing (id : ObjectId)
  | other (text : String)
deriving DecidableEq

def Corruption.message : Corruption → String
  | unknownAcl text => "unknown basic ACL `" ++ text ++ "`"
  | negativeSize id => "negative size for object " ++ id.text
  | attributes cause => "attributes: " ++ cause.message
  | payloadMissing id => "payload of object " ++ id.text ++ " is missing"
  | other text => text

/-- How a call to a backend fails. -/
inductive BackendError
  | notFound
  | cancelled
  | timedOut (limit : Span)
  | outOfRange (offset length size : Nat)
  | corrupt (cause : Corruption)
  | database (cause : DatabaseError)
  | io (cause : IoError)
deriving DecidableEq

def BackendError.message : BackendError → String
  | notFound => "not found"
  | cancelled => "request cancelled"
  | timedOut limit => "request timed out after " ++ limit.text
  | outOfRange offset length size =>
    "range " ++ toString offset ++ "+" ++ toString length ++ " outside payload of " ++
      toString size ++ " bytes"
  | corrupt cause => "corrupt metadata: " ++ cause.message
  | database cause => cause.message
  | io cause => cause.message

end ObjectGateway
