import ObjectGateway.Gateway.Reader
import ObjectGateway.Gateway.Resolve
import ObjectGateway.Gateway.Writer
import ObjectGateway.Request
import ObjectGateway.Text.Quoted
/-!
# Dispatch

Every request is carried out by one gateway operation. All checks come before
the one call that changes the store, if the operation makes such a call at all.
-/
namespace ObjectGateway

/-- What a request is answered with. -/
inductive Response
  | entries (items : List Entry)
  | reader (reader : Reader)
  | writer (writer : Writer)
  | done
deriving DecidableEq

namespace Response

/-- A short description for logs. -/
def describe : Response → String
  | entries items => "Entries(" ++ toString items.length ++ ")"
  | reader r => "Reader(" ++ Quoted.quote r.entry.name ++ ")"
  | writer w => "Writer(" ++ Quoted.quote w.name ++ ")"
  | done => "Done"

end Response

namespace Gateway

/-- A reader of the object that a path names. -/
def openReader (g : Gateway) (path : FsPath) : FsProgram Reader :=
  match path with
  | .object .. => do
    match (← g.stat path).object? with
    | some o => return ⟨o, path.text⟩
    | none => throw (.notAFile path.text)
  | _ => throw (.notAFile path.text)

/-- A writer of a new object of the name that a path gives. -/
def openWriter (g : Gateway) (path : FsPath) : FsProgram Writer :=
  match path with
  | .object b name => do
    let bucket ← g.resolveBucket b
    let some bucketId := bucket.id
      | throw (.notFound path.text)
    if g.settings.rejectDuplicates then
      if (← g.findObject bucket name path.text).isSome then
        throw (.alreadyExists path.text)
    match ← FsProgram.host (.openUnnamed g.settings.stagingDir) with
    | .ok () => return { bucket := bucketId, name, path := path.text }
    | .error cause => throw (.staging path.text cause)
  | _ => throw (.notAFile path.text)

/-- Create the bucket that a path names. -/
def makeBucket (g : Gateway) (path : FsPath) : FsProgram Unit :=
  match path with
  | .bucket name => do
    if g.settings.rejectDuplicates then
      if (← g.listBuckets).any fun b => b.name == name then
        throw (.alreadyExists path.text)
    let _ ← FsProgram.call path.text <| .putBucket
      { owner := g.settings.owner
        policy := g.settings.policy
        acl := .restricted
        attributes := .named Attributes.nameKey name g.now }
  | .object .. => throw (.unsupported path.text "only first-level directories supported")
  | .root => throw (.invalid path.text "root always exists")

/-- Delete the object of a path, found by its name, or a bucket with all its
objects. -/
def remove (g : Gateway) (path : FsPath) : FsProgram Unit :=
  match path.bucket? with
  | none => throw (.invalid path.text "the root cannot be removed")
  | some segment => do
    let bucket ← g.resolveBucket segment
    let some bucketId := bucket.id
      | throw (.notFound path.text)
    match path with
    | .object _ name =>
      match ← g.findObject bucket name path.text with
      | some o => FsProgram.call path.text (.deleteObject bucketId o.id)
      | none => throw (.notFound path.text)
    | _ => FsProgram.call path.text (.deleteBucket bucketId)

/-- What a request does when it is not refused. -/
def perform (g : Gateway) : Request → FsProgram Response
  | .list path => .entries <$> g.list path
  | .stat path => (fun entry => .entries [entry]) <$> g.stat path
  | .get path => .reader <$> g.openReader path
  | .put path | .openFile path => .writer <$> g.openWriter path
  | .mkdir path => (fun _ => .done) <$> g.makeBucket path
  | .remove path | .rmdir path => (fun _ => .done) <$> g.remove path
  | .setstat _ => return .done
  | .readlink path => throw (.unsupported path.text "symbolic links are not supported")
  | .rename source _ =>
    throw (.unsupported source.text "objects are immutable and cannot be renamed")
  | .link _ path | .symlink _ path =>
    throw (.unsupported path.text "links are not supported")

/-- Carry out a request. A read-only gateway refuses the mutating methods before
anything else. -/
def dispatch (g : Gateway) (request : Request) : FsProgram Response :=
  if request.method.isMutating && g.settings.readOnly then
    throw (.permissionDenied request.path.text)
  else g.perform request

end Gateway
end ObjectGateway
