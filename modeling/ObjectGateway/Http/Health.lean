import ObjectGateway.Http.Message
/-!
# Probes

Liveness is answered without looking at anything. Readiness lists the owner's
buckets and makes a round trip of a small file in the staging directory.
-/
namespace ObjectGateway.Http

/-- The outcome of one check, with what there is to say about it. -/
structure Check where
  ok : Bool
  remark : Option String := none
deriving DecidableEq

namespace Check

def document (c : Check) : Json.Value :=
  .object [("ok", .bool c.ok), ("error", .optionalText c.remark)]

/-- What is written to the staging directory and must be read back. -/
def sample : Bytes := Bytes.ofText "readyz"

/-- Judge a round trip. A file that could not be removed is remarked on, but does
not fail the check. -/
def ofRoundTrip (read : Except IoError Bytes) (removed : Except IoError Unit) : Check :=
  match read, removed with
  | .error cause, _ => ⟨false, some ("could not read tmp file: " ++ cause.message)⟩
  | .ok content, removed =>
    if content ≠ sample then ⟨false, some "file content mismatch"⟩
    else
      match removed with
      | .error cause => ⟨true, some ("could not remove tmp file: " ++ cause.message)⟩
      | .ok () => ⟨true, none⟩

end Check

def healthz : Response :=
  .json 200 (.object [("status", .text "ok")])

/-- Whether the backend answers. -/
def checkBackend (g : Gateway) : Program Check := do
  match ← g.probe.run with
  | .ok _ => return ⟨true, none⟩
  | .error e => return ⟨false, some ("error: " ++ e.message)⟩

/-- Whether files can be staged. -/
def checkStaging (g : Gateway) : Program Check :=
  let dir := g.settings.stagingDir
  .host .draw fun id =>
    let name := ".readyz-" ++ id.text
    .host (.writeFile dir name Check.sample) fun
      | .error cause =>
        .done ⟨false, some ("could not write tmp file: " ++ cause.message)⟩
      | .ok () =>
        .host (.readFile dir name) fun read =>
          .host (.removeFile dir name) fun removed =>
            .done (Check.ofRoundTrip read removed)

def readyz (g : Gateway) : Program Response := do
  let backend ← checkBackend g
  let staging ← checkStaging g
  let ok := backend.ok && staging.ok
  return .json (if ok then 200 else 503) <| .object
    [("status", .text (if ok then "ok" else "error")),
      ("checks", .object [("backend", backend.document), ("staging", staging.document)])]

end ObjectGateway.Http
