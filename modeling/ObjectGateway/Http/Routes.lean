import ObjectGateway.Http.Health
import ObjectGateway.Http.Query
/-!
# Routes

The filesystem is reached below `/fs`, what follows being the path of an entry.
The verbs of HTTP stand for methods of the file protocol: GET lists, describes
or reads, PUT stores the body, DELETE removes, and POST carries any method by
its name.
-/
namespace ObjectGateway.Http

/-- A resource of the service. -/
inductive Route
  | healthz
  | readyz
  | root
  /-- An entry, by its path as written. -/
  | entry (raw : List Char)
deriving DecidableEq, Repr

namespace Route

/-- The resource of a path as written. -/
def ofPath? (path : List Char) : Option Route :=
  if path = "/healthz".toList then some .healthz
  else if path = "/readyz".toList then some .readyz
  else if path = "/fs".toList then some .root
  else
    match Segments.after? "/fs/".toList path with
    | some (c :: rest) => some (.entry (c :: rest))
    | _ => none

/-- The verbs a resource allows, in alphabetical order. -/
def allowed : Route → List String
  | healthz | readyz => ["GET", "HEAD"]
  | root => ["GET", "HEAD", "POST"]
  | entry _ => ["DELETE", "GET", "HEAD", "POST", "PUT"]

end Route

/-- A program that may be answered by an answer of its own. -/
abbrev Handler (α : Type) := ExceptT Response Program α

namespace Handler

variable {α : Type}

/-- Carry out a filesystem operation; its failure is the answer. -/
def ofFs (p : FsProgram α) : Handler α :=
  ExceptT.mk <| Program.bind p.run fun
    | .ok a => .done (.ok a)
    | .error e => .done (.error (.ofFailure (.ofFsError e)))

/-- A value that is there, or the failure instead. -/
def ofExcept (r : Except FsError α) : Handler α :=
  match r with
  | .ok a => return a
  | .error e => throw (.ofFailure (.ofFsError e))

def badRequest (message : String) : Handler α :=
  throw (.ofFailure (.badRequest message))

/-- The answer of a handler that comes to its end or not. -/
def finish (h : Handler Response) : Program Response :=
  Program.bind h.run fun
    | .ok r => .done r
    | .error r => .done r

end Handler

/-- The path that a route addresses, in the form the gateway reads. -/
def routePath (raw : List Char) : Handler String :=
  match Percent.text? raw with
  | some path => return "/" ++ path
  | none => throw (.plain 400 "Invalid URL: Invalid UTF-8 in `path`")

def routeQuery (query : List Char) : Handler Query :=
  match Query.parse query with
  | .ok q => return q
  | .error e => throw (.plain 400 e.message)

/-! ## Answers -/

/-- Close a writer and report what was stored. -/
def storeAll (g : Gateway) (w : Writer) : Handler Response := do
  let id ← Handler.ofFs (w.close g)
  return .json 201 (.object [("id", .text id.text), ("size", .number w.length)])

/-- A page of a listing. -/
def listingPage (items : List Entry) (q : Query) : Response :=
  let (page, eof) := Listing.page items (q.offset.getD 0) (q.limit.getD Decimal.maxUInt64)
  .json 200 (.object [("entries", .list (page.map entryView)), ("eof", .bool eof)])

/-- The window of an object that a query asks for. -/
def readWindow (g : Gateway) (r : Reader) (q : Query) : Response :=
  let offset := q.offset.getD 0
  { status := 200
    contentType := some "application/octet-stream"
    contentLength := some (r.windowLength offset q.length)
    body := .window r offset q.length g.maxChunk }

/-- Answer with the outcome of a request. A writer that was opened without a body
is closed at once. -/
def respond (g : Gateway) (method : Method) (q : Query) : ObjectGateway.Response → Handler Response
  | .entries items =>
    if method = .stat then
      match items with
      | e :: _ => return .json 200 (entryView e)
      | [] => throw (.ofFailure ⟨500, .failure, "stat returned no entry"⟩)
    else return listingPage items q
  | .reader r => return readWindow g r q
  | .writer w => storeAll g w
  | .done => return .noContent

/-! ## Verbs -/

/-- The methods that GET carries, by their names in a query. -/
def getMethod (q : Query) : Handler Method :=
  match q.op.getD "stat" with
  | "read" => return .get
  | "list" => return .list
  | "stat" => return .stat
  | other =>
    Handler.badRequest <|
      "unsupported GET op `" ++ other ++ "` (expected list, stat or read)"

/-- Carry out a method on a path and answer with its outcome. -/
def carry (g : Gateway) (method path : String) (target : Option String) (q : Query) :
    Handler Response := do
  let request ← Handler.ofExcept (ObjectGateway.Request.ofWire method path target)
  let outcome ← Handler.ofFs (g.dispatch request)
  respond g request.method q outcome

def getPath (g : Gateway) (path : String) (q : Query) : Handler Response := do
  let method ← getMethod q
  carry g method.name path none q

/-- Stage the chunks of a body one after the other. -/
def stageBody (w : Writer) (offset : Nat) : List (Except String Bytes) → Handler Writer
  | [] => return w
  | .error cause :: _ => Handler.badRequest ("reading request body: " ++ cause)
  | .ok chunk :: rest => do
    let w ← Handler.ofExcept (w.writeAt chunk offset)
    stageBody w (offset + chunk.length) rest

def putPath (g : Gateway) (path : String) (body : List (Except String Bytes)) :
    Handler Response := do
  let request ← Handler.ofExcept (ObjectGateway.Request.ofWire Method.put.name path none)
  match ← Handler.ofFs (g.dispatch request) with
  | .writer w => storeAll g (← stageBody w 0 body)
  | _ => throw (.ofFailure ⟨500, .failure, "upload did not produce a writer"⟩)

def deletePath (g : Gateway) (path : String) (q : Query) : Handler Response := do
  let method := q.op.getD Method.remove.name
  let request ← Handler.ofExcept (ObjectGateway.Request.ofWire method path none)
  if request.method ≠ .remove ∧ request.method ≠ .rmdir then
    Handler.badRequest ("DELETE carries Remove or Rmdir, not " ++ request.method.name)
  let outcome ← Handler.ofFs (g.dispatch request)
  respond g .remove q outcome

def postPath (g : Gateway) (path : String) (q : Query) : Handler Response :=
  match q.op with
  | none => Handler.badRequest "missing `op` query parameter"
  | some op => carry g op path q.target q

/-! ## The service -/

/-- The answer to a verb that a route allows, the head of it included. -/
def serve (g : Gateway) (route : Route) (verb : String) (query : List Char)
    (body : List (Except String Bytes)) : Program Response :=
  match route with
  | .healthz => .done healthz
  | .readyz => readyz g
  | .root => Handler.finish do
    let q ← routeQuery query
    if verb = "POST" then postPath g "/" q else getPath g "/" q
  | .entry raw => Handler.finish do
    let path ← routePath raw
    if verb = "PUT" then putPath g path body
    else
      let q ← routeQuery query
      if verb = "DELETE" then deletePath g path q
      else if verb = "POST" then postPath g path q
      else getPath g path q

/-- Answer a request for a resource. HEAD is answered like GET, without the body. -/
def answerResource (g : Gateway) (path query : List Char) (verb : String)
    (body : List (Except String Bytes)) : Program Response :=
  match Route.ofPath? path with
  | none => .done .notFound
  | some route =>
    if route.allowed.contains verb then
      if verb = "HEAD" then
        Program.bind (serve g route "GET" query body) fun answer => .done answer.headOnly
      else serve g route verb query body
    else .done (.notAllowed route.allowed)

/-- Answer one request. Only resources can be asked for. -/
def handle (g : Gateway) (r : Request) : Program Response :=
  match r.target with
  | .resource path query => answerResource g path query r.method r.body
  | .authority _ | .server => .done .noResource

/-- Answer a request, and send the body of the answer. -/
def exchange (g : Gateway) (r : Request) :
    Program (Response × List Bytes × Option FsError) := do
  let answer ← handle g r
  let sent ← answer.body.send
  return (answer, sent)

end ObjectGateway.Http
