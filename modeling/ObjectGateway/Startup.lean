import ObjectGateway.Config.LogFilter
import ObjectGateway.Config.Merge
import ObjectGateway.Durable.Establish
import ObjectGateway.Host
/-!
# Starting the service

What happens from the command line to the point where the service listens: the
configuration is read, the payload directory and the database file are made if
they are missing, and the tables are created. A run that only migrates ends
there.
-/
namespace ObjectGateway

open Config

/-- The parts of the service that log. -/
inductive LogSource
  | startup
  | store
  | database
deriving DecidableEq, Repr

/-- The name by which a log filter addresses a part. -/
def LogSource.name : LogSource → String
  | startup => "bucket_fs_gateway"
  | store => "bucket_fs_gateway::services::storage_service"
  | database => "sqlx::query"

/-- The names of the fields of an event that holds a text only. -/
def textOnly : List String := ["message"]

/-- The names of the fields of a report on a statement. -/
def statementFields : List String :=
  ["summary", "db.statement", "rows_affected", "rows_returned", "elapsed", "elapsed_secs"]

/-- An event worth logging: how important it is, where it comes from, and the
names of its fields. -/
structure LogEvent where
  level : LogLevel
  source : LogSource := .startup
  fields : List String := textOnly
deriving DecidableEq, Repr

/-- How a run goes. -/
structure Outcome where
  /-- The exit code; none while the service is running. -/
  exit : Option Nat
  stdout : String := ""
  /-- The message of a failure, without the log. -/
  complaint : String := ""
  /-- Whether anything at all is written to the error stream. -/
  logged : Bool := false
  files : FileTree

namespace Startup

/-- What a startup step needs: the tree it works on and the events so far. -/
structure Progress where
  host : Host
  events : List LogEvent := []

def Progress.log (p : Progress) (event : LogEvent) : Progress :=
  { p with events := p.events ++ [event] }

/-- Why a start fails. -/
inductive Error
  | files (cause : IoError)
  | address (cause : Durable.AddressError)
  | database (cause : DatabaseError)
deriving DecidableEq, Repr

def Error.message : Error → String
  | files cause => cause.message
  | address cause => cause.message
  | database cause => cause.message

/-- A step of a start. -/
abbrev Step (α : Type) := ExceptT Error (StateM Progress) α

/-- Log a text. -/
def log (level : LogLevel) : Step Unit :=
  modify fun p => p.log { level }

/-- Log a statement that the database has run. -/
def logStatement : Step Unit :=
  modify fun p => p.log ⟨.debug, .database, statementFields⟩

/-! ## Directories and files -/

/-- Make a directory, with those above it, unless it is there. -/
def ensureDir (path : HostPath) : Step Unit := do
  let p ← get
  unless p.host.files.existsAt p.host.workDir path do
    let (answer, files) := p.host.files.makeDirsAt p.host.workDir path
    set { p with host := { p.host with files } }
    match answer with
    | .error cause => throw (.files cause)
    | .ok () => log .info

/-- Create a file unless it is there. A failure is only worth a warning. -/
def ensureFile (path : HostPath) : Step Unit := do
  let p ← get
  match p.host.files.touchAt p.host.workDir path with
  | .ok files =>
    set { p with host := { p.host with files } }
    log .debug
  | .error _ => log .warn

/-! ## The database -/

/-- Open the database of an address and make its tables. -/
def openDatabase (a : Durable.Address) : Step Unit := do
  match Durable.Opening.ofAddress a with
  | .error cause => throw (.database cause)
  | .ok o =>
    let p ← get
    let (answer, files) := (Durable.Establish.database o p.host.workDir).run p.host.files
    set { p with host := { p.host with files } }
    match answer with
    | .error cause => throw (.database cause)
    | .ok () => logStatement

/-- Prepare the payload directory and the database of a durable store. -/
def openStore (c : Configuration) : Step Unit := do
  ensureDir ⟨c.storageDir⟩
  log .debug
  if !Durable.Address.mentionsMemory c.databaseUrl then
    let file : HostPath := ⟨Durable.Address.preparedFile c.databaseUrl⟩
    log .debug
    if let some parent := file.parent? then
      unless parent.isEmpty do ensureDir parent
    ensureFile file
  match Durable.Address.parse c.databaseUrl with
  | .error cause => throw (.address cause)
  | .ok a => openDatabase a

/-- Everything before the service listens. Tells whether it is to listen. -/
def prepare (c : Configuration) (migrateOnly : Bool) : Step Bool := do
  log .info
  if c.ownerIsUnset then log .warn
  match c.backend with
  | .memory =>
    if migrateOnly then log .info
    return !migrateOnly
  | .sqlite =>
    openStore c
    modify fun p => p.log ⟨.info, .store, "count" :: textOnly⟩
    modify fun p => p.log ⟨.debug, .store, "sql" :: textOnly⟩
    logStatement
    if migrateOnly then log .info
    return !migrateOnly

/-- The variable that a log filter is read from. -/
def logVariable : String := "RUST_LOG"

/-- Whether something is written to the error stream by logging: events that pass
the filter, or a complaint about the filter itself. -/
def writesLog (c : Configuration) (env : Environment) (events : List LogEvent) : Bool :=
  let fromEnvironment :=
    match env logVariable with
    | .text value => LogFilter.parse? value
    | _ => none
  let (filter, complains) :=
    match fromEnvironment with
    | some filter => (filter, false)
    | none => LogFilter.parseLenient c.debugLevel
  complains || (c.debugStderr && events.any fun e => filter.enables e.source.name e.fields e.level)

/-- The locations that a path goes through, dots taken at their word. -/
def trail (here : Location) (path : HostPath) : List Location :=
  let walk (passed : List Location × Location) (name : String) : List Location × Location :=
    let l :=
      if name = "." then passed.2
      else if name = ".." then passed.2.dropLast
      else passed.2 ++ [name]
    (passed.1 ++ [l], l)
  let start := if path.isAbsolute then [] else here
  ((start ++ path.names).foldl walk ([], [])).1.filter (· ≠ [])

/-- The locations that a run may look at or make. -/
def places (line : List String) (env : Environment) (workDir : Location) : List Location :=
  let configuration := do
    let a ← (Arguments.parse line).toOption
    (Configuration.merge a env).toOption
  match configuration with
  | none => []
  | some c =>
    let opened := do
      let a ← (Durable.Address.parse c.databaseUrl).toOption
      let o ← (Durable.Opening.ofAddress a).toOption
      if o.access.memory then none else some (trail workDir ⟨o.path⟩)
    let besides := (opened.getD []).flatMap fun l =>
      [Durable.Establish.journalOf l, Durable.Establish.logOf l]
    let prepared := [c.storageDir, Durable.Address.preparedFile c.databaseUrl].flatMap fun path =>
      trail workDir ⟨path⟩
    prepared ++ opened.getD [] ++ besides

/-- A run of the program. -/
def run (line : List String) (env : Environment) (host : Host) : Outcome :=
  match Arguments.parse line with
  | .error e =>
    if e.isInformation then
      { exit := some e.exitCode, stdout := e.message, files := host.files }
    else
      { exit := some e.exitCode, complaint := e.message, logged := true, files := host.files }
  | .ok a =>
    match Configuration.merge a env with
    | .error e =>
      { exit := some 1, complaint := "Error: " ++ e.message, logged := true, files := host.files }
    | .ok c =>
      let (result, p) := (prepare c a.migrate).run { host }
      match result with
      | .error e =>
        { exit := some 1, complaint := "Error: " ++ e.message, logged := true
          files := p.host.files }
      | .ok serving =>
        { exit := if serving then none else some 0
          logged := writesLog c env p.events
          files := p.host.files }

end Startup
end ObjectGateway
