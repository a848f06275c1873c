/-!
# Command-line options

Fourteen settings can be given as an option or as an environment variable;
three more options only exist on the command line.
-/
namespace ObjectGateway.Config

/-- What can be configured, in the order in which options are listed. -/
inductive Setting
  | host
  | port
  | backend
  | storageDir
  | databaseUrl
  | stagingDir
  | owner
  | policy
  | requestTimeout
  | chunkSize
  | readOnly
  | rejectDuplicates
  | debugLevel
  | debugStderr
deriving DecidableEq, Repr

/-- The name of a setting's environment variable. -/
def Setting.variable (s : Setting) : String :=
  "BUCKET_FS_" ++
    match s with
    | host => "HOST"
    | port => "PORT"
    | backend => "BACKEND"
    | storageDir => "STORAGE_DIR"
    | databaseUrl => "DATABASE_URL"
    | stagingDir => "STAGING_DIR"
    | owner => "OWNER"
    | policy => "CONTAINER_POLICY"
    | requestTimeout => "REQUEST_TIMEOUT"
    | chunkSize => "CHUNK_SIZE"
    | readOnly => "READ_ONLY"
    | rejectDuplicates => "REJECT_DUPLICATE_NAMES"
    | debugLevel => "DEBUG_LEVEL"
    | debugStderr => "DEBUG_STDERR"

/-- An option of the command line. -/
inductive Switch
  | setting (s : Setting)
  | migrate
  | help
  | version
deriving DecidableEq, Repr

namespace Switch

def all : List Switch :=
  [.setting .host, .setting .port, .setting .backend, .setting .storageDir,
    .setting .databaseUrl, .setting .stagingDir, .setting .owner, .setting .policy,
    .setting .requestTimeout, .setting .chunkSize, .setting .readOnly,
    .setting .rejectDuplicates, .setting .debugLevel, .setting .debugStderr,
    .migrate, .help, .version]

/-- The name behind two hyphens. -/
def long : Switch → String
  | setting .host => "host"
  | setting .port => "port"
  | setting .backend => "backend"
  | setting .storageDir => "storage-dir"
  | setting .databaseUrl => "database-url"
  | setting .stagingDir => "staging-dir"
  | setting .owner => "owner"
  | setting .policy => "container-policy"
  | setting .requestTimeout => "request-timeout"
  | setting .chunkSize => "chunk-size"
  | setting .readOnly => "read-only"
  | setting .rejectDuplicates => "reject-duplicate-names"
  | setting .debugLevel => "debug-level"
  | setting .debugStderr => "debug-stderr"
  | migrate => "migrate"
  | help => "help"
  | version => "version"

/-- The letter behind one hyphen. -/
def short? : Switch → Option Char
  | setting .readOnly => some 'R'
  | setting .debugLevel => some 'l'
  | setting .debugStderr => some 'e'
  | help => some 'h'
  | version => some 'V'
  | _ => none

/-- Whether a value follows. -/
def takesValue : Switch → Bool
  | setting .readOnly | setting .rejectDuplicates | setting .debugStderr => false
  | setting _ => true
  | _ => false

def ofLong? (name : String) : Option Switch :=
  all.find? fun s => s.long == name

def ofShort? (c : Char) : Option Switch :=
  all.find? fun s => s.short? == some c

/-- What stands for the value in a usage line. -/
def placeholder (s : Switch) : String :=
  String.ofList (s.long.toList.map fun c => if c = '-' then '_' else c.toUpper)

/-- An option as messages name it. -/
def shown (s : Switch) : String :=
  "--" ++ s.long ++ if s.takesValue then " <" ++ s.placeholder ++ ">" else ""

/-! ## Help -/

/-- What an option does. `detailed` is the help of the long form. -/
def purpose (detailed : Bool) : Switch → String
  | setting .host => "Host to bind to (overrides BUCKET_FS_HOST)"
  | setting .port => "Port to bind to (overrides BUCKET_FS_PORT)"
  | setting .backend => "Storage backend (overrides BUCKET_FS_BACKEND)"
  | setting .storageDir =>
    "Directory where object payloads are stored (overrides BUCKET_FS_STORAGE_DIR)"
  | setting .databaseUrl => "Database URL (overrides BUCKET_FS_DATABASE_URL)"
  | setting .stagingDir => "Directory for upload staging files (overrides BUCKET_FS_STAGING_DIR)"
  | setting .owner => "Identity owning listed and created buckets (overrides BUCKET_FS_OWNER)"
  | setting .policy => "Placement policy for new buckets (overrides BUCKET_FS_CONTAINER_POLICY)"
  | setting .requestTimeout =>
    "Per-call backend timeout in seconds (overrides BUCKET_FS_REQUEST_TIMEOUT)"
  | setting .chunkSize => "Upload chunk size in bytes (overrides BUCKET_FS_CHUNK_SIZE)"
  | setting .readOnly => "Refuse every mutating operation (or BUCKET_FS_READ_ONLY=true)"
  | setting .rejectDuplicates =>
    "Fail uploads and mkdir when the name is already taken " ++
      "(or BUCKET_FS_REJECT_DUPLICATE_NAMES=true)"
  | setting .debugLevel =>
    "Log level when RUST_LOG is unset (overrides BUCKET_FS_DEBUG_LEVEL)"
  | setting .debugStderr =>
    "Write logs to stderr instead of discarding them (or BUCKET_FS_DEBUG_STDERR=true)"
  | migrate => "Run migrations and exit"
  | help =>
    if detailed then "Print help (see a summary with '-h')"
    else "Print help (see more with '--help')"
  | version => "Print version"

/-- The values an option is restricted to, each with its meaning. -/
def choices : Switch → List (String × String)
  | setting .backend =>
    [("sqlite", "SQLite metadata plus on-disk payloads"),
      ("memory", "Process memory; everything is lost on exit")]
  | _ => []

/-- The lines of help on one option. -/
def helpLines (detailed : Bool) (s : Switch) : List String :=
  let indent := "          "
  let name :=
    match s.short? with
    | some c => "  -" ++ c.toString ++ ", " ++ s.shown
    | none => "      " ++ s.shown
  let purpose := indent ++ s.purpose detailed
  match s.choices with
  | [] => [name, purpose]
  | choices =>
    if detailed then
      [name, purpose, "", indent ++ "Possible values:"] ++
        choices.map fun (value, meaning) => indent ++ "- " ++ value ++ ": " ++ meaning
    else
      let values := ", ".intercalate (choices.map Prod.fst)
      [name, purpose ++ " [possible values: " ++ values ++ "]"]

end Switch

def programName : String := "bucket-fs-gateway"

def versionText : String := programName ++ " 0.1.0\n"

/-- The first line of the help. -/
def about : String := "Filesystem gateway over a bucket/object store"

/-- The help: a summary, or in the long form an entry by itself for each option. -/
def helpText (detailed : Bool) : String :=
  let entries := Switch.all.map (Switch.helpLines detailed)
  let lines := if detailed then entries.intersperse [""] else entries
  let head := [about, "", "Usage: " ++ programName ++ " [OPTIONS]", "", "Options:"]
  "\n".intercalate (head ++ lines.flatten) ++ "\n"

end ObjectGateway.Config
