import ObjectGateway.Text.Segments
/-!
# Request targets

What a request is about: a resource by its path and query, with or without the
name of a scheme and a host in front, the server as a whole, or the authority
of a host alone. A fragment at the end counts for nothing.
-/
namespace ObjectGateway.Http

inductive Target
  /-- A resource, by its path and its query as written. -/
  | resource (path query : List Char)
  /-- A host to be reached, by its authority as written. -/
  | authority (host : List Char)
  /-- The server as a whole. -/
  | server
deriving DecidableEq, Repr

namespace Target

/-- The greatest length of a target, in bytes. -/
def maxLength : Nat := 65534

/-- The greatest length of a scheme. -/
def maxScheme : Nat := 64

/-- The text up to a character that `stops` it, and the rest from there. -/
def upTo (stops : Char → Bool) (cs : List Char) : List Char × List Char :=
  (cs.takeWhile fun c => !stops c, cs.dropWhile fun c => !stops c)

/-! ## Paths and queries -/

/-- Whether a character may stand in a path as it is: no control, no blank, and
none of a few marks. -/
def isPathChar (c : Char) : Bool :=
  c.toNat > 0x20 && !"<>?#\x60".toList.contains c

/-- Whether a character may stand in a query as it is. -/
def isQueryChar (c : Char) : Bool :=
  c.toNat > 0x20 && !"\"<>#".toList.contains c

/-- A path and a query. An empty path is the root. -/
def ofPath? (cs : List Char) : Option Target :=
  let (cs, _) := Segments.cut '#' cs
  let (path, query) := Segments.cut '?' cs
  let query := query.getD []
  if path.all isPathChar && query.all isQueryChar then
    some (.resource (if path.isEmpty then ['/'] else path) query)
  else none

/-! ## Authorities -/

/-- The characters of an authority besides letters, digits, colons, brackets and
at signs. -/
def authorityMarks : List Char := "!$&\x27()*+,-.;=_~".toList

/-- What has been seen of an authority since its user part or its address in
brackets ended. -/
structure Scan where
  colons : Nat := 0
  percent : Bool := false
  opened : Bool := false
  shut : Bool := false

/-- The most colons of an address. -/
def maxColons : Nat := 8

/-- Read one more character of an authority. -/
def Scan.step (s : Scan) (c : Char) : Option Scan :=
  if c = ':' then if s.colons < maxColons then some { s with colons := s.colons + 1 } else none
  else if c = '[' then if s.percent || s.opened then none else some { s with opened := true }
  else if c = ']' then
    if !s.opened || s.shut then none
    else some { s with shut := true, colons := 0, percent := false }
  else if c = '@' then some { s with colons := 0, percent := false }
  else if c = '%' then some { s with percent := true }
  else if c.isAlphanum || authorityMarks.contains c then some s
  else none

/-- Whether a text is an authority: a host, possibly with a user before it and a
port behind. -/
def isAuthority (cs : List Char) : Bool :=
  match cs.foldlM Scan.step {} with
  | none => false
  | some s => s.opened == s.shut && s.colons ≤ 1 && cs.getLast? != some '@' && !s.percent

/-! ## Targets -/

def isSchemeChar (c : Char) : Bool :=
  c.isAlphanum || c == '+' || c == '-' || c == '.' || c == '~'

/-- What follows the scheme of a target, if it has one. -/
def afterScheme? (cs : List Char) : Option (List Char) :=
  let (scheme, rest) := upTo (fun c => !isSchemeChar c) cs
  if scheme.length > maxScheme then none else Segments.after? "://".toList rest

/-- The target that a text is. -/
def parse? (text : String) : Option Target :=
  let cs := text.toList
  if text.utf8ByteSize > maxLength then none
  else
    match cs with
    | [] => none
    | '/' :: _ => ofPath? cs
    | ['*'] => some .server
    | _ =>
      match afterScheme? cs with
      | none => if isAuthority cs then some (.authority cs) else none
      | some rest =>
        let (host, rest) := upTo (fun c => c == '/' || c == '?' || c == '#') rest
        if host.isEmpty || !isAuthority host then none else ofPath? rest

end Target
end ObjectGateway.Http
