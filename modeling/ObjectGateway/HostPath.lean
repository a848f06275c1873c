import ObjectGateway.Text.Segments
/-!
# Paths on the host

A path as somebody wrote it. It keeps its dots and its slashes: which node it
names depends on what stands on the way, since `a/..` is the directory of `a`
only where `a` is a directory.
-/
namespace ObjectGateway

structure HostPath where
  text : String
deriving DecidableEq, Repr

namespace HostPath

/-- The greatest length of a name, in bytes. -/
def maxName : Nat := 255

/-- The greatest length of a path, in bytes. -/
def maxLength : Nat := 4095

def isEmpty (p : HostPath) : Bool := p.text.isEmpty

/-- Whether a path starts from the root and not from the working directory. -/
def isAbsolute (p : HostPath) : Bool := p.text.startsWith "/"

/-- Whether a path ends in a slash, in which case it names no file. -/
def isClosed (p : HostPath) : Bool := p.text.endsWith "/"

/-- The names that a path goes through, one and two dots among them. -/
def names (p : HostPath) : List String :=
  ((Segments.split '/' p.text.toList).filter (· ≠ [])).map String.ofList

/-- The names that count when a path is taken apart: a single dot does so only
in front. -/
def parts (p : HostPath) : List String :=
  let later (names : List String) := names.filter (· ≠ ".")
  match p.isAbsolute, p.names with
  | false, "." :: rest => "." :: later rest
  | _, names => later names

def ofParts (absolute : Bool) (parts : List String) : HostPath :=
  ⟨(if absolute then "/" else "") ++ "/".intercalate parts⟩

/-- The path without its last part. The root and the empty path have none. -/
def parent? (p : HostPath) : Option HostPath :=
  if p.parts.isEmpty then none else some (ofParts p.isAbsolute p.parts.dropLast)

/-- Where `path` leads when it is written relative to the directory `base`. -/
def join (base : HostPath) (path : String) : HostPath :=
  if path.startsWith "/" || base.isEmpty then ⟨path⟩
  else if base.isClosed then ⟨base.text ++ path⟩
  else ⟨base.text ++ "/" ++ path⟩

end HostPath
end ObjectGateway
