import ObjectGateway.Fault.Filesystem
import ObjectGateway.Text.Segments
/-!
# Paths

The filesystem has two levels: buckets below the root, objects below buckets.
A path is written with slashes; one slash in front and one behind are ignored.
-/
namespace ObjectGateway

/-- A place in the filesystem. -/
inductive FsPath
  | root
  | bucket (bucket : String)
  | object (bucket object : String)
deriving DecidableEq, Repr

namespace FsPath

/-- A text without one slash in front of it, if there is one. -/
def dropLeading : List Char → List Char
  | '/' :: cs => cs
  | cs => cs

/-- A text without one slash at its end, if there is one. -/
def dropTrailing (cs : List Char) : List Char :=
  if cs.getLast? = some '/' then cs.dropLast else cs

/-- The path a text names. More than two segments that are not empty are one
level too many; any other empty segment is an error of its own. -/
def parse (raw : String) : Except FsError FsPath :=
  let trimmed := dropTrailing (dropLeading raw.toList)
  if trimmed.isEmpty then .ok .root
  else
    let segments := Segments.split '/' trimmed
    if (segments.filter (!·.isEmpty)).length > 2 then
      .error (.unsupported raw "only one level of directories is supported")
    else
      match segments with
      | [b] => .ok (.bucket (String.ofList b))
      | [b, o] =>
        if b.isEmpty ∨ o.isEmpty then .error (.invalid raw "empty path segment")
        else .ok (.object (String.ofList b) (String.ofList o))
      | _ => .error (.invalid raw "empty path segment")

/-- The one text a path is written as. -/
def text : FsPath → String
  | root => "/"
  | bucket b => "/" ++ b
  | object b o => "/" ++ b ++ "/" ++ o

/-- The bucket segment, which only the root lacks. -/
def bucket? : FsPath → Option String
  | root => none
  | bucket b => some b
  | object b _ => some b

end FsPath
end ObjectGateway
