import ObjectGateway.Host.FileTree.ByPath
import ObjectGateway.Identifier
/-!
# The host

What a gateway finds around it besides its store: a file tree with a working
directory and a directory for temporary files, and a supply of fresh
identifiers.
-/
namespace ObjectGateway

structure Host where
  files : FileTree := {}
  ids : IdSupply
  workDir : Location := []
  tempDir : Location := ["tmp"]

namespace Host

/-- Draw a fresh identifier. -/
def draw (h : Host) (kind : IdKind) : Id kind × Host :=
  let (id, ids) := h.ids.draw kind
  (id, { h with ids })

/-- A directory chosen by its path; the directory for temporary files when none is
chosen. -/
def directory (h : Host) : Option String → HostPath
  | none => ⟨"/" ++ h.tempDir.text⟩
  | some path => ⟨path⟩

/-- The host with `files` in place of its file tree when that could be computed. -/
def update (h : Host) (files : Except IoError FileTree) : Except IoError Unit × Host :=
  match files with
  | .ok files => (.ok (), { h with files })
  | .error cause => (.error cause, h)

end Host

/-- A store together with the host it runs on. -/
structure World (σ : Type) where
  host : Host
  store : σ

end ObjectGateway
