import ObjectGateway.Backend.Command
import ObjectGateway.Fault.Filesystem
import ObjectGateway.Host
/-!
# Programs over a backend

A gateway operation is a tree of steps: it makes one backend call or performs
one action on the host, and goes on with the answer. What a call answers, and
whether it is answered at all, is left to the interpreter the program is run
by, so one operation can be run on any store and under any pattern of failures.
-/
namespace ObjectGateway

/-- What an operation does to the host outside of the store. Files are named by
a chosen directory, or the one for temporary files, and a name in it. -/
inductive HostAction
  | openUnnamed (dir : Option String)
  | draw
  | writeFile (dir : Option String) (name : String) (data : Bytes)
  | readFile (dir : Option String) (name : String)
  | removeFile (dir : Option String) (name : String)

namespace HostAction

abbrev Answer : HostAction → Type
  | openUnnamed .. => Except IoError Unit
  | draw => ObjectId
  | writeFile .. => Except IoError Unit
  | readFile .. => Except IoError Bytes
  | removeFile .. => Except IoError Unit

/-- The effect of an action on the host. -/
def perform (h : Host) : (a : HostAction) → a.Answer × Host
  | openUnnamed dir => (h.files.openUnnamedAt h.workDir (h.directory dir), h)
  | draw => h.draw .object
  | writeFile dir name data =>
    h.update (h.files.writeFileAt h.workDir ((h.directory dir).join name) data)
  | readFile dir name => (h.files.readFileAt h.workDir ((h.directory dir).join name), h)
  | removeFile dir name =>
    h.update (h.files.removeFileAt h.workDir ((h.directory dir).join name))

end HostAction

inductive Program (α : Type) : Type
  | done (result : α)
  | call (c : Command) (next : Except BackendError c.Answer → Program α)
  | host (a : HostAction) (next : a.Answer → Program α)

namespace Program

def bind {α β : Type} : Program α → (α → Program β) → Program β
  | done a, k => k a
  | call c next, k => call c fun r => (next r).bind k
  | host a next, k => host a fun r => (next r).bind k

instance : Monad Program where
  pure := done
  bind := bind

/-- How calls and host actions are answered, and what they do to a state `σ`. -/
structure Interpreter (σ : Type) where
  call : (c : Command) → σ → Except BackendError c.Answer × σ
  host : (a : HostAction) → σ → a.Answer × σ

/-- Run a program to its result. -/
def run {σ α : Type} (i : Interpreter σ) : Program α → σ → α × σ
  | done a, s => (a, s)
  | call c next, s =>
    let (r, s) := i.call c s
    run i (next r) s
  | host a next, s =>
    let (r, s) := i.host a s
    run i (next r) s

end Program

/-- A program that may fail as a filesystem operation. -/
abbrev FsProgram (α : Type) := ExceptT FsError Program α

namespace FsProgram

/-- Make one backend call on behalf of `path`. -/
def call (path : String) (c : Command) : FsProgram c.Answer :=
  ExceptT.mk <| Program.call c fun
    | .ok answer => .done (.ok answer)
    | .error cause => .done (.error (.ofBackend c.name path cause))

/-- Perform one action on the host. -/
def host (a : HostAction) : FsProgram a.Answer :=
  ExceptT.mk <| Program.host a fun answer => .done (.ok answer)

end FsProgram
end ObjectGateway
