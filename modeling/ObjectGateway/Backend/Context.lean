import ObjectGateway.Backend.Program
/-!
# Request contexts

Every backend call is made on behalf of a request that may be cancelled and
that bounds each call in time. A cancelled request makes no further call. A
call that waits is given up when its request is cancelled meanwhile or when the
time is over; one that is answered without waiting is never given up.
-/
namespace ObjectGateway

/-- When a request is cancelled. -/
inductive Interruption
  | never
  /-- Before its first call. -/
  | already
  /-- While its first call that waits is waiting. -/
  | whileWaiting
deriving DecidableEq, Repr

structure Context where
  interruption : Interruption := .never
  /-- The bound on a single call. -/
  limit : Span := .ofSeconds 15
deriving DecidableEq, Repr

namespace Context

variable {σ α : Type}

/-- A call that is not given up before its last wait. -/
def await (ctx : Context) (call : Call σ α) : Except BackendError α × σ :=
  match call.answer with
  | some answer => (answer, call.after)
  | none => (.error (.timedOut ctx.limit), call.after)

/-- The outcome of a call for a request in state `s`. -/
def settle (ctx : Context) (s : σ) (call : Call σ α) : Except BackendError α × σ :=
  match ctx.interruption with
  | .already => (.error .cancelled, s)
  | .whileWaiting =>
    match call.firstWait with
    | some left => (.error .cancelled, left)
    | none => ctx.await call
  | .never =>
    if ctx.limit.isZero then
      match call.firstWait with
      | some left => (.error (.timedOut ctx.limit), left)
      | none => ctx.await call
    else ctx.await call

/-- Calls go to a backend under a context, actions to the host. -/
def interpreter (ctx : Context) (b : Backend (World σ)) : Program.Interpreter (World σ) where
  call c w := ctx.settle w (b.call c w)
  host a w :=
    let (answer, host) := a.perform w.host
    (answer, { w with host })

/-- Run a program on a backend under a context. -/
def run (ctx : Context) (b : Backend (World σ)) (p : Program α) (w : World σ) : α × World σ :=
  p.run (ctx.interpreter b) w

end Context
end ObjectGateway
