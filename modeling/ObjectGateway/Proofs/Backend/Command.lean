import ObjectGateway.Backend.Context
/-!
# Streams that end, and requests that wait for their answer
-/
namespace ObjectGateway

namespace PayloadStream

variable {s : PayloadStream} {chunks : List Bytes} {cause : IoError}

/-- The stream of these chunks, which ends behind them. -/
def ofChunks (chunks : List Bytes) : PayloadStream :=
  ⟨chunks.map .ok, false⟩

/-- A stream that can be read to its end. -/
def Complete (s : PayloadStream) : Prop :=
  ∃ chunks, s.drain = .complete chunks

/-- Chunks in front are seen first. -/
theorem go_append (s : PayloadStream) (chunks : List Bytes) (rest : List (Except IoError Bytes))
    (seen : List Bytes) :
    drain.go s (chunks.map .ok ++ rest) seen = drain.go s rest (chunks.reverse ++ seen) := by
  induction chunks generalizing seen with
  | nil => rfl
  | cons chunk chunks ih => simp [drain.go, ih]

theorem drain_ofChunks (chunks : List Bytes) : (ofChunks chunks).drain = .complete chunks := by
  have hgo := go_append (ofChunks chunks) chunks [] []
  rw [List.append_nil] at hgo
  refine hgo.trans ?_
  simp [drain.go, ofChunks]

theorem complete_ofChunks (chunks : List Bytes) : (ofChunks chunks).Complete :=
  ⟨chunks, drain_ofChunks chunks⟩

/-- A stream that breaks off fails, whatever its first chunks are. -/
theorem drain_broken (chunks : List Bytes) (cause : IoError) (rest : List (Except IoError Bytes))
    (endless : Bool) :
    drain ⟨chunks.map .ok ++ .error cause :: rest, endless⟩ = .failed cause := by
  rw [drain, go_append]
  rfl

def content (s : PayloadStream) : Bytes :=
  (s.chunks.filterMap Except.toOption).flatten

/-- What is read of a stream that ends is all of it. -/
theorem content_of_complete (h : s.drain = .complete chunks) : s.content = chunks.flatten := by
  have hgo : ∀ (rest : List (Except IoError Bytes)) (seen : List Bytes),
      drain.go s rest seen = .complete chunks →
        seen.reverse ++ rest.filterMap Except.toOption = chunks := by
    intro rest
    induction rest with
    | nil =>
      intro seen hdrain
      simp only [drain.go] at hdrain
      split at hdrain
      · cases hdrain
      · cases hdrain
        simp
    | cons first rest ih =>
      intro seen hdrain
      cases first with
      | error cause => cases hdrain
      | ok chunk => simpa [Except.toOption] using ih (chunk :: seen) hdrain
  rw [content, ← hgo s.chunks [] h]
  rfl

end PayloadStream

namespace Command

/-- The command reads no stream, or one that ends. -/
def Complete : Command → Prop
  | putObject _ payload => payload.Complete
  | _ => True

end Command

namespace Context

/-- A request that nobody cancels and that gives its calls some time. -/
def Live (ctx : Context) : Prop :=
  ctx.interruption = .never ∧ ctx.limit.isZero = false

variable {σ α : Type} {ctx : Context} {s : σ} {call : Call σ α}

/-- A live request waits for the answer. -/
theorem settle_live (h : ctx.Live) {answer : Except BackendError α}
    (hanswer : call.answer = some answer) : ctx.settle s call = (answer, call.after) := by
  simp [settle, h.1, h.2, await, hanswer]

/-- A live request sees a call to its end. -/
theorem settle_live_after (h : ctx.Live) : (ctx.settle s call).2 = call.after := by
  simp only [settle, h.1, h.2, await]
  cases call.answer <;> rfl

theorem live_default : Live {} := ⟨rfl, by decide⟩

/-- How a request made in the state `s` can go. -/
inductive Outcome (ctx : Context) (s : σ) (call : Call σ α) :
    Except BackendError α × σ → Prop
  | answered {answer : Except BackendError α} (h : call.answer = some answer) :
      Outcome ctx s call (answer, call.after)
  | unmade : Outcome ctx s call (.error .cancelled, s)
  | gaveUp {cause : BackendError} {left : σ} (h : call.firstWait = some left)
      (hcause : cause = .cancelled ∨ cause = .timedOut ctx.limit) :
      Outcome ctx s call (.error cause, left)
  | unanswered (h : call.answer = none) :
      Outcome ctx s call (.error (.timedOut ctx.limit), call.after)

theorem await_outcome (ctx : Context) (s : σ) (call : Call σ α) :
    Outcome ctx s call (ctx.await call) := by
  cases h : call.answer with
  | some answer => simpa [await, h] using Outcome.answered h
  | none => simpa [await, h] using Outcome.unanswered h

theorem settle_outcome (ctx : Context) (s : σ) (call : Call σ α) :
    Outcome ctx s call (ctx.settle s call) := by
  have hawait := ctx.await_outcome s call
  cases hint : ctx.interruption with
  | already => simpa [settle, hint] using Outcome.unmade
  | whileWaiting =>
    cases hwait : call.firstWait with
    | some left => simpa [settle, hint, hwait] using Outcome.gaveUp hwait (.inl rfl)
    | none => simpa [settle, hint, hwait] using hawait
  | never =>
    cases hzero : ctx.limit.isZero with
    | false => simpa [settle, hint, hzero] using hawait
    | true =>
      cases hwait : call.firstWait with
      | some left => simpa [settle, hint, hzero, hwait] using Outcome.gaveUp hwait (.inr rfl)
      | none => simpa [settle, hint, hzero, hwait] using hawait

/-- Whoever gets a result got it from the call. -/
theorem answer_of_settle_ok {a : α} (h : (ctx.settle s call).1 = .ok a) :
    call.answer = some (.ok a) := by
  have houtcome := ctx.settle_outcome s call
  generalize ctx.settle s call = r at houtcome h
  cases houtcome with
  | answered hanswer => exact hanswer.trans (congrArg some h)
  | _ => cases h

/-- Whoever gets a failure got it from the call, or gave up. -/
theorem answer_of_settle_error {cause : BackendError} (h : (ctx.settle s call).1 = .error cause) :
    call.answer = some (.error cause) ∨ cause = .cancelled ∨ cause = .timedOut ctx.limit := by
  have houtcome := ctx.settle_outcome s call
  generalize ctx.settle s call = r at houtcome h
  cases houtcome with
  | answered hanswer => exact .inl (hanswer.trans (congrArg some h))
  | unmade =>
    cases h
    exact .inr (.inl rfl)
  | gaveUp hwait hcause =>
    cases h
    exact .inr hcause
  | unanswered =>
    cases h
    exact .inr (.inr rfl)

end Context
end ObjectGateway
