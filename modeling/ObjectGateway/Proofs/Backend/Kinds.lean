import ObjectGateway.Config.Arguments
import ObjectGateway.Proofs.Backend.Disturbed
import ObjectGateway.Proofs.Durable.Integrity
/-!
# Either backend

What is proved for both kinds of backends is proved once: each has its states, the
states it starts out with, and a reading of its states as stores in memory that makes it
faithful.
-/
namespace ObjectGateway.Config.BackendKind

abbrev Store : BackendKind → Type
  | sqlite => Durable.Store
  | memory => Memory.Store

def backend : (k : BackendKind) → Backend (World k.Store)
  | sqlite => Durable.backend
  | memory => Memory.backend

/-- The world holds what the store in memory holds. -/
def Holds : (k : BackendKind) → World k.Store → Memory.Store → Prop
  | sqlite => Durable.Holds
  | memory => Memory.Holds

/-- The world stores what the store in memory holds. One in memory may be stalled, or told to
fail, which is no failure of a backend on disk. -/
def Stores : (k : BackendKind) → World k.Store → Memory.Store → Prop
  | sqlite => Durable.Holds
  | memory => Memory.Stocks

/-- A world with a store that is still empty. -/
def Empty : (k : BackendKind) → World k.Store → Prop
  | sqlite => Durable.Fresh
  | memory => fun w => w.store.buckets = [] ∧ w.store.Healthy

theorem faithful : (k : BackendKind) → Faithful k.backend k.Holds
  | sqlite => Durable.faithful
  | memory => Memory.faithful

theorem atomic : (k : BackendKind) → Atomic k.backend k.Stores
  | sqlite => Durable.faithful.atomic
  | memory => Memory.atomic

theorem Empty.holds {k : BackendKind} {w : World k.Store} (h : k.Empty w) : k.Holds w {} := by
  cases k with
  | sqlite => exact Durable.Fresh.holds h
  | memory =>
    obtain ⟨hbuckets, hhealthy⟩ := h
    exact ⟨⟨hhealthy, ⟨rfl, rfl⟩, hbuckets⟩, by constructor <;> simp⟩

end ObjectGateway.Config.BackendKind
