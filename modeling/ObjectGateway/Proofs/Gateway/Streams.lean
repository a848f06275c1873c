import ObjectGateway.Proofs.Backend.Calls
import ObjectGateway.Proofs.Gateway.Listing
/-!
# Listings of streams

The entries of a listing come from a stream that is asked for one after another, and each
may be a failure. The first entry of each name is kept until the stream ends. At the first
failure nothing more is asked for.
-/
namespace ObjectGateway

variable {ς α β ι σ : Type}

/-- A stream of results: what it answers when it is asked in some state, nothing at its end,
and the state it is in then. -/
abbrev Source (ς α : Type) := ς → Option (Except FsError α) × ς

namespace Source

variable {next : Source ς α} {name : α → String} {kept : List α} {s left : ς}
  {r : Except FsError (List α)}

/-- Asked again and again, the stream answers these items and is in another state then. -/
inductive Gives (next : Source ς α) : ς → List α → ς → Prop
  | nil (s : ς) : Gives next s [] s
  | cons {s s' behind : ς} {x : α} {xs : List α} (h : next s = (some (.ok x), s'))
      (hrest : Gives next s' xs behind) : Gives next s (x :: xs) behind

/-- Asked once more, the stream has ended, and what was kept is the result, or it fails. -/
inductive Stops (next : Source ς α) (kept : List α) (s : ς) :
    Except FsError (List α) → ς → Prop
  | ended {left : ς} (h : next s = (none, left)) : Stops next kept s (.ok kept) left
  | failed {left : ς} {cause : FsError} (h : next s = (some (.error cause), left)) :
      Stops next kept s (.error cause) left

/-- What is kept when one item more has come. -/
def keep (name : α → String) (kept : List α) (x : α) : List α :=
  if name x ∈ kept.map name then kept else kept ++ [x]

/-- Collecting the first item of each name behind those that have been kept: what comes of
it, and the state in which the stream is left. -/
inductive Collects (next : Source ς α) (name : α → String) :
    List α → ς → Except FsError (List α) → ς → Prop
  | stops {kept : List α} {s left : ς} {r : Except FsError (List α)}
      (h : Stops next kept s r left) : Collects next name kept s r left
  | goes {kept : List α} {s s' left : ς} {x : α} {r : Except FsError (List α)}
      (h : next s = (some (.ok x), s')) (hrest : Collects next name (keep name kept x) s' r left) :
      Collects next name kept s r left

-- ---------------------------------------------------------------------------
-- What is collected
-- ---------------------------------------------------------------------------

/-- Keeping one item after another shows the first one of each name. -/
theorem foldl_keep (name : α → String) (front xs : List α) :
    xs.foldl (keep name) (Listing.distinct name front) = Listing.distinct name (front ++ xs) := by
  induction xs generalizing front with
  | nil => rw [List.append_nil, List.foldl_nil]
  | cons x xs ih =>
    have hkeep : keep name (Listing.distinct name front) x =
        Listing.distinct name (front ++ [x]) := by
      simp only [keep, Listing.distinct_append, Listing.mem_map_distinct]
    rw [List.foldl_cons, hkeep, ih, List.append_assoc, List.singleton_append]

/-- Items are kept up to where it stops, and nothing else is asked for. -/
theorem collects_iff_foldl : Collects next name kept s r left ↔ ∃ xs behind,
    next.Gives s xs behind ∧ next.Stops (xs.foldl (keep name) kept) behind r left := by
  constructor
  · intro h
    induction h with
    | @stops kept s left r h => exact ⟨[], s, .nil s, h⟩
    | @goes kept s s' left x r h _ ih =>
      obtain ⟨xs, behind, hgives, hstops⟩ := ih
      exact ⟨x :: xs, behind, .cons h hgives, hstops⟩
  · rintro ⟨xs, behind, hgives, hstops⟩
    induction hgives generalizing kept with
    | nil s => exact .stops hstops
    | cons h _ ih => exact .goes h (ih hstops)

/-- All that comes of a stream is its first failure, or else the first item of each name. -/
theorem collects_iff : Collects next name [] s r left ↔ ∃ xs behind,
    next.Gives s xs behind ∧ next.Stops (Listing.distinct name xs) behind r left := by
  have hfold : ∀ xs : List α, xs.foldl (keep name) [] = Listing.distinct name xs :=
    foldl_keep name []
  simp only [collects_iff_foldl, hfold]

/-- What is made of all that was kept. -/
theorem Stops.map (h : next.Stops kept s r left) (f : List α → List α) :
    next.Stops (f kept) s (r.map f) left := by
  cases h with
  | ended h => exact .ended h
  | failed h => exact .failed h

theorem Stops.unique (h : next.Stops kept s r left) {r' : Except FsError (List α)} {left' : ς}
    (h' : next.Stops kept s r' left') : r' = r ∧ left' = left := by
  cases h with
  | ended h => cases h' with | _ h' => simp_all
  | failed h => cases h' with | _ h' => simp_all

/-- Only one thing can come of a stream. -/
theorem Collects.unique (h : Collects next name kept s r left) {r' : Except FsError (List α)}
    {left' : ς} (h' : Collects next name kept s r' left') : r' = r ∧ left' = left := by
  -- What the stream answers decides whether it goes on.
  have hgone : ∀ {kept : List α} {s s' left : ς} {x : α} {r : Except FsError (List α)},
      next s = (some (.ok x), s') → ¬next.Stops kept s r left := by
    intro kept s s' left x r h hstops
    cases hstops with
    | _ h' => simp_all
  induction h with
  | stops hstops =>
    cases h' with
    | stops hstops' => exact hstops.unique hstops'
    | goes h' => exact (hgone h' hstops).elim
  | goes h _ ih =>
    cases h' with
    | stops hstops' => exact (hgone h hstops').elim
    | goes h' hrest' =>
      obtain ⟨hitem, rfl⟩ := Prod.mk.inj (h.symm.trans h')
      obtain rfl := Except.ok.inj (Option.some.inj hitem)
      exact ih hrest'

-- ---------------------------------------------------------------------------
-- Lists and operations as streams
-- ---------------------------------------------------------------------------

def listed : Source (List (Except FsError α)) α
  | [] => (none, [])
  | item :: rest => (some item, rest)

/-- The results that a list of operations comes to, one after another. -/
def fetched (i : Program.Interpreter σ) (f : ι → FsProgram α) : Source (List ι × σ) α
  | ([], s) => (none, [], s)
  | (x :: rest, s) => (some ((f x).run.run i s).1, rest, ((f x).run.run i s).2)

theorem listed_mapM (items : List (Except FsError α)) : ∃ xs behind left,
    listed.Gives items xs behind ∧ listed.Stops xs behind (items.mapM id) left := by
  induction items with
  | nil => exact ⟨[], [], [], .nil [], .ended rfl⟩
  | cons item rest ih =>
    cases item with
    | error cause => exact ⟨[], _, rest, .nil _, .failed rfl⟩
    | ok x =>
      obtain ⟨xs, behind, left, hgives, hstops⟩ := ih
      have hmap : (Except.ok x :: rest).mapM id = (rest.mapM id).map (x :: ·) := by
        rw [List.mapM_cons]
        cases rest.mapM id <;> rfl
      exact ⟨x :: xs, behind, left, .cons rfl hgives, hmap ▸ hstops.map (x :: ·)⟩

/-- Of a list of results comes what is shown of it. -/
theorem listed_collects (name : α → String) (items : List (Except FsError α)) :
    ∃ left, listed.Collects name [] items (Listing.firstSeen name items) left := by
  obtain ⟨xs, behind, left, hgives, hstops⟩ := listed_mapM items
  exact ⟨left, collects_iff.mpr ⟨xs, behind, hgives, hstops.map (Listing.distinct name)⟩⟩

theorem fetched_mapM (i : Program.Interpreter σ) (f : ι → FsProgram α) (ids : List ι) (s : σ) :
    ∃ xs behind rest, (fetched i f).Gives (ids, s) xs behind ∧
      (fetched i f).Stops xs behind ((ids.mapM f).run.run i s).1
        (rest, ((ids.mapM f).run.run i s).2) := by
  induction ids generalizing s with
  | nil => exact ⟨[], _, [], .nil _, .ended rfl⟩
  | cons id ids ih =>
    rw [List.mapM_cons, FsProgram.run_bind]
    cases hfetch : (f id).run.run i s with
    | mk fetch s' =>
      have hnext : fetched i f (id :: ids, s) = (some fetch, ids, s') := by
        rw [fetched, hfetch]
      cases fetch with
      | error cause => exact ⟨[], _, ids, .nil _, .failed hnext⟩
      | ok x =>
        obtain ⟨xs, behind, rest, hgives, hstops⟩ := ih s'
        have hrest := hstops.map (x :: ·)
        refine ⟨x :: xs, behind, rest, .cons hnext hgives, ?_⟩
        dsimp only
        rwa [← map_eq_pure_bind, FsProgram.run_map]

/-- Of a list of operations comes what their results show, and the state they leave. -/
theorem fetched_collects (i : Program.Interpreter σ) (name : α → String) (f : ι → FsProgram α)
    (ids : List ι) (s : σ) : ∃ rest,
      (fetched i f).Collects name [] (ids, s)
        ((Listing.distinct name <$> ids.mapM f).run.run i s).1
        (rest, ((Listing.distinct name <$> ids.mapM f).run.run i s).2) := by
  obtain ⟨xs, behind, rest, hgives, hstops⟩ := fetched_mapM i f ids s
  refine ⟨rest, collects_iff.mpr ⟨xs, behind, hgives, ?_⟩⟩
  rw [FsProgram.run_map]
  exact hstops.map (Listing.distinct name)

/-- So it is found out by following the operations. -/
theorem run_fetched {i : Program.Interpreter σ} {name : α → String} {f : ι → FsProgram α}
    {ids rest : List ι} {xs : List α} {s s' : σ} {behind : List ι × σ}
    {r : Except FsError (List α)} (hgives : (fetched i f).Gives (ids, s) xs behind)
    (hstops : (fetched i f).Stops (Listing.distinct name xs) behind r (rest, s')) :
    (Listing.distinct name <$> ids.mapM f).run.run i s = (r, s') := by
  obtain ⟨rest', hcollects⟩ := fetched_collects i name f ids s
  obtain ⟨hresult, hleft⟩ := (collects_iff.mpr ⟨xs, behind, hgives, hstops⟩).unique hcollects
  exact Prod.ext hresult (Prod.mk.inj hleft).2

end Source
end ObjectGateway
