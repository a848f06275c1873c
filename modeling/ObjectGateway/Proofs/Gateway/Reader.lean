import ObjectGateway.Gateway.Reader
import ObjectGateway.Proofs.Backend.Looking
import ObjectGateway.Proofs.Bytes
import ObjectGateway.Proofs.Gateway.Commands
/-!
# Reading an object

Every read gives what the payload has there. Block by block, or as a stream, a client
gets the whole of it.
-/
namespace ObjectGateway.Reader

open FsProgram

/-- The reader was opened for an object that the store holds. -/
structure Opened (m : Memory.Store) (r : Reader) (o : Memory.StoredObject) : Prop where
  there : m.object? r.entry.bucket r.entry.id = some o
  size : r.entry.size = o.payload.length

/-- Read from `pos` on with one buffer, until the end is reported. The bound is the number
of reads that may be made; when they do not get to the end, the reading fails. -/
def readBlocks (r : Reader) (buffer : Bytes) : (bound pos : Nat) → FsProgram Bytes
  | 0, _ => throw (.invalid r.path "the end is not reached")
  | bound + 1, pos => do
    let result ← r.readAt buffer pos
    let data := result.buffer.take result.count
    if result.eof then return data
    else
      let rest ← r.readBlocks buffer bound (pos + result.count)
      return data ++ rest

/-- What a read into `buffer` at `offset` comes to: as much of the payload as there is and as
fits, before what else was in the buffer. -/
def readInto (payload buffer : Bytes) (offset : Nat) : ReadResult :=
  let count := min buffer.length (payload.length - offset)
  { count
    eof := decide (count < buffer.length ∨ payload.length ≤ offset + count)
    buffer := payload.slice offset count ++ buffer.drop count }

variable {σ : Type} {b : Backend (World σ)} {holds : World σ → Memory.Store → Prop}
  {m : Memory.Store} {r : Reader} {o : Memory.StoredObject}

/-- A read gets what is there, and is told whether it reaches the end. It makes a call if it
gets anything at all. -/
theorem fetch_spends (hb : Faithful b holds) (h : r.Opened m o) (wanted offset : Nat) :
    Spends b holds m (r.fetch wanted offset)
      (if 0 < min wanted (o.payload.length - offset) then 1 else 0)
      (.ok (o.payload.slice offset wanted, decide (o.payload.length ≤ offset + wanted))) := by
  change Spends b holds m (r.fetch wanted (.ofNat offset)) _ _
  simp only [fetch, h.size]
  split
  · rename_i hend
    have hnothing : o.payload.slice offset wanted = [] := by
      simp [Bytes.slice, List.drop_eq_nil_of_le hend]
    rw [hnothing, decide_eq_true (Nat.le_trans hend (Nat.le_add_right _ _)), if_neg (by omega)]
    exact .pure _
  · split
    · rename_i hinside hzero
      subst hzero
      have hnothing : o.payload.slice offset 0 = [] := rfl
      rw [hnothing, Nat.add_zero, decide_eq_false hinside, if_neg (by omega)]
      exact .pure _
    · rename_i hinside hsome
      -- No more is asked for than there is, so the backend never refuses the range.
      have hrange : offset + min wanted (r.entry.size - offset) ≤ o.payload.length := by
        rw [h.size]
        omega
      rw [if_pos (by omega)]
      refine (reads_getRange hb r.path h.there hrange).spends.bind_free hb ?_
      have hslice : (o.payload.slice offset (min wanted (r.entry.size - offset))).take wanted =
          o.payload.slice offset wanted := by
        simp only [h.size, Bytes.slice, List.take_take, List.take_eq_take_iff, List.length_drop]
        omega
      have heof : (decide ((o.payload.slice offset wanted).length < wanted) ||
          offset + (o.payload.slice offset wanted).length == o.payload.length) =
            decide (o.payload.length ≤ offset + wanted) := by
        rw [Bool.eq_iff_iff]
        simp only [Bytes.slice, List.length_take, List.length_drop, Bool.or_eq_true,
          decide_eq_true_eq, beq_iff_eq]
        omega
      simp only [hslice, heof]
      exact .pure _

/-- A read of `wanted` bytes gets no more of the payload than there is. -/
theorem slice_min (payload : Bytes) (offset wanted : Nat) :
    payload.slice offset (min wanted (payload.length - offset)) = payload.slice offset wanted := by
  refine List.take_eq_take_iff.mpr ?_
  rw [List.length_drop, Nat.min_assoc, Nat.min_self]

theorem length_slice (payload : Bytes) (offset wanted : Nat) :
    (payload.slice offset wanted).length = min wanted (payload.length - offset) := by
  rw [Bytes.slice, List.length_take, List.length_drop]

theorem readAt_spends (hb : Faithful b holds) (h : r.Opened m o) (buffer : Bytes) (offset : Nat) :
    Spends b holds m (r.readAt buffer offset)
      (if 0 < min buffer.length (o.payload.length - offset) then 1 else 0)
      (.ok (readInto o.payload buffer offset)) := by
  rw [readAt_eq]
  refine (fetch_spends hb h buffer.length offset).bind_free hb ?_
  have heof : decide (o.payload.length ≤ offset + buffer.length) =
      decide (min buffer.length (o.payload.length - offset) < buffer.length ∨
        o.payload.length ≤ offset + min buffer.length (o.payload.length - offset)) := by
    rw [decide_eq_decide]
    omega
  simp only [readInto, length_slice, slice_min, heof]
  exact .pure _

/-- What was read is at the front of the buffer. -/
theorem take_readInto (payload buffer : Bytes) (offset : Nat) :
    (readInto payload buffer offset).buffer.take (readInto payload buffer offset).count =
      payload.slice offset buffer.length := by
  simp only [readInto, slice_min]
  rw [← length_slice, List.take_left]

/-- Block by block all the rest of the payload is read: every block that is not empty takes a
call, and one read is made in any case. With fewer reads the end is not reached. -/
theorem readBlocks_spends (hb : Faithful b holds) (h : r.Opened m o) {buffer : Bytes}
    (hbuffer : buffer ≠ []) (bound pos : Nat) :
    Spends b holds m (r.readBlocks buffer bound pos)
      (min bound (Bytes.pieceCount buffer.length (o.payload.length - pos)))
      (if max 1 (Bytes.pieceCount buffer.length (o.payload.length - pos)) ≤ bound then
        .ok (o.payload.drop pos)
      else .error (.invalid r.path "the end is not reached")) := by
  have hlength := List.length_pos_iff.mpr hbuffer
  induction bound generalizing pos with
  | zero =>
    rw [Nat.zero_min, if_neg (by omega)]
    exact .throw _
  | succ bound ih =>
    have hread := readAt_spends hb h buffer pos
    by_cases hend : o.payload.length ≤ pos + buffer.length
    · -- At most one block is left, and none if the read is at the end already.
      have hcount := Bytes.pieceCount_of_le hlength (Nat.sub_le_iff_le_add'.mpr hend)
      have heof : (readInto o.payload buffer pos).eof = true := by
        simp only [readInto, decide_eq_true_eq]
        omega
      have hrest : o.payload.slice pos buffer.length = o.payload.drop pos := by
        refine List.take_of_length_le ?_
        rw [List.length_drop]
        exact Nat.sub_le_iff_le_add'.mpr hend
      have hcalls : min (bound + 1) (min 1 (o.payload.length - pos)) =
          if 0 < min buffer.length (o.payload.length - pos) then 1 else 0 := by
        split <;> omega
      rw [hcount, if_pos (by omega), hcalls]
      refine hread.bind_free hb ?_
      rw [take_readInto, heof, hrest]
      exact .pure _
    · -- The read fills the buffer, so one block less is left for the next ones.
      have hlong : buffer.length < o.payload.length - pos := by omega
      obtain ⟨hcount, hleft⟩ := Bytes.pieceCount_of_lt hlength hlong
      rw [Nat.sub_sub] at hcount hleft
      have heof : (readInto o.payload buffer pos).eof = false := by
        simp only [readInto, decide_eq_false_iff_not]
        omega
      have hfull : (readInto o.payload buffer pos).count = buffer.length := by
        simp only [readInto]
        omega
      have hjoined : o.payload.slice pos buffer.length ++ o.payload.drop (pos + buffer.length) =
          o.payload.drop pos := by
        rw [← List.drop_drop]
        exact List.take_append_drop _ _
      have hrest := ih (pos + buffer.length)
      generalize Bytes.pieceCount buffer.length (o.payload.length - (pos + buffer.length)) = left
        at hcount hleft hrest
      have hcalls : min (bound + 1) (left + 1) = 1 + min bound left := by omega
      rw [hcount, hcalls]
      rw [if_pos (by omega)] at hread
      refine hread.bind_ok hb ?_
      rw [take_readInto, heof, hfull]
      simp only [Bool.false_eq_true, if_false]
      by_cases hbound : max 1 left ≤ bound
      · rw [if_pos hbound] at hrest
        rw [if_pos (by omega), ← hjoined]
        exact hrest.bind_free hb (.pure _)
      · rw [if_neg hbound] at hrest
        rw [if_neg (by omega)]
        exact hrest.bind_error hb

/-- With one read more than there are bytes, the end is always reached. -/
theorem readBlocks_reads (hb : Faithful b holds) (h : r.Opened m o) {buffer : Bytes}
    (hbuffer : buffer ≠ []) {bound pos : Nat} (hbound : o.payload.length - pos < bound) :
    Reads b holds m (r.readBlocks buffer bound pos) (.ok (o.payload.drop pos)) := by
  have hblocks := (readBlocks_spends hb h hbuffer bound pos).toReads
  have hfew := Bytes.pieceCount_le (List.length_pos_iff.mpr hbuffer) (o.payload.length - pos)
  rwa [if_pos (by omega)] at hblocks

/-! ## Streams -/

/-- How a stream comes to its end. -/
inductive Ending
  /-- The window has been delivered. -/
  | delivered
  /-- The next offset is no signed number of 64 bits. -/
  | outOfRange
  /-- A read before the end of the window got nothing. -/
  | empty
  | failed (cause : FsError)
  /-- As many pieces have been read as may be, and some of the window is left. -/
  | bound

namespace Ending

/-- The failure that a client is told of. -/
def failure? (path : String) : Ending → Option FsError
  | outOfRange => some (.invalid path "offset out of range")
  | failed cause => some cause
  | _ => none

end Ending

/-- The pieces of the window from `pos` to `stop`, and why there are no more of them. -/
def endingFrom (r : Reader) (stop chunk : Nat) : (bound pos : Nat) →
    Program (List Bytes × Ending)
  | 0, pos => return ([], if stop ≤ pos then .delivered else .bound)
  | bound + 1, pos => do
    if stop ≤ pos then return ([], .delivered)
    if Decimal.maxInt64 < pos then return ([], .outOfRange)
    match ← (r.fetch (min (stop - pos) chunk) pos).run with
    | .error cause => return ([], .failed cause)
    | .ok (data, _) =>
      if data.isEmpty then return ([], .empty)
      let (pieces, ending) ← r.endingFrom stop chunk bound (pos + data.length)
      return (data :: pieces, ending)

def streamEnding (r : Reader) (offset : Nat) (limit : Option Nat) (chunk : Nat) :
    Program (List Bytes × Ending) :=
  r.endingFrom (r.windowEnd offset limit) (max chunk 1) (r.windowLength offset limit) offset

/-- A stream tells its client no more than the failure. -/
theorem piecesFrom_eq (r : Reader) (stop chunk bound pos : Nat) :
    r.piecesFrom stop chunk bound pos =
      Prod.map id (Ending.failure? r.path) <$> r.endingFrom stop chunk bound pos := by
  induction bound generalizing pos with
  | zero =>
    simp only [piecesFrom, endingFrom, map_pure, Prod.map]
    split <;> rfl
  | succ bound ih =>
    simp only [piecesFrom, endingFrom, ih]
    split
    · rfl
    · split
      · rfl
      · simp only [map_bind]
        refine congrArg _ (funext fun result => ?_)
        cases result with
        | error cause => rfl
        | ok read =>
          obtain ⟨data, eof⟩ := read
          simp only
          split
          · rfl
          · simp

theorem stream_eq (r : Reader) (offset : Nat) (limit : Option Nat) (chunk : Nat) :
    r.stream offset limit chunk =
      Prod.map id (Ending.failure? r.path) <$> r.streamEnding offset limit chunk :=
  r.piecesFrom_eq _ _ _ _

/-- Whatever the backend answers, only ranges of the object are asked for. Each piece gets
closer to the end of the window, so a bound that is large enough is never what ends it. -/
theorem endingFrom_confined {A : Command → Prop}
    (hA : ∀ offset length, A (.getRange r.entry.bucket r.entry.id offset length))
    (stop chunk bound pos : Nat) :
    (r.endingFrom stop chunk bound pos).Confined A
      fun a => stop - pos ≤ bound → a.2 ≠ .bound := by
  induction bound generalizing pos with
  | zero =>
    intro hbound
    rw [if_pos (by omega)]
    exact nofun
  | succ bound ih =>
    unfold endingFrom
    split
    · exact fun _ => nofun
    · split
      · exact fun _ => nofun
      · refine Program.Confined.bind (fetch_confined hA _ _) ?_
        rintro (cause | ⟨data, eof⟩) -
        · exact fun _ => nofun
        · cases data with
          | nil => exact fun _ => nofun
          | cons x rest =>
            refine (ih _).bind fun a hending => ?_
            intro hbound
            refine hending ?_
            rw [List.length_cons]
            omega

theorem piecesFrom_confined {A : Command → Prop}
    (hA : ∀ offset length, A (.getRange r.entry.bucket r.entry.id offset length))
    (stop chunk bound pos : Nat) :
    (r.piecesFrom stop chunk bound pos).Confined A fun _ => True := by
  rw [piecesFrom_eq]
  exact (endingFrom_confined hA stop chunk bound pos).bind fun _ _ => trivial

/-- The window up to `stop` is delivered in pieces of `chunk` bytes, with one call for each. -/
theorem endingFrom_costs (hb : Faithful b holds) (h : r.Opened m o) {stop chunk : Nat}
    (hchunk : 0 < chunk) (hstop : stop ≤ o.payload.length) (hmax : stop ≤ Decimal.maxInt64 + 1)
    {bound pos : Nat} (hbound : stop - pos ≤ bound) :
    (r.endingFrom stop chunk bound pos).Costs b holds m
      (Bytes.cutFrom chunk bound ((o.payload.take stop).drop pos)).length
      (Bytes.cutFrom chunk bound ((o.payload.take stop).drop pos), .delivered) := by
  induction bound generalizing pos with
  | zero =>
    rw [endingFrom, if_pos (by omega)]
    exact .done _
  | succ bound ih =>
    unfold endingFrom
    have hwindow : ((o.payload.take stop).drop pos).length = stop - pos := by
      rw [List.length_drop, List.length_take, Nat.min_eq_left hstop]
    split
    · rename_i hend
      rw [List.eq_nil_of_length_eq_zero (hwindow.trans (Nat.sub_eq_zero_of_le hend))]
      exact .done _
    · rw [if_neg (by omega)]
      have hfetch := (fetch_spends hb h (min (stop - pos) chunk) pos).costs
      rw [if_pos (by omega)] at hfetch
      -- What is fetched is the next piece of what is left of the window.
      have hdata : o.payload.slice pos (min (stop - pos) chunk) =
          ((o.payload.take stop).drop pos).take chunk := by
        rw [List.drop_take, List.take_take, Nat.min_comm]
        rfl
      have hlength : (o.payload.slice pos (min (stop - pos) chunk)).length =
          min chunk (stop - pos) := by
        rw [hdata, List.length_take, hwindow]
      have hsome : (o.payload.slice pos (min (stop - pos) chunk)).isEmpty = false := by
        rw [List.isEmpty_eq_false_iff, ← List.length_pos_iff]
        omega
      have hrest : (o.payload.take stop).drop (pos + min chunk (stop - pos)) =
          ((o.payload.take stop).drop pos).drop chunk := by
        rw [List.drop_drop, List.drop_eq_drop_iff, List.length_take]
        omega
      have hcut : Bytes.cutFrom chunk (bound + 1) ((o.payload.take stop).drop pos) =
          o.payload.slice pos (min (stop - pos) chunk) ::
            Bytes.cutFrom chunk bound
              ((o.payload.take stop).drop (pos + min chunk (stop - pos))) := by
        rw [Bytes.cutFrom, hdata, hrest]
        intro hempty
        rw [hempty, List.length_nil] at hwindow
        omega
      rw [hcut, List.length_cons, Nat.add_comm]
      refine hfetch.bind ?_
      simp only [hsome, Bool.false_eq_true, if_false, hlength]
      exact (ih (by omega)).bind_free (.done _)

/-- The end of a window is found by the size that the reader was opened with. -/
theorem drop_take_windowEnd (h : r.Opened m o) (offset : Nat) (limit : Option Nat) :
    (o.payload.take (r.windowEnd offset limit)).drop offset = o.payload.window offset limit := by
  cases limit with
  | none =>
    have hend : r.windowEnd offset none = o.payload.length := h.size
    rw [hend, List.take_length]
    rfl
  | some limit =>
    have hend : r.windowEnd offset (some limit) = min (offset + limit) o.payload.length := by
      rw [← h.size]
      rfl
    rw [hend, List.drop_take]
    refine List.take_eq_take_iff.mpr ?_
    rw [List.length_drop]
    omega

/-- In 64 bits the end of a window would be cut off at the largest number, which is beyond
any object. -/
theorem windowEnd_saturating (r : Reader) (offset limit : Nat) (h : r.entry.size < 2 ^ 64) :
    r.windowEnd offset (some limit) = min (min (offset + limit) (2 ^ 64 - 1)) r.entry.size := by
  simp only [windowEnd]
  omega

theorem windowEnd_le (h : r.Opened m o) (offset : Nat) (limit : Option Nat) :
    r.windowEnd offset limit ≤ o.payload.length := by
  rw [← h.size]
  cases limit with
  | none => exact Nat.le_refl _
  | some limit => exact Nat.min_le_right _ _

/-- The length of a window is announced as it is. -/
theorem windowLength_eq (h : r.Opened m o) (offset : Nat) (limit : Option Nat) :
    r.windowLength offset limit = (o.payload.window offset limit).length := by
  rw [← drop_take_windowEnd h, List.length_drop, List.length_take,
    Nat.min_eq_left (windowEnd_le h offset limit)]
  rfl

/-- A window of the payload is streamed in pieces of `chunk` bytes, with one call for each. -/
theorem streamEnding_costs (hb : Faithful b holds) (h : r.Opened m o) (offset : Nat)
    (limit : Option Nat) (chunk : Nat) (hmax : o.payload.length ≤ Decimal.maxInt64 + 1) :
    (r.streamEnding offset limit chunk).Costs b holds m
      (Bytes.pieces chunk (o.payload.window offset limit)).length
      (Bytes.pieces chunk (o.payload.window offset limit), .delivered) := by
  have hstop := windowEnd_le h offset limit
  have hpieces := endingFrom_costs hb h (Bytes.pieceSize_pos chunk) hstop
    (Nat.le_trans hstop hmax) (Nat.le_of_eq (windowLength_eq h offset limit))
  rw [drop_take_windowEnd h] at hpieces
  unfold streamEnding
  rw [windowLength_eq h]
  exact hpieces

/-- A window of the payload is streamed in pieces of `chunk` bytes. -/
theorem stream_costs (hb : Faithful b holds) (h : r.Opened m o) (offset : Nat)
    (limit : Option Nat) (chunk : Nat) (hmax : o.payload.length ≤ Decimal.maxInt64 + 1) :
    (r.stream offset limit chunk).Costs b holds m
      (Bytes.pieces chunk (o.payload.window offset limit)).length
      (Bytes.pieces chunk (o.payload.window offset limit), none) := by
  rw [stream_eq]
  exact (streamEnding_costs hb h offset limit chunk hmax).bind_free (.done _)

end ObjectGateway.Reader
