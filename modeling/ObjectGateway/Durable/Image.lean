import ObjectGateway.Durable.Image.Record
import ObjectGateway.Fault.System
/-!
# Database files

A database file is a row of pages of one size. The first page begins with a head
that says how the file is to be read, and is the root of the table that holds
the schema. A table is a tree: inner pages lead to others, leaves hold records,
and a record too long for its page goes on in a chain of further pages.
-/
namespace ObjectGateway.Durable

/-- The encodings that texts are stored in. -/
inductive Encoding
  | utf8
  | utf16 (bigEndian : Bool)
deriving DecidableEq, Repr

/-- The content of a database file, and what its head says. -/
structure Image where
  content : Array UInt8
  pageSize : Nat
  /-- The part of a page that is used. -/
  usable : Nat
  pages : Nat

namespace Image

def magic : Bytes := Bytes.ofText "SQLite format 3\x00"

/-- The number in `count` bytes from `start` on. What lies behind the end of the
file counts as zero. -/
def numberAt (content : Array UInt8) (start count : Nat) : Nat :=
  Stored.number ((List.range count).map fun i => content.getD (start + i) 0)

/-- Whether a number is a power of two. -/
def isPowerOfTwo (n : Nat) : Bool := n != 0 && (n &&& (n - 1)) == 0

/-- The page size that a head asks for, if files may have it. -/
def pageSize? (content : Array UInt8) : Option Nat :=
  let n := numberAt content 16 2
  let size := if n = 1 then 65536 else n
  if isPowerOfTwo size && 512 ≤ size then some size else none

/-- The page size that is assumed until a head says otherwise. -/
def usualPageSize : Nat := 4096

/-- The number of pages of a file, the last one possibly incomplete. -/
def pagesOf (length pageSize : Nat) : Nat := (length + pageSize - 1) / pageSize

/-- Whether a file counts as one that holds no database yet. -/
def isBlank (content : Bytes) : Bool := content.length ≤ 1

/-- Whether a file says that it is a database of a kind that can be read. -/
def isKnown (content : Array UInt8) : Bool :=
  content.toList.take 16 == magic && numberAt content 19 1 ≤ 2

/-- Whether the changes of a database are kept in a log of their own. -/
def keepsLog (content : Array UInt8) : Bool := numberAt content 19 1 == 2

/-- The image in a file of a known kind. The head counts the pages, unless the file
has been changed by somebody who does not keep count. -/
def ofContent (content : Array UInt8) : Except DatabaseError Image := do
  let byte (i : Nat) := numberAt content i 1
  let present := pagesOf content.size ((pageSize? content).getD usualPageSize)
  let counted := numberAt content 28 4
  let pages :=
    if counted = 0 || numberAt content 24 4 != numberAt content 92 4 then present else counted
  if byte 21 ≠ 64 ∨ byte 22 ≠ 32 ∨ byte 23 ≠ 32 then throw .notADatabase
  match pageSize? content with
  | none => throw .notADatabase
  | some pageSize =>
    if pages > present then throw .malformed
    let usable := pageSize - byte 20
    if usable < 480 then throw .notADatabase
    return { content, pageSize, usable, pages }

/-! ## The head -/

/-- Whether files of this version may be written. -/
def isWritable (i : Image) : Bool := numberAt i.content 18 1 ≤ 2

/-- The version of the schema's form, by its last byte. -/
def schemaForm (i : Image) : Nat := numberAt i.content 47 1

def encoding (i : Image) : Encoding :=
  match numberAt i.content 56 4 % 4 with
  | 2 => .utf16 false
  | 3 => .utf16 true
  | _ => .utf8

/-! ## Trees -/

/-- The greatest number of levels of a tree. -/
def maxDepth : Nat := 20

/-- Where a page begins in the file. -/
def pageStart (i : Image) (page : Nat) : Nat := (page - 1) * i.pageSize

/-- Where the head of a page begins: behind the head of the file on the first. -/
def headStart (i : Image) (page : Nat) : Nat :=
  i.pageStart page + if page = 1 then 100 else 0

/-- The bytes of a page between two positions. -/
def pageSlice (i : Image) (page start stop : Nat) : Bytes :=
  (List.range (stop - start)).map fun k => i.content.getD (i.pageStart page + start + k) 0

/-- Whether a page can be the root of a tree. -/
def isTree (i : Image) (page : Nat) : Bool :=
  1 < page && page ≤ i.pages &&
    [2, 5, 10, 13].contains (numberAt i.content (i.headStart page) 1)

/-- The content of a chain of pages, as far as it is needed. The bound is the
number of pages in it. -/
def chain (i : Image) : (bound page needed : Nat) → Option Bytes
  | _, _, 0 => some []
  | 0, _, _ => none
  | bound + 1, page, needed =>
    if page = 0 ∨ i.pages < page then none
    else do
      let here := (i.pageSlice page 4 i.usable).take needed
      let next := numberAt i.content (i.pageStart page) 4
      return here ++ (← chain i bound next (needed - here.length))

/-- The number of bytes of a record that lie in its leaf. -/
def localLength (i : Image) (length : Nat) : Nat :=
  let most := i.usable - 35
  let least := (i.usable - 12) * 32 / 255 - 23
  let wanted := least + (length - least) % (i.usable - 4)
  if length ≤ most then length else if wanted ≤ most then wanted else least

/-- The record of a leaf's cell. -/
def record? (i : Image) (cell : Bytes) : Option Bytes := do
  let (length, rest) ← Stored.varint cell
  let (_, rest) ← Stored.varint rest
  let here := i.localLength length
  if rest.length < here then none
  else if here = length then return rest.take here
  else
    let next := Stored.number ((rest.drop here).take 4)
    return rest.take here ++ (← i.chain i.pages next (length - here))

/-- The records below a page in order. The bound is the number of levels. -/
def records (i : Image) : (bound page : Nat) → (isRoot : Bool) → Option (List Bytes)
  | 0, _, _ => none
  | bound + 1, page, isRoot =>
    if page = 0 ∨ i.pages < page then none
    else
      let head := i.headStart page
      let kind := numberAt i.content head 1
      let count := numberAt i.content (head + 3) 2
      let cellAt (pointers k : Nat) : Bytes :=
        let start := numberAt i.content (pointers + 2 * k) 2 % i.pageSize
        i.pageSlice page start i.pageSize
      if count > (i.pageSize - 8) / 6 ∨ (count = 0 ∧ !isRoot) then none
      else if kind = 13 then
        (List.range count).mapM fun k => i.record? (cellAt (head + 8) k)
      else if kind = 5 then do
        let below := (List.range count).map fun k =>
          Stored.number ((cellAt (head + 12) k).take 4)
        let last := numberAt i.content (head + 8) 4
        let found ← (below ++ [last]).mapM fun child => records i bound child false
        return found.flatten
      else none

/-! ## Room -/

/-- The size of the gaps between the cells of a page, which form a chain from `gap`
on. The bound is the number of gaps. -/
def gaps (i : Image) (page : Nat) : (bound gap : Nat) → Option Nat
  | 0, _ => none
  | bound + 1, gap =>
    let start := i.pageStart page + gap
    let next := numberAt i.content start 2
    let size := numberAt i.content (start + 2) 2
    if gap > i.usable - 4 then none
    else if next > gap + size + 3 then do return size + (← gaps i page bound next)
    else if next > 0 ∨ gap + size > i.usable then none
    else some size

/-- The pages from the root of a tree to its last leaf. The bound is the number of
levels. -/
def lastPages (i : Image) : (bound page : Nat) → List Nat
  | 0, _ => []
  | bound + 1, page =>
    let head := i.headStart page
    page ::
      if numberAt i.content head 1 = 5 then lastPages i bound (numberAt i.content (head + 8) 4)
      else []

/-- Whether a page accounts for its room: its cells, the gaps between them and the
free part add up to no more than the page. -/
def hasSoundRoom (i : Image) (page : Nat) : Bool :=
  let head := i.headStart page
  let number (offset count : Nat) := numberAt i.content (head + offset) count
  let headSize := if number 0 1 = 5 then 12 else 8
  let cellsFrom := head - i.pageStart page + headSize + 2 * number 3 2
  let top := if number 5 2 = 0 then 65536 else number 5 2
  let gap := number 1 2
  let inGaps := if gap = 0 then some 0 else if gap < top then none else i.gaps page i.pageSize gap
  match inGaps with
  | none => false
  | some size =>
    let free := number 7 1 + top + size
    cellsFrom ≤ free && free ≤ i.usable

/-- Whether pages can be taken: there are fewer free pages than pages, the first of
them exists, and so does the last root that is kept track of. The schema's table
must have room for what is made. -/
def canGrow (i : Image) : Bool :=
  let free := numberAt i.content 36 4
  let first := numberAt i.content 32 4
  (free = 0 || (free < i.pages && 0 < first && first ≤ i.pages)) &&
    numberAt i.content 52 4 ≤ i.pages && (i.lastPages maxDepth 1).all i.hasSoundRoom

/-! ## The schema -/

/-- The rows of the schema's table in order. -/
def schemaRows (i : Image) : Except DatabaseError (List (List Stored)) := do
  match i.records maxDepth 1 true with
  | none => throw .malformed
  | some found =>
    match found.mapM Stored.ofRecord? with
    | none => throw .malformed
    | some rows => return rows

end Image
end ObjectGateway.Durable
