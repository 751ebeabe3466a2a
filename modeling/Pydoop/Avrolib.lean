import Pydoop.Lib.WindowSearch
import Pydoop.Sercore.SerialUtils

/-! `avrolib.py`: `SeekableDataFileReader.align_after` and `AvroReader`, which read the records of
an Avro object container file that an input split covers. A split `[offset, offset + length)`
aligns its reader after `offset`, at the first sync marker its windowed search sees, and reads
blocks until, between two blocks, the reader is past the end of the split.

Avro's own `DataFileReader`, which is not part of this repository, is modelled after the object
container format it reads: `next` reads a block's records after skipping the sync marker in front
of it, and leaves the reader at the start of the next marker once the block is done. -/

namespace Pydoop.Avrolib

open HadoopUtils

/-- A block of an object container file: its header, which counts its records and gives their
size, and its records, each with its encoding. -/
structure Block (α : Type) where
  head : Bytes
  records : List (Bytes × α)

def Block.bytes {α : Type} (b : Block α) : Bytes := b.head ++ b.records.flatMap Prod.fst

/-- The blocks from offset `off` on, each with the offset it starts at; a marker follows each. -/
def placed {α : Type} (marker : Bytes) : Nat → List (Block α) → List (Nat × Block α)
  | _, [] => []
  | off, b :: rest => (off, b) :: placed marker (off + b.bytes.length + marker.length) rest

/-- An object container file: the part of its header before the sync marker, the marker, which
ends the header, and the blocks, each followed by the marker. -/
structure Container (α : Type) where
  metadata : Bytes
  marker : Bytes
  blocks : List (Block α)

namespace Container

variable {α : Type} (f : Container α)

def bytes : Bytes := f.metadata ++ f.marker ++ f.blocks.flatMap fun b => b.bytes ++ f.marker

/-- `self.file_length`. -/
def length : Nat := f.bytes.length

def headerLength : Nat := f.metadata.length + f.marker.length

/-- The blocks with their offsets. -/
def layout : List (Nat × Block α) := placed f.marker f.headerLength f.blocks

/-- Where the markers start: the header's, and the one after each block. -/
def markerOffsets : List Nat :=
  f.metadata.length :: f.layout.map fun ob => ob.1 + ob.2.bytes.length

/-- The records of the file, in order. -/
def records : List α := f.blocks.flatMap fun b => b.records.map Prod.snd

end Container

/-- An object container file whose sync marker has the 16 bytes Avro writes, and occurs in the
file only where the header ends and after each block. -/
structure AvroFile (α : Type) extends Container α where
  sized : marker.length = 16
  unique : ∀ p, WindowSearch.occursAt toContainer.bytes marker p = true ↔
    p ∈ toContainer.markerOffsets

/-- What `next` on avro's reader raises: `StopIteration` at the end of the file, or a failure to
read a block header where there is none. -/
inductive ReadError
  | stopIteration
  | invalidBlock
  deriving DecidableEq, Repr

/-- Avro's `DataFileReader`: `self.reader.tell()`, and the records of the current block not yet
read, whose number is `self._block_count`. -/
structure DataFileReader (α : Type) where
  pos : Nat
  pending : List (Bytes × α)
  deriving DecidableEq, Repr

namespace DataFileReader

variable {α : Type} (f : Container α)

/-- `DataFileReader(f, DatumReader())` reads the header. -/
def init : DataFileReader α := ⟨f.headerLength, []⟩

/-- The first record of a block, its offset, and the records after it; `none` for a block that
counts no records. -/
def firstRecord : Nat × Block α → Option (Nat × (Bytes × α) × List (Bytes × α))
  | (off, b) =>
    match b.records with
    | [] => none
    | r :: rest => some (off + b.head.length, r, rest)

/-- The `while self.block_count == 0` loop of `next` from offset `p`: the end of the file stops
it; a marker at `p` is skipped, and the end of the file then stops it too; then block headers are
read until one counts records. Where no block starts, there is no block header to read. -/
def readBlock (p : Nat) : Except ReadError (Nat × (Bytes × α) × List (Bytes × α)) :=
  if p = f.length then .error .stopIteration
  else
    let q := if WindowSearch.occursAt f.bytes f.marker p then p + f.marker.length else p
    if q = f.length then .error .stopIteration
    else
      match f.layout.dropWhile (·.1 ≠ q) with
      | [] => .error .invalidBlock
      | blocks =>
        match blocks.findSome? firstRecord with
        | some found => .ok found
        | none => .error .stopIteration

/-- `next(reader)`: the next record of the current block, or the first of the next block that
has records. -/
def next (r : DataFileReader α) : Except ReadError (α × DataFileReader α) :=
  match r.pending with
  | (enc, x) :: rest => .ok (x, ⟨r.pos + enc.length, rest⟩)
  | [] =>
    match readBlock f r.pos with
    | .ok (start, (enc, x), rest) => .ok (x, ⟨start + enc.length, rest⟩)
    | .error e => .error e

end DataFileReader

def FORWARD_WINDOW_SIZE : Nat := 8192

/-- `SeekableDataFileReader.align_after(offset)`. At offset 0 the reader goes back to the first
block. Otherwise the loop reads windows of `FORWARD_WINDOW_SIZE` bytes from `offset` while `pos`
is below `file_length - len(sm)`, and stops at the first window holding the marker whole, with
the reader at the marker and `_block_count` set to 0. If it finds none, the reader is where the
last read left it, or where it was if the loop never ran. -/
def alignAfter {α : Type} (f : Container α) (offset : Nat) (r : DataFileReader α) :
    DataFileReader α :=
  if offset ≤ 0 then ⟨f.headerLength, []⟩
  else
    let limit := f.length - f.marker.length
    match WindowSearch.search f.bytes f.marker FORWARD_WINDOW_SIZE limit offset with
    | .inl p => ⟨p, []⟩
    | .inr q => if offset < limit then { r with pos := q } else r

/-- An `AvroReader`: `region_start`, `region_end`, and its `SeekableDataFileReader`. -/
structure AvroReader (α : Type) where
  regionStart : Nat
  regionEnd : Nat
  reader : DataFileReader α

namespace AvroReader

variable {α : Type} (f : Container α)

/-- `AvroReader(ctx)` for the split of `length` bytes at `offset` of the file: a reader on the
file, aligned after `offset`. -/
def init (offset length : Nat) : AvroReader α :=
  ⟨offset, offset + length, alignAfter f offset (DataFileReader.init f)⟩

/-- `next()`: between two blocks, past the end of the region, `StopIteration`; otherwise the
position before the record, and the record. -/
def next (r : AvroReader α) : Except ReadError ((Nat × α) × AvroReader α) :=
  if r.reader.pos > r.regionEnd ∧ r.reader.pending = [] then .error .stopIteration
  else
    match r.reader.next f with
    | .ok (x, reader) => .ok ((r.reader.pos, x), { r with reader })
    | .error e => .error e

/-- The records a task reads from the reader: `next()` until `StopIteration`, for at most `fuel`
calls; `none` if that is not enough. -/
def records : Nat → AvroReader α → Option (Except ReadError (List (Nat × α)))
  | 0, _ => none
  | fuel + 1, r =>
    match r.next f with
    | .ok (item, r') => (records fuel r').map fun rest => rest.map (item :: ·)
    | .error .stopIteration => some (.ok [])
    | .error e => some (.error e)

end AvroReader

/-- A file of two one-record blocks, 58 bytes long, whose marker is sixteen `0xaa` bytes: the
header's marker starts at 4 and the blocks' markers at 23 and 42. -/
def sampleFile : AvroFile Nat where
  metadata := [0x4f, 0x62, 0x6a, 0x01]
  marker := List.replicate 16 0xaa
  blocks := [⟨[2, 2], [([2], 1)]⟩, ⟨[2, 2], [([4], 2)]⟩]
  sized := rfl
  unique := by
    intro p
    by_cases inside : p < 58
    · revert p
      decide +kernel
    · have past : (58 : Nat) ≤ p := by omega
      constructor
      · intro occurs
        rw [WindowSearch.occursAt_of_length_le (by decide) past] at occurs
        exact absurd occurs Bool.false_ne_true
      · intro member
        have offsets : p = 4 ∨ p = 23 ∨ p = 42 := by simpa [Container.markerOffsets,
          Container.layout, Container.headerLength, placed, Block.bytes] using member
        omega

/-- The split `[0, 23)` ends where the marker after the first block starts, and the split
`[23, 58)` starts there. The first reads both blocks, since the reader stops only once it is past
23; the second aligns at the marker at 23 and reads the second block again. -/
theorem split_at_marker_repeats_block :
    (AvroReader.init sampleFile.toContainer 0 23).records sampleFile.toContainer 10 =
        some (.ok [(20, 1), (23, 2)]) ∧
      (AvroReader.init sampleFile.toContainer 23 35).records sampleFile.toContainer 10 =
        some (.ok [(23, 2)]) ∧
      sampleFile.records = [1, 2] ∧ sampleFile.length = 58 := by
  decide +kernel

/-- `align_after(offset)` past the first byte lands on the first marker at or after `offset`
that the windowed search sees: one lying whole inside a window read from `offset`, in a window
that starts below `file_length - len(sm)`. A marker across two windows is passed over. -/
theorem alignAfter_first_seen {α : Type} (f : Container α) (r : DataFileReader α) {offset p : Nat}
    (positive : 0 < offset) (nonempty : f.marker ≠ [])
    (first : (List.range' offset (f.bytes.length + 1 - offset)).find?
      (WindowSearch.seen f.bytes f.marker FORWARD_WINDOW_SIZE (f.length - f.marker.length) offset) =
        some p) :
    alignAfter f offset r = ⟨p, []⟩ := by
  have found := WindowSearch.search_getLeft_from (by decide : 0 < FORWARD_WINDOW_SIZE)
    (Nat.sub_le f.length f.marker.length) nonempty offset offset (by simp) le_rfl
  rw [first] at found
  rw [alignAfter, if_neg (by omega)]
  dsimp only
  cases searched : WindowSearch.search f.bytes f.marker FORWARD_WINDOW_SIZE
      (f.length - f.marker.length) offset with
  | inl hit =>
    rw [searched, Sum.getLeft?_inl, Option.some_inj] at found
    rw [found]
  | inr q =>
    rw [searched] at found
    simp at found

/-- On the sample file, `align_after(5)` passes the header's marker at 4 and lands on the one at
23. -/
theorem alignAfter_first_seen_sample :
    alignAfter sampleFile.toContainer 5 (DataFileReader.init sampleFile.toContainer) = ⟨23, []⟩ :=
  alignAfter_first_seen _ _ (by decide) (by decide) (by decide +kernel)

end Pydoop.Avrolib
