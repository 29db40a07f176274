import ScopedQuery.Store.Cell
/-!
# Pages of a database file

A database file is made of pages of one size. A table is a tree of pages whose leaves hold its
records by the number of their row; a record that is too long for its page goes on in a chain of
other pages.

* `Pages.ofBytes?` recognises a database file.
* `Pages.records` gives the records of the table that starts at a page, with their row numbers.

Numbers are stored with their most significant byte first. No tree is followed below `heightLimit`
and no chain beyond as many pages as there are, so that damaged files are read to an end too.
-/

namespace ScopedQuery.Store

structure Pages where
  bytes : ByteArray
  pageSize : Nat
  /-- The part of a page that is in use. -/
  usable : Nat

namespace Pages

def byte (p : Pages) (place : Nat) : Nat := (p.bytes[place]?.getD 0).toNat

/-- A number of some bytes. -/
def number (p : Pages) (place width : Nat) : Nat :=
  (List.range width).foldl (fun n i => 256 * n + p.byte (place + i)) 0

def slice (p : Pages) (place length : Nat) : List UInt8 :=
  (p.bytes.extract place (place + length)).toList

/-- The first bytes of every database file. -/
def mark : List UInt8 := "SQLite format 3".toUTF8.toList ++ [0]

/-- The pages of a database file whose texts are in UTF-8. -/
def ofBytes? (bytes : ByteArray) : Option Pages :=
  let p : Pages := ⟨bytes, 0, 0⟩
  let size := if p.number 16 2 = 1 then 65536 else p.number 16 2
  if p.slice 0 16 = mark && size ≥ 512 && p.number 56 4 ≤ 1 then
    some ⟨bytes, size, size - p.byte 20⟩
  else none

def count (p : Pages) : Nat := p.bytes.size / p.pageSize

/-- The place of a page, of which the first has number 1. -/
def start (p : Pages) (page : Nat) : Nat := (page - 1) * p.pageSize

/-- A number of up to nine bytes, each but the ninth with a bit that says whether more follow, and
the place behind it. -/
def packed (p : Pages) (place : Nat) : Nat × Nat := go 8 0 place
where
  go : Nat → Nat → Nat → Nat × Nat
    | 0, n, place => (256 * n + p.byte place, place + 1)
    | left + 1, n, place =>
      let b := p.byte place
      if b < 128 then (128 * n + b, place + 1) else go left (128 * n + (b - 128)) (place + 1)

/-- A number of some bits as a signed one. -/
def signed (bits n : Nat) : Int :=
  if n < Nat.pow 2 (bits - 1) then n else (n : Int) - Nat.pow 2 bits

/-! ### Records -/

/-- The bytes of a record that stand on its own page, of `length` in all. -/
def localLength (p : Pages) (length : Nat) : Nat :=
  let most := p.usable - 35
  let least := (p.usable - 12) * 32 / 255 - 23
  let fitting := least + (length - least) % (p.usable - 4)
  if length ≤ most then length else if fitting ≤ most then fitting else least

/-- The bytes of a record that stand on other pages. -/
def overflow (p : Pages) : Nat → Nat → Nat → List UInt8
  | 0, _, _ => []
  | fuel + 1, page, length =>
    if page = 0 || length = 0 then []
    else
      let here := min length (p.usable - 4)
      p.slice (p.start page + 4) here ++
        overflow p fuel (p.number (p.start page) 4) (length - here)

/-- The bytes of a record whose first ones are at a place. -/
def payload (p : Pages) (place length : Nat) : List UInt8 :=
  let here := p.localLength length
  if here = length then p.slice place length
  else p.slice place here ++ p.overflow p.count (p.number (place + here) 4) (length - here)

/-- The number of bytes of a value by its type. -/
def valueLength (type : Nat) : Nat :=
  if type < 5 then type
  else if type = 5 then 6
  else if type < 8 then 8
  else if type < 12 then 0
  else (type - 12) / 2

/-- The value at a place of a record's bytes. -/
def valueAt (record : Pages) (place type : Nat) : Cell :=
  let length := valueLength type
  if type = 0 then .null
  else if type < 7 then .integer (.ofInt (signed (8 * length) (record.number place length)))
  else if type = 7 then .real (Float.ofBits (.ofNat (record.number place 8)))
  else if type = 8 then .integer 0
  else if type = 9 then .integer 1
  else if type % 2 = 0 then .blob (record.slice place length)
  else .text (Text.ofBytes (record.slice place length))

/-- The values of a record; the types stand up to a place, and the values behind them. -/
def values (record : Pages) (limit : Nat) : Nat → Nat → Nat → List Cell
  | 0, _, _ => []
  | fuel + 1, typePlace, place =>
    if limit ≤ typePlace then []
    else
      let (type, next) := record.packed typePlace
      record.valueAt place type :: values record limit fuel next (place + valueLength type)

/-- The cells of a record of some bytes. -/
def cellsOf (bytes : List UInt8) : List Cell :=
  let record : Pages := ⟨⟨bytes.toArray⟩, 0, 0⟩
  let (limit, first) := record.packed 0
  record.values limit bytes.length first limit

/-! ### Trees -/

/-- The places of what a page holds, each given by its distance from the page's start. -/
def entries (p : Pages) (page header width : Nat) : List Nat :=
  (List.range (p.number (header + 3) 2)).map fun i =>
    p.start page + p.number (header + width + 2 * i) 2

/-- A record of a leaf with its row number. -/
def leafRecord (p : Pages) (place : Nat) : Int × List Cell :=
  let (length, place) := p.packed place
  let (row, place) := p.packed place
  (signed 64 row, cellsOf (p.payload place length))

/-- The records of the tree under a page, with their row numbers. -/
def recordsUnder (p : Pages) : Nat → Nat → List (Int × List Cell)
  | 0, _ => []
  | fuel + 1, page =>
    let header := p.start page + (if page = 1 then 100 else 0)
    if p.byte header = 13 then (p.entries page header 8).map p.leafRecord
    else if p.byte header = 5 then
      let children := (p.entries page header 12).map fun place => p.number place 4
      (children ++ [p.number (header + 8) 4]).flatMap (recordsUnder p fuel)
    else []

/-- The greatest height of a tree of pages. -/
def heightLimit : Nat := 20

def records (p : Pages) (page : Nat) : List (Int × List Cell) := p.recordsUnder heightLimit page

end Pages

end ScopedQuery.Store
