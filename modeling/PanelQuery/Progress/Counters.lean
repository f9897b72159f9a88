import PanelQuery.Json.Record

/-!
How far a running query has come. Reports are amounts to add, apart from the elapsed time, of which
the greatest counts; sums stop at the largest 64-bit word. The outcome of several reports does not
depend on their order.
-/

namespace PanelQuery

structure Counters where
  readRows : Nat := 0
  readBytes : Nat := 0
  totalRows : Nat := 0
  elapsedMs : Nat := 0
  deriving DecidableEq, Repr

namespace Counters

/-- A sum that stops at the largest word. -/
def cappedSum (a b : Nat) : Nat := min (a + b) Decimal.uint64Max

/-- The counters after a report. -/
def add (c report : Counters) : Counters where
  readRows := cappedSum c.readRows report.readRows
  readBytes := cappedSum c.readBytes report.readBytes
  totalRows := cappedSum c.totalRows report.totalRows
  elapsedMs := max c.elapsedMs report.elapsedMs

/-! ## JSON -/

open Json.Document

def read : Json.Reader Counters := asRecord {}
  [.need "readRows" asUInt64 fun c v => { c with readRows := v.toNat },
   .need "readBytes" asUInt64 fun c v => { c with readBytes := v.toNat },
   .need "totalRowsToRead" asUInt64 fun c v => { c with totalRows := v.toNat },
   .need "elapsedMs" asUInt64 fun c v => { c with elapsedMs := v.toNat }]

def toJson (c : Counters) : Json := .obj
  [("readRows", .int c.readRows), ("readBytes", .int c.readBytes),
   ("totalRowsToRead", .int c.totalRows), ("elapsedMs", .int c.elapsedMs)]

end Counters

end PanelQuery
