import VSwitch.Bytes
import VSwitch.Table

/-!
# Reports

A report is a value made ready for a printer of whatever format: numbers, texts, octets, lists of
reports and records of named ones.

* `VSwitch.Report` is a report and `VSwitch.Reportable` the types whose values have one;
* `VSwitch.Report.field` is one entry of a record.
-/

namespace VSwitch

/-- A value made ready for a printer. -/
inductive Report
  /-- Nothing. -/
  | nothing
  /-- A truth value. -/
  | flag (b : Bool)
  /-- A number. -/
  | number (n : Int)
  /-- A number of 64 bits, which may be too wide for a printer's numbers. -/
  | wide (n : UInt64)
  /-- A text. -/
  | text (s : String)
  /-- Octets. -/
  | octets (b : Bytes)
  /-- A list. -/
  | list (items : List Report)
  /-- A record. -/
  | record (fields : List (String × Report))

/-- Types whose values have a report. -/
class Reportable (α : Type) where
  /-- The report of a value. -/
  report : α → Report

export Reportable (report)

namespace Report

/-- An entry of a record. -/
def field {α : Type} [Reportable α] (name : String) (a : α) : String × Report := (name, report a)

/-- The fields of a record; other reports have none. -/
def fields : Report → List (String × Report)
  | record fields => fields
  | _ => []

/-- A record with more entries. -/
def extend (r : Report) (more : List (String × Report)) : Report := .record (r.fields ++ more)

/-- What is reported of a value that there is no telling. -/
def failure : Report := .record [("error", .text "panic")]

end Report

open Report

variable {α β : Type} [Reportable α] [Reportable β]

instance : Reportable Report := ⟨id⟩
instance : Reportable Bool := ⟨.flag⟩
instance : Reportable Int := ⟨.number⟩
instance : Reportable Nat := ⟨fun n => .number n⟩
instance : Reportable UInt8 := ⟨fun n => .number n.toNat⟩
instance : Reportable UInt16 := ⟨fun n => .number n.toNat⟩
instance : Reportable UInt32 := ⟨fun n => .number n.toNat⟩
instance : Reportable UInt64 := ⟨.wide⟩
instance : Reportable Int32 := ⟨fun n => .number n.toInt⟩
instance : Reportable String := ⟨.text⟩
instance : Reportable Unit := ⟨fun _ => .text "ok"⟩
instance : Reportable (List α) := ⟨fun l => .list (l.map report)⟩
instance : Reportable Bytes := ⟨.octets⟩
instance {n : Nat} : Reportable (Octets n) := ⟨fun o => .octets o.val⟩
instance : Reportable (Option α) := ⟨fun a => a.elim .nothing report⟩
instance : Reportable (α × β) := ⟨fun p => .list [report p.1, report p.2]⟩
instance [KeyOrder α] : Reportable (Table α β) := ⟨fun t => report t.entries⟩

end VSwitch
