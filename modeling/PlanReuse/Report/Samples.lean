import PlanReuse.Costing.Sample
import PlanReuse.Files
import PlanReuse.Number.Read
import PlanReuse.Report.Rows

/-!
# Samples of a report

A benchmark writes its measurements as delimited text. The first row names the columns; two of them hold
the sizes and the times. The samples come out in ascending order whatever the order of the rows.
-/

namespace PlanReuse.Report

/-- The names of the columns that are read. -/
structure Columns where
  size : String
  time : String
deriving DecidableEq

/-- Where a row lies and what it holds. -/
def Row.describe (r : Row) : String :=
  "第 " ++ toString r.line ++ " 行: " ++ String.ofList (List.intercalate [','] r.fields)

/-- The first column of a name. -/
def findColumn (header : List (List Char)) (name : String) : Except ReportError Nat :=
  match header.findIdx? (· == name.toList) with
  | some i => .ok i
  | none => .error ⟨.missingColumn, name⟩

/-- The sample of a row. -/
def readRow (sizeColumn timeColumn : Nat) (r : Row) : Except ReportError Sample :=
  match r.fields[sizeColumn]?, r.fields[timeColumn]? with
  | some sizeText, some timeText =>
    match Number.readWord? sizeText with
    | none => .error ⟨.invalidNumber, String.ofList sizeText⟩
    | some size =>
      match Number.readDouble? timeText with
      | none => .error ⟨.invalidNumber, String.ofList timeText⟩
      | some time => .ok ⟨size, time⟩
  | _, _ => .error ⟨.malformedRow, r.describe⟩

/-- The samples of rows, up to the first error. -/
def readRows (sizeColumn timeColumn : Nat) : List Row → Except ReportError (List Sample)
  | [] => .ok []
  | r :: rs =>
    match readRow sizeColumn timeColumn r with
    | .error e => .error e
    | .ok s =>
      match readRows sizeColumn timeColumn rs with
      | .error e => .error e
      | .ok ss => .ok (s :: ss)

/-- The samples of a header and the rows under it. -/
def readTable (columns : Columns) (header : List (List Char)) (rs : List Row) :
    Except ReportError (List Sample) :=
  match findColumn header columns.size with
  | .error e => .error e
  | .ok sizeColumn =>
    match findColumn header columns.time with
    | .error e => .error e
    | .ok timeColumn =>
      match readRows sizeColumn timeColumn rs with
      | .error e => .error e
      | .ok ss => .ok (Sample.sort ss)

/-- The samples of trimmed rows, of which the first is the header. -/
def readAll (columns : Columns) : List Row → Except ReportError (List Sample)
  | [] => .error ⟨.emptyReport, "报告没有表头"⟩
  | header :: rs => readTable columns header.fields rs

/-- The samples of a report. -/
def parse (columns : Columns) (text : String) : Except ReportError (List Sample) :=
  readAll columns ((rows text.toList).map Row.trim)

/-- The samples of a report file. -/
def load (columns : Columns) (path : String) (file : FileRead) : Except ReportError (List Sample) :=
  match file.text with
  | .error fault => .error ⟨.missingReport, path ++ ": " ++ fault.message⟩
  | .ok text => parse columns text

end PlanReuse.Report
