import Mathlib.Data.List.Perm.Basic
import Mathlib.Data.Set.List
import PlanReuse.Proofs.Costing.SampleOrder
import PlanReuse.Report.Samples

/-!
# Faults of a report

A report is read by checks: that it has a header, that the header names both columns, then row by row that
the two fields are there and are numbers. A check that fails is a fault. The faults of a report are listed
here in the order of the checks, however far a reader gets. The reader stops at the first of them; where
there is none, the samples come out in one order, whatever the order of the rows.
-/

namespace PlanReuse

namespace Report

/-! ### What is delivered

The rows of a text with the blanks around their fields cut off. The first one is the header, the others are
the records. -/

def delivered (text : String) : List Row := (rows text.toList).map Row.trim

/-- The names in the first row; none where there is no row. -/
def header (table : List Row) : List (List Char) := (table.head?.map Row.fields).getD []

def records (table : List Row) : List Row := table.tail

namespace Reading

/-- Every row that is complete has a field. -/
def Filled (r : Reading) : Prop := ∀ row ∈ r.rows, row.fields ≠ []

theorem filled_of_rows_eq {r r' : Reading} (h : r'.rows = r.rows) (hr : r.Filled) : r'.Filled := by
  intro row hrow
  rw [h] at hrow
  exact hr row hrow

theorem filled_endRow {r : Reading} (hr : r.Filled) : r.endRow.Filled := by
  intro row hrow
  obtain rfl | hold := List.mem_cons.mp hrow
  · -- the field under way is one of the row's
    simp [endField]
  · exact hr row hold

theorem filled_plain {r : Reading} (hr : r.Filled) (c : Char) : (r.plain c).Filled := by
  unfold plain
  split
  · exact filled_of_rows_eq rfl hr
  split
  · exact filled_endRow hr
  · exact filled_of_rows_eq rfl hr

theorem filled_opening {r : Reading} (hr : r.Filled) (c : Char) : (r.opening c).Filled := by
  unfold opening
  split
  · exact filled_of_rows_eq rfl hr
  · exact filled_plain hr c

theorem filled_step {r : Reading} (hr : r.Filled) (c : Char) : (r.step c).Filled := by
  have hline : (if c = '\n' then { r with line := r.line + 1 } else r).Filled := by
    split
    · exact filled_of_rows_eq rfl hr
    · exact hr
  unfold step
  generalize (if c = '\n' then { r with line := r.line + 1 } else r) = q at hline
  dsimp only
  cases q.place with
  | betweenRows =>
    dsimp only
    split
    · exact hline
    · exact filled_opening hline c
  | fieldStart => exact filled_opening hline c
  | inField => exact filled_plain hline c
  | inQuotes =>
    dsimp only
    split <;> exact filled_of_rows_eq rfl hline
  | afterQuote =>
    dsimp only
    split
    · exact filled_of_rows_eq rfl hline
    · exact filled_plain hline c

theorem filled_foldl (text : List Char) {r : Reading} (hr : r.Filled) :
    (text.foldl step r).Filled := by
  induction text generalizing r with
  | nil => exact hr
  | cons c text ih => exact ih (filled_step hr c)

theorem fields_ne_nil_of_mem_finish {r : Reading} (hr : r.Filled) {row : Row} (h : row ∈ r.finish) :
    row.fields ≠ [] := by
  unfold finish at h
  split at h
  · exact hr row (List.mem_reverse.mp h)
  · exact filled_endRow hr row (List.mem_reverse.mp h)

end Reading

theorem fields_ne_nil_of_mem_delivered {text : String} {r : Row} (h : r ∈ delivered text) :
    r.fields ≠ [] := by
  obtain ⟨row, hrow, rfl⟩ := List.mem_map.mp h
  have hstart : Reading.start.Filled := by simp [Reading.Filled, Reading.start]
  have hfields : row.fields ≠ [] :=
    Reading.fields_ne_nil_of_mem_finish (Reading.filled_foldl _ hstart) hrow
  simpa [Row.trim] using hfields

theorem header_ne_nil_of_cons {text : String} {top : Row} {rs : List Row}
    (h : delivered text = top :: rs) : header (delivered text) ≠ [] := by
  have hfields : top.fields ≠ [] := fields_ne_nil_of_mem_delivered (by rw [h]; exact List.mem_cons_self)
  simpa [header, h] using hfields

/-! ### Faults -/

def headerFaults (names : List (List Char)) : List ReportError :=
  if names = [] then [⟨.emptyReport, "报告没有表头"⟩] else []

/-- A name that the header does not have. -/
def columnFaults (names : List (List Char)) (name : String) : List ReportError :=
  if name.toList ∈ names then [] else [⟨.missingColumn, name⟩]

/-- A field that is there but is no number. -/
def numberFaults {α : Type} (read : List Char → Option α) (field : Option (List Char)) : List ReportError :=
  match field with
  | some text => if read text = none then [⟨.invalidNumber, String.ofList text⟩] else []
  | none => []

def Row.faults (sizeColumn timeColumn : Nat) (r : Row) : List ReportError :=
  (if r.fields[sizeColumn]? = none ∨ r.fields[timeColumn]? = none then [⟨.malformedRow, r.describe⟩] else []) ++
    (numberFaults Number.readWord? r.fields[sizeColumn]? ++
      numberFaults Number.readDouble? r.fields[timeColumn]?)

/-- Where a name stands first. -/
def column (names : List (List Char)) (name : String) : Nat := names.idxOf name.toList

/-- The faults of a table, in the order of the checks. -/
def faults (columns : Columns) (table : List Row) : List ReportError :=
  headerFaults (header table) ++ (columnFaults (header table) columns.size ++
    (columnFaults (header table) columns.time ++
      (records table).flatMap
        (Row.faults (column (header table) columns.size) (column (header table) columns.time))))

/-- The sample of a row, if it has one. -/
def Row.sample? (sizeColumn timeColumn : Nat) (r : Row) : Option Sample :=
  match r.fields[sizeColumn]?.bind Number.readWord?, r.fields[timeColumn]?.bind Number.readDouble? with
  | some size, some time => some ⟨size, time⟩
  | _, _ => none

/-! ### Rows -/

section Rows

variable {i j : Nat} {r : Row} {rs : List Row}

theorem Row.sample?_eq_some_iff {s : Sample} :
    r.sample? i j = some s ↔
      r.fields[i]?.bind Number.readWord? = some s.size ∧
        r.fields[j]?.bind Number.readDouble? = some s.time := by
  obtain ⟨size, time⟩ := s
  unfold Row.sample?
  split
  · next hsize htime => simp [hsize, htime]
  · next hnone =>
    simp only [reduceCtorEq, false_iff, not_and]
    exact hnone size time

theorem exists_map_some_iff {os : List (Option Sample)} :
    (∃ ts, List.map some ts = os) ↔ ∀ o ∈ os, ∃ s, some s = o := by
  change os ∈ Set.range (List.map some) ↔ _
  rw [Set.range_list_map]
  rfl

/-- Rows have samples exactly if each of them has both numbers. -/
theorem exists_samples_iff :
    (∃ ts, List.map some ts = rs.map (Row.sample? i j)) ↔
      ∀ r ∈ rs, (∃ size, r.fields[i]?.bind Number.readWord? = some size) ∧
        ∃ time, r.fields[j]?.bind Number.readDouble? = some time := by
  rw [exists_map_some_iff, List.forall_mem_map]
  refine forall₂_congr fun r _ => ?_
  constructor
  · rintro ⟨s, hs⟩
    obtain ⟨hsize, htime⟩ := Row.sample?_eq_some_iff.mp hs.symm
    exact ⟨⟨s.size, hsize⟩, ⟨s.time, htime⟩⟩
  · rintro ⟨⟨size, hsize⟩, ⟨time, htime⟩⟩
    exact ⟨⟨size, time⟩, (Row.sample?_eq_some_iff.mpr ⟨hsize, htime⟩).symm⟩

theorem readRow_eq_ok_iff {s : Sample} : readRow i j r = .ok s ↔ r.sample? i j = some s := by
  obtain ⟨m, x⟩ := s
  unfold readRow Row.sample?
  cases r.fields[i]? with
  | none => simp
  | some sizeText =>
    cases r.fields[j]? with
    | none => simp
    | some timeText =>
      dsimp only [Option.bind_some]
      cases Number.readWord? sizeText with
      | none => simp
      | some size => cases Number.readDouble? timeText <;> simp

/-- A row is refused for the first of its faults. -/
theorem readRow_eq_error_iff {e : ReportError} :
    readRow i j r = .error e ↔ (r.faults i j).head? = some e := by
  unfold readRow Row.faults
  cases r.fields[i]? with
  | none => simp [numberFaults]
  | some sizeText =>
    cases r.fields[j]? with
    | none => simp
    | some timeText =>
      dsimp only [numberFaults]
      cases Number.readWord? sizeText with
      | none => simp
      | some size => cases Number.readDouble? timeText <;> simp

theorem Row.faults_eq_nil_of_readRow {s : Sample} (h : readRow i j r = .ok s) : r.faults i j = [] := by
  cases hfaults : r.faults i j with
  | nil => rfl
  | cons e es =>
    have herror : readRow i j r = .error e := readRow_eq_error_iff.mpr (by rw [hfaults]; rfl)
    rw [h] at herror
    cases herror

theorem readRows_cons_eq_ok_iff {ss : List Sample} :
    readRows i j (r :: rs) = .ok ss ↔
      ∃ s ts, ss = s :: ts ∧ readRow i j r = .ok s ∧ readRows i j rs = .ok ts := by
  rw [readRows]
  cases readRow i j r with
  | error e => simp
  | ok s => cases readRows i j rs <;> simp [eq_comm]

theorem readRows_eq_ok_iff {ss : List Sample} :
    readRows i j rs = .ok ss ↔ ss.map some = rs.map (Row.sample? i j) := by
  induction rs generalizing ss with
  | nil =>
    rw [readRows, Except.ok.injEq, List.map_nil, List.map_eq_nil_iff]
    exact eq_comm
  | cons r rs ih =>
    rw [readRows_cons_eq_ok_iff, List.map_cons, List.map_eq_cons_iff]
    constructor
    · rintro ⟨s, ts, rfl, hs, hts⟩
      exact ⟨s, ts, rfl, (readRow_eq_ok_iff.mp hs).symm, ih.mp hts⟩
    · rintro ⟨s, ts, rfl, hs, hts⟩
      exact ⟨s, ts, rfl, readRow_eq_ok_iff.mpr hs.symm, ih.mpr hts⟩

/-- Rows are refused for the first fault of the first row that has one. -/
theorem readRows_eq_error_iff {e : ReportError} :
    readRows i j rs = .error e ↔ (rs.flatMap (Row.faults i j)).head? = some e := by
  induction rs with
  | nil => simp [readRows]
  | cons r rs ih =>
    rw [List.flatMap_cons, List.head?_append]
    cases hr : readRow i j r with
    | error e' =>
      have hfirst := readRow_eq_error_iff.mp hr
      simp [readRows, hr, hfirst]
    | ok s =>
      -- a row that is read has no fault, so the first one is in the rows after it
      have hnil := Row.faults_eq_nil_of_readRow hr
      rw [hnil, List.head?_nil, Option.none_or, ← ih]
      cases hrs : readRows i j rs <;> simp [readRows, hr, hrs]

end Rows

/-! ### Tables -/

theorem findColumn_of_mem {names : List (List Char)} {name : String} (h : name.toList ∈ names) :
    findColumn names name = .ok (column names name) := by
  have hfirst : names.findIdx? (· == name.toList) = some (column names name) :=
    List.findIdx?_eq_some_iff_findIdx_eq.mpr ⟨List.idxOf_lt_length_of_mem h, rfl⟩
  rw [findColumn, hfirst]

theorem findColumn_of_notMem {names : List (List Char)} {name : String} (h : name.toList ∉ names) :
    findColumn names name = .error ⟨.missingColumn, name⟩ := by
  have hnone : names.findIdx? (· == name.toList) = none := by
    rw [List.findIdx?_eq_none_iff]
    intro found hfound
    rw [beq_eq_false_iff_ne]
    rintro rfl
    exact h hfound
  rw [findColumn, hnone]

section Tables

variable {columns : Columns} {names : List (List Char)} {rs : List Row}

theorem readTable_eq_ok_iff {ss : List Sample} :
    readTable columns names rs = .ok ss ↔
      columns.size.toList ∈ names ∧ columns.time.toList ∈ names ∧
        ∃ ts, ts.map some =
            rs.map (Row.sample? (column names columns.size) (column names columns.time)) ∧
          Sample.sort ts = ss := by
  unfold readTable
  by_cases hsize : columns.size.toList ∈ names
  case neg => simp [findColumn_of_notMem hsize, hsize]
  by_cases htime : columns.time.toList ∈ names
  case neg => simp [findColumn_of_mem hsize, findColumn_of_notMem htime, htime]
  simp only [findColumn_of_mem hsize, findColumn_of_mem htime, hsize, htime, true_and, ← readRows_eq_ok_iff]
  cases readRows (column names columns.size) (column names columns.time) rs <;> simp

theorem readTable_eq_error_iff {e : ReportError} :
    readTable columns names rs = .error e ↔
      (columnFaults names columns.size ++ (columnFaults names columns.time ++
        rs.flatMap (Row.faults (column names columns.size) (column names columns.time)))).head? =
        some e := by
  unfold readTable
  by_cases hsize : columns.size.toList ∈ names
  case neg => simp [findColumn_of_notMem hsize, columnFaults, hsize]
  by_cases htime : columns.time.toList ∈ names
  case neg => simp [findColumn_of_mem hsize, findColumn_of_notMem htime, columnFaults, hsize, htime]
  simp only [findColumn_of_mem hsize, findColumn_of_mem htime, columnFaults, hsize, htime, if_true,
    List.nil_append, ← readRows_eq_error_iff]
  cases readRows (column names columns.size) (column names columns.time) rs <;> simp

end Tables

/-! ### Reports -/

section Reports

variable {columns : Columns} {text : String}

theorem parse_eq_ok_iff {ss : List Sample} :
    parse columns text = .ok ss ↔
      header (delivered text) ≠ [] ∧ columns.size.toList ∈ header (delivered text) ∧
        columns.time.toList ∈ header (delivered text) ∧
        ∃ ts, ts.map some = (records (delivered text)).map
            (Row.sample? (column (header (delivered text)) columns.size)
              (column (header (delivered text)) columns.time)) ∧
          Sample.sort ts = ss := by
  change readAll columns (delivered text) = .ok ss ↔ _
  cases htable : delivered text with
  | nil => simp [readAll, header]
  | cons top rs =>
    have hheader := header_ne_nil_of_cons htable
    rw [htable] at hheader
    rw [readAll, readTable_eq_ok_iff]
    exact ⟨fun h => ⟨hheader, h⟩, fun h => h.2⟩

theorem parse_eq_error_iff {e : ReportError} :
    parse columns text = .error e ↔ (faults columns (delivered text)).head? = some e := by
  change readAll columns (delivered text) = .error e ↔ _
  cases htable : delivered text with
  | nil => simp [readAll, faults, headerFaults, header]
  | cons top rs =>
    have hheader := header_ne_nil_of_cons htable
    rw [htable] at hheader
    rw [readAll, readTable_eq_error_iff, faults, headerFaults, if_neg hheader, List.nil_append]
    rfl

theorem Row.map_sample?_eq_map_fields (i j : Nat) (rs : List Row) :
    rs.map (Row.sample? i j) = (rs.map Row.fields).map fun fields => Row.sample? i j ⟨0, fields⟩ := by
  rw [List.map_map]
  rfl

/-- The order of the rows under the header does not show in the samples. -/
theorem parse_eq_of_perm {other : String} {ss : List Sample} (h : parse columns text = .ok ss)
    (hheader : header (delivered other) = header (delivered text))
    (hperm : ((records (delivered other)).map Row.fields).Perm
      ((records (delivered text)).map Row.fields)) :
    parse columns other = .ok ss := by
  obtain ⟨hne, hsize, htime, ts, hts, rfl⟩ := parse_eq_ok_iff.mp h
  rw [parse_eq_ok_iff, hheader]
  refine ⟨hne, hsize, htime, ?_⟩
  set os := (records (delivered other)).map (Row.sample? _ _) with hos
  -- the rows' lines may differ, but they do not enter the samples
  have hsamples : os.Perm (ts.map some) := by
    rw [hos, hts, Row.map_sample?_eq_map_fields, Row.map_sample?_eq_map_fields]
    exact hperm.map _
  have hsome : ∀ o ∈ os, ∃ s, some s = o := by
    intro o ho
    obtain ⟨s, -, hs⟩ := List.mem_map.mp (hsamples.mem_iff.mp ho)
    exact ⟨s, hs⟩
  obtain ⟨us, hus⟩ := exists_map_some_iff.mpr hsome
  have hust : us.Perm ts := by
    rw [← hus] at hsamples
    exact (List.map_perm_map_iff (Option.some_injective _)).mp hsamples
  exact ⟨us, hus, Sample.eq_sort ((Sample.sort_perm us).trans hust) (Sample.sort_pairwise us)⟩

/-- A report gives what its header and the rows under it say: samples exactly where every check holds, all
of them, in their one order; and otherwise the fault of the first check that fails. -/
theorem parse_meets_checks (columns : Columns) (text : String) :
    let table := delivered text
    let i := column (header table) columns.size
    let j := column (header table) columns.time
    ((∃ ss, parse columns text = .ok ss) ↔
      header table ≠ [] ∧ columns.size.toList ∈ header table ∧ columns.time.toList ∈ header table ∧
        ∀ r ∈ records table, (∃ size, r.fields[i]?.bind Number.readWord? = some size) ∧
          ∃ time, r.fields[j]?.bind Number.readDouble? = some time) ∧
    (∀ ss, parse columns text = .ok ss →
      (ss.map some).Perm ((records table).map (Row.sample? i j)) ∧ ss.Pairwise Sample.NotAfter ∧
      ∀ other, header (delivered other) = header table →
        ((records (delivered other)).map Row.fields).Perm ((records table).map Row.fields) →
        parse columns other = .ok ss) ∧
    ∀ e, parse columns text = .error e ↔ (faults columns table).head? = some e := by
  intro table i j
  refine ⟨?succeeds, ?result, fun e => parse_eq_error_iff⟩
  case succeeds =>
    rw [← exists_samples_iff]
    constructor
    · rintro ⟨ss, h⟩
      obtain ⟨hne, hsize, htime, ts, hts, -⟩ := parse_eq_ok_iff.mp h
      exact ⟨hne, hsize, htime, ts, hts⟩
    · rintro ⟨hne, hsize, htime, ts, hts⟩
      exact ⟨Sample.sort ts, parse_eq_ok_iff.mpr ⟨hne, hsize, htime, ts, hts, rfl⟩⟩
  case result =>
    intro ss h
    obtain ⟨-, -, -, ts, hts, rfl⟩ := parse_eq_ok_iff.mp h
    refine ⟨?_, Sample.sort_pairwise ts, fun other => parse_eq_of_perm h⟩
    rw [← hts]
    exact (Sample.sort_perm ts).map some

/- Ragged rows, a repeated name, a blank line, quotes and three rows of one size; the same rows in another
order; and a report with two faults. -/
theorem parse_meets_checks_of_ragged_rows :
    let columns : Columns := ⟨"size", "time"⟩
    let ss : List Sample :=
      [⟨10, ⟨0x4024000000000000⟩⟩, ⟨20, ⟨0x8000000000000000⟩⟩, ⟨20, ⟨0⟩⟩, ⟨20, ⟨0x4004000000000000⟩⟩]
    parse columns " time ,size,size\n2.5, 20 ,9,more\n\n\"1e1\",\"+10\"\n0,20\n-0,20\n" = .ok ss ∧
      parse columns "time,size,size\n-0,20\n2.5,20,9,more\n0,20\n1e1,+10" = .ok ss ∧
      parse columns "time,size\n1,x\n5\n" = .error ⟨.invalidNumber, "x"⟩ := by
  intro columns ss
  obtain ⟨hsucceeds, hresult, -⟩ := parse_meets_checks columns
    " time ,size,size\n2.5, 20 ,9,more\n\n\"1e1\",\"+10\"\n0,20\n-0,20\n"
  obtain ⟨-, -, herror⟩ := parse_meets_checks columns "time,size\n1,x\n5\n"
  obtain ⟨ts, hts⟩ := hsucceeds.mpr ⟨by decide +kernel, by decide +kernel, by decide +kernel, by
    simp only [← Option.isSome_iff_exists]
    decide +kernel⟩
  obtain ⟨hperm, hsorted, hreordered⟩ := hresult ts hts
  have hsame : ts = ss := by
    have hts_perm : ts.Perm ss := by
      apply (List.map_perm_map_iff (Option.some_injective Sample)).mp
      exact hperm.trans (by decide +kernel)
    exact (Sample.eq_sort hts_perm hsorted).trans
      (Sample.eq_sort (List.Perm.refl ss) (by decide +kernel)).symm
  subst hsame
  exact ⟨hts, hreordered _ (by decide +kernel) (by decide +kernel), (herror _).mpr (by decide +kernel)⟩

end Reports

end Report
end PlanReuse
