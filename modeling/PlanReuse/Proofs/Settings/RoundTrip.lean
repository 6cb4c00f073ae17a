import PlanReuse.Proofs.Toml.Lines
import PlanReuse.Proofs.Toml.Sections
import PlanReuse.Settings.Text

/-!
# Loading saved settings

Settings that are saved and loaded again are the same settings, if they are fit for use; else loading says
what makes them unfit. Every number that a 64-bit word can hold and every string survive.
-/

namespace PlanReuse

open Toml (Item Value Entries IsBare IsLine Lines sectionItems)

variable {name sectionName : String} {s : Settings}

/-! ### Lines -/

theorem isLine_wordLine (hname : IsBare name.toList) (n : Nat) :
    IsLine (wordLine name n) (.entry [] name (.integer (some n))) := by
  have hline := Toml.isLine_entry hname (Toml.writes_toDigits n)
  rw [String.ofList_toList] at hline
  exact hline

theorem isLine_stringLine (hname : IsBare name.toList) (t : String) :
    IsLine (stringLine name t) (.entry [] name (.string t)) := by
  have hline := Toml.isLine_entry hname (Toml.writes_writeString t.toList)
  rw [String.ofList_toList, String.ofList_toList] at hline
  exact hline

theorem isLine_headerLine (hname : IsBare name.toList) : IsLine (headerLine name) (.header [] name) := by
  have hnone : ∀ n ∈ ([] : List (List Char)), IsBare n := fun _ h => by cases h
  have hline := Toml.isLine_header hnone hname (by decide)
  rw [String.ofList_toList] at hline
  exact hline

theorem isLine_headerLine_dotted (hsection : IsBare sectionName.toList) (hname : IsBare name.toList) :
    IsLine (headerLine (sectionName ++ "." ++ name)) (.header [sectionName] name) := by
  have hone : ∀ n ∈ [sectionName.toList], IsBare n := fun n hn => List.mem_singleton.mp hn ▸ hsection
  have hlimit : [sectionName.toList].length < Toml.nameLimit := by
    rw [List.length_singleton]
    decide
  have hline := Toml.isLine_header hone hname hlimit
  have htext : (sectionName ++ "." ++ name).toList = Toml.dotted [sectionName.toList] name.toList := by
    simp [Toml.dotted]
  rw [headerLine, htext]
  simpa using hline

/-! ### What the lines say -/

def NumberingSettings.entries (n : NumberingSettings) : Entries :=
  [("max_node_map_bytes", .integer (some n.limit)), ("bytes_per_node", .integer (some n.shapeBytes))]

def Budget.entries (b : Budget) : Entries :=
  [("max_total_bytes", .integer (some b.total)), ("max_item_bytes", .integer (some b.item))]

def Budgets.entries (bs : Budgets) : Entries :=
  [("perfect_ht", .table .header bs.perfect.entries), ("baseline_ht", .table .header bs.baseline.entries),
    ("overlaps_ht", .table .header bs.overlaps.entries)]

def CostSettings.entries (c : CostSettings) : Entries :=
  [("dwarf_bench_path", .string c.benchmarkRoot), ("size_header", .string c.sizeColumn),
    ("time_header", .string c.timeColumn), ("decision_cache_capacity", .integer (some c.capacity))]

def LogSettings.entries (l : LogSettings) : Entries :=
  [("level", .string l.level), ("dir", .string l.directory), ("file", .string l.file),
    ("max_file_size", .integer (some l.maxFileBytes)), ("max_files", .integer (some l.maxFiles))]

def Settings.entries (s : Settings) : Entries :=
  [("dag_cache", .table .header s.numbering.entries),
    ("hashtable_cache", .table .implied s.budgets.entries),
    ("cost_model", .table .header s.cost.entries), ("log", .table .header s.log.entries)]

/-- The lines of each section. -/
def Settings.sections (s : Settings) : List (List Item) :=
  [sectionItems [] "dag_cache" s.numbering.entries,
    sectionItems ["hashtable_cache"] "perfect_ht" s.budgets.perfect.entries,
    sectionItems ["hashtable_cache"] "baseline_ht" s.budgets.baseline.entries,
    sectionItems ["hashtable_cache"] "overlaps_ht" s.budgets.overlaps.entries,
    sectionItems [] "cost_model" s.cost.entries, sectionItems [] "log" s.log.entries]

theorem NumberingSettings.lines (n : NumberingSettings) :
    Lines (headerLine "dag_cache" ++ wordLine "max_node_map_bytes" n.limit ++
      wordLine "bytes_per_node" n.shapeBytes) (sectionItems [] "dag_cache" n.entries) := by
  have hheader := isLine_headerLine (by decide : IsBare "dag_cache".toList)
  have hlimit := isLine_wordLine (by decide : IsBare "max_node_map_bytes".toList) n.limit
  have hshape := isLine_wordLine (by decide : IsBare "bytes_per_node".toList) n.shapeBytes
  exact (hheader.lines.append hlimit.lines).append hshape.lines

theorem Budget.lines_render (hname : IsBare name.toList) (b : Budget) :
    Lines (b.render ("hashtable_cache" ++ "." ++ name))
      (sectionItems ["hashtable_cache"] name b.entries) := by
  have hheader := isLine_headerLine_dotted (by decide : IsBare "hashtable_cache".toList) hname
  have htotal := isLine_wordLine (by decide : IsBare "max_total_bytes".toList) b.total
  have hitem := isLine_wordLine (by decide : IsBare "max_item_bytes".toList) b.item
  exact (hheader.lines.append htotal.lines).append hitem.lines

theorem CostSettings.lines (c : CostSettings) :
    Lines (headerLine "cost_model" ++ stringLine "dwarf_bench_path" c.benchmarkRoot ++
      stringLine "size_header" c.sizeColumn ++ stringLine "time_header" c.timeColumn ++
      wordLine "decision_cache_capacity" c.capacity) (sectionItems [] "cost_model" c.entries) := by
  have hheader := isLine_headerLine (by decide : IsBare "cost_model".toList)
  have hroot := isLine_stringLine (by decide : IsBare "dwarf_bench_path".toList) c.benchmarkRoot
  have hsize := isLine_stringLine (by decide : IsBare "size_header".toList) c.sizeColumn
  have htime := isLine_stringLine (by decide : IsBare "time_header".toList) c.timeColumn
  have hcapacity := isLine_wordLine (by decide : IsBare "decision_cache_capacity".toList) c.capacity
  exact (((hheader.lines.append hroot.lines).append hsize.lines).append htime.lines).append
    hcapacity.lines

theorem LogSettings.lines (l : LogSettings) :
    Lines (headerLine "log" ++ stringLine "level" l.level ++ stringLine "dir" l.directory ++
      stringLine "file" l.file ++ wordLine "max_file_size" l.maxFileBytes ++
      wordLine "max_files" l.maxFiles) (sectionItems [] "log" l.entries) := by
  have hheader := isLine_headerLine (by decide : IsBare "log".toList)
  have hlevel := isLine_stringLine (by decide : IsBare "level".toList) l.level
  have hdirectory := isLine_stringLine (by decide : IsBare "dir".toList) l.directory
  have hfile := isLine_stringLine (by decide : IsBare "file".toList) l.file
  have hbytes := isLine_wordLine (by decide : IsBare "max_file_size".toList) l.maxFileBytes
  have hfiles := isLine_wordLine (by decide : IsBare "max_files".toList) l.maxFiles
  exact ((((hheader.lines.append hlevel.lines).append hdirectory.lines).append hfile.lines).append
    hbytes.lines).append hfiles.lines

theorem Settings.lines_render (s : Settings) : Lines s.render s.sections.flatten := by
  apply Toml.lines_intercalate
  refine .cons s.numbering.lines (.cons ?_ (.cons ?_ (.cons ?_ (.cons s.cost.lines
    (.cons s.log.lines .nil)))))
  · exact s.budgets.perfect.lines_render (by decide : IsBare "perfect_ht".toList)
  · exact s.budgets.baseline.lines_render (by decide : IsBare "baseline_ht".toList)
  · exact s.budgets.overlaps.lines_render (by decide : IsBare "overlaps_ht".toList)

theorem Settings.assemble_sections (s : Settings) :
    Toml.assemble s.sections.flatten = some s.entries := by
  have hnumbering : (s.numbering.entries.map Prod.fst).Nodup := by simp [NumberingSettings.entries]
  have hbudget : ∀ b : Budget, (b.entries.map Prod.fst).Nodup := by simp [Budget.entries]
  have hcost : (s.cost.entries.map Prod.fst).Nodup := by simp [CostSettings.entries]
  have hlog : (s.log.entries.map Prod.fst).Nodup := by simp [LogSettings.entries]
  simp only [Toml.assemble, sections, List.flatten_cons, List.flatten_nil, List.foldlM_append]
  rw [Toml.Draft.empty, Toml.foldlM_section rfl hnumbering]
  simp only [Option.bind_eq_bind, Option.bind_some, List.nil_append]
  rw [Toml.foldlM_section_first rfl (hbudget _)]
  simp only [Option.bind_some]
  rw [Toml.foldlM_section_next rfl rfl (hbudget _)]
  simp only [Option.bind_some]
  rw [Toml.foldlM_section_next rfl rfl (hbudget _)]
  simp only [Option.bind_some]
  rw [Toml.foldlM_section rfl hcost]
  simp only [Option.bind_some]
  rw [Toml.foldlM_section rfl hlog]
  rfl

/-! ### Reading the entries -/

namespace Section

variable {α : Type} {k : String} {v : Value} {es : Entries} {names : List String} {place : Nat}
  {standard : α} {ofValue : Value → Option α}

@[simp] theorem read_cons_self :
    (named ((k, v) :: es)).read k place standard ofValue = ofValue v := by
  rw [read, field?, List.lookup_cons_self]

@[simp] theorem read_cons_of_ne (h : name ≠ k) :
    (named ((k, v) :: es)).read name place standard ofValue =
      (named es).read name place standard ofValue := by
  rw [read, field?, List.lookup_cons, beq_false_of_ne h]
  rfl

@[simp] theorem othersReadable_nil : (named []).othersReadable names = true := rfl

@[simp] theorem othersReadable_cons (h : k ∈ names) :
    (named ((k, v) :: es)).othersReadable names = (named es).othersReadable names := by
  have hknown : (!names.contains k) = false := by simpa using h
  rw [othersReadable, List.filter_cons_of_neg (by rw [hknown]; exact Bool.false_ne_true)]
  rfl

end Section

theorem wordOfValue?_integer {n : Nat} (h : n ≤ maxWord) :
    wordOfValue? (.integer (some n)) = some n := by
  have hfits : (0 : Int) ≤ n ∧ (n : Int) ≤ maxWord := ⟨Int.natCast_nonneg n, Int.ofNat_le.mpr h⟩
  rw [wordOfValue?, if_pos hfits, Int.toNat_natCast]

theorem NumberingSettings.ofSection?_entries {n : NumberingSettings} (hlimit : n.limit ≤ maxWord)
    (hshape : n.shapeBytes ≤ maxWord) : ofSection? (.named n.entries) = some n := by
  simp [ofSection?, entries, wordOfValue?_integer, hlimit, hshape]

theorem Budget.ofValue?_entries {b : Budget} (htotal : b.total ≤ maxWord) (hitem : b.item ≤ maxWord) :
    ofValue? (.table .header b.entries) = some b := by
  simp [ofValue?, Section.ofValue?, ofSection?, entries, wordOfValue?_integer, htotal, hitem]

theorem Budgets.ofSection?_entries {bs : Budgets}
    (h : ∀ c, (bs.get c).total ≤ maxWord ∧ (bs.get c).item ≤ maxWord) :
    ofSection? (.named bs.entries) = some bs := by
  have hperfect := Budget.ofValue?_entries (h .perfect).1 (h .perfect).2
  have hbaseline := Budget.ofValue?_entries (h .baseline).1 (h .baseline).2
  have hoverlaps := Budget.ofValue?_entries (h .overlaps).1 (h .overlaps).2
  simp only [Budgets.get] at hperfect hbaseline hoverlaps
  simp [ofSection?, entries, hperfect, hbaseline, hoverlaps]

theorem CostSettings.ofSection?_entries {c : CostSettings} (hcapacity : c.capacity ≤ maxWord) :
    ofSection? (.named c.entries) = some c := by
  simp [ofSection?, entries, stringOfValue?, wordOfValue?_integer, hcapacity]

theorem LogSettings.ofSection?_entries {l : LogSettings} (hbytes : l.maxFileBytes ≤ maxWord)
    (hfiles : l.maxFiles ≤ maxWord) : ofSection? (.named l.entries) = some l := by
  simp [ofSection?, entries, stringOfValue?, wordOfValue?_integer, hbytes, hfiles]

/-- The numbers among the settings. -/
def Settings.words (s : Settings) : List Nat :=
  [s.numbering.limit, s.numbering.shapeBytes, s.budgets.perfect.total, s.budgets.perfect.item,
    s.budgets.baseline.total, s.budgets.baseline.item, s.budgets.overlaps.total, s.budgets.overlaps.item,
    s.cost.capacity, s.log.maxFileBytes, s.log.maxFiles]

theorem Settings.ofEntries?_entries (h : ∀ n ∈ s.words, n ≤ maxWord) :
    ofEntries? s.entries = some s := by
  simp only [words, List.forall_mem_cons] at h
  obtain ⟨hlimit, hshape, hpt, hpi, hbt, hbi, hot, hoi, hcapacity, hbytes, hfiles, _⟩ := h
  have hnumbering := NumberingSettings.ofSection?_entries hlimit hshape
  have hbudgets : Budgets.ofSection? (.named s.budgets.entries) = some s.budgets := by
    apply Budgets.ofSection?_entries
    rintro (_ | _ | _)
    · exact ⟨hpt, hpi⟩
    · exact ⟨hbt, hbi⟩
    · exact ⟨hot, hoi⟩
  have hcost := CostSettings.ofSection?_entries hcapacity
  have hlog := LogSettings.ofSection?_entries hbytes hfiles
  simp [ofEntries?, entries, Section.ofValue?, hnumbering, hbudgets, hcost, hlog]

/-! ### Reading the file -/

theorem Settings.parse?_render (h : ∀ n ∈ s.words, n ≤ maxWord) :
    parse? (String.ofList s.render) = some s := by
  have hmark : s.render.head? ≠ some '\uFEFF' := by
    have hfirst : s.render.head? = some '[' := rfl
    rw [hfirst]
    decide
  rw [parse?, String.toList_ofList, s.lines_render.read?_eq hmark, s.assemble_sections,
    Option.bind_some, ofEntries?_entries h]

theorem text_toUTF8 (t : String) : FileRead.text (.ok t.toUTF8) = .ok t := by
  have hvalid : t.toUTF8.IsValidUTF8 := t.isValidUTF8
  have hread : String.fromUTF8? t.toUTF8 = some t := by
    rw [String.fromUTF8?, dif_pos hvalid]
    rfl
  simp only [FileRead.text, hread]

/-- Loading never gives settings that are unfit for use. -/
theorem Settings.fault?_of_load_eq_ok {file : FileRead} (h : Settings.load file = .ok s) :
    s.fault? = none := by
  rw [load] at h
  split at h
  · cases h
  · split at h
    · cases h
    · split at h
      · cases h
      · next hfault =>
        rw [← Except.ok.inj h]
        exact hfault

/-- Saved settings are loaded as they were, or refused for what makes them unfit, and what is loaded from
any file is fit. -/
theorem Settings.load_save (h : ∀ n ∈ s.words, n ≤ maxWord) :
    Settings.load (.ok s.save) =
        (match s.fault? with
        | some fault => .error (.settings fault.message)
        | none => .ok s) ∧
      ∀ (file : FileRead) (loaded : Settings), Settings.load file = .ok loaded →
        loaded.fault? = none := by
  refine ⟨?_, fun file loaded => fault?_of_load_eq_ok⟩
  rw [load, save, text_toUTF8]
  cases hfault : s.fault? with
  | some fault => simp only [parse?_render h, hfault]
  | none => simp only [parse?_render h, hfault]

/- The largest words, quotes of both kinds, three in a row, line ends, a backslash and controls. Without a
log file the same settings are refused. -/
theorem Settings.load_save_of_awkward_texts :
    let cost : CostSettings := ⟨"/bench\t\"new\"", "'size'", "a\n\"\"\"\r\nb", 1⟩
    let log : LogSettings := ⟨"\x00\x1b\x7f\\", "", "\n'''# = é", 0, maxWord⟩
    let budgets : Budgets := ⟨⟨maxWord, maxWord⟩, .standard, ⟨1, 9223372036854775808⟩⟩
    let s : Settings := ⟨⟨maxWord, 1⟩, budgets, cost, log⟩
    let unfit : Settings := { s with log := { log with maxFiles := 0 } }
    ((∀ n ∈ s.words, n ≤ maxWord) ∧ Settings.load (.ok s.save) = .ok s) ∧
      (∀ n ∈ unfit.words, n ≤ maxWord) ∧
        Settings.load (.ok unfit.save) = .error (.settings "log.max_files 必须大于0") := by
  intro cost log budgets s unfit
  have hwords : ∀ n ∈ s.words, n ≤ maxWord := by decide
  have hunfit : ∀ n ∈ unfit.words, n ≤ maxWord := by decide
  exact ⟨⟨hwords, (load_save hwords).1⟩, hunfit, (load_save hunfit).1⟩

end PlanReuse
