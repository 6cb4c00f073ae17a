import PlanReuse.Proofs.Lookup
import PlanReuse.Toml.Document

/-!
# Sections of a document

A header and the entries below it make one table, if the header names no table that is there and no entry
is made twice. Where the header is dotted the table lies inside another one, which the first of such
headers makes.
-/

namespace PlanReuse.Toml

variable {o : Origin} {es sub done entries : Entries} {k key : String} {v w : Value}
  {path current : List String} {f : Change}

/-! ### The last entry of a table -/

theorem ne_of_lookup_eq_none (h : es.lookup k = none) : ∀ e ∈ es, e.1 ≠ k := fun e he heq =>
  bne_iff_ne.mp (List.lookup_eq_none_iff.mp h e he) heq.symm

theorem lookup_append_self (h : es.lookup k = none) (v : Value) : (es ++ [(k, v)]).lookup k = some v := by
  rw [List.lookup_append, h, Option.none_or, List.lookup_cons_self]

theorem setEntry_append (h : ∀ e ∈ es, e.1 ≠ k) (rest : Entries) (v : Value) :
    setEntry (es ++ rest) k v = es ++ setEntry rest k v := by
  induction es with
  | nil => rfl
  | cons e es ih =>
    have he : e.1 ≠ k := h e List.mem_cons_self
    rw [List.cons_append, setEntry, if_neg he, ih fun d hd => h d (List.mem_cons_of_mem e hd)]
    rfl

theorem setEntry_append_self (h : es.lookup k = none) (v w : Value) :
    setEntry (es ++ [(k, w)]) k v = es ++ [(k, v)] := by
  rw [setEntry_append (ne_of_lookup_eq_none h), setEntry, if_pos rfl]

theorem setEntry_of_lookup_eq_none (h : es.lookup k = none) (v : Value) :
    setEntry es k v = es ++ [(k, v)] := by
  have hend := setEntry_append (ne_of_lookup_eq_none h) [] v
  rw [List.append_nil] at hend
  exact hend

/-! ### Changes along a path -/

/-- A path that leads to a missing table makes it. -/
theorem changeAt_missing (h : es.lookup k = none) :
    changeAt false f (k :: path) o es =
      (changeAt false f path .implied []).map fun p => (o, es ++ [(k, .table p.1 p.2)]) := by
  rw [changeAt, h]
  simp only [setEntry_of_lookup_eq_none h]
  rfl

theorem changeAt_last {o' : Origin} (h : es.lookup k = none) (ho : o' ≠ .braces) :
    changeAt false f (k :: path) o (es ++ [(k, .table o' sub)]) =
      (changeAt false f path o' sub).map fun p => (o, es ++ [(k, .table p.1 p.2)]) := by
  have hopen : o'.isOpen false = true := by
    cases o' with
    | braces => exact absurd rfl ho
    | header | implied | dotted => rfl
  rw [changeAt, lookup_append_self h]
  simp only [hopen, if_true, setEntry_append_self h]

/-- The table at the end of a path is the open one of a document: `fill` puts it into its place. -/
def Reaches (path : List String) (o : Origin) (fill : Origin → Entries → Entries) : Prop :=
  ∀ (f : Change) (es : Entries), changeAt false f path o (fill .header es) =
    (f .header es).map fun p => (o, fill p.1 p.2)

theorem reaches_last (h : es.lookup k = none) :
    Reaches [k] o fun o' es' => es ++ [(k, .table o' es')] := by
  intro f es'
  rw [changeAt_last h (by decide)]
  rfl

theorem Reaches.below {fill : Origin → Entries → Entries} (hin : Reaches path .implied fill)
    (h : es.lookup k = none) :
    Reaches (k :: path) o fun o' es' => es ++ [(k, .table .implied (fill o' es'))] := by
  intro f es'
  rw [changeAt_last h (by decide), hin, Option.map_map]
  rfl

/-! ### Entries of the open table -/

/-- The lines of a section. -/
def sectionItems (path : List String) (key : String) (entries : Entries) : List Item :=
  .header path key :: entries.map fun e => .entry [] e.1 e.2

theorem foldlM_entries {fill : Origin → Entries → Entries} (h : Reaches path o fill)
    (hnodup : ((done ++ entries).map Prod.fst).Nodup) :
    (entries.map fun e => Item.entry [] e.1 e.2).foldlM Draft.add ⟨o, fill .header done, path⟩ =
      some ⟨o, fill .header (done ++ entries), path⟩ := by
  induction entries generalizing done with
  | nil =>
    rw [List.append_nil]
    rfl
  | cons e entries ih =>
    obtain ⟨k, v⟩ := e
    have hfresh : done.lookup k = none := by
      rw [List.lookup_eq_none_iff]
      intro d hd
      rw [List.map_append, List.map_cons] at hnodup
      have hnew := List.disjoint_of_nodup_append hnodup (List.mem_map_of_mem hd)
      exact bne_iff_ne.mpr fun heq => hnew (heq ▸ List.mem_cons_self)
    have hadd : addAt [] k v .header done = some (.header, done ++ [(k, v)]) := by
      simp [addAt, changeAt, addEntry, hfresh]
    rw [List.map_cons, List.foldlM_cons, Draft.add, Draft.change, h, hadd]
    have hnodup' : ((done ++ [(k, v)] ++ entries).map Prod.fst).Nodup := by simpa using hnodup
    have hlast := ih hnodup'
    rw [List.append_assoc, List.singleton_append] at hlast
    exact hlast

/-! ### Sections -/

theorem foldlM_section (h : es.lookup key = none) (hnodup : (entries.map Prod.fst).Nodup) :
    (sectionItems [] key entries).foldlM Draft.add ⟨o, es, current⟩ =
      some ⟨o, es ++ [(key, .table .header entries)], [key]⟩ := by
  have hopen : Draft.add ⟨o, es, current⟩ (.header [] key) =
      some ⟨o, es ++ [(key, .table .header [])], [key]⟩ := by
    simp [Draft.add, Draft.change, changeAt, openTable, h]
  rw [sectionItems, List.foldlM_cons, hopen]
  exact foldlM_entries (reaches_last h) hnodup

/-- The first section inside a table. -/
theorem foldlM_section_first (h : es.lookup k = none) (hnodup : (entries.map Prod.fst).Nodup) :
    (sectionItems [k] key entries).foldlM Draft.add ⟨o, es, current⟩ =
      some ⟨o, es ++ [(k, .table .implied [(key, .table .header entries)])], [k, key]⟩ := by
  have hopen : Draft.add ⟨o, es, current⟩ (.header [k] key) =
      some ⟨o, es ++ [(k, .table .implied [(key, .table .header [])])], [k, key]⟩ := by
    rw [Draft.add, Draft.change, changeAt_missing h]
    rfl
  rw [sectionItems, List.foldlM_cons, hopen]
  have hin : Reaches [key] .implied fun o' es' => [] ++ [(key, .table o' es')] := reaches_last rfl
  exact foldlM_entries (hin.below h) hnodup

/-- One more section inside the last table. -/
theorem foldlM_section_next (h : es.lookup k = none) (hkey : sub.lookup key = none)
    (hnodup : (entries.map Prod.fst).Nodup) :
    (sectionItems [k] key entries).foldlM Draft.add ⟨o, es ++ [(k, .table .implied sub)], current⟩ =
      some ⟨o, es ++ [(k, .table .implied (sub ++ [(key, .table .header entries)]))], [k, key]⟩ := by
  have hopen : Draft.add ⟨o, es ++ [(k, .table .implied sub)], current⟩ (.header [k] key) =
      some ⟨o, es ++ [(k, .table .implied (sub ++ [(key, .table .header [])]))], [k, key]⟩ := by
    rw [Draft.add, Draft.change, changeAt_last h (by decide)]
    simp [changeAt, openTable, hkey]
  rw [sectionItems, List.foldlM_cons, hopen]
  have hin : Reaches [key] .implied fun o' es' => sub ++ [(key, .table o' es')] := reaches_last hkey
  exact foldlM_entries (hin.below h) hnodup

end PlanReuse.Toml
