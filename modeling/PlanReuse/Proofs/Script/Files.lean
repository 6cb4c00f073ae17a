import PlanReuse.Proofs.Lookup
import PlanReuse.Proofs.Script.Walks

/-!
# Folders and files

Making folders and writing files only adds names to the disk. Folders that have been made are there to be
gone through and need not be made again. What is read under a name is what was written under it last, and
what is read under the names of other files stays as it was.
-/

namespace PlanReuse.Script.Disk

variable {d d' : Disk}

/-! ### Changing one name or file -/

theorem ne_nil_of_entryAt? {p : Path} (h : d.entryAt? p = none) : p ≠ [] := by
  rintro rfl
  cases h

theorem entryAt?_setEntry_of_ne {p q : Path} (hpq : q ≠ p) (e : Entry) :
    (d.setEntry p e).entryAt? q = d.entryAt? q := by
  have hskip : (q == p) = false := beq_eq_false_iff_ne.mpr hpq
  rw [entryAt?, entryAt?, setEntry, stamp, List.lookup_cons, hskip]
  exact congrArg (ite (q = []) (some .folder)) (lookup_filter_ne hpq d.entries)

theorem content?_setContent_of_ne {n m : Nat} (h : m ≠ n) (c : Content) :
    (d.setContent n c).content? m = d.content? m := by
  have hskip : (m == n) = false := beq_eq_false_iff_ne.mpr h
  rw [content?, content?, setContent, stamp, List.lookup_cons, hskip]
  exact lookup_filter_ne h d.contents

theorem extends_setEntry {p : Path} (hp : d.entryAt? p = none) {e : Entry}
    (he : ∀ target, e ≠ .link target) : Extends d (d.setEntry p e) where
  keeps q f hf := by
    have hqp : q ≠ p := by
      rintro rfl
      rw [hp] at hf
      cases hf
    rw [entryAt?_setEntry_of_ne hqp, hf]
  adds q target hnone := by
    by_cases hqp : q = p
    · subst hqp
      rw [entryAt?_setEntry d q e (ne_nil_of_entryAt? hp)]
      exact fun h => he target (Option.some.inj h)
    · rw [entryAt?_setEntry_of_ne hqp, hnone]
      nofun

theorem extends_setContent (d : Disk) (n : Nat) (c : Content) : Extends d (d.setContent n c) :=
  ⟨(Extends.refl d).keeps, (Extends.refl d).adds⟩

/-- A name is put into a folder. -/
theorem Sound.setEntry (hd : d.Sound) {p : Path} (hp : d.entryAt? p = none)
    (hfolder : d.entryAt? p.dropLast = some .folder) {e : Entry} (he : ∀ n, e = .file n → n < d.next) :
    (d.setEntry p e).Sound where
  rooted q hq := by
    have hlies : d.entryAt? q.dropLast = some .folder := by
      by_cases hqp : q = p
      · rw [hqp, hfolder]
      · rw [entryAt?_setEntry_of_ne hqp] at hq
        exact hd.rooted q hq
    rw [entryAt?_setEntry_of_ne (fun h => by rw [h, hp] at hlies; cases hlies), hlies]
  numbered q n hq := by
    by_cases hqp : q = p
    · subst hqp
      rw [entryAt?_setEntry d q e (ne_nil_of_entryAt? hp)] at hq
      exact he n (Option.some.inj hq)
    · rw [entryAt?_setEntry_of_ne hqp] at hq
      exact hd.numbered q n hq

/-! ### Making folders -/

theorem checkParent_eq_ok_iff {p : Path} :
    d.checkParent p = .ok () ↔ d.entryAt? p.dropLast = some .folder := by
  rw [checkParent]
  constructor
  · intro h
    split at h
    · next hentry => exact hentry
    · cases h
    · cases h
  · intro h
    rw [h]

theorem createFolder_eq_ok_iff {p : Path} :
    d.createFolder p = .ok d' ↔
      d.entryAt? p = none ∧ d.entryAt? p.dropLast = some .folder ∧
        d' = (d.setEntry p .folder).stamp (.place p) := by
  simp only [createFolder, bind, Except.bind, pure, Except.pure]
  cases hentry : d.entryAt? p with
  | some e => simp
  | none =>
    cases hparent : d.checkParent p with
    | error fault =>
      have hno : d.entryAt? p.dropLast ≠ some .folder := by
        intro hyes
        rw [checkParent_eq_ok_iff.mpr hyes] at hparent
        cases hparent
      simp [hno]
    | ok =>
      have hyes := checkParent_eq_ok_iff.mp hparent
      simp [hyes, eq_comm]

theorem extends_createFolder {p : Path} (h : d.createFolder p = .ok d') : Extends d d' := by
  obtain ⟨hnone, _, rfl⟩ := createFolder_eq_ok_iff.mp h
  have hset := extends_setEntry hnone (e := .folder) nofun
  exact ⟨hset.keeps, hset.adds⟩

theorem Sound.createFolder (hd : d.Sound) {p : Path} (h : d.createFolder p = .ok d') : d'.Sound := by
  obtain ⟨hnone, hfolder, rfl⟩ := createFolder_eq_ok_iff.mp h
  have hset := hd.setEntry hnone hfolder (e := .folder) nofun
  exact ⟨hset.rooted, hset.numbered⟩

/-- A folder stands here, or a link that leads to one. -/
def Passes (d : Disk) (q : Path) : Prop :=
  d.entryAt? q = some .folder ∨
    ∃ target, d.entryAt? q = some (.link target) ∧ ∃ p, d.find q.dropLast target = .ok (p, .folder)

theorem isFolder_iff {folder : Path} {text : String} :
    d.isFolder folder text = true ↔ ∃ p, d.find folder text = .ok (p, .folder) := by
  rw [isFolder]
  constructor
  · intro h
    split at h
    · next p hfind => exact ⟨p, hfind⟩
    · cases h
  · rintro ⟨p, hfind⟩
    rw [hfind]

theorem Passes.extends {q : Path} (h : d.Passes q) (hext : Extends d d') : d'.Passes q := by
  rcases h with h | ⟨target, hlink, p, hfind⟩
  · exact Or.inl (hext.keeps q _ h)
  · exact Or.inr ⟨target, hext.keeps q _ hlink, p, find_extends hfind hext⟩

theorem ensureFolder_of_passes {p q : Path} (h : d.Passes q) : d.ensureFolder p q = .ok d := by
  rw [ensureFolder]
  rcases h with h | ⟨target, hlink, hfind⟩
  · rw [h]
  · simp only [hlink, isFolder_iff.mpr hfind, if_true]

theorem ensureFolder_cases {p q : Path} (h : d.ensureFolder p q = .ok d') :
    (d.Passes q ∧ d' = d) ∨ d.createFolder q = .ok d' := by
  rw [ensureFolder] at h
  split at h
  · next hentry => exact Or.inl ⟨Or.inl hentry, (Except.ok.inj h).symm⟩
  · next target hentry =>
    split at h
    · next hfolder =>
      exact Or.inl ⟨Or.inr ⟨target, hentry, isFolder_iff.mp hfolder⟩, (Except.ok.inj h).symm⟩
    · cases h
  · cases h
  · exact Or.inr h

theorem extends_ensureFolder {p q : Path} (h : d.ensureFolder p q = .ok d') :
    Extends d d' ∧ d'.Passes q := by
  rcases ensureFolder_cases h with ⟨hpasses, rfl⟩ | hcreate
  · exact ⟨Extends.refl _, hpasses⟩
  · refine ⟨extends_createFolder hcreate, Or.inl ?_⟩
    obtain ⟨hnone, _, rfl⟩ := createFolder_eq_ok_iff.mp hcreate
    exact entryAt?_setEntry d q .folder (ne_nil_of_entryAt? hnone)

theorem Sound.ensureFolder (hd : d.Sound) {p q : Path} (h : d.ensureFolder p q = .ok d') : d'.Sound := by
  rcases ensureFolder_cases h with ⟨_, rfl⟩ | hcreate
  · exact hd
  · exact hd.createFolder hcreate

theorem foldlM_ensureFolder_cons {p q : Path} {qs : List Path}
    (h : (q :: qs).foldlM (fun d q => d.ensureFolder p q) d = .ok d') :
    ∃ d₁, d.ensureFolder p q = .ok d₁ ∧ qs.foldlM (fun d q => d.ensureFolder p q) d₁ = .ok d' := by
  rw [List.foldlM_cons] at h
  cases hfirst : d.ensureFolder p q with
  | error fault =>
    rw [hfirst] at h
    cases h
  | ok d₁ =>
    rw [hfirst] at h
    exact ⟨d₁, rfl, h⟩

theorem extends_foldlM_ensureFolder {p : Path} {qs : List Path}
    (h : qs.foldlM (fun d q => d.ensureFolder p q) d = .ok d') :
    Extends d d' ∧ ∀ q ∈ qs, d'.Passes q := by
  induction qs generalizing d with
  | nil =>
    obtain rfl := Except.ok.inj h
    exact ⟨Extends.refl _, fun _ hq => absurd hq List.not_mem_nil⟩
  | cons q qs ih =>
    obtain ⟨d₁, hfirst, hrest⟩ := foldlM_ensureFolder_cons h
    obtain ⟨hext, hpasses⟩ := extends_ensureFolder hfirst
    obtain ⟨hexts, hall⟩ := ih hrest
    exact ⟨hext.trans hexts, List.forall_mem_cons.mpr ⟨hpasses.extends hexts, hall⟩⟩

theorem foldlM_ensureFolder_of_passes {p : Path} {qs : List Path} (h : ∀ q ∈ qs, d.Passes q) :
    qs.foldlM (fun d q => d.ensureFolder p q) d = .ok d := by
  induction qs with
  | nil => rfl
  | cons q qs ih =>
    rw [List.foldlM_cons, ensureFolder_of_passes (h q List.mem_cons_self)]
    exact ih fun q' hq' => h q' (List.mem_cons_of_mem q hq')

/-- Where folders have been made every part of the path can be gone through, nothing else has changed, and
there is nothing left to be made. -/
theorem createFolders_spec {p : Path} (h : d.createFolders p = .ok d') :
    Extends d d' ∧ (∀ n < p.length, d'.Passes (p.take (n + 1))) ∧ d'.createFolders p = .ok d' := by
  obtain ⟨hext, hall⟩ := extends_foldlM_ensureFolder h
  refine ⟨hext, fun n hn => ?_, foldlM_ensureFolder_of_passes hall⟩
  exact hall _ (List.mem_map.mpr ⟨n, List.mem_range.mpr hn, rfl⟩)

theorem Sound.createFolders (hd : d.Sound) {p : Path} (h : d.createFolders p = .ok d') : d'.Sound := by
  rw [Disk.createFolders] at h
  generalize (List.range p.length).map (fun n => p.take (n + 1)) = qs at h
  induction qs generalizing d with
  | nil =>
    obtain rfl := Except.ok.inj h
    exact hd
  | cons q qs ih =>
    obtain ⟨d₁, hfirst, hrest⟩ := foldlM_ensureFolder_cons h
    exact ih (hd.ensureFolder hfirst) hrest

/-! ### Writing files -/

theorem extends_createFile {p : Path} (hp : d.entryAt? p = none) (c : Content) :
    Extends d (d.createFile p c) := by
  have hset := extends_setEntry hp (e := .file d.next) nofun
  exact ⟨hset.keeps, hset.adds⟩

theorem Sound.createFile (hd : d.Sound) {p : Path} (hp : d.entryAt? p = none)
    (hfolder : d.entryAt? p.dropLast = some .folder) (c : Content) : (d.createFile p c).Sound := by
  have hroom : ({ d with next := d.next + 1 } : Disk).Sound :=
    ⟨hd.rooted, fun q n hq => Nat.lt_succ_of_lt (hd.numbered q n hq)⟩
  have hset := hroom.setEntry hp hfolder (e := .file d.next) (by rintro n ⟨⟩; exact Nat.lt_succ_self _)
  exact ⟨hset.rooted, hset.numbered⟩

/-- A name that is opened for writing stands for a file or for nothing yet. -/
theorem openFile_cases {folder : Path} {text : String} {mode n : Nat}
    (h : d.openFile folder text mode = .ok (n, d')) :
    ∃ p, d.place true folder text = .ok p ∧
      ((d.entryAt? p = some (.file n) ∧ d' = d) ∨
        (d.entryAt? p = none ∧ d.entryAt? p.dropLast = some .folder ∧ namesFolder text = false ∧
          n = d.next ∧ d' = d.createFile p (.ofText "" mode))) := by
  simp only [openFile, locate, bind, Except.bind, pure, Except.pure] at h
  cases hplace : d.place true folder text with
  | error fault =>
    rw [hplace] at h
    cases h
  | ok p =>
    refine ⟨p, rfl, ?_⟩
    simp only [hplace] at h
    split at h
    · cases h
    · next m hentry =>
      obtain ⟨rfl, rfl⟩ := Prod.mk.inj (Except.ok.inj h)
      exact Or.inl ⟨hentry, rfl⟩
    · cases h
    · next hentry =>
      right
      by_cases hslash : text.endsWith "/" = true
      · simp [hslash] at h
      by_cases hdot : text.endsWith "/." = true
      · simp [hslash, hdot] at h
      cases hparent : d.checkParent p with
      | error fault => simp [hslash, hdot, hparent] at h
      | ok =>
        simp only [hslash, hdot, hparent, if_false, Except.ok.injEq, Prod.mk.injEq,
          Bool.false_eq_true] at h
        refine ⟨hentry, checkParent_eq_ok_iff.mp hparent, ?_, h.1.symm, h.2.symm⟩
        simp [namesFolder, hslash, hdot]

theorem readFile_of_find {folder p : Path} {text : String} {n : Nat}
    (h : d.find folder text = .ok (p, .file n)) :
    d.readFile folder text = (d.content? n).elim (.error .notFound) .ok := by
  simp only [readFile, bind, Except.bind, h]
  cases d.content? n <;> rfl

theorem extends_openFile {folder : Path} {text : String} {mode n : Nat}
    (h : d.openFile folder text mode = .ok (n, d')) : Extends d d' := by
  obtain ⟨p, _, ⟨_, rfl⟩ | ⟨hnone, _, _, _, rfl⟩⟩ := openFile_cases h
  · exact Extends.refl _
  · exact extends_createFile hnone _

theorem Sound.openFile (hd : d.Sound) {folder : Path} {text : String} {mode n : Nat}
    (h : d.openFile folder text mode = .ok (n, d')) : d'.Sound := by
  obtain ⟨p, _, ⟨_, rfl⟩ | ⟨hnone, hfolder, _, _, rfl⟩⟩ := openFile_cases h
  · exact hd
  · exact hd.createFile hnone hfolder _

/-- A file that is opened for writing is found under its name. -/
theorem find_openFile {folder : Path} {text : String} {mode n : Nat}
    (h : d.openFile folder text mode = .ok (n, d')) : ∃ p, d'.find folder text = .ok (p, .file n) := by
  obtain ⟨p, hplace, ⟨hentry, rfl⟩ | ⟨hnone, _, hname, rfl, rfl⟩⟩ := openFile_cases h
  · exact ⟨p, find_eq_ok_iff.mpr ⟨hplace, hentry⟩⟩
  · refine ⟨p, find_eq_ok_iff.mpr ⟨?_, entryAt?_setEntry d p _ (ne_nil_of_entryAt? hnone)⟩⟩
    obtain ⟨htext, hwalk, _⟩ := place_eq_ok_iff.mp hplace
    refine place_eq_ok_iff.mpr ⟨htext, walk_extends hwalk (extends_createFile hnone _), ?_⟩
    intro hnames
    rw [hname] at hnames
    cases hnames

/-- The permissions of an opened file: its own, or those it has been made with. -/
theorem mode_openFile {folder : Path} {text : String} {mode n : Nat}
    (h : d.openFile folder text mode = .ok (n, d')) :
    ((d'.content? n).map Content.mode).getD mode =
      ((d.readFile folder text).toOption.map Content.mode).getD mode := by
  obtain ⟨p, hplace, ⟨hentry, rfl⟩ | ⟨hnone, _, _, rfl, rfl⟩⟩ := openFile_cases h
  · rw [readFile_of_find (find_eq_ok_iff.mpr ⟨hplace, hentry⟩)]
    cases d'.content? n <;> rfl
  · have hmissing : d.readFile folder text = .error .notFound := by
      simp only [readFile, find, locate, hplace, Except.bind, present, hnone, bind]
    have hcontent : (d.createFile p (.ofText "" mode)).content? d.next = some (.ofText "" mode) :=
      content?_setContent _ _ _
    rw [hmissing, hcontent]
    rfl

theorem storeFile_cases {folder : Path} {name : String} {c : Content}
    (h : d.storeFile folder name c = .ok d') :
    (d' = d ∧ ∃ p device, d.find folder name = .ok (p, .device device)) ∨
      ∃ n d₁, d.openFile folder name c.mode = .ok (n, d₁) ∧
        d' = d₁.setContent n { c with mode := ((d₁.content? n).map Content.mode).getD c.mode } := by
  simp only [storeFile, bind, Except.bind, pure, Except.pure] at h
  split at h
  · next p device hfind =>
    split at h
    · cases h
    · exact Or.inl ⟨(Except.ok.inj h).symm, p, device, hfind⟩
  · cases hopen : d.openFile folder name c.mode with
    | error fault =>
      rw [hopen] at h
      cases h
    | ok opened =>
      rw [hopen] at h
      exact Or.inr ⟨opened.1, opened.2, rfl, (Except.ok.inj h).symm⟩

theorem extends_storeFile {folder : Path} {name : String} {c : Content}
    (h : d.storeFile folder name c = .ok d') : Extends d d' := by
  rcases storeFile_cases h with ⟨rfl, _⟩ | ⟨n, d₁, hopen, rfl⟩
  · exact Extends.refl _
  · exact (extends_openFile hopen).trans (extends_setContent d₁ n _)

theorem Sound.storeFile (hd : d.Sound) {folder : Path} {name : String} {c : Content}
    (h : d.storeFile folder name c = .ok d') : d'.Sound := by
  rcases storeFile_cases h with ⟨rfl, _⟩ | ⟨n, d₁, hopen, rfl⟩
  · exact hd
  · have hopened := hd.openFile hopen
    exact ⟨hopened.rooted, hopened.numbered⟩

/-- What is read under a name is what was written there, unless it is a device; the permissions are those
that were there before. -/
theorem readFile_storeFile {folder : Path} {name : String} {c : Content}
    (h : d.storeFile folder name c = .ok d')
    (hdevice : ∀ p device, d.find folder name ≠ .ok (p, .device device)) :
    d'.readFile folder name =
      .ok { c with mode := ((d.readFile folder name).toOption.map Content.mode).getD c.mode } := by
  rcases storeFile_cases h with ⟨_, p, device, hfind⟩ | ⟨n, d₁, hopen, rfl⟩
  · exact absurd hfind (hdevice p device)
  · obtain ⟨p, hfind⟩ := find_openFile hopen
    rw [readFile_of_find (find_extends hfind (extends_setContent d₁ n _)), content?_setContent,
      mode_openFile hopen]
    rfl

/-- What is read under another name is what was read there before, unless it names the same file. -/
theorem readFile_storeFile_of_ne (hd : d.Sound) {folder : Path} {name : String} {c : Content}
    (h : d.storeFile folder name c = .ok d') {folder' q : Path} {other : String} {m : Nat}
    (hother : d.find folder' other = .ok (q, .file m))
    (hne : ∀ p, d.find folder name ≠ .ok (p, .file m)) :
    d'.readFile folder' other = d.readFile folder' other := by
  rw [readFile_of_find hother, readFile_of_find (find_extends hother (extends_storeFile h))]
  rcases storeFile_cases h with ⟨rfl, _⟩ | ⟨n, d₁, hopen, rfl⟩
  · rfl
  · obtain ⟨p, hplace, ⟨hentry, rfl⟩ | ⟨_, _, _, rfl, rfl⟩⟩ := openFile_cases hopen
    · have hmn : m ≠ n := by
        rintro rfl
        exact hne p (find_eq_ok_iff.mpr ⟨hplace, hentry⟩)
      rw [content?_setContent_of_ne hmn]
    · have hm : m < d.next := hd.numbered q m (find_eq_ok_iff.mp hother).2
      have hkeep : (d.createFile p (.ofText "" c.mode)).content? m = d.content? m :=
        content?_setContent_of_ne (Nat.ne_of_lt hm) _
      rw [content?_setContent_of_ne (Nat.ne_of_lt hm), hkeep]

/-! ### The system at the start -/

theorem mem_of_entryAt? {p : Path} (hp : p ≠ []) {e : Entry} (h : d.entryAt? p = some e) :
    (p, e) ∈ d.entries := by
  rw [entryAt?, if_neg hp] at h
  exact mem_of_lookup_eq_some h

theorem entryAt?_bareSystem_of_folder (programs : List String) {q : Path}
    (hq : q ∈ [] :: systemFolders) : (bareSystem programs).entryAt? q = some .folder := by
  have hfolders : (systemFolders.all fun q => systemEntries.lookup q == some .folder) = true := by
    decide +kernel
  rcases List.mem_cons.mp hq with rfl | hq
  · rfl
  · have hlookup : systemEntries.lookup q = some .folder :=
      beq_iff_eq.mp (List.all_eq_true.mp hfolders q hq)
    rw [entryAt?, bareSystem, List.lookup_append, hlookup]
    exact ite_self _

/-- Names stand in the folders that every system has, and none for a file. -/
theorem mem_bareSystem {programs : List String} {p : Path} {e : Entry}
    (he : (p, e) ∈ (bareSystem programs).entries) :
    p.dropLast ∈ [] :: systemFolders ∧ (∀ n, e ≠ .file n) ∧ p ≠ ["etc", "passwd"] := by
  have hfixed : (systemEntries.all fun e => [] :: systemFolders |>.contains e.1.dropLast) = true := by
    decide +kernel
  have hkinds : (systemEntries.all fun e => e.2 matches .folder | .device _) = true := by
    decide +kernel
  have hnames : (systemEntries.all fun e => e.1 != ["etc", "passwd"]) = true := by
    decide +kernel
  rcases List.mem_append.mp he with he | he
  · refine ⟨List.contains_iff_mem.mp (List.all_eq_true.mp hfixed _ he), ?_,
      bne_iff_ne.mp (List.all_eq_true.mp hnames _ he)⟩
    rintro n rfl
    cases List.all_eq_true.mp hkinds _ he
  · obtain ⟨name, _, he⟩ := List.mem_flatMap.mp he
    simp only [List.mem_cons, List.not_mem_nil, or_false] at he
    have hfolders : ["usr", "bin"] ∈ [] :: systemFolders ∧ ["bin"] ∈ [] :: systemFolders := by decide
    rcases he with he | he <;> obtain ⟨rfl, rfl⟩ := Prod.mk.inj he
    · exact ⟨hfolders.1, nofun, by simp⟩
    · exact ⟨hfolders.2, nofun, by simp⟩

theorem sound_bareSystem (programs : List String) : (bareSystem programs).Sound where
  rooted p hp := by
    by_cases hnil : p = []
    · subst hnil
      rfl
    · obtain ⟨e, he⟩ := Option.isSome_iff_exists.mp hp
      exact entryAt?_bareSystem_of_folder programs (mem_bareSystem (mem_of_entryAt? hnil he)).1
  numbered p n h := by
    have hnil : p ≠ [] := by
      rintro rfl
      cases h
    exact absurd rfl ((mem_bareSystem (mem_of_entryAt? hnil h)).2.1 n)

theorem sound_system (programs : List String) : (system programs).Sound := by
  have hbare := sound_bareSystem programs
  have hfolder : (bareSystem programs).entryAt? ["etc"] = some .folder :=
    entryAt?_bareSystem_of_folder programs (by decide)
  have hnone : (bareSystem programs).entryAt? ["etc", "passwd"] = none := by
    cases h : (bareSystem programs).entryAt? ["etc", "passwd"] with
    | none => rfl
    | some e => exact absurd rfl (mem_bareSystem (mem_of_entryAt? (List.cons_ne_nil _ _) h)).2.2
  have hfile := hbare.createFile hnone hfolder (.ofText (String.join (users.map User.row)) 0o644)
  exact ⟨hfile.rooted, hfile.numbered⟩

end PlanReuse.Script.Disk
