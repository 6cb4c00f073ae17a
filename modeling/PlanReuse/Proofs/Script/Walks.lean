import PlanReuse.Script.Disk

/-!
# Where names lead

Where names lead is told by a relation that follows the links one by one; the walk through the disk finds
just that, as long as the links are not too many. It ends in a folder, and never at a link that is to be
followed. Names that are added to the disk lead no other name astray, unless they are links.
-/

namespace PlanReuse.Script.Disk

variable {d d' : Disk} {follow : Bool}

/-! ### Where names lead -/

/-- Where names lead from a folder, and through how many links. -/
inductive Leads (d : Disk) (follow : Bool) : Nat → Path → List String → Path → Prop
  | done {here : Path} : Leads d follow 0 here [] here
  | up {n : Nat} {here p : Path} {rest : List String} (h : Leads d follow n here.dropLast rest p) :
      Leads d follow n here (".." :: rest) p
  | missing {here : Path} {name : String} (hname : name ≠ "..")
      (hentry : d.entryAt? (here ++ [name]) = none) : Leads d follow 0 here [name] (here ++ [name])
  | link {here : Path} {name target : String} (hname : name ≠ "..")
      (hentry : d.entryAt? (here ++ [name]) = some (.link target)) (hstay : follow = false) :
      Leads d follow 0 here [name] (here ++ [name])
  | through {n : Nat} {here p : Path} {name target : String} {rest : List String} (hname : name ≠ "..")
      (hentry : d.entryAt? (here ++ [name]) = some (.link target)) (hgo : rest = [] → follow = true)
      (h : Leads d follow n (if target.startsWith "/" then [] else here) (Path.names target ++ rest) p) :
      Leads d follow (n + 1) here (name :: rest) p
  | into {n : Nat} {here p : Path} {name : String} {rest : List String} (hname : name ≠ "..")
      (hentry : d.entryAt? (here ++ [name]) = some .folder) (h : Leads d follow n (here ++ [name]) rest p) :
      Leads d follow n here (name :: rest) p
  | thing {here : Path} {name : String} {e : Entry} (hname : name ≠ "..")
      (hentry : d.entryAt? (here ++ [name]) = some e) (hfolder : e ≠ .folder)
      (hlink : ∀ target, e ≠ .link target) : Leads d follow 0 here [name] (here ++ [name])

theorem leads_of_walk {fuel : Nat} {here p : Path} {names : List String}
    (h : d.walk follow fuel here names = .ok p) : ∃ n ≤ fuel, d.Leads follow n here names p := by
  fun_induction walk d follow fuel here names with
  | case1 fuel here =>
    obtain rfl := Except.ok.inj h
    exact ⟨0, Nat.zero_le _, .done⟩
  | case2 fuel here rest ih =>
    obtain ⟨n, hn, hleads⟩ := ih h
    exact ⟨n, hn, .up hleads⟩
  | case3 fuel here name hname there hentry =>
    obtain rfl := Except.ok.inj h
    exact ⟨0, Nat.zero_le _, .missing hname hentry⟩
  | case4 => cases h
  | case5 fuel here name rest hname there target hentry hstay =>
    obtain rfl := Except.ok.inj h
    obtain ⟨rfl, hstay⟩ := hstay
    exact ⟨0, Nat.zero_le _, .link hname hentry (by simpa using hstay)⟩
  | case6 => cases h
  | case7 here name rest hname there target hentry hgo fuel ih =>
    simp only [dite_eq_ite] at ih
    obtain ⟨n, hn, hleads⟩ := ih h
    refine ⟨n + 1, Nat.succ_le_succ hn, .through hname hentry (fun hrest => ?_) hleads⟩
    rcases Bool.eq_false_or_eq_true follow with hfollow | hstay
    · exact hfollow
    · exact absurd ⟨hrest, by rw [hstay]; rfl⟩ hgo
  | case8 fuel here name rest hname there hentry ih =>
    obtain ⟨n, hn, hleads⟩ := ih h
    exact ⟨n, hn, .into hname hentry hleads⟩
  | case9 fuel here name hname there e hlink hfolder hentry =>
    obtain rfl := Except.ok.inj h
    exact ⟨0, Nat.zero_le _, .thing hname hentry hfolder hlink⟩
  | case10 => cases h

theorem walk_name {fuel : Nat} {here : Path} {name : String} {rest : List String} (hname : name ≠ "..") :
    d.walk follow fuel here (name :: rest) =
      match d.entryAt? (here ++ [name]) with
      | none => if rest = [] then .ok (here ++ [name]) else .error .notFound
      | some (.link target) =>
        if rest = [] ∧ !follow then .ok (here ++ [name])
        else
          match fuel with
          | 0 => .error .loop
          | fuel + 1 =>
            d.walk follow fuel (if target.startsWith "/" then [] else here) (Path.names target ++ rest)
      | some .folder => d.walk follow fuel (here ++ [name]) rest
      | some _ => if rest = [] then .ok (here ++ [name]) else .error .notDirectory := by
  rw [walk]
  all_goals first | exact hname | rfl

theorem Leads.walk {n fuel : Nat} {here p : Path} {names : List String}
    (h : d.Leads follow n here names p) (hn : n ≤ fuel) : d.walk follow fuel here names = .ok p := by
  induction h generalizing fuel with
  | done => rw [Disk.walk]
  | up _ ih => rw [Disk.walk, ih hn]
  | missing hname hentry =>
    rw [walk_name hname, hentry]
    rfl
  | link hname hentry hstay =>
    rw [walk_name hname, hentry, hstay]
    rfl
  | @through n here p name target rest hname hentry hgo _ ih =>
    obtain ⟨fuel, rfl⟩ := Nat.exists_eq_add_of_lt hn
    have hskip : ¬ (rest = [] ∧ (!follow) = true) := by
      rintro ⟨hrest, hstay⟩
      rw [hgo hrest] at hstay
      cases hstay
    simp only [walk_name hname, hentry, hskip, if_false]
    exact ih (Nat.le_add_right _ _)
  | into hname hentry _ ih =>
    rw [walk_name hname, hentry]
    exact ih hn
  | @thing here name e hname hentry hfolder hlink =>
    rw [walk_name hname, hentry]
    cases e with
    | folder => exact absurd rfl hfolder
    | link target => exact absurd rfl (hlink target)
    | _ => rfl

/-- A walk finds where the names lead, if they lead there through no more links than it may follow. -/
theorem walk_eq_ok_iff {fuel : Nat} {here p : Path} {names : List String} :
    d.walk follow fuel here names = .ok p ↔ ∃ n ≤ fuel, d.Leads follow n here names p := by
  constructor
  · exact leads_of_walk
  · rintro ⟨n, hn, h⟩
    exact h.walk hn

/-! ### Sound disks -/

/-- Whatever has a name lies in a folder, and the numbers of files are below the next one. -/
structure Sound (d : Disk) : Prop where
  rooted : ∀ p, (d.entryAt? p).isSome = true → d.entryAt? p.dropLast = some .folder
  numbered : ∀ p n, d.entryAt? p = some (.file n) → n < d.next

/-- Names lead from a folder to a place in a folder, and to a link only if it is not to be followed. -/
theorem Leads.lands {n : Nat} {here p : Path} {names : List String} (h : d.Leads follow n here names p)
    (hd : d.Sound) (hhere : d.entryAt? here = some .folder) :
    d.entryAt? p.dropLast = some .folder ∧
      (follow = true → ∀ target, d.entryAt? p ≠ some (.link target)) := by
  have hparent {q : Path} (hq : d.entryAt? q = some .folder) : d.entryAt? q.dropLast = some .folder :=
    hd.rooted q (by rw [hq]; rfl)
  induction h with
  | done =>
    refine ⟨hparent hhere, fun _ target => ?_⟩
    rw [hhere]
    nofun
  | up _ ih => exact ih (hparent hhere)
  | missing hname hentry =>
    refine ⟨by rwa [List.dropLast_concat], fun _ target => ?_⟩
    rw [hentry]
    nofun
  | link hname hentry hstay =>
    refine ⟨by rwa [List.dropLast_concat], fun hgo => ?_⟩
    cases hstay.symm.trans hgo
  | through hname hentry hgo _ ih =>
    apply ih
    split
    · rfl
    · exact hhere
  | into hname hentry _ ih => exact ih hentry
  | thing hname hentry hfolder hlink =>
    refine ⟨by rwa [List.dropLast_concat], fun _ target => ?_⟩
    rw [hentry]
    exact fun h => hlink target (Option.some.inj h)

/-! ### Adding names -/

/-- Every name stands for what it stood for; new names may be added, but no links. -/
structure Extends (d d' : Disk) : Prop where
  keeps : ∀ p e, d.entryAt? p = some e → d'.entryAt? p = some e
  adds : ∀ p target, d.entryAt? p = none → d'.entryAt? p ≠ some (.link target)

theorem Extends.refl (d : Disk) : Extends d d where
  keeps _ _ h := h
  adds p target hnone h := by
    rw [hnone] at h
    cases h

theorem Extends.trans {d'' : Disk} (h : Extends d d') (h' : Extends d' d'') : Extends d d'' where
  keeps p e he := h'.keeps p e (h.keeps p e he)
  adds p target hnone := by
    cases hmid : d'.entryAt? p with
    | none => exact h'.adds p target hmid
    | some e =>
      rw [h'.keeps p e hmid, ← hmid]
      exact h.adds p target hnone

theorem Leads.extends {n : Nat} {here p : Path} {names : List String}
    (h : d.Leads follow n here names p) (hext : Extends d d') : d'.Leads follow n here names p := by
  induction h with
  | done => exact .done
  | up _ ih => exact .up ih
  | @missing here name hname hentry =>
    -- Whatever has come to stand there now, no step goes on from it.
    cases hnow : d'.entryAt? (here ++ [name]) with
    | none => exact .missing hname hnow
    | some e =>
      cases e with
      | folder => exact .into hname hnow .done
      | link target => exact absurd hnow (hext.adds _ target hentry)
      | file => exact .thing hname hnow nofun nofun
      | device => exact .thing hname hnow nofun nofun
      | program => exact .thing hname hnow nofun nofun
  | link hname hentry hstay => exact .link hname (hext.keeps _ _ hentry) hstay
  | through hname hentry hgo _ ih => exact .through hname (hext.keeps _ _ hentry) hgo ih
  | into hname hentry _ ih => exact .into hname (hext.keeps _ _ hentry) ih
  | thing hname hentry hfolder hlink => exact .thing hname (hext.keeps _ _ hentry) hfolder hlink

theorem walk_extends {fuel : Nat} {here p : Path} {names : List String}
    (h : d.walk follow fuel here names = .ok p) (hext : Extends d d') :
    d'.walk follow fuel here names = .ok p := by
  obtain ⟨n, hn, hleads⟩ := walk_eq_ok_iff.mp h
  exact walk_eq_ok_iff.mpr ⟨n, hn, hleads.extends hext⟩

/-! ### Places -/

theorem place_eq_ok_iff {folder p : Path} {text : String} :
    d.place follow folder text = .ok p ↔
      text ≠ "" ∧
        d.walk (follow || namesFolder text) linkLimit (if text.startsWith "/" then [] else folder)
          (Path.names text) = .ok p ∧
        (namesFolder text = true → ∀ e, d.entryAt? p = some e → e = .folder) := by
  rw [place]
  by_cases htext : text = ""
  · simp [htext]
  rw [if_neg htext]
  cases hwalk : d.walk (follow || namesFolder text) linkLimit (if text.startsWith "/" then [] else folder)
      (Path.names text) with
  | error fault => simp
  | ok q =>
    simp only [ne_eq, htext, not_false_eq_true, true_and, Except.ok.injEq]
    constructor
    · intro h
      split at h
      · next hentry =>
        obtain rfl := Except.ok.inj h
        exact ⟨rfl, fun _ e he => by rw [hentry] at he; exact (Option.some.inj he).symm⟩
      · next hentry =>
        obtain rfl := Except.ok.inj h
        exact ⟨rfl, fun _ e he => by rw [hentry] at he; cases he⟩
      · split at h
        · cases h
        · next hfree =>
          exact ⟨Except.ok.inj h, fun hnames => absurd hnames hfree⟩
    · rintro ⟨rfl, hfolder⟩
      split
      · rfl
      · rfl
      · next e hne hentry =>
        split
        · next hnames => exact absurd (hfolder hnames e hentry) (fun h => hne h)
        · rfl

theorem find_eq_ok_iff {folder p : Path} {text : String} {e : Entry} :
    d.find folder text = .ok (p, e) ↔ d.place true folder text = .ok p ∧ d.entryAt? p = some e := by
  rw [find, locate]
  cases d.place true folder text with
  | error fault => simp [Except.bind]
  | ok q =>
    simp only [Except.bind, present, Except.ok.injEq]
    cases hentry : d.entryAt? q with
    | none =>
      refine iff_of_false nofun ?_
      rintro ⟨rfl, h⟩
      rw [hentry] at h
      cases h
    | some f =>
      simp only [Except.ok.injEq, Prod.mk.injEq]
      constructor
      · rintro ⟨rfl, rfl⟩
        exact ⟨rfl, hentry⟩
      · rintro ⟨rfl, h⟩
        exact ⟨rfl, Option.some.inj (hentry.symm.trans h)⟩

/-- What was found is found still. -/
theorem find_extends {folder p : Path} {text : String} {e : Entry} (h : d.find folder text = .ok (p, e))
    (hext : Extends d d') : d'.find folder text = .ok (p, e) := by
  obtain ⟨hplace, hentry⟩ := find_eq_ok_iff.mp h
  obtain ⟨htext, hwalk, hfolder⟩ := place_eq_ok_iff.mp hplace
  have hnow : d'.entryAt? p = some e := hext.keeps p e hentry
  refine find_eq_ok_iff.mpr ⟨place_eq_ok_iff.mpr ⟨htext, walk_extends hwalk hext, ?_⟩, hnow⟩
  intro hnames e' he'
  rw [hnow] at he'
  obtain rfl := Option.some.inj he'
  exact hfolder hnames e hentry

/-- Whatever is found lies in a folder and is no link. -/
theorem find_lands (hd : d.Sound) {folder p : Path} (hfolder : d.entryAt? folder = some .folder)
    {text : String} {e : Entry} (h : d.find folder text = .ok (p, e)) :
    d.entryAt? p.dropLast = some .folder ∧ ∀ target, e ≠ .link target := by
  obtain ⟨hplace, hentry⟩ := find_eq_ok_iff.mp h
  obtain ⟨_, hwalk, _⟩ := place_eq_ok_iff.mp hplace
  obtain ⟨n, _, hleads⟩ := walk_eq_ok_iff.mp hwalk
  have hstart : d.entryAt? (if text.startsWith "/" then [] else folder) = some .folder := by
    split
    · rfl
    · exact hfolder
  obtain ⟨hparent, hlink⟩ := hleads.lands hd hstart
  refine ⟨hparent, fun target he => hlink rfl target ?_⟩
  rw [hentry, he]

end PlanReuse.Script.Disk
