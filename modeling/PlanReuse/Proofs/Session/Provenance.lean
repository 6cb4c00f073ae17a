import PlanReuse.Proofs.Pool.KeyStream
import PlanReuse.Proofs.Session.Runs

/-!
# Where a table comes from

Whatever is kept in a session was inserted in it, under a key made from one of its extractions, and every
code of an extraction is that of a resolution of its plan's shapes. If no two of the hashed streams
collide, the key of a table therefore names its plan.
-/

namespace PlanReuse

/-! ### Extractions -/

/-- All that an extraction can do to a numbering and to the list of codes. -/
theorem Session.gives_cases (scope : QueryScope) (root : Plan) (memo : Memo) (c : Numbering) :
    ((extract scope root memo c).numbering = c ∧
      ∀ e ∈ gives scope root memo c, e.code.isCacheable = false) ∨
    ∃ shape : Shape, (extract scope root memo c).numbering = (c.resolve shape.parts).2 ∧
      ∀ e ∈ gives scope root memo c, e.root = some shape ∧
        (e.code.isCacheable = true →
          ∃ ns, (c.resolve shape.parts).1 = some ns ∧ e.code = .ofNumbers ns) := by
  rcases hvisit : scope.visit memo root with ⟨fault | _ | shape, after⟩
  · have hextract : extract scope root memo c = ⟨.error fault, after, c⟩ := by
      simp only [extract, hvisit]
    rw [gives, hextract]
    exact Or.inl ⟨rfl, fun e he => by cases he⟩
  · have hextract : extract scope root memo c = ⟨.ok .refused, after, c⟩ := by
      simp only [extract, hvisit]
    rw [gives, hextract]
    refine Or.inl ⟨rfl, ?_⟩
    intro e he
    rw [List.mem_singleton.mp he]
    rfl
  · refine Or.inr ⟨shape, ?_⟩
    rcases hresolve : c.resolve shape.parts with ⟨_ | ns, d⟩
    · have hextract : extract scope root memo c = ⟨.ok .none, after, d⟩ := by
        simp only [extract, hvisit, hresolve]
      rw [gives, hextract, hvisit]
      refine ⟨rfl, ?_⟩
      intro e he
      rw [List.mem_singleton.mp he]
      exact ⟨rfl, fun hcode => by cases hcode⟩
    · have hextract : extract scope root memo c = ⟨.ok (.ofNumbers ns), after, d⟩ := by
        simp only [extract, hvisit, hresolve]
      rw [gives, hextract, hvisit]
      refine ⟨rfl, ?_⟩
      intro e he
      rw [List.mem_singleton.mp he]
      exact ⟨rfl, fun _ => ⟨ns, rfl, rfl⟩⟩

namespace Session

variable {α : Type}

/-- The code of an extraction, if it is one that a key can be made from, is that of a resolution of the
shapes of its plan, in a run of the numbering. -/
def Resolved (c : Numbering) (actions : List Numbering.Action) (e : Extracted) : Prop :=
  e.code.isCacheable = true → ∃ r ∈ c.resolutions actions, ∃ shape : Shape,
    e.root = some shape ∧ r.shapes = shape.parts ∧ e.code = .ofNumbers r.numbers

theorem Resolved.append {c : Numbering} {as : List Numbering.Action} {e : Extracted}
    (h : Resolved c as e) (bs : List Numbering.Action) : Resolved c (as ++ bs) e := by
  intro hcode
  obtain ⟨r, hr, hshape⟩ := h hcode
  rw [Numbering.resolutions_append]
  exact ⟨r, List.mem_append_left _ hr, hshape⟩

/-! ### What a session keeps track of -/

/-- A session that began with a numbering, the origins of the keys it has used and the insertions it
has made. -/
structure Tracked (c : Numbering) (s : Session α) (origins : List KeyOrigin)
    (stores : List (Stored α)) : Prop where
  numbering : ∃ actions, s.caches.numbering = c.run actions ∧
    ∀ e ∈ s.extracted, Resolved c actions e
  known : ∀ o ∈ origins, o.plan ∈ s.extracted
  keyed : ∀ t ∈ stores, t.origin ∈ origins ∧ t.origin.key? = some t.insertion.entry.usage.key
  kept : ∀ a, ∀ e ∈ (s.caches.pool.partition a).entries, ∃ t ∈ stores,
    t.insertion.address = a ∧ t.insertion.entry.Alike e

theorem tracked_start (settings : Settings) :
    Tracked (start settings : Session α).caches.numbering (start settings : Session α) [] [] := by
  constructor
  · exact ⟨[], rfl, fun e he => by cases he⟩
  · intro o ho
    cases ho
  · intro t ht
    cases ht
  · intro a e he
    cases he

/-- A change of the pool that inserts nothing. -/
theorem Tracked.shrinks {c : Numbering} {s : Session α} {origins : List KeyOrigin}
    {stores : List (Stored α)} (hs : Tracked c s origins stores) {pool : Pool α}
    (h : s.caches.pool.Shrinks pool) : Tracked c (s.setPool pool) origins stores := by
  refine ⟨hs.numbering, hs.known, hs.keyed, ?_⟩
  intro a e he
  obtain ⟨f, hf, hfe⟩ := (h.partition a).exists_alike he
  obtain ⟨t, ht, hta, htf⟩ := hs.kept a f hf
  exact ⟨t, ht, hta, htf.trans hfe⟩

/-- A change of the numbering alone. -/
theorem Tracked.act {c : Numbering} {s : Session α} {origins : List KeyOrigin}
    {stores : List (Stored α)} (hs : Tracked c s origins stores) (x : Numbering.Action) :
    Tracked c (s.setNumbering (s.caches.numbering.act x)) origins stores := by
  obtain ⟨actions, hrun, hresolved⟩ := hs.numbering
  refine ⟨⟨actions ++ [x], ?_, ?_⟩, hs.known, hs.keyed, hs.kept⟩
  · rw [Numbering.run_append, ← hrun]
    rfl
  · exact fun e he => (hresolved e he).append [x]

theorem Tracked.extract {c : Numbering} {s : Session α} {origins : List KeyOrigin}
    {stores : List (Stored α)} (hs : Tracked c s origins stores) (scope : QueryScope) (root : Plan)
    (memo : Memo) : Tracked c (s.step (.extract scope root memo)) origins stores := by
  obtain ⟨actions, hrun, hresolved⟩ := hs.numbering
  refine ⟨?_, fun o ho => List.mem_append_left _ (hs.known o ho), hs.keyed, hs.kept⟩
  rcases gives_cases scope root memo s.caches.numbering with ⟨hsame, hgives⟩ |
    ⟨shape, hresolve, hgives⟩
  · refine ⟨actions, hsame.trans hrun, ?_⟩
    intro e he
    rcases List.mem_append.mp he with he | he
    · exact hresolved e he
    · intro hcode
      rw [hgives e he] at hcode
      cases hcode
  · refine ⟨actions ++ [.resolve shape.parts], ?_, ?_⟩
    · rw [Numbering.run_append, ← hrun]
      exact hresolve
    · intro e he
      rcases List.mem_append.mp he with he | he
      · exact (hresolved e he).append _
      · obtain ⟨hroot, hcode⟩ := hgives e he
        intro hcacheable
        obtain ⟨ns, hns, hcode⟩ := hcode hcacheable
        refine ⟨⟨s.caches.numbering, shape.parts, ns⟩, ?_, shape, hroot, rfl, hcode⟩
        rw [Numbering.resolutions_append, ← hrun, Numbering.resolutions, Numbering.resolution?, hns]
        exact List.mem_append_right _ (List.mem_cons_self ..)

theorem Tracked.use {c : Numbering} {s : Session α} {origins : List KeyOrigin}
    {stores : List (Stored α)} (hs : Tracked c s origins stores) (r : Request) (x : Pool.Change α) :
    Tracked c (s.step (.use r x)) ((s.used? (.use r x)).toList ++ origins)
      ((s.stored? (.use r x)).toList ++ stores) := by
  rw [step, used?, stored?]
  cases ho : s.originOf? r x with
  | none => exact hs
  | some o =>
    obtain ⟨horigin, key, hkey, hx⟩ := originOf?_eq_some_iff.mp ho
    have hplan : o.plan ∈ s.extracted := by
      obtain ⟨e, he, rfl⟩ := Option.map_eq_some_iff.mp horigin
      exact List.mem_of_getElem? he
    have hknown : ∀ u ∈ o :: origins, u.plan ∈ s.extracted := by
      intro u hu
      rcases List.mem_cons.mp hu with rfl | hu
      · exact hplan
      · exact hs.known u hu
    rcases s.caches.pool.change_cases x with ⟨hnone, hshrinks⟩ |
      ⟨key', a, item, size, rfl, hsome, hfresh⟩
    · have hsame := hs.shrinks hshrinks
      simp only [Option.bind_some, hnone, Option.map_none, Option.toList_none, List.nil_append]
      refine ⟨hsame.numbering, hknown, ?_, hsame.kept⟩
      intro t ht
      exact ⟨List.mem_cons_of_mem _ (hs.keyed t ht).1, (hs.keyed t ht).2⟩
    · obtain ⟨_, hinserts, _⟩ := Pool.put_of_isFresh hfresh
      simp only [Option.bind_some, hsome, Option.map_some, Option.toList_some]
      refine ⟨hs.numbering, hknown, ?_, ?_⟩
      · intro t ht
        rcases List.mem_cons.mp ht with rfl | ht
        · exact ⟨List.mem_cons_self .., hkey.trans hx.symm⟩
        · exact ⟨List.mem_cons_of_mem _ (hs.keyed t ht).1, (hs.keyed t ht).2⟩
      · intro b e he
        rcases hinserts.mem_cases he with ⟨rfl, rfl⟩ | ⟨f, hf, hfe⟩
        · exact ⟨_, List.mem_cons_self .., rfl, .refl _⟩
        · obtain ⟨t, ht, htb, htf⟩ := hs.kept b f hf
          exact ⟨t, List.mem_cons_of_mem _ ht, htb, htf.trans hfe⟩

theorem Tracked.step {c : Numbering} {s : Session α} {origins : List KeyOrigin}
    {stores : List (Stored α)} (hs : Tracked c s origins stores) (x : Step α) :
    Tracked c (s.step x) ((s.used? x).toList ++ origins) ((s.stored? x).toList ++ stores) := by
  cases x with
  | extract scope root memo => exact hs.extract scope root memo
  | number x => exact hs.act x
  | reset => exact (hs.act .clear).shrinks (Pool.shrinks_clearAll _)
  | tend x =>
    rw [Session.step]
    split
    · next hx =>
      rcases s.caches.pool.change_cases x with ⟨_, hshrinks⟩ | ⟨key, a, item, size, rfl, _, _⟩
      · exact hs.shrinks hshrinks
      · cases hx
    · exact hs
  | use r x => exact hs.use r x

theorem Tracked.steps {c : Numbering} {s : Session α} {os : List KeyOrigin} {ts : List (Stored α)}
    (hs : Tracked c s os ts) (xs : List (Step α)) :
    Tracked c (s.steps xs) (s.origins xs ++ os) (s.stores xs ++ ts) := by
  induction xs generalizing s os ts with
  | nil => exact hs
  | cons x xs ih =>
    rw [origins, stores, List.append_assoc, List.append_assoc]
    exact ih (hs.step x)

/-! ### Hits -/

/-- A look-up that hits finds an entry under its key. -/
theorem exists_of_get {p : Pool α} {key : ArtifactKey} {a : Address} {handle : Handle α}
    (h : (p.get key a).1 = some handle) :
    ∃ e ∈ (p.partition a).entries, e.usage.key = key ∧ e.item = handle.item ∧
      e.usage.seq = handle.seq := by
  rw [Pool.get] at h
  cases hfind : (p.partition a).find? key with
  | none =>
    rw [hfind] at h
    cases h
  | some e =>
    rw [hfind] at h
    obtain ⟨hmem, hkey⟩ := Partition.mem_of_find? hfind
    cases h
    exact ⟨e, hmem, hkey, rfl, rfl⟩

/-- Reuse or build answers with a hit only if the look-up hits. -/
theorem get_of_reuseOrBuild {s : Session α} {key : ArtifactKey} {a : Address} {size : α → Nat}
    {build : StateM (Session α) (Except Unit α)} {handle : Handle α}
    (h : (s.reuseOrBuild key a size build).1 = .ok (.hit handle)) :
    (s.caches.pool.get key a).1 = some handle := by
  rcases hget : s.caches.pool.get key a with ⟨_ | found, pool⟩
  · rw [reuseOrBuild, Pool.reuseOrBuild_of_miss changePool_changesOnly hget] at h
    rcases hbuild : build.run (s.setPool pool) with ⟨_ | item, t⟩
    · rw [hbuild] at h
      cases h
    · rw [hbuild] at h
      cases h
  · rw [reuseOrBuild, Pool.reuseOrBuild_of_hit changePool_changesOnly hget] at h
    cases h
    rfl

/-- Two plans whose codes agree in generation and text have one shape. -/
theorem root_eq_of_code_eq {c : Numbering} (hc : c.Sound) {actions : List Numbering.Action}
    {d e : Extracted} (hd : Resolved c actions d) (he : Resolved c actions e)
    (hdcode : d.code.isCacheable = true) (hecode : e.code.isCacheable = true)
    (hgeneration : d.code.generation = e.code.generation) (htext : d.code.text = e.code.text) :
    ∃ shape, d.root = some shape ∧ e.root = some shape := by
  obtain ⟨q, hq, shape, hroot, hqshapes, hqcode⟩ := hd hdcode
  obtain ⟨r, hr, shape', hroot', hrshapes, hrcode⟩ := he hecode
  rw [hqcode, hrcode] at hgeneration htext
  have hnumbers := (PlanCode.text_ofNumbers_eq_iff _ _).mp htext
  have hshapes := (Numbering.numbers_eq_iff_of_generation hc hq hr hgeneration).mp hnumbers
  rw [hqshapes, hrshapes] at hshapes
  have hhead := congrArg List.head? hshapes
  rw [Shape.head_parts, Shape.head_parts, Option.some.injEq] at hhead
  exact ⟨shape, hroot, hhead ▸ hroot'⟩

/-- A table that is asked for under a key of the session and found was put in, in this session, under
the key of a plan of the same generation and shape, for the same device, layout and columns; provided
that no two of the streams hashed so far collide, and that generations have not outgrown a word. -/
theorem hit_has_same_origin [Artifact α] (settings : Settings) (actions : List (Action α)) :
    let s : Session α := (start settings).run actions
    let xs := (start settings : Session α).allSteps actions
    s.caches.numbering.generation ≤ maxWord →
    ∀ (r : Request) (o : KeyOrigin) (key : ArtifactKey) (a : Address) (handle : Handle α),
      s.origin? r = some o → o.key? = some key →
      (∀ u ∈ o :: (start settings).origins xs, ∀ v ∈ o :: (start settings).origins xs,
        Hash.sip u.stream = Hash.sip v.stream → u.stream = v.stream) →
      ((s.caches.pool.get key a).1 = some handle ∨
        ∃ size build, (s.reuseOrBuild key a size build).1 = .ok (.hit handle)) →
      ∃ t ∈ (start settings).stores xs,
        t.insertion.address = a ∧ t.insertion.entry.item = handle.item ∧
        t.insertion.entry.usage.seq = handle.seq ∧
        t.insertion.entry.usage.key = key ∧ t.origin.key? = some key ∧
        t.origin.plan ∈ s.extracted ∧
        t.origin.plan.code.generation = o.plan.code.generation ∧
        (∃ shape, t.origin.plan.root = some shape ∧ o.plan.root = some shape) ∧
        t.origin.device = o.device ∧ t.origin.layout = o.layout ∧ t.origin.columns = o.columns := by
  intro s xs hwords r o key a handle ho hkey hhash hhit
  have hget : (s.caches.pool.get key a).1 = some handle := by
    rcases hhit with hhit | ⟨size, build, hhit⟩
    · exact hhit
    · exact get_of_reuseOrBuild hhit
  have hs : Tracked (start settings : Session α).caches.numbering s ((start settings).origins xs)
      ((start settings).stores xs) := by
    have h := (tracked_start settings).steps xs
    rw [List.append_nil, List.append_nil, ← run_eq_steps] at h
    exact h
  obtain ⟨e, he, hekey, heitem, heseq⟩ := exists_of_get hget
  obtain ⟨t, ht, hta, hte⟩ := hs.kept a e he
  obtain ⟨horigin, htkey⟩ := hs.keyed t ht
  rw [hte.key, hekey] at htkey
  -- the two keys are one, so the two streams are one
  obtain ⟨hocode, hovalue⟩ := KeyOrigin.key?_eq_some_iff.mp hkey
  obtain ⟨htcode, htvalue⟩ := KeyOrigin.key?_eq_some_iff.mp htkey
  have hstream : t.origin.stream = o.stream := by
    apply hhash _ (List.mem_cons_of_mem _ horigin) _ (List.mem_cons_self ..)
    rw [← htvalue, hovalue]
  have htplan : t.origin.plan ∈ s.extracted := hs.known _ horigin
  have hoplan : o.plan ∈ s.extracted := by
    obtain ⟨d, hd, rfl⟩ := Option.map_eq_some_iff.mp ho
    exact List.mem_of_getElem? hd
  obtain ⟨changes, hrun, hresolved⟩ := hs.numbering
  have hword : ∀ d ∈ s.extracted, d.code.isCacheable = true → d.code.generation ≤ maxWord := by
    intro d hd hdcode
    obtain ⟨q, hq, _, _, _, hqcode⟩ := hresolved d hd hdcode
    have hle := Numbering.generation_le_of_mem hq
    rw [hqcode]
    rw [hrun] at hwords
    exact Nat.le_trans hle hwords
  obtain ⟨hgeneration, htext, hdevice, hcontext⟩ :=
    ArtifactKey.stream_inj (hword _ htplan htcode) (hword _ hoplan hocode) hstream
  obtain ⟨hlayout, hcolumns⟩ := ArtifactKey.joinTable_bytes_inj hcontext
  have hroot := root_eq_of_code_eq (Numbering.sound_empty _ _) (hresolved _ htplan)
    (hresolved _ hoplan) htcode hocode hgeneration htext
  exact ⟨t, ht, hta, hte.item.trans heitem, hte.seq.trans heseq, hte.key.trans hekey,
    htkey, htplan, hgeneration, hroot,
    hdevice, hlayout, hcolumns⟩

/- The builder of the first table resets the session, so the table comes to be kept under a key of a
generation that is over. The plan is extracted again and gets the same text; its key is another, and the
table of the new generation is the one that is found. -/
theorem hit_has_same_origin_after_reset :
    let scope : QueryScope :=
      { catalog := ⟨[⟨⟨1, 1⟩, "orders", []⟩]⟩, tree := none, trees := .empty }
    let plan (id : Nat) : Plan := .node id (.scan ⟨1, 1⟩) []
    let r (i : Nat) : Request := ⟨i, 0, .oneToOne, "id"⟩
    let a : Address := ⟨.perfect, 0⟩
    let table (rows : Nat) : JoinTable :=
      ⟨.perfect 0 0, .oneToOne, none, 0, rows, Array.replicate rows 0⟩
    let actions : List (Action JoinTable) :=
      [.step (.extract scope (plan 1) .empty),
        .reuseOrBuild (r 0) a JoinTable.size [.step .reset] (.ok (table 5)),
        .step (.extract scope (plan 2) .empty),
        .reuseOrBuild (r 1) a JoinTable.size [] (.ok (table 7)),
        .step (.extract scope (plan 3) .empty)]
    let s := (start .standard).run actions
    ∃ o key handle, s.origin? (r 2) = some o ∧ o.key? = some key ∧
      (s.caches.pool.get key a).1 = some handle ∧ handle.seq = 1 ∧
      ∃ t ∈ (start .standard).stores ((start .standard).allSteps actions),
        t.insertion.entry.item = handle.item ∧ t.origin.plan.code.generation = 1 ∧
        ∃ shape, t.origin.plan.root = some shape ∧ o.plan.root = some shape := by
  intro scope plan r a table actions s
  have hwords : s.caches.numbering.generation ≤ maxWord := by decide +kernel +revert
  have hsome : (((s.origin? (r 2)).bind KeyOrigin.key?).bind fun key =>
      (s.caches.pool.get key a).1).map Handle.seq = some 1 := by decide +kernel +revert
  have hgeneration : (s.origin? (r 2)).map (fun o => o.plan.code.generation) = some 1 := by
    decide +kernel +revert
  have hhash : ∀ u ∈ (s.origin? (r 2)).toList ++
        (start .standard).origins ((start .standard).allSteps actions),
      ∀ v ∈ (s.origin? (r 2)).toList ++
        (start .standard).origins ((start .standard).allSteps actions),
      Hash.sip u.stream = Hash.sip v.stream → u.stream = v.stream := by decide +kernel +revert
  obtain ⟨handle, hhandle, hseq⟩ := Option.map_eq_some_iff.mp hsome
  obtain ⟨key, hkeyOf, hhit⟩ := Option.bind_eq_some_iff.mp hhandle
  obtain ⟨o, ho, hkey⟩ := Option.bind_eq_some_iff.mp hkeyOf
  rw [ho] at hgeneration
  rw [ho, Option.toList_some, List.singleton_append] at hhash
  obtain ⟨t, ht, _, hitem, _, _, _, _, hsame, hroot, _⟩ := hit_has_same_origin .standard actions hwords
    (r 2) o key a handle ho hkey hhash (Or.inl hhit)
  exact ⟨o, key, handle, ho, hkey, hhit, hseq, t, ht, hitem,
    hsame.trans (Option.some.inj hgeneration), hroot⟩

end Session

end PlanReuse
