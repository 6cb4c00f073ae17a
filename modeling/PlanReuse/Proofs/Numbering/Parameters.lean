import PlanReuse.Numbering.Extraction
import PlanReuse.Proofs.Algebra.Unambiguous

/-!
# Reading an operator's parameters back

The kind of an operator and the text of its parameters determine what the operator is told to do, up to
expressions that are alike.
-/

namespace PlanReuse

open Decimal (digits)
open Scalar (Closed Determines Named Opens closed_blank closed_nil)
open Text (IsWord)

/-! ### Operators that agree -/

def JoinLevel.Alike (l l' : JoinLevel) : Prop :=
  l.kind = l'.kind ∧ List.Forall₂ Scalar.Alike l.conditions l'.conditions

/-- Equality of operators up to alike expressions. What a left-deep join is told to do stands in its
levels. -/
def Operator.Agrees (levels levels' : List JoinLevel) : Operator → Operator → Prop
  | .scan t, .scan t' => t = t'
  | .project ts, .project ts' => List.Forall₂ Scalar.Alike ts ts'
  | .filter c, .filter c' => c.Alike c'
  | .aggregate g ts, .aggregate g' ts' => g = g' ∧ List.Forall₂ Scalar.Alike ts ts'
  | .sort ks l o, .sort ks' l' o' => ks = ks' ∧ l = l' ∧ o = o'
  | .join k c, .join k' c' => k = k' ∧ c.Alike c'
  | .leftDeepJoin, .leftDeepJoin => List.Forall₂ JoinLevel.Alike levels levels'
  | .compound c g ts, .compound c' g' ts' =>
    Option.Rel Scalar.Alike c c' ∧ g = g' ∧ List.Forall₂ Scalar.Alike ts ts'
  | .union a, .union a' => a = a'
  | _, _ => False

/-! ### Tables -/

theorem toList_toString_int (n : Int) : (toString n).toList = signedDigits n := by
  cases n with
  | ofNat m =>
    show (toString m).toList = _
    rw [Nat.toString_eq_ofList_toDigits, String.toList_ofList]
    rfl
  | negSucc m =>
    show ("-" ++ toString (m + 1)).toList = _
    rw [Nat.toString_eq_ofList_toDigits, String.toList_append, String.toList_ofList,
      String.toList_ofList, signedDigits, if_pos (Int.negSucc_lt_zero m)]
    rfl

theorem TableId.toList_text (t : TableId) :
    t.text.toList = signedDigits t.database ++ ':' :: signedDigits t.table := by
  rw [text, String.toList_append, String.toList_append, toList_toString_int, toList_toString_int,
    List.append_assoc]
  rfl

theorem TableId.text_append_inj {t t' : TableId} {s s' : List Char}
    (h : t.text.toList ++ ':' :: s = t'.text.toList ++ ':' :: s') : t = t' := by
  have hcolon (u : List Char) : Text.Stops Text.isPlain (':' :: u) :=
    (Text.stops_cons ..).mpr (by decide)
  rw [toList_text, toList_text, List.append_assoc, List.append_assoc] at h
  obtain ⟨hdatabase, h⟩ := Text.word_append_inj (isWord_signedDigits _) (isWord_signedDigits _)
    (hcolon _) (hcolon _) h
  obtain ⟨htable, _⟩ := Text.word_append_inj (isWord_signedDigits _) (isWord_signedDigits _)
    (hcolon _) (hcolon _) (List.cons.inj h).2
  cases t
  cases t'
  exact congr (congrArg TableId.mk (signedDigits_injective hdatabase)) (signedDigits_injective htable)

/-! ### Lists of expressions -/

namespace Scalar

theorem map_render_eq {es es' : List Scalar} (h : List.Forall₂ Alike es es') :
    es.map render = es'.map render := by
  induction h with
  | nil => rfl
  | cons hab _ ih => rw [List.map_cons, List.map_cons, render_eq_of_alike hab, ih]

theorem renderList_eq_of_alike {es es' : List Scalar} (h : List.Forall₂ Alike es es') :
    renderList es = renderList es' := by
  rw [renderList, renderList, renderEach_eq_map, renderEach_eq_map, map_render_eq h]

theorem renderList_append_inj {es es' : List Scalar} (he : ∀ e ∈ es, Named e)
    (he' : ∀ e ∈ es', Named e) {s t : List Char} (h : renderList es ++ s = renderList es' ++ t) :
    List.Forall₂ Alike es es' ∧ s = t := by
  simp only [renderList, renderEach_eq_map, List.cons_append, List.append_assoc, List.cons.injEq,
    true_and] at h
  exact commaSeparated_append_inj opens (by decide)
    (fun e hmem => ⟨(he e hmem).apart, unambiguous (he e hmem).apart⟩)
    (fun e hmem => (he' e hmem).apart) h

theorem renderList_injective {es es' : List Scalar} (he : ∀ e ∈ es, Named e)
    (he' : ∀ e ∈ es', Named e) (h : renderList es = renderList es') : List.Forall₂ Alike es es' :=
  (renderList_append_inj (s := []) (t := []) he he' (by rw [h])).1

end Scalar

namespace QueryScope

theorem translateList_eq {scope : QueryScope} (h : scope.translate = Scalar.render)
    (es : List Scalar) : scope.translateList es = Scalar.renderList es := by
  rw [translateList, Scalar.renderList, Scalar.renderEach_eq_map, h]

/-! ### Sort keys -/

theorem sortKeyText_opens : Opens sortKeyText fun _ => True :=
  fun k _ => ⟨'$', _, rfl, by decide⟩

def directionWord : SortDirection → List Char
  | .ascending => ['A', 'S', 'C']
  | .descending => ['D', 'E', 'S', 'C']

def nullsWord (nullsFirst : Bool) : List Char :=
  if nullsFirst then ['F', 'I', 'R', 'S', 'T'] else ['L', 'A', 'S', 'T']

/-- What stands behind the column of a sort key: words with blanks between them. -/
def sortOrder (d : SortDirection) (n : Bool) : List Char :=
  ' ' :: (directionWord d ++ ' ' :: (['N', 'U', 'L', 'L', 'S', ' '] ++ nullsWord n))

theorem sortKeyText_eq (k : SortKey) :
    sortKeyText k = '$' :: (digits k.column ++ sortOrder k.direction k.nullsFirst) := by
  have horder (d : SortDirection) (n : Bool) :
      (match d with | .ascending => " ASC" | .descending => " DESC").toList ++
        (if n then " NULLS FIRST" else " NULLS LAST").toList = sortOrder d n := by
    cases d <;> cases n <;> decide
  rw [sortKeyText, List.append_assoc]
  exact congrArg (fun order => '$' :: (digits k.column ++ order)) (horder k.direction k.nullsFirst)

theorem sortOrder_append_inj {d d' : SortDirection} {n n' : Bool} {s t : List Char} (hs : Closed s)
    (ht : Closed t) (h : sortOrder d n ++ s = sortOrder d' n' ++ t) : d = d' ∧ n = n' ∧ s = t := by
  have hdirection (d : SortDirection) : IsWord (directionWord d) := by
    cases d <;> decide
  have hnulls (n : Bool) : IsWord (nullsWord n) := by
    cases n <;> decide
  simp only [sortOrder, List.cons_append, List.append_assoc, List.cons.injEq, true_and] at h
  obtain ⟨hwords, h⟩ := Text.word_append_inj (hdirection d) (hdirection d')
    ((Text.stops_cons ..).mpr (by decide)) ((Text.stops_cons ..).mpr (by decide)) h
  simp only [List.nil_append, List.cons.injEq, true_and] at h
  obtain ⟨hends, hst⟩ := Text.word_append_inj (hnulls n) (hnulls n') hs.ends.stops ht.ends.stops h
  refine ⟨?_, ?_, hst⟩
  · cases d <;> cases d' <;> first | rfl | exact absurd hwords (by decide)
  · cases n <;> cases n' <;> first | rfl | exact absurd hends (by decide)

theorem sortKeyText_determines (k : SortKey) : Determines Closed sortKeyText Eq (fun _ => True) k := by
  intro k' s t _ hs ht h
  simp only [sortKeyText_eq, List.cons_append, List.append_assoc, List.cons.injEq, true_and] at h
  obtain ⟨hcolumn, h⟩ := Decimal.digits_append_inj ((Text.stops_cons ..).mpr (by decide))
    ((Text.stops_cons ..).mpr (by decide)) h
  obtain ⟨hdirection, hnulls, hst⟩ := sortOrder_append_inj hs ht h
  cases k
  cases k'
  exact ⟨congr (congr (congrArg SortKey.mk hcolumn) hdirection) hnulls, hst⟩

theorem sortKeysText_append_inj {ks ks' : List SortKey} {s t : List Char}
    (h : sortKeysText ks ++ s = sortKeysText ks' ++ t) : ks = ks' ∧ s = t := by
  simp only [sortKeysText, List.cons_append, List.append_assoc, List.cons.injEq, true_and] at h
  obtain ⟨hks, hst⟩ := Scalar.commaSeparated_append_inj sortKeyText_opens (by decide)
    (fun k _ => ⟨trivial, sortKeyText_determines k⟩) (fun _ _ => trivial) h
  exact ⟨List.forall₂_eq_eq_eq ▸ hks, hst⟩

theorem isWord_optionalText (n : Option Nat) : IsWord (optionalText n) := by
  cases n with
  | none => decide
  | some n => exact Decimal.isWord_digits n

theorem optionalText_injective {m n : Option Nat} (h : optionalText m = optionalText n) : m = n := by
  have hnone (k : Nat) : digits k ≠ optionalText none := by
    intro h
    have hn : 'n' ∈ digits k := by
      rw [h]
      decide
    exact absurd (Decimal.isDigit_of_mem_digits hn) (by decide)
  cases m with
  | none =>
    cases n with
    | none => rfl
    | some n => exact absurd h.symm (hnone n)
  | some m =>
    cases n with
    | none => exact absurd h (hnone m)
    | some n => exact congrArg some (Decimal.digits_injective h)

/-! ### Join levels -/

theorem isWord_joinKind (k : JoinKind) : IsWord k.name.toList := by
  cases k <;> decide

theorem joinKind_injective {k k' : JoinKind} (h : k.name.toList = k'.name.toList) : k = k' := by
  cases k <;> cases k' <;> first | rfl | exact absurd h (by decide)

variable {scope scope' : QueryScope}

/-- What stands between two levels. -/
def levelMark (depth : Nat) : List Char := if depth = 0 then [] else [';']

theorem levelsText_cons (h : scope.translate = Scalar.render) (depth : Nat) (l : JoinLevel)
    (ls : List JoinLevel) : scope.levelsText depth (l :: ls) =
      levelMark depth ++ 'L' :: (digits depth ++ ':' :: (l.kind.name.toList ++
        (Scalar.renderList l.conditions ++ scope.levelsText (depth + 1) ls))) := by
  simp only [levelsText, levelMark, translateList_eq h, List.cons_append, List.append_assoc]

theorem levelsText_ne_nil (h : scope.translate = Scalar.render) (depth : Nat) (l : JoinLevel)
    (ls : List JoinLevel) : scope.levelsText depth (l :: ls) ≠ [] := by
  rw [levelsText_cons h]
  intro hnil
  cases (List.append_eq_nil_iff.mp hnil).2

theorem levelsText_injective (h : scope.translate = Scalar.render)
    (h' : scope'.translate = Scalar.render) {ls ls' : List JoinLevel}
    (hls : ∀ l ∈ ls, ∀ c ∈ l.conditions, Named c)
    (hls' : ∀ l ∈ ls', ∀ c ∈ l.conditions, Named c)
    (depth : Nat) (heq : scope.levelsText depth ls = scope'.levelsText depth ls') :
    List.Forall₂ JoinLevel.Alike ls ls' := by
  induction ls generalizing ls' depth with
  | nil =>
    cases ls' with
    | nil => exact .nil
    | cons l' ls' => exact absurd heq.symm (levelsText_ne_nil h' depth l' ls')
  | cons l ls ih =>
    cases ls' with
    | nil => exact absurd heq (levelsText_ne_nil h depth l ls)
    | cons l' ls' =>
      obtain ⟨hl, hls⟩ := List.forall_mem_cons.mp hls
      obtain ⟨hl', hls'⟩ := List.forall_mem_cons.mp hls'
      rw [levelsText_cons h, levelsText_cons h'] at heq
      have hbehind := (List.cons.inj (List.append_cancel_left heq)).2
      have hkinds := (List.cons.inj (List.append_cancel_left hbehind)).2
      obtain ⟨hkind, hlists⟩ := Text.word_append_inj (isWord_joinKind _) (isWord_joinKind _)
        ((Text.stops_cons ..).mpr (by decide)) ((Text.stops_cons ..).mpr (by decide)) hkinds
      obtain ⟨hconditions, hrest⟩ := Scalar.renderList_append_inj hl hl' hlists
      exact .cons ⟨joinKind_injective hkind, hconditions⟩ (ih hls hls' (depth + 1) hrest)

theorem levelsText_eq_of_alike (h : scope.translate = Scalar.render)
    (h' : scope'.translate = Scalar.render) {ls ls' : List JoinLevel}
    (hls : List.Forall₂ JoinLevel.Alike ls ls') (depth : Nat) :
    scope.levelsText depth ls = scope'.levelsText depth ls' := by
  induction hls generalizing depth with
  | nil => rfl
  | cons hl _ ih =>
    rw [levelsText_cons h, levelsText_cons h', hl.1, Scalar.renderList_eq_of_alike hl.2, ih]

/-! ### Filters -/

/-- A filter, or the word that stands for the lack of one. -/
def filterText : Option Scalar → List Char
  | some e => e.render
  | none => "none".toList

theorem closed_groups (s : List Char) : Closed (" groups=".toList ++ s) := by
  have hblank : " groups=".toList = ' ' :: 'g' :: "roups=".toList := by decide
  rw [hblank]
  exact closed_blank (by decide) _

theorem filterText_append_inj {c c' : Option Scalar} (hc : ∀ e ∈ c, Named e) (hc' : ∀ e ∈ c', Named e)
    {s t : List Char} (hs : Closed s) (ht : Closed t) (h : filterText c ++ s = filterText c' ++ t) :
    Option.Rel Scalar.Alike c c' ∧ s = t := by
  have hnone {e : Scalar} (he : Named e) {u v : List Char} (hu : Closed u) (hv : Closed v) :
      e.render ++ u ≠ filterText none ++ v :=
    Scalar.render_append_ne_word he.apart (by decide) (by decide) (by decide) hu.ends hv.ends
  cases c with
  | none =>
    cases c' with
    | none => exact ⟨.none, List.append_cancel_left h⟩
    | some e' => exact absurd h.symm (hnone (hc' e' rfl) ht hs)
  | some e =>
    cases c' with
    | none => exact absurd h (hnone (hc e rfl) hs ht)
    | some e' =>
      obtain ⟨halike, hst⟩ := Scalar.unambiguous (hc e rfl).apart e' s t (hc' e' rfl).apart hs ht h
      exact ⟨.some halike, hst⟩

theorem filterText_eq_of_alike {c c' : Option Scalar} (h : Option.Rel Scalar.Alike c c') :
    filterText c = filterText c' := by
  cases h with
  | none => rfl
  | some h => exact Scalar.render_eq_of_alike h

/-! ### Operators -/

theorem params_compound (h : scope.translate = Scalar.render) (levels : List JoinLevel)
    (c : Option Scalar) (g : Nat) (ts : List Scalar) : scope.params levels (.compound c g ts) =
      .ok ("filter=".toList ++ (filterText c ++ (" groups=".toList ++ (digits g ++
        (" targets=".toList ++ Scalar.renderList ts))))) := by
  cases c <;> simp only [params, filterText, translateList_eq h, h, List.append_assoc]

theorem params_aggregate (h : scope.translate = Scalar.render) (levels : List JoinLevel) (g : Nat)
    (ts : List Scalar) : scope.params levels (.aggregate g ts) =
      .ok ("groups=".toList ++ (digits g ++ (" aggs=".toList ++ Scalar.renderList ts))) := by
  simp only [params, translateList_eq h, List.append_assoc]

theorem params_sort (levels : List JoinLevel) (ks : List SortKey) (l : Option Nat) (o : Nat) :
    scope.params levels (.sort ks l o) =
      .ok ("keys=".toList ++ (sortKeysText ks ++ (" limit=".toList ++ (optionalText l ++
        (" offset=".toList ++ digits o))))) := by
  simp only [params, List.append_assoc]

theorem scan_of_params_eq {levels levels' : List JoinLevel} {t t' : TableId} {text : List Char}
    (h : scope.params levels (.scan t) = .ok text) (h' : scope'.params levels' (.scan t') = .ok text) :
    t = t' := by
  have hname (sc : QueryScope) (ls : List JoinLevel) (u : TableId)
      (hu : sc.params ls (.scan u) = .ok text) : ∃ name, u.text.toList ++ ':' :: name = text := by
    cases hfind : sc.catalog.find? u with
    | none =>
      simp only [params, hfind] at hu
      cases hu
    | some info =>
      simp only [params, hfind] at hu
      exact ⟨info.name.toList, Except.ok.inj hu⟩
  obtain ⟨name, htext⟩ := hname scope levels t h
  obtain ⟨name', htext'⟩ := hname scope' levels' t' h'
  exact TableId.text_append_inj (htext.trans htext'.symm)

section

variable (h : scope.translate = Scalar.render) (h' : scope'.translate = Scalar.render)
  {levels levels' : List JoinLevel}
include h h'

theorem filter_of_params_eq {c c' : Scalar} (hc : Named c) (hc' : Named c')
    (heq : scope.params levels (.filter c) = scope'.params levels' (.filter c')) : c.Alike c' := by
  have htexts := Except.ok.inj heq
  rw [h, h'] at htexts
  exact (Scalar.render_eq_iff_alike hc.apart hc'.apart).mp htexts

theorem project_of_params_eq {ts ts' : List Scalar} (hts : ∀ e ∈ ts, Named e)
    (hts' : ∀ e ∈ ts', Named e)
    (heq : scope.params levels (.project ts) = scope'.params levels' (.project ts')) :
    List.Forall₂ Scalar.Alike ts ts' := by
  have htexts := Except.ok.inj heq
  rw [translateList_eq h, translateList_eq h'] at htexts
  exact Scalar.renderList_injective hts hts' htexts

theorem aggregate_of_params_eq {g g' : Nat} {ts ts' : List Scalar} (hts : ∀ e ∈ ts, Named e)
    (hts' : ∀ e ∈ ts', Named e)
    (heq : scope.params levels (.aggregate g ts) = scope'.params levels' (.aggregate g' ts')) :
    g = g' ∧ List.Forall₂ Scalar.Alike ts ts' := by
  rw [params_aggregate h, params_aggregate h'] at heq
  have hbehind := List.append_cancel_left (Except.ok.inj heq)
  obtain ⟨hgroups, hlists⟩ := Decimal.digits_append_inj (Text.stops_append (by decide) _)
    (Text.stops_append (by decide) _) hbehind
  exact ⟨hgroups, Scalar.renderList_injective hts hts' (List.append_cancel_left hlists)⟩

theorem join_of_params_eq {k k' : JoinKind} {c c' : Scalar} (hc : Named c) (hc' : Named c')
    (heq : scope.params levels (.join k c) = scope'.params levels' (.join k' c')) :
    k = k' ∧ c.Alike c' := by
  have htexts := Except.ok.inj heq
  rw [h, h'] at htexts
  obtain ⟨hkind, hconditions⟩ := Text.word_append_inj (isWord_joinKind k) (isWord_joinKind k')
    ((Text.stops_cons ..).mpr (by decide)) ((Text.stops_cons ..).mpr (by decide)) htexts
  exact ⟨joinKind_injective hkind,
    (Scalar.render_eq_iff_alike hc.apart hc'.apart).mp (List.cons.inj hconditions).2⟩

theorem compound_of_params_eq {c c' : Option Scalar} {g g' : Nat} {ts ts' : List Scalar}
    (hn : ∀ e ∈ c.toList ++ ts, Named e) (hn' : ∀ e ∈ c'.toList ++ ts', Named e)
    (heq : scope.params levels (.compound c g ts) = scope'.params levels' (.compound c' g' ts')) :
    Option.Rel Scalar.Alike c c' ∧ g = g' ∧ List.Forall₂ Scalar.Alike ts ts' := by
  obtain ⟨hc, hts⟩ := List.forall_mem_append.mp hn
  obtain ⟨hc', hts'⟩ := List.forall_mem_append.mp hn'
  rw [params_compound h, params_compound h'] at heq
  have hbehind := List.append_cancel_left (Except.ok.inj heq)
  obtain ⟨hfilters, hrest⟩ := filterText_append_inj (fun e he => hc e (Option.mem_toList.mpr he))
    (fun e he => hc' e (Option.mem_toList.mpr he)) (closed_groups _) (closed_groups _) hbehind
  obtain ⟨hgroups, hlists⟩ := Decimal.digits_append_inj (Text.stops_append (by decide) _)
    (Text.stops_append (by decide) _) (List.append_cancel_left hrest)
  exact ⟨hfilters, hgroups, Scalar.renderList_injective hts hts' (List.append_cancel_left hlists)⟩

end

theorem sort_of_params_eq {levels levels' : List JoinLevel} {ks ks' : List SortKey}
    {l l' : Option Nat} {o o' : Nat}
    (heq : scope.params levels (.sort ks l o) = scope'.params levels' (.sort ks' l' o')) :
    ks = ks' ∧ l = l' ∧ o = o' := by
  rw [params_sort, params_sort] at heq
  have hbehind := List.append_cancel_left (Except.ok.inj heq)
  obtain ⟨hkeys, hrest⟩ := sortKeysText_append_inj hbehind
  obtain ⟨hlimit, hoffset⟩ := Text.word_append_inj (isWord_optionalText l) (isWord_optionalText l')
    (Text.stops_append (by decide) _) (Text.stops_append (by decide) _)
    (List.append_cancel_left hrest)
  exact ⟨hkeys, optionalText_injective hlimit,
    Decimal.digits_injective (List.append_cancel_left hoffset)⟩

/-- One kind and one text of parameters: the operators agree. -/
theorem agrees_of_params_eq (h : scope.translate = Scalar.render)
    (h' : scope'.translate = Scalar.render) {levels levels' : List JoinLevel} {o o' : Operator}
    (ho : ∀ e ∈ o.scalars ++ levels.flatMap JoinLevel.conditions, Named e)
    (ho' : ∀ e ∈ o'.scalars ++ levels'.flatMap JoinLevel.conditions, Named e)
    (hkind : o.kind = o'.kind) {text : List Char} (htext : scope.params levels o = .ok text)
    (htext' : scope'.params levels' o' = .ok text) : o.Agrees levels levels' o' := by
  obtain ⟨hscalars, hlevels⟩ := List.forall_mem_append.mp ho
  obtain ⟨hscalars', hlevels'⟩ := List.forall_mem_append.mp ho'
  have heq := htext.trans htext'.symm
  cases o with
  | scan t =>
    cases o' with
    | scan t' => exact scan_of_params_eq htext htext'
    | _ => cases hkind
  | project ts =>
    cases o' with
    | project ts' => exact project_of_params_eq h h' hscalars hscalars' heq
    | _ => cases hkind
  | filter c =>
    cases o' with
    | filter c' =>
      exact filter_of_params_eq h h' (hscalars c (List.mem_singleton_self c))
        (hscalars' c' (List.mem_singleton_self c')) heq
    | _ => cases hkind
  | aggregate g ts =>
    cases o' with
    | aggregate g' ts' => exact aggregate_of_params_eq h h' hscalars hscalars' heq
    | _ => cases hkind
  | sort ks l o =>
    cases o' with
    | sort ks' l' o' => exact sort_of_params_eq heq
    | _ => cases hkind
  | join k c =>
    cases o' with
    | join k' c' =>
      exact join_of_params_eq h h' (hscalars c (List.mem_singleton_self c))
        (hscalars' c' (List.mem_singleton_self c')) heq
    | _ => cases hkind
  | leftDeepJoin =>
    cases o' with
    | leftDeepJoin =>
      refine levelsText_injective h h' ?_ ?_ 0 (Except.ok.inj heq)
      · exact fun l hl c hc => hlevels c (List.mem_flatMap.mpr ⟨l, hl, hc⟩)
      · exact fun l hl c hc => hlevels' c (List.mem_flatMap.mpr ⟨l, hl, hc⟩)
    | _ => cases hkind
  | compound c g ts =>
    cases o' with
    | compound c' g' ts' => exact compound_of_params_eq h h' hscalars hscalars' heq
    | _ => cases hkind
  | union a =>
    cases o' with
    | union a' =>
      have htexts := Except.ok.inj heq
      cases a <;> cases a' <;> first | rfl | exact absurd htexts (by decide)
    | _ => cases hkind

/-- Operators that agree have one kind and, under one catalog, one text of parameters. -/
theorem params_eq_of_agrees (hcatalog : scope.catalog = scope'.catalog)
    (h : scope.translate = Scalar.render) (h' : scope'.translate = Scalar.render)
    {levels levels' : List JoinLevel} {o o' : Operator} (hagrees : o.Agrees levels levels' o') :
    o.kind = o'.kind ∧ scope.params levels o = scope'.params levels' o' := by
  cases o with
  | scan t =>
    cases o' with
    | scan t' =>
      cases hagrees
      exact ⟨rfl, by rw [params, params, hcatalog]⟩
    | _ => cases hagrees
  | project ts =>
    cases o' with
    | project ts' =>
      refine ⟨rfl, ?_⟩
      rw [params, params, translateList_eq h, translateList_eq h',
        Scalar.renderList_eq_of_alike hagrees]
    | _ => cases hagrees
  | filter c =>
    cases o' with
    | filter c' =>
      refine ⟨rfl, ?_⟩
      rw [params, params, h, h', Scalar.render_eq_of_alike hagrees]
    | _ => cases hagrees
  | aggregate g ts =>
    cases o' with
    | aggregate g' ts' =>
      obtain ⟨rfl, hts⟩ := hagrees
      refine ⟨rfl, ?_⟩
      rw [params_aggregate h, params_aggregate h', Scalar.renderList_eq_of_alike hts]
    | _ => cases hagrees
  | sort ks l o =>
    cases o' with
    | sort ks' l' o' =>
      obtain ⟨rfl, rfl, rfl⟩ := hagrees
      exact ⟨rfl, rfl⟩
    | _ => cases hagrees
  | join k c =>
    cases o' with
    | join k' c' =>
      obtain ⟨rfl, hc⟩ := hagrees
      refine ⟨rfl, ?_⟩
      rw [params, params, h, h', Scalar.render_eq_of_alike hc]
    | _ => cases hagrees
  | leftDeepJoin =>
    cases o' with
    | leftDeepJoin =>
      refine ⟨rfl, ?_⟩
      rw [params, params, levelsText_eq_of_alike h h' hagrees]
    | _ => cases hagrees
  | compound c g ts =>
    cases o' with
    | compound c' g' ts' =>
      obtain ⟨hc, rfl, hts⟩ := hagrees
      refine ⟨rfl, ?_⟩
      rw [params_compound h, params_compound h', filterText_eq_of_alike hc,
        Scalar.renderList_eq_of_alike hts]
    | _ => cases hagrees
  | union a =>
    cases o' with
    | union a' =>
      cases hagrees
      exact ⟨rfl, rfl⟩
    | _ => cases hagrees

end QueryScope

end PlanReuse
