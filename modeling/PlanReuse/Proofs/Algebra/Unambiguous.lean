import PlanReuse.Proofs.Algebra.Leading

/-!
# Canonical texts are unambiguous

Texts of expressions are equal only if the expressions are alike, as long as no call has both the name of an
operator or an aggregate and one argument. A membership is written behind its argument without parentheses,
so the argument's text is a beginning of its own: the induction takes an expression together with the lists
that are still to come.
-/

namespace PlanReuse

namespace Scalar

/-! ### Memberships -/

/-- A list of constants behind an expression, and whether the membership is negated. -/
abbrev Membership := List Constant × Bool

def membershipText (m : Membership) : List Char :=
  membershipMark m.2 ++ commaSeparated (m.1.map Constant.render) ++ [')']

/-- The membership of the expression in the first list, the membership of that in the second one, and
so on. -/
def within (e : Scalar) : List Membership → Scalar
  | [] => e
  | m :: ms => within (inList e m.1 m.2) ms

theorem render_within (e : Scalar) (ms : List Membership) :
    render (within e ms) = render e ++ ms.flatMap membershipText := by
  induction ms generalizing e with
  | nil => rw [within, List.flatMap_nil, List.append_nil]
  | cons m ms ih =>
    rw [within, ih, render, List.flatMap_cons]
    simp only [membershipText, membershipMark, List.append_assoc]

/-- Every expression is one that is no membership with lists behind it. -/
theorem exists_within {e : Scalar} (he : Apart e) (ms : List Membership) :
    ∃ b ns, Apart b ∧ b.form ≠ .inList ∧ within e ms = within b ns := by
  by_cases hbase : e.form = .inList
  · cases e with
    | inList a vs n => exact exists_within (calls_inList.mp he) ((vs, n) :: ms)
    | _ => cases hbase
  · exact ⟨e, ms, he, hbase, rfl⟩

def Membership.Alike (m n : Membership) : Prop := List.Forall₂ Constant.Alike m.1 n.1 ∧ m.2 = n.2

theorem alike_within {e e' : Scalar} (h : Alike e e') {ms ns : List Membership}
    (hms : List.Forall₂ Membership.Alike ms ns) : Alike (within e ms) (within e' ns) := by
  induction hms generalizing e e' with
  | nil => exact h
  | cons hm _ ih => exact ih ⟨h, hm.1, hm.2⟩

theorem membershipMark_append_inj {m n : Bool} {s t : List Char}
    (h : membershipMark m ++ s = membershipMark n ++ t) : m = n ∧ s = t := by
  cases m <;> cases n
  · exact ⟨rfl, List.append_cancel_left h⟩
  · exact absurd (List.cons.inj (List.cons.inj h).2).1 (by decide)
  · exact absurd (List.cons.inj (List.cons.inj h).2).1 (by decide)
  · exact ⟨rfl, List.append_cancel_left h⟩

theorem memberships_append_inj {ms ns : List Membership} {s t : List Char} (hs : Closed s)
    (ht : Closed t) (h : ms.flatMap membershipText ++ s = ns.flatMap membershipText ++ t) :
    List.Forall₂ Membership.Alike ms ns ∧ s = t := by
  have hmark (m : Membership) (u : List Char) : membershipMark m.2 <+: membershipText m ++ u := by
    rw [membershipText, List.append_assoc, List.append_assoc]
    exact List.prefix_append _ _
  induction ms generalizing ns with
  | nil =>
    cases ns with
    | nil => exact ⟨.nil, h⟩
    | cons n ns =>
      rw [List.flatMap_nil, List.nil_append, List.flatMap_cons, List.append_assoc] at h
      exact absurd (h ▸ hmark n _) (hs.separate n.2)
  | cons m ms ih =>
    rw [List.flatMap_cons, List.append_assoc] at h
    cases ns with
    | nil =>
      rw [List.flatMap_nil, List.nil_append] at h
      exact absurd (h ▸ hmark m _) (ht.separate m.2)
    | cons n ns =>
      rw [List.flatMap_cons, List.append_assoc] at h
      simp only [membershipText, List.append_assoc] at h
      obtain ⟨hnegated, h⟩ := membershipMark_append_inj h
      have hvalue (c : Constant) :
          Determines Closed Constant.render Constant.Alike (fun _ => True) c :=
        c.determines.mono fun _ hu => hu.ends
      obtain ⟨hvalues, h⟩ := commaSeparated_append_inj Constant.opens (by decide)
        (fun c _ => ⟨trivial, hvalue c⟩) (fun _ _ => trivial) h
      obtain ⟨hrest, hst⟩ := ih h
      exact ⟨.cons ⟨hvalues, hnegated⟩ hrest, hst⟩

theorem ends_memberships (ms : List Membership) {s : List Char} (hs : Closed s) :
    Ends (ms.flatMap membershipText ++ s) := by
  cases ms with
  | nil => exact hs.ends
  | cons m ms =>
    rw [List.flatMap_cons, membershipText, List.append_assoc, List.append_assoc, List.append_assoc]
    exact ends_membershipMark m.2 _

/-! ### One form at a time -/

/-- The text of an expression that is no membership determines it, whatever lists may follow. -/
abbrev BaseDetermines : Scalar → Prop :=
  Determines Ends render Alike fun e => Apart e ∧ e.form ≠ .inList

/-- The text of an expression determines it. -/
abbrev Unambiguous : Scalar → Prop := Determines Closed render Alike Apart

/-- Taking the lists off. -/
theorem BaseDetermines.within {b : Scalar} (hb : BaseDetermines b) (ms : List Membership) :
    Unambiguous (within b ms) := by
  intro e s t he hs ht h
  obtain ⟨b', ns, hapart, hform, hwithin⟩ := exists_within he []
  rw [show e = Scalar.within b' ns from hwithin] at h ⊢
  rw [render_within, render_within, List.append_assoc, List.append_assoc] at h
  obtain ⟨hbase, hrest⟩ := hb b' _ _ ⟨hapart, hform⟩ (ends_memberships ms hs)
    (ends_memberships ns ht) h
  obtain ⟨hlists, hst⟩ := memberships_append_inj hs ht hrest
  exact ⟨alike_within hbase hlists, hst⟩

/-! ### Parentheses -/

/-- A word that is followed by an ending mark is the beginning of no expression but the absent value
and the tests for it. -/
theorem render_append_ne_word {a : Scalar} (ha : Apart a) {w : List Char} (hw : Text.IsWord w)
    (hnull : w ≠ ['N', 'U', 'L', 'L']) (his : w ≠ ['I', 'S']) {s u : List Char} (hs : Ends s)
    (hu : Ends u) : render a ++ s ≠ w ++ u := by
  intro h
  rw [render_eq_word_append, List.append_assoc] at h
  obtain ⟨rfl, hbody⟩ := Text.word_append_inj (isWord_word ha) hw (stops_body a hs) hu.stops h
  rcases word_of_ends_body a (hbody ▸ hu) with hcase | hcase
  · exact hnull hcase
  · exact his hcase

theorem arguments_append_ne_word {as : List Scalar} (has : ∀ a ∈ as, Apart a) {c : Char}
    {w : List Char} (hw : Text.IsWord (c :: w)) (hnull : c :: w ≠ ['N', 'U', 'L', 'L'])
    (his : c :: w ≠ ['I', 'S']) {s u : List Char} (hu : Ends u) :
    commaSeparated (renderEach as) ++ ([')'] ++ s) ≠ (c :: w) ++ u := by
  cases as with
  | nil =>
    intro h
    have hc : ')' = c := (List.cons.inj h).1
    rw [← hc, Text.isWord_cons] at hw
    exact absurd hw.1 (by decide)
  | cons a as =>
    rw [renderEach, commaSeparated_cons, List.append_assoc]
    exact render_append_ne_word (has a (List.mem_cons_self ..)) hw hnull his
      (closed_rest (by decide) _).ends hu

/-- What stands in the parentheses behind a word: arguments, or the mark of the rows. -/
def argumentText : Option (List Scalar) → List Char
  | some as => commaSeparated (renderEach as)
  | none => ['*']

theorem argumentText_not_distinct {a : Option (List Scalar)} (ha : ∀ as ∈ a, ∀ x ∈ as, Apart x)
    (s : List Char) : ¬distinctMark true <+: argumentText a ++ ([')'] ++ s) := by
  rintro ⟨t, ht⟩
  cases a with
  | none => exact absurd (List.cons.inj ht).1 (by decide)
  | some as =>
    have hmark : distinctMark true ++ t = "DISTINCT".toList ++ ' ' :: t := rfl
    exact arguments_append_ne_word (ha as rfl) (by decide) (by decide) (by decide)
      ((ends_cons _ _).mpr (by decide)) (ht.symm.trans hmark)

theorem distinctMark_append_inj {d d' : Bool} {s t : List Char} (hs : ¬distinctMark true <+: s)
    (ht : ¬distinctMark true <+: t) (h : distinctMark d ++ s = distinctMark d' ++ t) :
    d = d' ∧ s = t := by
  cases d <;> cases d'
  · exact ⟨rfl, h⟩
  · exact absurd ⟨t, h.symm⟩ hs
  · exact absurd ⟨s, h⟩ ht
  · exact ⟨rfl, List.append_cancel_left h⟩

theorem argumentText_append_inj {a b : Option (List Scalar)}
    (ha : ∀ as ∈ a, ∀ x ∈ as, Apart x ∧ Unambiguous x) (hb : ∀ bs ∈ b, ∀ x ∈ bs, Apart x)
    {s t : List Char} (h : argumentText a ++ ([')'] ++ s) = argumentText b ++ ([')'] ++ t)) :
    Option.Rel (List.Forall₂ Alike) a b ∧ s = t := by
  have hrows {xs : List Scalar} (hxs : ∀ x ∈ xs, Apart x) (u v : List Char) :
      commaSeparated (renderEach xs) ++ ([')'] ++ u) ≠ ['*'] ++ ([')'] ++ v) :=
    arguments_append_ne_word hxs (by decide) (by decide) (by decide) (closed_bracket v).ends
  cases a with
  | none =>
    cases b with
    | none => exact ⟨.none, (List.cons.inj (List.cons.inj h).2).2⟩
    | some bs => exact absurd h.symm (hrows (hb bs rfl) t s)
  | some as =>
    cases b with
    | none => exact absurd h (hrows (fun x hx => (ha as rfl x hx).1) s t)
    | some bs =>
      simp only [argumentText, renderEach_eq_map] at h
      obtain ⟨hsame, hst⟩ := commaSeparated_append_inj opens (by decide) (ha as rfl) (hb bs rfl) h
      exact ⟨.some hsame, hst⟩

/-- What stands behind the word of an operator, a call or an aggregate. -/
def parenthesised (distinct : Bool) (a : Option (List Scalar)) : List Char :=
  '(' :: (distinctMark distinct ++ argumentText a ++ [')'])

theorem parenthesised_append_inj {d d' : Bool} {a b : Option (List Scalar)}
    (ha : ∀ as ∈ a, ∀ x ∈ as, Apart x ∧ Unambiguous x) (hb : ∀ bs ∈ b, ∀ x ∈ bs, Apart x)
    {s t : List Char} (h : parenthesised d a ++ s = parenthesised d' b ++ t) :
    d = d' ∧ Option.Rel (List.Forall₂ Alike) a b ∧ s = t := by
  simp only [parenthesised, List.cons_append, List.append_assoc, List.cons.injEq, true_and] at h
  obtain ⟨hd, h⟩ := distinctMark_append_inj
    (argumentText_not_distinct (fun as has x hx => (ha as has x hx).1) s)
    (argumentText_not_distinct hb t) h
  exact ⟨hd, argumentText_append_inj ha hb h⟩

theorem argumentText_single (a : Scalar) : argumentText (some [a]) = render a := by
  rw [argumentText, renderEach, renderEach, commaSeparated_cons, List.flatMap_nil, List.append_nil]

theorem body_unary (o : UnaryOp) (a : Scalar) :
    body (unary o a) = o.gap ++ parenthesised false (some [a]) := by
  rw [body, parenthesised, argumentText_single]
  rfl

theorem body_call (f : String) (as : List Scalar) :
    body (call f as) = parenthesised false (some as) := rfl

theorem body_aggregate (o : AggregateOp) (d : Bool) (a : Scalar) :
    body (aggregate o d a) = parenthesised d (some [a]) := by
  rw [body, parenthesised, argumentText_single]

theorem body_aggregateRows (o : AggregateOp) (d : Bool) :
    body (aggregateRows o d) = parenthesised d none := by
  rw [body, parenthesised, argumentText, List.append_assoc]
  rfl

theorem Apart.length_ne_one {f : String} {as : List Scalar} (h : Apart (call f as))
    (hname : (call f as).word ∈ reservedNames) : as.length ≠ 1 :=
  (calls_call.mp h).1.free hname

/-- The one operator that a call can look like. -/
theorem eq_not_of_looks_called {o : UnaryOp} {a : Scalar} {f : String} {as : List Scalar}
    (hf : Text.IsIdentifier f.toList) (hword : o.word = Text.upper f.toList) {s t : List Char}
    (hbody : (unary o a).body ++ s = (call f as).body ++ t) : o = .not := by
  cases o with
  | not => rfl
  | neg =>
    have hminus : '-' ∈ Text.upper f.toList := hword ▸ List.mem_singleton_self '-'
    exact absurd (hf.of_mem_upper hminus).1 (by decide)
  | isNull => exact absurd (List.cons.inj hbody).1 (by decide)
  | isNotNull => exact absurd (List.cons.inj hbody).1 (by decide)

-- In each case `leading_eq` makes the bare forms equal. Where there is none, the words are equal, and a
-- call is told from the rest by the number of its arguments.
theorem baseDetermines_column (i : Nat) : BaseDetermines (column i) := by
  intro e s t ⟨he, hbase⟩ hs ht h
  obtain ⟨hform, _, hbody⟩ := leading_eq (calls_column i) he nofun hbase hs ht h
  cases e with
  | column j =>
    exact Decimal.digits_append_inj hs.stops_digit ht.stops_digit (List.cons.inj hbody).2
  | _ => cases hform

theorem baseDetermines_constant (c : Constant) : BaseDetermines (constant c) := by
  intro e s t ⟨he, hbase⟩ hs ht h
  obtain ⟨hform, _, _⟩ := leading_eq (calls_constant c) he nofun hbase hs ht h
  cases e with
  | constant d => exact c.determines d s t trivial hs ht h
  | _ => cases hform

theorem baseDetermines_binary {o : BinaryOp} {l r : Scalar} (hn : Apart (binary o l r))
    (hl : Unambiguous l) (hr : Unambiguous r) : BaseDetermines (binary o l r) := by
  intro e s t ⟨he, hbase⟩ hs ht h
  obtain ⟨hform, _, hbody⟩ := leading_eq hn he nofun hbase hs ht h
  cases e with
  | binary o' l' r' =>
    obtain ⟨hl', hr'⟩ := calls_binary.mp he
    simp only [body, List.cons_append, List.append_assoc, List.cons.injEq, true_and] at hbody
    obtain ⟨hleft, hbody⟩ := hl l' _ _ hl' (closed_sign o _) (closed_sign o' _) hbody
    obtain ⟨hsign, hbody⟩ := Text.word_append_inj o.isWord_sign o'.isWord_sign
      ((Text.stops_cons ..).mpr (by decide)) ((Text.stops_cons ..).mpr (by decide))
      (List.cons.inj hbody).2
    obtain ⟨hright, hbody⟩ := hr r' _ _ hr' (closed_bracket _) (closed_bracket _)
      (List.cons.inj hbody).2
    exact ⟨⟨BinaryOp.sign_injective hsign, hleft, hright⟩, (List.cons.inj hbody).2⟩
  | _ => cases hform

theorem baseDetermines_unary {o : UnaryOp} {a : Scalar} (hn : Apart (unary o a))
    (ha : Unambiguous a) : BaseDetermines (unary o a) := by
  intro e s t ⟨he, hbase⟩ hs ht h
  obtain ⟨hform, hword, hbody⟩ := leading_eq hn he nofun hbase hs ht h
  cases e with
  | unary o' a' =>
    simp only [render, List.cons_append, List.append_assoc] at h
    obtain ⟨hsign, h⟩ := UnaryOp.sign_append_inj h
    obtain ⟨harg, h⟩ := ha a' _ _ (calls_unary.mp he) (closed_bracket _) (closed_bracket _) h
    exact ⟨⟨hsign, harg⟩, (List.cons.inj h).2⟩
  | call g bs =>
    obtain ⟨hg, hbs⟩ := calls_call.mp he
    obtain rfl := eq_not_of_looks_called hg.identifier hword hbody
    rw [body_unary, body_call] at hbody
    obtain ⟨_, ⟨hargs⟩, _⟩ := parenthesised_append_inj (a := some [a]) (b := some bs)
      (by simpa using ⟨calls_unary.mp hn, ha⟩) (by simpa using hbs) hbody
    exact absurd hargs.length_eq.symm (he.length_ne_one (hword ▸ List.mem_cons_self ..))
  | aggregate o' d a' => exact absurd hword (UnaryOp.word_ne_name o o')
  | aggregateRows o' d => exact absurd hword (UnaryOp.word_ne_name o o')
  | _ => cases hform

theorem baseDetermines_call {f : String} {as : List Scalar} (hn : Apart (call f as))
    (has : ∀ a ∈ as, Unambiguous a) : BaseDetermines (call f as) := by
  intro e s t ⟨he, hbase⟩ hs ht h
  obtain ⟨hform, hword, hbody⟩ := leading_eq hn he nofun hbase hs ht h
  obtain ⟨hf, hapart⟩ := calls_call.mp hn
  have hdetermined : ∀ bs ∈ some as, ∀ x ∈ bs, Apart x ∧ Unambiguous x := by
    rintro _ ⟨⟩ x hx
    exact ⟨hapart x hx, has x hx⟩
  cases e with
  | call g bs =>
    rw [body_call, body_call] at hbody
    obtain ⟨_, ⟨hargs⟩, hst⟩ := parenthesised_append_inj (b := some bs) hdetermined
      (by simpa using (calls_call.mp he).2) hbody
    exact ⟨⟨hword, alikeAll_iff_forall₂.mpr hargs⟩, hst⟩
  | unary o a =>
    obtain rfl := eq_not_of_looks_called hf.identifier hword.symm hbody.symm
    rw [body_unary, body_call] at hbody
    obtain ⟨_, ⟨hargs⟩, _⟩ := parenthesised_append_inj (b := some [a]) hdetermined
      (by simpa using calls_unary.mp he) hbody
    exact absurd hargs.length_eq (hn.length_ne_one (hword ▸ List.mem_cons_self ..))
  | aggregate o d a =>
    rw [body_aggregate, body_call] at hbody
    obtain ⟨_, ⟨hargs⟩, _⟩ := parenthesised_append_inj (b := some [a]) hdetermined
      (by simpa using calls_aggregate.mp he) hbody
    exact absurd hargs.length_eq (hn.length_ne_one (hword ▸ o.name_mem_reservedNames))
  | aggregateRows o d =>
    rw [body_aggregateRows, body_call] at hbody
    obtain ⟨_, ⟨⟩, _⟩ := parenthesised_append_inj (b := none) hdetermined nofun hbody
  | _ => cases hform

theorem baseDetermines_aggregate {o : AggregateOp} {d : Bool} {a : Scalar}
    (hn : Apart (aggregate o d a)) (ha : Unambiguous a) : BaseDetermines (aggregate o d a) := by
  intro e s t ⟨he, hbase⟩ hs ht h
  obtain ⟨hform, hword, hbody⟩ := leading_eq hn he nofun hbase hs ht h
  rw [body_aggregate] at hbody
  have hdetermined : ∀ as ∈ some [a], ∀ x ∈ as, Apart x ∧ Unambiguous x := by
    simpa using ⟨calls_aggregate.mp hn, ha⟩
  cases e with
  | aggregate o' d' a' =>
    rw [body_aggregate] at hbody
    obtain ⟨hd, ⟨hargs⟩, hst⟩ := parenthesised_append_inj (b := some [a']) hdetermined
      (by simpa using calls_aggregate.mp he) hbody
    exact ⟨⟨AggregateOp.name_injective hword, hd, (List.forall₂_cons.mp hargs).1⟩, hst⟩
  | aggregateRows o' d' =>
    rw [body_aggregateRows] at hbody
    obtain ⟨_, ⟨⟩, _⟩ := parenthesised_append_inj (b := none) hdetermined nofun hbody
  | call g bs =>
    rw [body_call] at hbody
    obtain ⟨_, ⟨hargs⟩, _⟩ := parenthesised_append_inj (b := some bs) hdetermined
      (by simpa using (calls_call.mp he).2) hbody
    exact absurd hargs.length_eq.symm (he.length_ne_one (hword ▸ o.name_mem_reservedNames))
  | unary p a' => exact absurd hword.symm (UnaryOp.word_ne_name p o)
  | _ => cases hform

theorem baseDetermines_aggregateRows (o : AggregateOp) (d : Bool) :
    BaseDetermines (aggregateRows o d) := by
  intro e s t ⟨he, hbase⟩ hs ht h
  obtain ⟨hform, hword, hbody⟩ := leading_eq (calls_aggregateRows o d) he nofun hbase hs ht h
  rw [body_aggregateRows] at hbody
  cases e with
  | aggregate o' d' a' =>
    rw [body_aggregate] at hbody
    obtain ⟨_, ⟨⟩, _⟩ := parenthesised_append_inj (a := none) (b := some [a']) nofun
      (by simpa using calls_aggregate.mp he) hbody
  | aggregateRows o' d' =>
    rw [body_aggregateRows] at hbody
    obtain ⟨hd, _, hst⟩ := parenthesised_append_inj (a := none) (b := none) nofun nofun hbody
    exact ⟨⟨AggregateOp.name_injective hword, hd⟩, hst⟩
  | call g bs =>
    rw [body_call] at hbody
    obtain ⟨_, ⟨⟩, _⟩ := parenthesised_append_inj (a := none) (b := some bs) nofun
      (by simpa using (calls_call.mp he).2) hbody
  | unary p a' => exact absurd hword.symm (UnaryOp.word_ne_name p o)
  | _ => cases hform

/-! ### All expressions -/

-- The induction is on the expression; a membership hands its list on to its argument.
mutual

theorem unambiguous_within : ∀ {e : Scalar}, Apart e → ∀ ms : List Membership,
    Unambiguous (within e ms)
  | column i, _, ms => (baseDetermines_column i).within ms
  | constant c, _, ms => (baseDetermines_constant c).within ms
  | binary .., h, ms => by
    have hl := unambiguous_within (calls_binary.mp h).1 []
    have hr := unambiguous_within (calls_binary.mp h).2 []
    exact (baseDetermines_binary h hl hr).within ms
  | unary .., h, ms => by
    have ha := unambiguous_within (calls_unary.mp h) []
    exact (baseDetermines_unary h ha).within ms
  | inList _ vs n, h, ms => unambiguous_within (calls_inList.mp h) ((vs, n) :: ms)
  | call .., h, ms => by
    have has := unambiguous_of_mem (calls_call.mp h).2
    exact (baseDetermines_call h has).within ms
  | aggregate .., h, ms => by
    have ha := unambiguous_within (calls_aggregate.mp h) []
    exact (baseDetermines_aggregate h ha).within ms
  | aggregateRows o d, _, ms => (baseDetermines_aggregateRows o d).within ms

theorem unambiguous_of_mem : ∀ {as : List Scalar}, (∀ a ∈ as, Apart a) → ∀ a ∈ as, Unambiguous a
  | [], _, _, ha => by cases ha
  | b :: bs, h, a, ha => by
    rcases List.mem_cons.mp ha with hab | ha
    · rw [hab]
      exact unambiguous_within (h b (List.mem_cons_self ..)) []
    · exact unambiguous_of_mem (fun x hx => h x (List.mem_cons_of_mem _ hx)) a ha

end

theorem unambiguous {e : Scalar} (he : Apart e) : Unambiguous e := unambiguous_within he []

/-- Expressions have one text exactly if they are alike. -/
theorem render_eq_iff_alike {e e' : Scalar} (he : Apart e) (he' : Apart e') :
    render e = render e' ↔ Alike e e' := by
  constructor
  · intro h
    exact (unambiguous he e' [] [] he' closed_nil closed_nil (by rw [h])).1
  · exact render_eq_of_alike

end Scalar

end PlanReuse
