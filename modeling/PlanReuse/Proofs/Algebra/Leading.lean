import PlanReuse.Proofs.Algebra.ConstantText

/-!
# How an expression begins

The text of an expression begins with a word, which may be empty, and the mark after it. The word and the
mark tell which form the expression has, once the lists behind it are taken off. Only the forms that are
written as a word in front of parentheses are not told apart.
-/

namespace PlanReuse

open Text (IsWord isPlain)

/-! ### Operators -/

/-- The first word of a sign, and the rest of the sign. -/
def UnaryOp.word : UnaryOp → List Char
  | .not => ['N', 'O', 'T']
  | .neg => ['-']
  | .isNull | .isNotNull => ['I', 'S']

def UnaryOp.gap : UnaryOp → List Char
  | .not | .neg => []
  | .isNull => " NULL".toList
  | .isNotNull => " NOT NULL".toList

theorem UnaryOp.sign_eq_word_append (o : UnaryOp) : o.sign.toList = o.word ++ o.gap := by
  cases o <;> decide

theorem UnaryOp.sign_append_inj {o o' : UnaryOp} {s t : List Char}
    (h : o.sign.toList ++ '(' :: s = o'.sign.toList ++ '(' :: t) : o = o' ∧ s = t := by
  have hsign (p : UnaryOp) : ∀ c ∈ p.sign.toList, (c != '(') = true := by
    rw [← List.all_eq_true]
    cases p <;> decide
  obtain ⟨hsame, hst⟩ := Text.append_inj_of_stops (hsign o) (hsign o') (by simp) (by simp) h
  refine ⟨?_, (List.cons.inj hst).2⟩
  cases o <;> cases o' <;> first | rfl | exact absurd hsame (by decide)

def BinaryOp.all : List BinaryOp :=
  [eq, ne, lt, le, gt, ge, and, or, add, sub, mul, div, mod]

theorem BinaryOp.sign_injective {o o' : BinaryOp} (h : o.sign.toList = o'.sign.toList) : o = o' := by
  have hfind (p : BinaryOp) : all.find? (fun q => q.sign.toList = p.sign.toList) = some p := by
    cases p <;> decide
  exact Option.some.inj ((hfind o).symm.trans (by rw [h, hfind o']))

theorem BinaryOp.isWord_sign (o : BinaryOp) : IsWord o.sign.toList := by
  cases o <;> decide

/-- No sign begins as the mark of a membership list does. -/
theorem BinaryOp.exists_sign_eq (o : BinaryOp) :
    ∃ c w, o.sign.toList = c :: w ∧ c ∉ ['I', 'N'] := by
  cases o <;> exact ⟨_, _, rfl, by decide⟩

theorem AggregateOp.name_injective {o o' : AggregateOp} (h : o.name.toList = o'.name.toList) :
    o = o' := by
  cases o <;> cases o' <;> first | rfl | exact absurd h (by decide)

theorem AggregateOp.isWord_name (o : AggregateOp) : IsWord o.name.toList := by
  cases o <;> decide

theorem AggregateOp.name_mem_reservedNames (o : AggregateOp) : o.name.toList ∈ reservedNames := by
  cases o <;> decide

theorem UnaryOp.word_ne_name (o : UnaryOp) (p : AggregateOp) : o.word ≠ p.name.toList := by
  cases o <;> cases p <;> decide

namespace Scalar

/-! ### Words and what follows them -/

/-- The word that the text of an expression begins with. -/
def word : Scalar → List Char
  | column _ | binary .. => []
  | constant c => c.word
  | unary o _ => o.word
  | inList a _ _ => word a
  | call f _ => Text.upper f.toList
  | aggregate o .. | aggregateRows o _ => o.name.toList

/-- The text of an expression behind its first word. -/
def body : Scalar → List Char
  | column i => '$' :: Decimal.digits i
  | constant c => c.ending
  | binary o l r => '(' :: (render l ++ ' ' :: (o.sign.toList ++ ' ' :: (render r ++ [')'])))
  | unary o a => o.gap ++ '(' :: (render a ++ [')'])
  | inList a vs n => body a ++ membershipMark n ++ commaSeparated (vs.map Constant.render) ++ [')']
  | call _ as => '(' :: (commaSeparated (renderEach as) ++ [')'])
  | aggregate _ d a => '(' :: (distinctMark d ++ render a ++ [')'])
  | aggregateRows _ d => '(' :: (distinctMark d ++ ['*', ')'])

theorem render_eq_word_append : ∀ e : Scalar, render e = word e ++ body e
  | column i => by rw [render, word, body, List.nil_append]
  | constant c => by rw [render, word, body, Constant.render_eq_word_append]
  | binary o l r => by rw [render, word, body, List.nil_append]
  | unary o a => by rw [render, word, body, UnaryOp.sign_eq_word_append, List.append_assoc]
  | inList a vs n => by
    rw [render, word, body, render_eq_word_append a]
    simp only [membershipMark, List.append_assoc]
  | call f as => by rw [render, word, body]
  | aggregate o d a => by rw [render, word, body]
  | aggregateRows o d => by rw [render, word, body]

theorem isWord_word : ∀ {e : Scalar}, Apart e → IsWord e.word
  | column _, _ => Text.isWord_nil
  | constant c, _ => c.isWord_word
  | binary .., _ => Text.isWord_nil
  | unary o _, _ => by cases o <;> simp only [word] <;> decide
  | inList a _ _, h => by
    rw [word]
    exact isWord_word (calls_inList.mp h)
  | call _ _, h => (calls_call.mp h).1.identifier.isWord_upper
  | aggregate o _ _, _ => o.isWord_name
  | aggregateRows o _, _ => o.isWord_name

theorem closed_sign (o : BinaryOp) (s : List Char) : Closed (' ' :: (o.sign.toList ++ s)) := by
  obtain ⟨c, w, hsign, hc⟩ := o.exists_sign_eq
  rw [hsign]
  exact closed_blank hc _

theorem closed_bracket (s : List Char) : Closed ([')'] ++ s) := closed_cons (by decide) s

theorem ends_membershipMark (n : Bool) (s : List Char) : Ends (membershipMark n ++ s) := by
  cases n <;> exact (ends_cons _ _).mpr (by decide)

/-- The first word ends where the body begins. -/
theorem stops_body : ∀ (e : Scalar) {s : List Char}, Ends s → Text.Stops isPlain (e.body ++ s)
  | column _, _, _ => (Text.stops_cons ..).mpr (by decide)
  | constant c, _, hs => c.stops_ending hs
  | binary .., _, _ => (Text.stops_cons ..).mpr (by decide)
  | unary o _, _, _ => by cases o <;> exact (Text.stops_cons ..).mpr (by decide)
  | inList a vs n, s, _ => by
    rw [body, List.append_assoc, List.append_assoc, List.append_assoc]
    exact stops_body a (ends_membershipMark n _)
  | call .., _, _ => (Text.stops_cons ..).mpr (by decide)
  | aggregate .., _, _ => (Text.stops_cons ..).mpr (by decide)
  | aggregateRows .., _, _ => (Text.stops_cons ..).mpr (by decide)

/-- Nothing but the absent value or a test for it has a word that an ending mark may follow. -/
theorem word_of_ends_body : ∀ (e : Scalar) {s : List Char}, Ends (e.body ++ s) →
    e.word = ['N', 'U', 'L', 'L'] ∨ e.word = ['I', 'S']
  | column _, _, h => absurd ((ends_cons _ _).mp h) (by decide)
  | constant c, s, h => by
    cases c with
    | null => exact Or.inl rfl
    | _ => exact absurd ((ends_cons _ _).mp h) (by decide)
  | binary .., _, h => absurd ((ends_cons _ _).mp h) (by decide)
  | unary o _, _, h => by
    cases o with
    | isNull => exact Or.inr rfl
    | isNotNull => exact Or.inr rfl
    | _ => exact absurd ((ends_cons _ _).mp h) (by decide)
  | inList a vs n, s, h => by
    rw [body, List.append_assoc, List.append_assoc, List.append_assoc] at h
    exact word_of_ends_body a h
  | call .., _, h => absurd ((ends_cons _ _).mp h) (by decide)
  | aggregate .., _, h => absurd ((ends_cons _ _).mp h) (by decide)
  | aggregateRows .., _, h => absurd ((ends_cons _ _).mp h) (by decide)

theorem opens : Opens render Apart := by
  intro e he
  rw [render_eq_word_append]
  have hword := isWord_word he
  cases hw : e.word with
  | cons c w =>
    rw [hw, Text.isWord_cons] at hword
    exact ⟨c, w ++ e.body, rfl, not_mem_closers hword.1⟩
  | nil =>
    have hends : ¬Ends (e.body ++ []) := by
      intro h
      rcases word_of_ends_body e h with h | h <;> rw [hw] at h <;> cases h
    cases hb : e.body with
    | nil =>
      rw [hb] at hends
      exact absurd closed_nil.ends hends
    | cons c s =>
      rw [hb, List.cons_append, ends_cons] at hends
      exact ⟨c, s, rfl, hends⟩

end Scalar

/-! ### The form of an expression -/

/-- The form, unless it is written as a word in front of parentheses. -/
def ScalarForm.bare : ScalarForm → Option ScalarForm
  | .unary | .call | .aggregate => none
  | f => some f

namespace Scalar

/-- The bare form of an expression that is no membership, read off its first word and what follows it. -/
def formOf (word : List Char) : List Char → Option ScalarForm
  | '$' :: _ => some .column
  | '(' :: _ => if word = [] then some .binary else none
  | ' ' :: _ => if word = ['I', 'S'] then none else some .constant
  | _ => some .constant

theorem formOf_constant (c : Constant) {s : List Char} (hs : Ends s) :
    formOf c.word (c.ending ++ s) = some .constant := by
  cases c with
  | null =>
    cases s with
    | nil => rfl
    | cons d s =>
      have hd := (ends_cons _ _).mp hs
      simp only [closers, List.mem_cons, List.not_mem_nil, or_false] at hd
      rcases hd with rfl | rfl | rfl | rfl <;> rfl
  | _ => rfl

theorem formOf_body {e : Scalar} (he : Apart e) (hbase : e.form ≠ .inList) {s : List Char}
    (hs : Ends s) : formOf e.word (e.body ++ s) = e.form.bare := by
  cases e with
  | column i => rfl
  | constant c => exact formOf_constant c hs
  | binary o l r => rfl
  | unary o a => cases o <;> rfl
  | inList a vs n => exact absurd rfl hbase
  | call f as => exact if_neg (calls_call.mp he).1.identifier.upper_ne_nil
  | aggregate o d a => cases o <;> rfl
  | aggregateRows o d => cases o <;> rfl

/-- Equal texts of expressions that are no memberships have one bare form and one first word. -/
theorem leading_eq {e e' : Scalar} (he : Apart e) (he' : Apart e') (hbase : e.form ≠ .inList)
    (hbase' : e'.form ≠ .inList) {s t : List Char} (hs : Ends s) (ht : Ends t)
    (h : render e ++ s = render e' ++ t) :
    e.form.bare = e'.form.bare ∧ e.word = e'.word ∧ e.body ++ s = e'.body ++ t := by
  rw [render_eq_word_append, render_eq_word_append, List.append_assoc, List.append_assoc] at h
  obtain ⟨hword, hbody⟩ := Text.word_append_inj (isWord_word he) (isWord_word he')
    (stops_body e hs) (stops_body e' ht) h
  refine ⟨?_, hword, hbody⟩
  rw [← formOf_body he hbase hs, ← formOf_body he' hbase' ht, hword, hbody]

end Scalar

end PlanReuse
