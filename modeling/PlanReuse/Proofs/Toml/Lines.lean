import Mathlib.Data.List.Forall2
import PlanReuse.Proofs.Toml.Integers
import PlanReuse.Proofs.Toml.Strings

/-!
# Reading lines back

Headers of tables, with or without dots, and entries with a number or a string are read as they stand, and
so is a text made of such lines and blank ones. What a line holds is read to its end, whatever follows.
-/

namespace PlanReuse.Toml

open Text (Stops ne_of_class)

variable {c : Char} {name key s t text rest : List Char} {path : List (List Char)} {v : Value}
  {l : List Char} {item : Item} {items : List Item}

/-! ### Keys -/

/-- Names that need no quotes. -/
def IsBare (name : List Char) : Prop := name ≠ [] ∧ ∀ c ∈ name, isBareChar c = true

instance (name : List Char) : Decidable (IsBare name) :=
  decidable_of_iff ((!name.isEmpty && name.all isBareChar) = true) (by simp [IsBare])

theorem IsBare.exists_head (h : IsBare name) : ∃ c r, name = c :: r ∧ isBareChar c = true := by
  cases name with
  | nil => exact absurd rfl h.1
  | cons c r => exact ⟨c, r, rfl, h.2 c List.mem_cons_self⟩

theorem isSpace_of_isBareChar (h : isBareChar c = true) : isSpace c = false := by
  simp [isSpace, ne_of_class h (d := ' ') rfl, ne_of_class h (d := '\t') rfl]

theorem readSimpleKey?_append (hname : IsBare name) (hrest : Stops isBareChar rest) :
    readSimpleKey? (name ++ rest) = some (name, rest) := by
  have htake : (name ++ rest).takeWhile isBareChar = name := by
    rw [List.takeWhile_append_of_pos hname.2, hrest.takeWhile, List.append_nil]
  have hdrop : (name ++ rest).dropWhile isBareChar = rest := by
    rw [List.dropWhile_append_of_pos hname.2, hrest.dropWhile]
  obtain ⟨c, r, rfl, hc⟩ := hname.exists_head
  rw [readSimpleKey?.eq_def]
  split
  · next heq => exact absurd (List.cons.inj heq).1 (ne_of_class hc rfl)
  · next heq => exact absurd (List.cons.inj heq).1 (ne_of_class hc rfl)
  · rw [htake, hdrop]
    rfl

/-- Names with dots between them. -/
def dotted : List (List Char) → List Char → List Char
  | [], key => key
  | name :: path, key => name ++ '.' :: dotted path key

theorem exists_dotted_head (hpath : ∀ name ∈ path, IsBare name) (hkey : IsBare key) :
    ∃ c r, dotted path key = c :: r ∧ isBareChar c = true := by
  cases path with
  | nil => exact hkey.exists_head
  | cons name path =>
    obtain ⟨c, r, rfl, hc⟩ := (hpath name List.mem_cons_self).exists_head
    exact ⟨c, r ++ '.' :: dotted path key, rfl, hc⟩

theorem skipSpaces_dotted_append (hpath : ∀ name ∈ path, IsBare name) (hkey : IsBare key)
    (rest : List Char) : skipSpaces (dotted path key ++ rest) = dotted path key ++ rest := by
  obtain ⟨c, r, heq, hc⟩ := exists_dotted_head hpath hkey
  rw [heq]
  exact Stops.dropWhile ((Text.stops_cons ..).mpr (isSpace_of_isBareChar hc))

/-- Dotted names are read up to what is neither part of a name nor a dot. -/
theorem readKey?_dotted {limit : Nat} (hpath : ∀ name ∈ path, IsBare name) (hkey : IsBare key)
    (hlimit : path.length < limit) (hrest : Stops isBareChar rest)
    (hlast : Stops (· == '.') (skipSpaces rest)) :
    readKey? limit (dotted path key ++ rest) =
      some ((path.map String.ofList, String.ofList key), rest) := by
  induction path generalizing limit with
  | nil =>
    obtain ⟨limit, rfl⟩ := Nat.exists_eq_add_one_of_ne_zero (Nat.ne_zero_of_lt hlimit)
    rw [dotted, readKey?, readSimpleKey?_append hkey hrest]
    dsimp only
    split
    · next heq =>
      rw [heq] at hlast
      cases (Text.stops_cons ..).mp hlast
    · rfl
  | cons name path ih =>
    obtain ⟨limit, rfl⟩ := Nat.exists_eq_add_one_of_ne_zero (Nat.ne_zero_of_lt hlimit)
    have hname : IsBare name := hpath name List.mem_cons_self
    have hpath' : ∀ n ∈ path, IsBare n := fun n hn => hpath n (List.mem_cons_of_mem name hn)
    have hdot : ∀ r, skipSpaces ('.' :: r) = '.' :: r := fun _ => rfl
    rw [dotted, List.append_assoc, List.cons_append, readKey?,
      readSimpleKey?_append hname ((Text.stops_cons ..).mpr rfl)]
    simp only [hdot, skipSpaces_dotted_append hpath' hkey]
    rw [ih hpath' (Nat.lt_of_succ_lt_succ hlimit)]
    rfl

/-! ### Values -/

/-- A text that is read as a value, where a line ends behind it. -/
structure Writes (text : List Char) (v : Value) : Prop where
  starts : text.head?.map isSpace = some false
  reads : ∀ steps rest, readValue? (steps + 1) 0 (text ++ '\n' :: rest) = some (v, '\n' :: rest)

theorem writes_toDigits (n : Nat) : Writes (Nat.toDigits 10 n) (.integer (some n)) := by
  have hread := readPlainValue?_toDigits n
  cases hdigits : Nat.toDigits 10 n with
  | nil => exact absurd hdigits Nat.toDigits_ne_nil
  | cons c r =>
    have hmem : c ∈ Nat.toDigits 10 n := hdigits ▸ List.mem_cons_self
    have hc : c.isDigit = true := Decimal.isDigit_of_mem_digits hmem
    have hspace : isSpace c = false := by
      simp [isSpace, ne_of_class hc (d := ' ') rfl, ne_of_class hc (d := '\t') rfl]
    refine ⟨by rw [List.head?_cons, Option.map_some, hspace], fun steps rest => ?_⟩
    rw [hdigits] at hread
    rw [readValue?.eq_def]
    simp only [List.cons_append]
    split
    · next heq => exact absurd (List.cons.inj heq).1 (ne_of_class hc rfl)
    · next heq => exact absurd (List.cons.inj heq).1 (ne_of_class hc rfl)
    · next heq => exact absurd (List.cons.inj heq).1 (ne_of_class hc rfl)
    · next heq => exact absurd (List.cons.inj heq).1 (ne_of_class hc rfl)
    · exact hread rest

theorem writeString_head (s : List Char) : ∃ c r, writeString s = c :: r ∧ (c = '"' ∨ c = '\'') := by
  rw [writeString]
  cases notationOf s with
  | basic => exact ⟨_, _, rfl, Or.inl rfl⟩
  | literal => exact ⟨_, _, rfl, Or.inr rfl⟩
  | lines => exact ⟨_, _, rfl, Or.inl rfl⟩
  | literalLines => exact ⟨_, _, rfl, Or.inr rfl⟩

theorem writes_writeString (s : List Char) : Writes (writeString s) (.string (String.ofList s)) := by
  have hread : ∀ rest, readString? (writeString s ++ '\n' :: rest) = some (s, '\n' :: rest) :=
    fun rest => readString?_writeString s ((Text.stops_cons ..).mpr rfl)
  obtain ⟨c, r, heq, hc⟩ := writeString_head s
  rw [heq] at hread ⊢
  refine ⟨by rcases hc with rfl | rfl <;> rfl, fun steps rest => ?_⟩
  rcases hc with rfl | rfl
  all_goals
    have hrest := hread rest
    rw [List.cons_append] at hrest ⊢
    rw [readValue?, hrest]
    rfl

/-! ### Lines -/

/-- A text that is read as a line, whatever stands in the lines below. -/
structure IsLine (l : List Char) (item : Item) : Prop where
  starts : ∃ c r, l = c :: r ∧ isSpace c = false ∧ c ≠ '#' ∧ c ≠ '\n' ∧ c ≠ '\r'
  reads : ∀ rest, readItem? (l ++ rest) = some (item, rest)

theorem readHeader?_dotted (hpath : ∀ name ∈ path, IsBare name) (hkey : IsBare key)
    (hlimit : path.length < nameLimit) (rest : List Char) :
    readHeader? [']'] (dotted path key ++ ']' :: '\n' :: rest) =
      some ((path.map String.ofList, String.ofList key), rest) := by
  have hclose : skipSpaces (']' :: '\n' :: rest) = ']' :: '\n' :: rest := rfl
  rw [readHeader?, skipSpaces_dotted_append hpath hkey,
    readKey?_dotted hpath hkey hlimit ((Text.stops_cons ..).mpr rfl) ((Text.stops_cons ..).mpr rfl)]
  rfl

theorem isLine_header (hpath : ∀ name ∈ path, IsBare name) (hkey : IsBare key)
    (hlimit : path.length < nameLimit) :
    IsLine ('[' :: (dotted path key ++ [']', '\n']))
      (.header (path.map String.ofList) (String.ofList key)) := by
  refine ⟨⟨'[', _, rfl, rfl, by decide, by decide, by decide⟩, fun rest => ?_⟩
  have hread := readHeader?_dotted hpath hkey hlimit rest
  obtain ⟨c, r, heq, hc⟩ := exists_dotted_head hpath hkey
  rw [heq] at hread ⊢
  simp only [List.cons_append, List.append_assoc, List.nil_append] at hread ⊢
  rw [readItem?.eq_def]
  split
  · next hbracket =>
    have hc' : c = '[' := (List.cons.inj (List.cons.inj hbracket).2).1
    exact absurd hc' (ne_of_class hc rfl)
  · next hbracket =>
    rw [← (List.cons.inj hbracket).2, hread]
    rfl
  · next hnone => exact absurd rfl (hnone _)

theorem readEntry?_line (hkey : IsBare key) (htext : Writes text v) (steps : Nat) (rest : List Char) :
    readEntry? (steps + 2) 0 (key ++ ' ' :: '=' :: ' ' :: (text ++ '\n' :: rest)) =
      some (([], String.ofList key, v), '\n' :: rest) := by
  have hnone : ∀ n ∈ ([] : List (List Char)), IsBare n := fun _ h => by cases h
  have hname : readKey? nameLimit (key ++ ' ' :: '=' :: ' ' :: (text ++ '\n' :: rest)) =
      some (([], String.ofList key), ' ' :: '=' :: ' ' :: (text ++ '\n' :: rest)) :=
    readKey?_dotted hnone hkey (by decide) ((Text.stops_cons ..).mpr rfl)
      ((Text.stops_cons ..).mpr rfl)
  have hsign : ∀ r, skipSpaces (' ' :: '=' :: r) = '=' :: r := fun _ => rfl
  have hvalue : skipSpaces (' ' :: (text ++ '\n' :: rest)) = text ++ '\n' :: rest :=
    Stops.dropWhile (Text.stops_append htext.starts _)
  rw [ readEntry?, hname]
  simp only [if_pos, hsign, hvalue, htext.reads, Option.map_some]

theorem isLine_entry (hkey : IsBare key) (htext : Writes text v) :
    IsLine (key ++ " = ".toList ++ text ++ ['\n']) (.entry [] (String.ofList key) v) := by
  obtain ⟨c, r, heq, hc⟩ := hkey.exists_head
  refine ⟨⟨c, r ++ " = ".toList ++ text ++ ['\n'], by rw [heq]; rfl, isSpace_of_isBareChar hc,
    ne_of_class hc rfl, ne_of_class hc rfl, ne_of_class hc rfl⟩, fun rest => ?_⟩
  have hsign : " = ".toList = [' ', '=', ' '] := rfl
  simp only [hsign, List.append_assoc, List.cons_append, List.nil_append]
  rw [readItem?.eq_def]
  split
  · next hbracket =>
    rw [heq] at hbracket
    exact absurd (List.cons.inj hbracket).1 (ne_of_class hc rfl)
  · next hbracket =>
    rw [heq] at hbracket
    exact absurd (List.cons.inj hbracket).1 (ne_of_class hc rfl)
  · rw [stepsFor, readEntry?_line hkey htext]
    rfl

/-! ### Documents -/

/-- A text made of lines and blank lines. -/
inductive Lines : List Char → List Item → Prop
  | nil : Lines [] []
  | blank {t : List Char} {items : List Item} (h : Lines t items) : Lines ('\n' :: t) items
  | line {l t : List Char} {item : Item} {items : List Item} (hl : IsLine l item) (h : Lines t items) :
      Lines (l ++ t) (item :: items)

theorem Lines.append {t' : List Char} {items' : List Item} (h : Lines t items) (h' : Lines t' items') :
    Lines (t ++ t') (items ++ items') := by
  induction h with
  | nil => exact h'
  | blank _ ih => exact ih.blank
  | line hl _ ih =>
    rw [List.append_assoc, List.cons_append]
    exact ih.line hl

theorem IsLine.lines (h : IsLine l item) : Lines l [item] := by
  have hline := Lines.nil.line h
  rw [List.append_nil] at hline
  exact hline

/-- Sections with a blank line between each two of them. -/
theorem lines_intercalate {sections : List (List Char)} {itemsOf : List (List Item)}
    (h : List.Forall₂ Lines sections itemsOf) :
    Lines (List.intercalate ['\n'] sections) itemsOf.flatten := by
  induction h with
  | nil => exact .nil
  | @cons t items sections itemsOf ht hmore ih =>
    cases hmore with
    | nil =>
      rw [List.intercalate_singleton, List.flatten_singleton]
      exact ht
    | cons h' hmore =>
      rw [List.intercalate_cons_cons, List.flatten_cons, List.append_assoc]
      exact ht.append ih.blank

theorem Lines.read (h : Lines t items) {steps : Nat} (hsteps : t.length < steps) :
    readLinesUpTo? steps t = some items := by
  induction h generalizing steps with
  | nil =>
    obtain ⟨steps, rfl⟩ := Nat.exists_eq_add_one_of_ne_zero (Nat.ne_zero_of_lt hsteps)
    rfl
  | @blank t items _ ih =>
    obtain ⟨steps, rfl⟩ := Nat.exists_eq_add_one_of_ne_zero (Nat.ne_zero_of_lt hsteps)
    have hnext : readLinesUpTo? (steps + 1) ('\n' :: t) = readLinesUpTo? steps t := rfl
    rw [hnext]
    exact ih (Nat.lt_of_succ_lt_succ hsteps)
  | @line l t item items hl _ ih =>
    obtain ⟨steps, rfl⟩ := Nat.exists_eq_add_one_of_ne_zero (Nat.ne_zero_of_lt hsteps)
    obtain ⟨c, r, rfl, hspace, hother⟩ := hl.starts
    have hstops : skipSpaces (c :: r ++ t) = c :: (r ++ t) :=
      Stops.dropWhile ((Text.stops_cons ..).mpr hspace)
    have hread := hl.reads t
    have hmarks : ¬(c = '#' ∨ c = '\n' ∨ c = '\r') := by simp [hother]
    -- No line is empty, so a step per character is enough.
    have hshorter : t.length < steps := by
      simp only [List.length_append, List.length_cons] at hsteps
      omega
    rw [List.cons_append] at hread
    rw [readLinesUpTo?, hstops]
    simp only [if_neg hmarks, hread, ih hshorter]
    rfl

/-- What a document says is what its lines say. -/
theorem Lines.read?_eq (h : Lines t items) (hmark : t.head? ≠ some '\uFEFF') :
    read? t = assemble items := by
  have hdrop : Text.dropMark t = t := by
    rw [Text.dropMark.eq_def]
    split
    · exact absurd rfl hmark
    · rfl
  rw [read?, hdrop, h.read (Nat.lt_succ_self _), Option.bind_some]

end PlanReuse.Toml
