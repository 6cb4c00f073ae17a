import PlanReuse.Script.Calendar

/-!
# Dates in words

A text such as `2020-01-31 10:30 UTC`, `next monday` or `2 days ago` names a moment, seen from another
one. Its parts may stand in any order; each kind of part stands there at most once, distances apart.
-/

namespace PlanReuse.Script.DateText

/-! ### Tokens -/

inductive Token
  /-- Digits, with a sign in front if there is one, and digits behind a point. -/
  | number (negative : Option Bool) (digits fraction : List Char)
  | word (s : String)
  | mark (c : Char)
deriving DecidableEq

def tokens : Nat → List Char → List Token
  | 0, _ => []
  | _ + 1, [] => []
  | fuel + 1, c :: r =>
    if isSpace c then tokens fuel r
    else if c.isAlpha then
      let letters := (c :: r).takeWhile fun c => c.isAlpha || c == '.'
      .word (String.ofList ((letters.filter (· ≠ '.')).map Char.toLower)) ::
        tokens fuel ((c :: r).drop letters.length)
    else if c.isDigit then
      let (n, rest) := number none (c :: r)
      n :: tokens fuel rest
    else if (c = '-' ∨ c = '+') ∧ (r.dropWhile isSpace).head?.any Char.isDigit then
      let (n, rest) := number (some (c == '-')) (r.dropWhile isSpace)
      n :: tokens fuel rest
    else if c = '-' ∨ c = '+' then tokens fuel r
    else if c = '(' then tokens fuel ((r.dropWhile (· ≠ ')')).drop 1)
    else .mark c :: tokens fuel r
where
  number (sign : Option Bool) (s : List Char) : Token × List Char :=
    let digits := s.takeWhile Char.isDigit
    match s.drop digits.length with
    | p :: d :: rest =>
      if (p = '.' ∨ p = ',') ∧ d.isDigit then
        let fraction := (d :: rest).takeWhile Char.isDigit
        (.number sign digits fraction, (d :: rest).drop fraction.length)
      else (.number sign digits [], p :: d :: rest)
    | rest => (.number sign digits [], rest)

def value (digits : List Char) : Nat := (scanDigits 10 0 digits).1

/-- Nanoseconds of the digits behind a point. -/
def nanoseconds (fraction : List Char) : Nat :=
  value ((fraction ++ List.replicate 9 '0').take 9)

/-! ### Words -/

/-- The place of a name in a list, by its first three letters or more. -/
def nameIndex? (names : List String) (s : String) : Option Nat :=
  if s.length < 3 then none else names.findIdx? fun n => n.toLower.startsWith s

def month? (s : String) : Option Nat :=
  ((nameIndex? Date.monthNames s).map (· + 1)) <|> if s = "sept" then some 9 else none

def weekday? (s : String) : Option Nat :=
  if s = "tues" then some 2 else if s = "wednes" then some 3 else if s = "thur" ∨ s = "thurs" then some 4
  else nameIndex? Date.dayNames s

/-- A distance in time. -/
structure Distance where
  years : Int
  months : Int
  days : Int
  seconds : Int

namespace Distance

def none : Distance := ⟨0, 0, 0, 0⟩

def times (d : Distance) (n : Int) : Distance := ⟨d.years * n, d.months * n, d.days * n, d.seconds * n⟩

def add (d e : Distance) : Distance :=
  ⟨d.years + e.years, d.months + e.months, d.days + e.days, d.seconds + e.seconds⟩

end Distance

def unit? (s : String) : Option Distance :=
  let s := if s.endsWith "s" && s.length > 1 then (s.dropEnd 1).toString else s
  match s with
  | "year" => some ⟨1, 0, 0, 0⟩
  | "month" => some ⟨0, 1, 0, 0⟩
  | "fortnight" => some ⟨0, 0, 14, 0⟩
  | "week" => some ⟨0, 0, 7, 0⟩
  | "day" => some ⟨0, 0, 1, 0⟩
  | "hour" => some ⟨0, 0, 0, 3600⟩
  | "minute" | "min" => some ⟨0, 0, 0, 60⟩
  | "second" | "sec" => some ⟨0, 0, 0, 1⟩
  | _ => none

def dayShift? (s : String) : Option Int :=
  match s with
  | "tomorrow" => some 1
  | "yesterday" => some (-1)
  | "today" | "now" => some 0
  | _ => none

def ordinal? (s : String) : Option Int :=
  [("last", -1), ("this", 0), ("next", 1), ("first", 1), ("third", 3), ("fourth", 4), ("fifth", 5), ("sixth", 6),
    ("seventh", 7), ("eighth", 8), ("ninth", 9), ("tenth", 10), ("eleventh", 11), ("twelfth", 12)].lookup s

/-- How many seconds the zone of a name is ahead. Single letters name the zones of whole hours. -/
def zone? (s : String) : Option Int :=
  (([("gmt", 0), ("ut", 0), ("utc", 0), ("z", 0), ("wet", 0), ("west", 1), ("bst", 1), ("cet", 1), ("cest", 2),
    ("eet", 2), ("eest", 3), ("msk", 3), ("ist", 5), ("jst", 9), ("est", -5), ("edt", -4), ("cst", -6),
    ("cdt", -5), ("mst", -7), ("mdt", -6), ("pst", -8), ("pdt", -7)].lookup s).map fun (h : Int) =>
      if s = "ist" then 19800 else h * 3600) <|>
  (match s.toList with
    | [c] =>
      match "yxwvutsrqpon".toList.idxOf? c, "abcdefghiklm".toList.idxOf? c with
      | some i, _ => if c = 't' then none else some (((i : Int) - 12) * 3600)
      | _, some i => some (((i : Int) + 1) * 3600)
      | _, _ => none
    | _ => none)

/-! ### Reading -/

/-- What has been read of a text. -/
structure Reading where
  /-- The year may be missing. -/
  date : Option (Option Int × Nat × Nat)
  /-- Hour, minute, second and nanosecond. -/
  time : Option (Nat × Nat × Nat × Nat)
  zone : Option Int
  /-- A day of the week, and how many such days ahead. -/
  weekday : Option (Int × Nat)
  distance : Distance
  hasDistance : Bool

namespace Reading

def setDate (r : Reading) (year : Option Int) (month day : Nat) : Option Reading :=
  if r.date.isSome then none else some { r with date := some (year, month, day) }

def setTime (r : Reading) (hour minute second nano : Nat) : Option Reading :=
  if r.time.isSome ∨ 23 < hour ∨ 59 < minute ∨ 59 < second then none
  else some { r with time := some (hour, minute, second, nano) }

def setZone (r : Reading) (ahead : Int) : Option Reading :=
  if r.zone.isSome then none else some { r with zone := some ahead }

def setWeekday (r : Reading) (count : Int) (day : Nat) : Option Reading :=
  if r.weekday.isSome then none else some { r with weekday := some (count, day) }

def shift (r : Reading) (d : Distance) : Reading :=
  { r with distance := r.distance.add d, hasDistance := true }

end Reading

/-- The year that some digits write. -/
def yearOf (digits : List Char) : Int :=
  let n : Int := value digits
  if digits.length = 2 then if n < 69 then n + 2000 else n + 1900 else n

/-- An hour behind which `am` or `pm` stands. -/
def halfDay? (hour : Nat) (word : String) : Option Nat :=
  if hour = 0 ∨ 12 < hour then none
  else if word = "am" then some (hour % 12)
  else if word = "pm" then some (hour % 12 + 12)
  else none

/-- The distance to universal time behind a time of day. -/
def readAhead (r : Reading) : List Token → Option (List Token × Reading)
  | .number (some negative) hours [] :: .mark ':' :: .number none minutes [] :: rest =>
    (set negative (value hours * 60 + value minutes)).map fun r => (rest, r)
  | .number (some negative) digits [] :: rest =>
    (set negative (if digits.length ≤ 2 then value digits * 60
      else value digits / 100 * 60 + value digits % 100)).map fun r => (rest, r)
  | rest => some (rest, r)
where
  set (negative : Bool) (minutes : Nat) : Option Reading :=
    let n : Int := minutes * 60
    if 1440 < minutes then none else r.setZone (if negative then -n else n)

/-- A distance behind which `ago` may stand. -/
def shiftBy (r : Reading) (d : Distance) : List Token → List Token × Reading
  | .word "ago" :: rest => (rest, r.shift (d.times (-1)))
  | rest => (rest, r.shift d)

/-- A number that no other rule takes. -/
def readBare (r : Reading) (digits : List Char) : Option Reading :=
  match r.date with
  | some (none, month, day) =>
    if !r.hasDistance ∧ (r.time.isSome ∨ 2 < digits.length) then
      some { r with date := some (some (yearOf digits), month, day) }
    else bare
  | _ => bare
where
  bare : Option Reading :=
    let n := value digits
    if 4 < digits.length then
      r.setDate (some (yearOf (digits.take (digits.length - 4)))) (n / 100 % 100) (n % 100)
    else if digits.length ≤ 2 then r.setTime n 0 0 0
    else r.setTime (n / 100) (n % 100) 0 0

/-- Reads one part of a text. -/
def readPart (r : Reading) : List Token → Option (List Token × Reading)
  | .number none a [] :: .mark '/' :: .number none b [] :: .mark '/' :: .number none c [] :: rest =>
    (if 4 ≤ a.length then r.setDate (some (yearOf a)) (value b) (value c)
      else r.setDate (some (yearOf c)) (value a) (value b)).map fun r => (rest, r)
  | .number none a [] :: .mark '/' :: .number none b [] :: rest =>
    (r.setDate none (value a) (value b)).map fun r => (rest, r)
  | .number none h [] :: .mark ':' :: .number none m [] :: .mark ':' :: .number none s f :: rest =>
    match rest with
    | .word w :: rest' =>
      match halfDay? (value h) w with
      | some hour => (r.setTime hour (value m) (value s) (nanoseconds f)).map fun r => (rest', r)
      | none => (r.setTime (value h) (value m) (value s) (nanoseconds f)).bind fun r => readAhead r rest
    | _ => (r.setTime (value h) (value m) (value s) (nanoseconds f)).bind fun r => readAhead r rest
  | .number none h [] :: .mark ':' :: .number none m [] :: rest =>
    match rest with
    | .word w :: rest' =>
      match halfDay? (value h) w with
      | some hour => (r.setTime hour (value m) 0 0).map fun r => (rest', r)
      | none => (r.setTime (value h) (value m) 0 0).bind fun r => readAhead r rest
    | _ => (r.setTime (value h) (value m) 0 0).bind fun r => readAhead r rest
  | .number none y [] :: .number (some true) m [] :: .number (some true) d [] :: rest =>
    (r.setDate (some (yearOf y)) (value m) (value d)).map fun r =>
      match rest with
      | .word "t" :: more => (more, r)
      | _ => (rest, r)
  | .number sign n [] :: .word w :: rest =>
    match halfDay? (value n) w, month? w, unit? w, weekday? w with
    | some hour, _, _, _ => (r.setTime hour 0 0 0).map fun r => (rest, r)
    | _, some m, _, _ =>
      match rest with
      | .number (some true) y [] :: more => (r.setDate (some (yearOf y)) m (value n)).map fun r => (more, r)
      | .number none y [] :: .mark ':' :: more =>
        (r.setDate none m (value n)).map fun r => (.number none y [] :: .mark ':' :: more, r)
      | .number none y [] :: more => (r.setDate (some (yearOf y)) m (value n)).map fun r => (more, r)
      | _ => (r.setDate none m (value n)).map fun r => (rest, r)
    | _, _, some u, _ =>
      let count : Int := value n
      some (shiftBy r (u.times (if sign = some true then -count else count)) rest)
    | _, _, _, some d => (r.setWeekday (value n) d).map fun r => (rest, r)
    | _, _, _, _ => if sign.isSome then none else (readBare r n).map fun r => (.word w :: rest, r)
  | .number none n [] :: rest => (readBare r n).map fun r => (rest, r)
  | .word w :: rest =>
    match month? w, weekday? w, unit? w, dayShift? w, ordinal? w, zone? w with
    | some m, _, _, _, _, _ =>
      match rest with
      | .number none d [] :: .mark ',' :: .number none y [] :: more =>
        (r.setDate (some (yearOf y)) m (value d)).map fun r => (more, r)
      | .number (some true) d [] :: .number (some true) y [] :: more =>
        (r.setDate (some (yearOf y)) m (value d)).map fun r => (more, r)
      | .number none d [] :: more => (r.setDate none m (value d)).map fun r => (more, r)
      | _ => none
    | _, some d, _, _, _, _ =>
      (r.setWeekday 0 d).map fun r =>
        match rest with
        | .mark ',' :: more => (more, r)
        | _ => (rest, r)
    | _, _, some u, _, _, _ => some (shiftBy r u rest)
    | _, _, _, some n, _, _ => some (rest, r.shift ⟨0, 0, n, 0⟩)
    | _, _, _, _, some n, _ =>
      match rest with
      | .word v :: more =>
        match unit? v, weekday? v with
        | some u, _ => some (shiftBy r (u.times n) more)
        | _, some d => (r.setWeekday n d).map fun r => (more, r)
        | _, _ => none
      | _ => none
    | _, _, _, _, _, some ahead => (r.setZone ahead).map fun r => (rest, r)
    | _, _, _, _, _, _ => none
  | _ => none

def readParts : Nat → Reading → List Token → Option Reading
  | 0, _, _ => none
  | _ + 1, r, [] => some r
  | fuel + 1, r, ts => (readPart r ts).bind fun (rest, r) => readParts fuel r rest

/-- How many days a month has. -/
def daysIn (year : Int) (month : Nat) : Int :=
  if month = 12 then 31 else Date.dayNumber year (month + 1) 1 - Date.dayNumber year month 1

/-- The moment that has been read, seen from another one. -/
def Reading.moment? (r : Reading) (zone : Zone) (now : Moment) : Option Moment :=
  let zone := match r.zone with
    | some ahead => { zone with ahead }
    | none => zone
  let today := Date.ofMoment zone now
  let (year, month, day) := match r.date with
    | some (year, month, day) => (year.getD today.year, month, day)
    | none => (today.year, today.month, today.day)
  if month = 0 ∨ 12 < month ∨ day = 0 ∨ daysIn year month < day then none
  else
    let (hour, minute, second, nano) := match r.time with
      | some t => t
      | none =>
        if r.hasDistance && r.date.isNone && r.weekday.isNone then
          (today.hour, today.minute, today.second, now.nanoseconds)
        else (0, 0, 0, 0)
    let months : Int := (month : Int) - 1 + r.distance.months
    let number := Date.dayNumber (year + r.distance.years + months / 12) ((months % 12).toNat + 1) day
    let number := match r.weekday with
      | some (count, wanted) =>
        if r.date.isSome then number
        else
          let weekday := (number + 4) % 7
          let ahead : Int := ((wanted : Int) - weekday + 7) % 7
          number + ahead + 7 * (count - if 0 < count ∧ weekday ≠ wanted then 1 else 0)
      | none => number
    let seconds := (number + r.distance.days) * 86400 + hour * 3600 + minute * 60 + second - zone.ahead
    some (Moment.ofSeconds (seconds + r.distance.seconds) + nano)

/-- The name of a zone in front of a text, and the rest. -/
def splitZone (s : List Char) : Option (String × List Char) :=
  match s with
  | 'T' :: 'Z' :: '=' :: '"' :: r =>
    let name := r.takeWhile (· ≠ '"')
    if name.length < r.length then some (String.ofList name, r.drop (name.length + 1)) else none
  | _ => none

/-- The moment that a text names, seen from another one. -/
def read? (zone : Zone) (now : Moment) (s : String) : Option Moment :=
  let body := s.toList.dropWhile isSpace
  let (zone, body) := match splitZone body with
    | some (name, rest) => (Zone.ofText name, rest.dropWhile isSpace)
    | none => (zone, body)
  match body with
  | '@' :: body =>
    let (negative, body) := splitSign body
    match tokens.number none body with
    | (.number _ digits fraction, []) =>
      if digits.isEmpty then none
      else
        let n : Int := value digits * Moment.second + nanoseconds fraction
        some (if negative then -n else n)
    | _ => none
  | body =>
    let ts := tokens (body.length + 1) body
    (readParts (ts.length + 1) ⟨none, none, none, none, .none, false⟩ ts).bind fun r => r.moment? zone now

/-- The moment that digits such as `202001311030.15` name: a year if there is one, month, day, hour and
minute, and seconds behind a point. -/
def readStamp? (zone : Zone) (now : Moment) (s : String) : Option Moment :=
  let digits := s.toList.takeWhile Char.isDigit
  let second := match s.toList.drop digits.length with
    | ['.', a, b] => if a.isDigit ∧ b.isDigit then some (value [a, b]) else none
    | [] => some 0
    | _ => none
  let front := digits.take (digits.length - 8)
  let rest := digits.drop (digits.length - 8)
  let pair (n : Nat) : Nat := value ((rest.drop n).take 2)
  match second, front.length == 0 || front.length == 2 || front.length == 4, rest.length == 8 with
  | some second, true, true =>
    let year := if front.isEmpty then none else some (yearOf front)
    ((Reading.mk (some (year, pair 0, pair 2)) none none none .none false).setTime (pair 4) (pair 6) second 0).bind
      fun r => r.moment? zone now
  | _, _, _ => none

end PlanReuse.Script.DateText
