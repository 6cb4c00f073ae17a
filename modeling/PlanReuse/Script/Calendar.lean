import PlanReuse.Script.Text

/-!
# The calendar

Moments are counted in nanoseconds from the beginning of the year 1970. Here they become dates of the
calendar and texts, in a zone that lies some seconds ahead of universal time.
-/

namespace PlanReuse.Script

/-- How far the clocks of a zone are ahead, and what it is called. -/
structure Zone where
  ahead : Int
  name : String

namespace Zone

def universal : Zone := ⟨0, "UTC"⟩

/-- The zone that a setting such as `EST5` or `UTC-3` names; behind the letters stand the hours that the
zone lies behind. -/
def ofText (s : String) : Zone :=
  let name := s.toList.takeWhile Char.isAlpha
  let (behind, rest) := splitSign (s.toList.drop name.length)
  match scanDigits 10 0 rest with
  | (_, 0, _) => if name.isEmpty ∨ !rest.isEmpty then universal else ⟨0, String.ofList name⟩
  | (hours, _, rest) =>
    let minutes := match rest with
      | ':' :: r => (scanDigits 10 0 r).1
      | _ => 0
    let seconds : Int := hours * 3600 + minutes * 60
    ⟨if behind then seconds else -seconds, String.ofList name⟩

end Zone

/-- A moment, in nanoseconds. -/
abbrev Moment := Int

namespace Moment

def second : Int := 1000000000

def ofSeconds (n : Int) : Moment := n * second

def seconds (t : Moment) : Int := t / second

def nanoseconds (t : Moment) : Nat := (t % second).toNat

end Moment

/-- A day of the calendar with a time of day. -/
structure Date where
  year : Int
  /-- From 1 on. -/
  month : Nat
  day : Nat
  hour : Nat
  minute : Nat
  second : Nat

namespace Date

/-! ### Days -/

/-- The number of a day, counted from the beginning of 1970. The year is taken to begin in March, so that
a leap day comes last. -/
def dayNumber (year : Int) (month : Nat) (day : Int) : Int :=
  let y := if month ≤ 2 then year - 1 else year
  let era := y / 400
  let yearOfEra := y % 400
  let shifted : Int := (month + 9) % 12
  let dayOfYear := (153 * shifted + 2) / 5 + day - 1
  era * 146097 + yearOfEra * 365 + yearOfEra / 4 - yearOfEra / 100 + dayOfYear - 719468

/-- Year, month and day of a day's number. -/
def ofDayNumber (n : Int) : Int × Nat × Nat :=
  let z := n + 719468
  let era := z / 146097
  let dayOfEra := z % 146097
  let yearOfEra := (dayOfEra - dayOfEra / 1460 + dayOfEra / 36524 - dayOfEra / 146096) / 365
  let dayOfYear := dayOfEra - (365 * yearOfEra + yearOfEra / 4 - yearOfEra / 100)
  let shifted := (5 * dayOfYear + 2) / 153
  let day := dayOfYear - (153 * shifted + 2) / 5 + 1
  let month := if shifted < 10 then shifted + 3 else shifted - 9
  (yearOfEra + era * 400 + (if month ≤ 2 then 1 else 0), month.toNat, day.toNat)

/-- The date at a moment. -/
def ofMoment (zone : Zone) (t : Moment) : Date :=
  let s := t.seconds + zone.ahead
  let (year, month, day) := ofDayNumber (s / 86400)
  let rest := (s % 86400).toNat
  ⟨year, month, day, rest / 3600, rest / 60 % 60, rest % 60⟩

/-- The day's number. -/
def number (d : Date) : Int := dayNumber d.year d.month d.day

/-- The day of the week, from Sunday on. -/
def weekday (d : Date) : Nat := ((d.number + 4) % 7).toNat

/-- The day of the year, from 0 on. -/
def yearDay (d : Date) : Nat := (d.number - dayNumber d.year 1 1).toNat

/-- The week that has the year's first Thursday is the first one: its year and the week's number. -/
def isoWeek (d : Date) : Int × Nat :=
  let thursday := d.number - ((d.weekday : Int) + 6) % 7 + 3
  let year := (ofDayNumber thursday).1
  (year, ((thursday - dayNumber year 1 1) / 7).toNat + 1)

def monthNames : List String :=
  ["January", "February", "March", "April", "May", "June", "July", "August", "September", "October",
    "November", "December"]

def dayNames : List String :=
  ["Sunday", "Monday", "Tuesday", "Wednesday", "Thursday", "Friday", "Saturday"]

def monthName (d : Date) : String := monthNames.getD (d.month - 1) ""

def dayName (d : Date) : String := dayNames.getD d.weekday ""

def short (s : String) : String := String.ofList (s.toList.take 3)

/-! ### Texts -/

/-- How a part of a date is laid out: what it is padded with, to which width, and its letters. -/
structure Field where
  pad : Option Char
  width : Option Nat
  upper : Bool
  swap : Bool
  colons : Nat

def padded (f : Field) (pad : Char) (width : Nat) (s : List Char) : List Char :=
  let (pad, bare) := match f.pad with
    | some '-' => (pad, true)
    | some '_' => (' ', false)
    | some c => (if c = '+' then '0' else c, false)
    | none => (pad, false)
  let width := f.width.getD (if bare then 0 else width)
  let (sign, body) := match s with
    | '-' :: r => (['-'], r)
    | r => ([], r)
  let missing := width - s.length
  if pad = '0' then sign ++ List.replicate missing '0' ++ body else List.replicate missing ' ' ++ s

def numeral (f : Field) (pad : Char) (width : Nat) (n : Int) : List Char :=
  padded f pad width (decimal n).toList

/-- A text in letters of the wanted kind. -/
def cased (f : Field) (s : String) : List Char :=
  let s := if f.upper then s.toUpper else s
  padded { f with pad := f.pad.filter (· == '0') } ' ' 0 s.toList

/-- A text in capitals, which one of the flags takes back. -/
def swapped (f : Field) (s : String) : List Char :=
  if f.swap then cased { f with upper := false } s.toLower else cased f s

/-- How far a zone is ahead: hours and minutes, with colons between them and with seconds if asked for. -/
def aheadText (f : Field) (ahead : Int) : List Char :=
  let n := ahead.natAbs
  let two (n : Nat) : List Char := (if n < 10 then ['0'] else []) ++ (decimal n).toList
  (if ahead < 0 then '-' else '+') :: (match f.colons with
    | 0 => two (n / 3600) ++ two (n / 60 % 60)
    | 1 => two (n / 3600) ++ ':' :: two (n / 60 % 60)
    | 2 => two (n / 3600) ++ ':' :: two (n / 60 % 60) ++ ':' :: two (n % 60)
    | _ =>
      two (n / 3600) ++ (if n % 3600 = 0 then [] else ':' :: two (n / 60 % 60)) ++
        (if n % 60 = 0 then [] else ':' :: two (n % 60)))

/-- The formats that single letters stand for. -/
def formats : List (Char × String) :=
  [('c', "%a %b %e %H:%M:%S %Y"), ('D', "%m/%d/%y"), ('F', "%Y-%m-%d"), ('r', "%I:%M:%S %p"),
    ('R', "%H:%M"), ('T', "%H:%M:%S"), ('x', "%m/%d/%y"), ('X', "%H:%M:%S")]

/-- What one letter of a format stands for; none if it stands for nothing. -/
def part? (zone : Zone) (t : Moment) (f : Field) (letter : Char) : Option (List Char) :=
  let d := ofMoment zone t
  let two (n : Nat) : Option (List Char) := some (numeral f '0' 2 n)
  let hour12 := if d.hour % 12 = 0 then 12 else d.hour % 12
  match letter with
  | '%' => some ['%']
  | 'n' => some ['\n']
  | 't' => some ['\t']
  | 'a' => some (cased f (short d.dayName))
  | 'A' => some (cased f d.dayName)
  | 'b' | 'h' => some (cased f (short d.monthName))
  | 'B' => some (cased f d.monthName)
  | 'C' => some (numeral f '0' 2 (d.year / 100))
  | 'd' => two d.day
  | 'e' => some (numeral f ' ' 2 d.day)
  | 'g' => some (numeral f '0' 2 (d.isoWeek.1 % 100))
  | 'G' => some (numeral f '0' 4 d.isoWeek.1)
  | 'H' => two d.hour
  | 'I' => two hour12
  | 'j' => some (numeral f '0' 3 (d.yearDay + 1))
  | 'k' => some (numeral f ' ' 2 d.hour)
  | 'l' => some (numeral f ' ' 2 hour12)
  | 'm' => two d.month
  | 'M' => two d.minute
  | 'N' =>
    let digits := (decimal t.nanoseconds).toList
    let digits := List.replicate (9 - digits.length) '0' ++ digits
    some (if f.pad = some '-' then (digits.reverse.dropWhile (· == '0')).reverse
      else digits.take (f.width.getD 9) ++ List.replicate (f.width.getD 9 - 9) '0')
  | 'p' => some (swapped f (if d.hour < 12 then "AM" else "PM"))
  | 'P' => some (cased f (if d.hour < 12 then "am" else "pm"))
  | 'q' => some (numeral f '0' 1 ((d.month + 2) / 3))
  | 's' => some (numeral f '0' 1 t.seconds)
  | 'S' => two d.second
  | 'u' => some (numeral f '0' 1 (if d.weekday = 0 then 7 else d.weekday))
  | 'U' => two ((d.yearDay + 7 - d.weekday) / 7)
  | 'V' => two d.isoWeek.2
  | 'w' => some (numeral f '0' 1 d.weekday)
  | 'W' => two ((d.yearDay + 7 - (d.weekday + 6) % 7) / 7)
  | 'y' => some (numeral f '0' 2 (d.year % 100))
  | 'Y' => some (numeral f '0' 4 d.year)
  | 'z' => some (aheadText f zone.ahead)
  | 'Z' => some (swapped f zone.name)
  | _ => none

/-- The layout behind a percent sign: flags, a width and colons; and the rest. -/
def readField (s : List Char) : Field × List Char :=
  let flags := s.takeWhile fun c => "-_0^#+".contains c
  let (width, digits, rest) := scanDigits 10 0 (s.drop flags.length)
  let modifier := rest.takeWhile fun c => c == 'E' || c == 'O'
  let rest := rest.drop (min 1 modifier.length)
  let colons := rest.takeWhile (· == ':')
  (⟨(flags.filter fun c => "-_0+".contains c).getLast?, if digits = 0 then none else some width,
      flags.contains '^' || flags.contains '#', flags.contains '#', colons.length⟩,
    rest.drop colons.length)

/-- The text of a moment in a format. -/
def format (zone : Zone) (t : Moment) : Nat → List Char → List Char
  | 0, _ => []
  | _ + 1, [] => []
  | fuel + 1, '%' :: s =>
    let (f, rest) := readField s
    match rest with
    | [] => '%' :: s
    | letter :: rest =>
      let text := match formats.lookup letter with
        | some inner =>
          let whole := format zone t fuel inner.toList
          padded f ' ' 0 (if f.upper then whole.map Char.toUpper else whole)
        | none => (part? zone t f letter).getD ('%' :: s.take (s.length - rest.length))
      text ++ format zone t fuel rest
  | fuel + 1, c :: s => c :: format zone t fuel s

end Date

/-- The text of a moment. -/
def Moment.text (zone : Zone) (format : String) (t : Moment) : String :=
  String.ofList (Date.format zone t (format.length + 32) format.toList)

end PlanReuse.Script
