import PlanReuse.Script.DateText
import PlanReuse.Script.Tool.Permissions

/-!
# Times

Tools that set the times of files, tell the time and let it pass.
-/

namespace PlanReuse.Script.Tool

/-- The zone in which a tool tells times. -/
def zoneOf (w : Work) : Zone :=
  match w.environment.lookup "TZ" with
  | some s => Zone.ofText s
  | none => .universal

/-- When the thing that a name stands for was changed. -/
def timeOfName (w : Work) (s : String) : Except DiskFault Moment :=
  (w.disk.find w.folder s).map fun (p, e) => w.disk.timeOf (Disk.node p e)

/-- The time that options ask for; none is the time at hand. -/
def wantedTime (a : Arguments) : Tool (Except String (Option Moment)) := do
  let w ← get
  let zone := zoneOf w
  let base : Except String (Option Moment) := match a.value? 'r' with
    | some s => match timeOfName w s with
      | .ok t => .ok (some t)
      | .error fault => .error (ofFault ("failed to get attributes of " ++ quote s) fault)
    | none => .ok none
  match base, a.value? 't', a.value? 'd' with
  | .error text, _, _ => return .error text
  | .ok _, some s, _ => return match DateText.readStamp? zone w.disk.clock s with
    | some t => .ok (some t)
    | none => .error ("invalid date format " ++ quote s)
  | .ok b, none, some s => return match DateText.read? zone (b.getD w.disk.clock) s with
    | some t => .ok (some t)
    | none => .error ("invalid date format " ++ quote s)
  | .ok b, none, none => return .ok b

def touch : Arguments → Tool Unit := fun a => do
  if a.operands.isEmpty then misuse "missing file operand"
  else
    match ← wantedTime a with
    | .error text => complain text
    | .ok wanted =>
      let sets := a.has 'm' || !(a.has 'a' || (a.value? 'τ').any fun v => v == "access" || v == "atime" || v == "use")
      a.operands.forM fun s => do
        let w ← get
        let mark (d : Disk) (n : Node) : Disk :=
          match wanted with
          | some t => if sets then d.setTime n t else d
          | none => if sets then d.stamp n else d
        match if a.has 'h' then w.disk.findName w.folder s else w.disk.find w.folder s with
        | .ok (p, e) => set { w with disk := mark w.disk (Disk.node p e) }
        | .error .notFound =>
          if !a.has 'c' && !a.has 'h' then
            let _ ← change ("cannot touch " ++ quote s) fun w => do
              let (n, d) ← w.disk.openFile w.folder s (masked w 0o666)
              return mark d (.file n)
        | .error fault => complain (ofFault ("cannot touch " ++ quote s) fault)

/-- The format that an option or an operand names. -/
def dateFormat? (a : Arguments) : Except (Tool Unit) String :=
  let precisions (c : Char) : List String :=
    if c = 'I' then ["hours", "minutes", "date", "seconds", "ns"] else ["date", "seconds", "ns"]
  let formats := a.options.filterMap fun (c, v) =>
    match c with
    | 'I' => some ('I', v)
    | 'R' => some ('R', v)
    | 'φ' => some ('φ', v)
    | _ => none
  let operand := a.operands.find? fun s => s.startsWith "+"
  if 1 < formats.length ∨ !formats.isEmpty ∧ a.operands.length = 1 ∧ operand.isSome then
    .error (complain "multiple output formats specified")
  else match formats.getLast?, operand with
  | some ('R', _), _ => .ok "%a, %d %b %Y %H:%M:%S %z"
  | some (c, v), _ =>
    let (mark, point) := if c = 'I' then ("T", ",") else (" ", ".")
    match if c = 'I' ∧ v.isEmpty then some "date" else choiceOf (precisions c) v with
    | some "date" => .ok "%Y-%m-%d"
    | some "hours" => .ok ("%Y-%m-%d" ++ mark ++ "%H%:z")
    | some "minutes" => .ok ("%Y-%m-%d" ++ mark ++ "%H:%M%:z")
    | some "seconds" => .ok ("%Y-%m-%d" ++ mark ++ "%H:%M:%S%:z")
    | some _ => .ok ("%Y-%m-%d" ++ mark ++ "%H:%M:%S" ++ point ++ "%N%:z")
    | none => .error (misuseChoice (if c = 'I' then "--iso-8601" else "--rfc-3339") v (precisions c))
  | none, some f => .ok (f.drop 1).toString
  | none, none => .ok "%a %b %e %H:%M:%S %Z %Y"

/-- What is wrong with a call for a date. -/
def dateMisuse? (a : Arguments) : Option String :=
  let sources := "dfr".toList.filter a.has
  if 1 < sources.length then some "the options to specify dates for printing are mutually exclusive"
  else if !sources.isEmpty ∧ a.has 's' then some "the options to print and set the time may not be used together"
  else
    match a.operands with
    | _ :: s :: _ => some ("extra operand " ++ quote s)
    | [s] =>
      if s.startsWith "+" ∨ sources.isEmpty ∧ !a.has 's' then none
      else some ("the argument " ++ quote s ++ " lacks a leading '+';\nwhen using an option to specify date(s), " ++
        "any non-option\nargument must be a format string beginning with '+'")
    | [] => none

/-- The moment that digits such as `013110302020.15` name: month, day, hour and minute, a year if there is
one, and seconds behind a point. -/
def readSetting? (zone : Zone) (now : Moment) (s : String) : Option Moment :=
  let digits := s.toList.takeWhile Char.isDigit
  let rest := s.toList.drop digits.length
  DateText.readStamp? zone now (String.ofList (digits.drop 8 ++ digits.take 8 ++ rest))

def date : Arguments → Tool Unit := fun a => do
  let w ← get
  let zone := if a.has 'u' then Zone.universal else zoneOf w
  match dateFormat? a, dateMisuse? a with
  | .error fault, _ => fault
  | _, some text => misuse text
  | .ok format, none =>
    let show_ (t : Moment) : Tool Unit := putLine (Moment.text zone format t)
    let toSet := match a.value? 's', a.operands.find? fun s => !s.startsWith "+" with
      | some s, _ => some (s, DateText.read? zone w.disk.clock s)
      | none, some s => some (s, readSetting? zone w.disk.clock s)
      | none, none => none
    match toSet with
    | some (s, none) => complain ("invalid date " ++ quote s)
    | some (_, some t) =>
      complain "cannot set date: Operation not permitted"
      show_ t
    | none =>
    let named (s : String) : Tool Unit :=
      match DateText.read? zone w.disk.clock s with
      | some t => show_ t
      | none => complain ("invalid date " ++ quote s)
    match a.value? 'd', a.value? 'f', a.value? 'r' with
    | some s, _, _ => named s
    | none, some f, _ =>
      match ← contentOf endless f with
      | .ok text => (linesOf text.toList).forM fun l => named (String.ofList l)
      | .error fault => complain (ofFault f fault)
    | none, none, some s =>
      match timeOfName w s with
      | .ok t => show_ t
      | .error fault => complain (ofFault s fault)
    | none, none, none => show_ w.disk.clock

/-- The nanoseconds of a length of time, with or without a unit. -/
def interval? (s : String) : Option Nat :=
  let (unit, body) := match s.toList.getLast? with
    | some 's' => (1, s.toList.dropLast)
    | some 'm' => (60, s.toList.dropLast)
    | some 'h' => (3600, s.toList.dropLast)
    | some 'd' => (86400, s.toList.dropLast)
    | _ => (1, s.toList)
  let whole := body.takeWhile Char.isDigit
  match body.drop whole.length with
  | [] => if whole.isEmpty then none else some ((scanDigits 10 0 whole).1 * unit * 1000000000)
  | '.' :: r =>
    if r.all Char.isDigit && !(whole.isEmpty && r.isEmpty) then
      let nano := DateText.nanoseconds r
      some (((scanDigits 10 0 whole).1 * 1000000000 + nano) * unit)
    else none
  | _ => if s = "infinity" ∨ s = "inf" then some 0 else none

def sleep : Arguments → Tool Unit := fun a => wantOperand a do
  match (a.operands.filter fun s => (interval? s).isNone).reverse with
  | [] => modify fun w => { w with disk := w.disk.wait ((a.operands.filterMap interval?).foldl (· + ·) 0) }
  | last :: front =>
    front.reverse.forM fun s => complain ("invalid time interval " ++ quote s)
    misuse ("invalid time interval " ++ quote last)

end PlanReuse.Script.Tool
