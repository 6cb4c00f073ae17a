import PlanReuse.Script.Number.Elementary
import PlanReuse.Script.Scan.Token

/-!
# Values of scanning programs

A value is a number or a text, and each can be taken for the other. A text from the input counts as a
number in comparisons if it looks like one.
-/

namespace PlanReuse.Script.Scan

inductive Value
  | unset
  | number (x : Binary64)
  | text (s : String)
  | given (s : String)

/-! ### Numbers as texts -/

/-- The whole numbers that are written in all their digits. -/
def isShown (n : Int) : Bool := -(Nat.pow 2 31 : Int) < n && n < (Nat.pow 2 31 : Int)

/-- A whole number in the range of words. -/
def clampWord (n : Int) : Int := max (-(Nat.pow 2 63 - 1 : Int)) (min n (Nat.pow 2 63 - 1))

/-- A format with one number in it. -/
def formatNumber (format : String) (x : Binary64) : String :=
  let parts := directives false (format.length + 1) format.toList
  String.ofList (parts.flatMap fun
    | .plain c => [c]
    | .field layout width precision letter =>
      let extent : Extent → Option Nat
        | .number n => some n
        | _ => none
      let layout := { layout with width := (extent width).getD 0, precision := extent precision }
      if letter = 'd' ∨ letter = 'i' then layout.integer (clampWord x.whole) else layout.real 1 letter (.ofDouble x)
    | .cut | .unknown _ | .shown _ | .stop _ => [])

/-- The text of a number. One that is not whole is written in a format. -/
def numberText (format : String) (x : Binary64) : String :=
  if x.isWhole && isShown x.whole then decimal (clampWord x.whole) else formatNumber format x

/-! ### Texts as numbers -/

/-- The number in front of a text, and the rest. -/
def scanValue (s : List Char) : Option (Binary64 × List Char) :=
  let body := (splitSign (s.dropWhile isSpace)).2
  match body with
  | '0' :: x :: d :: _ =>
    if (x = 'x' ∨ x = 'X') ∧ digitOf d < 16 then
      (scanInteger 16 s).map fun (n, rest) => (Binary64.nearest (n < 0) n.natAbs 1, rest)
    else scanReal s
  | _ => scanReal s

/-- Whether all of a text is a number. -/
def looksNumeric (s : String) : Bool :=
  match scanValue s.toList with
  | some (_, rest) => rest.all isSpace
  | none => false

def textNumber (s : String) : Binary64 := ((scanValue s.toList).map Prod.fst).getD (.ofNat 0)

namespace Value

def toNumber : Value → Binary64
  | unset => .ofNat 0
  | number x => x
  | text s | given s => textNumber s

/-- The text of a value, numbers in a format. -/
def toText (format : String) : Value → String
  | unset => ""
  | number x => numberText format x
  | text s | given s => s

def ofBool (b : Bool) : Value := number (.ofNat (if b then 1 else 0))

def ofNat (n : Nat) : Value := number (.ofNat n)

def isTrue : Value → Bool
  | unset => false
  | number x => !x.isZero
  | text s => !s.isEmpty
  | given s => if looksNumeric s then !(textNumber s).isZero else !s.isEmpty

/-- Whether a value takes part in a comparison as a number. -/
def isNumeric : Value → Bool
  | unset | number _ => true
  | text _ => false
  | given s => looksNumeric s

/-- Whether a comparison holds: of numbers if both values are ones, and of texts otherwise. -/
def holds (format : String) (c : Comparison) (v w : Value) : Bool :=
  if v.isNumeric && w.isNumeric then
    let x := v.toNumber
    let y := w.toNumber
    match c with
    | .less => x.less y
    | .lessEq => x.less y || x.sameNumber y
    | .equal => x.sameNumber y
    | .different => !x.sameNumber y
    | .more => y.less x
    | .moreEq => y.less x || x.sameNumber y
  else
    let s := v.toText format
    let t := w.toText format
    match c with
    | .less => s < t
    | .lessEq => !(t < s)
    | .equal => s == t
    | .different => s != t
    | .more => t < s
    | .moreEq => !(s < t)

end Value

/-- A result that is no number although the operands are. -/
def settle (x y r : Binary64) : Binary64 :=
  if r.isNaN && !x.isNaN && !y.isNaN then Binary64.undefined else r

def Operator.apply (o : Operator) (x y : Binary64) : Binary64 :=
  settle x y (match o with
    | .add => x.add y
    | .sub => x.sub y
    | .mul => x.mul y
    | .div => x.div y
    | .rem => x.rem y
    | .pow => x.pow y)

/-! ### Formats with values -/

/-- What is wrong with a format. -/
inductive FormatFault
  /-- There are more directives than values. -/
  | lacking
  /-- The directive of a number is none that there is. -/
  | improper (number : Nat)

def FormatFault.message (routine format : String) : FormatFault → String
  | lacking => "not enough arguments passed to " ++ routine ++ "(\"" ++ format ++ "\")"
  | improper n => "improper conversion(number " ++ toString n ++ ") in " ++ routine ++ "(\"" ++ format ++ "\")"

/-- The text of a value that a directive asks for. -/
def directiveText (convert : String) (layout : Layout) (letter : Char) (v : Value) : List Char :=
  let x := v.toNumber
  match letter with
  | 's' => layout.text (v.toText convert).toList
  | 'c' =>
    let isCode := match v with
      | .number _ => true
      | .given s => looksNumeric s
      | _ => false
    layout.pad false []
      [if isCode then Char.ofNat (x.whole % 256).toNat else ((v.toText convert).toList.head?).getD (Char.ofNat 0)]
  | 'd' | 'i' =>
    if x.isNaN || x.isInfinite then layout.real 1 'f' (.ofDouble x) else layout.integer (clampWord x.whole)
  | 'o' | 'u' | 'x' | 'X' => layout.natural letter (clampWord x.whole % (Nat.pow 2 64 : Int)).toNat
  | _ => layout.real 1 letter (.ofDouble x)

/-- Carries out the directives of a format up to one that is wrong; the number is that of the next one. -/
def formatAll (convert : String) : Nat → List Directive → List Value → List Char × Option FormatFault
  | _, [], _ => ([], none)
  | number, d :: ds, vs =>
    let extent (e : Extent) (vs : List Value) : Option (Option Int × List Value) :=
      match e, vs with
      | .none, vs => some (none, vs)
      | .number n, vs => some (some n, vs)
      | .argument, v :: vs => some (some v.toNumber.whole, vs)
      | .argument, [] => none
    let goOn (number : Nat) (s : List Char) (vs : List Value) : List Char × Option FormatFault :=
      let (more, fault) := formatAll convert number ds vs
      (s ++ more, fault)
    match d with
    | .plain c => goOn number [c] vs
    | .cut | .unknown _ | .shown _ | .stop _ => ([], some (if vs.isEmpty then .lacking else .improper number))
    | .field layout width precision letter =>
      match extent width vs with
      | none => ([], some .lacking)
      | some (width, vs) =>
        match extent precision vs with
        | none | some (_, []) => ([], some .lacking)
        | some (precision, v :: vs) =>
          let w := width.getD 0
          let layout :=
            { layout with
              left := layout.left || w < 0
              width := w.natAbs
              precision := precision.bind fun n => if n < 0 then none else some n.toNat }
          if !"scdioxXuegfEG".contains letter then ([], some (.improper number))
          else goOn (number + 1) (directiveText convert layout letter v) vs

/-- A format without the letters for the sizes of numbers. -/
def dropSizes : Nat → Bool → List Char → List Char
  | 0, _, s => s
  | _, _, [] => []
  | fuel + 1, inField, c :: r =>
    if inField then
      if c = 'l' ∨ c = 'h' then dropSizes fuel true r
      else c :: dropSizes fuel (isFlag c || c.isDigit || c == '.' || c == '*') r
    else c :: dropSizes fuel (c == '%') r

/-- The text that a format makes of values, and what is wrong with it. -/
def formatText (convert format : String) (vs : List Value) : String × Option FormatFault :=
  let s := dropSizes (format.length + 1) false format.toList
  let (text, fault) := formatAll convert 1 (directives false (s.length + 1) s) vs
  (String.ofList text, fault)

end PlanReuse.Script.Scan
