import MemberAccess.Number.Double
import MemberAccess.Text.Digit

/-!
# Decimal texts of numbers

Three ways of writing a number in decimal.

* *Fixed*: a given count of places after the point, the last one rounded to nearest from the exact
  value, a tie going to the even digit.
* *Shortest*: the fewest digits that read back as the same double, and of those the ones nearest to it.
* *Decimal numbers* with a coefficient and a power of ten, which keep the digits they were given.
-/

namespace MemberAccess.Number

/-! ## §1 Fixed places -/

/-- The digits of `n` with a point before the last `places` of them. -/
def pointed (places n : Nat) : List Char :=
  let ds := Nat.toDigits 10 n
  let ds := List.replicate (places + 1 - ds.length) '0' ++ ds
  if places = 0 then ds
  else ds.take (ds.length - places) ++ '.' :: ds.drop (ds.length - places)

/-- A double with the given count of places after the point. -/
def Double.fixed (places : Nat) (x : Double) : String :=
  match x.parts with
  | .nan => "nan"
  | .infinite neg => if neg then "-inf" else "inf"
  | .finite neg s =>
      let (n, d) := s.ratio
      let digits := pointed places (divNearestEven (n * Nat.pow 10 places) d)
      String.ofList (if neg then '-' :: digits else digits)

/-! ## §2 The shortest digits that read back -/

/-- A decimal `digits * 10 ^ exponent`. -/
structure DecimalPoint where
  digits : Nat
  exponent : Int
  deriving DecidableEq, Repr

/-- The ratio that a decimal stands for. -/
def DecimalPoint.ratio (p : DecimalPoint) : Nat × Nat :=
  if 0 ≤ p.exponent then (p.digits * Nat.pow 10 p.exponent.toNat, 1)
  else (p.digits, Nat.pow 10 (-p.exponent).toNat)

/-- The greatest `k` with `10 ^ k ≤ n / d`, for positive `n` and `d`: from a first guess below it, the
guess is raised while the next power still fits. -/
def floorLog10 (n d : Nat) : Int :=
  let fits (k : Int) : Bool :=
    if 0 ≤ k then d * Nat.pow 10 k.toNat ≤ n else d ≤ n * Nat.pow 10 (-k).toNat
  let guess : Int := (floorLog2 n d) * 30103 / 100000 - 1
  if fits (guess + 2) then guess + 2 else if fits (guess + 1) then guess + 1 else guess

/-- The two neighbours of `n / d` on the grid of decimals with `count` digits that lie nearest to it,
the nearer one first and of two equally near ones the one with an even last digit. -/
def decimalNeighbours (count : Nat) (n d : Nat) : List DecimalPoint :=
  let e := floorLog10 n d - (count - 1 : Nat)
  let (a, b) := if 0 ≤ e then (n, d * Nat.pow 10 e.toNat) else (n * Nat.pow 10 (-e).toNat, d)
  let near := divNearestEven a b
  let below := a / b
  let far := if near = below then below + 1 else below
  [⟨near, e⟩, ⟨far, e⟩]

/-- The first decimal, trying ever more digits, that `readsBack` accepts. -/
def firstReadingBack (readsBack : DecimalPoint → Bool) (n d : Nat) : List Nat → DecimalPoint
  | [] => ⟨n / d, 0⟩
  | count :: more =>
      match (decimalNeighbours count n d).find? readsBack with
      | some p => p
      | none => firstReadingBack readsBack n d more

/-- The shortest decimal that reads back as the positive finite double `x`. -/
def Double.shortestPoint (x : Double) (n d : Nat) : DecimalPoint :=
  let readsBack (p : DecimalPoint) : Bool :=
    let (a, b) := p.ratio
    Double.ofRatio false a b == some x
  firstReadingBack readsBack n d (List.range' 1 17)

/-- Where a shortest decimal is written with a power of ten, and how. -/
structure ShortestStyle where
  /-- Positional from this decimal exponent of the first digit … -/
  lowest : Int
  /-- … to below this one. -/
  highest : Int
  deriving DecidableEq, Repr

/-- Positional from a ten-thousandth to below ten to the sixteenth. -/
def ShortestStyle.standard : ShortestStyle := ⟨-4, 16⟩

/-- A power of ten with a sign and at least two digits. -/
def exponentText (e : Int) : List Char :=
  let ds := Nat.toDigits 10 e.natAbs
  'e' :: (if e < 0 then '-' else '+') :: (List.replicate (2 - ds.length) '0' ++ ds)

/-- Writes significant digits with the first one at the power `e` of ten. -/
def ShortestStyle.write (style : ShortestStyle) (keepPoint : Bool) (ds : List Char) (e : Int) : List Char :=
  if style.lowest ≤ e && e < style.highest then
    if e < 0 then '0' :: '.' :: (List.replicate (-e - 1).toNat '0' ++ ds)
    else
      let whole := e.toNat + 1
      let front := ds.take whole ++ List.replicate (whole - ds.length) '0'
      match ds.drop whole with
      | [] => if keepPoint then front ++ ['.', '0'] else front
      | back => front ++ '.' :: back
  else
    match ds with
    | [] => []
    | [c] => c :: exponentText e
    | c :: r => c :: '.' :: r ++ exponentText e

/-- Drops the zeros at the end of a list of digits. -/
def dropTrailingZeros (ds : List Char) : List Char :=
  (ds.reverse.dropWhile (· == '0')).reverse

/-- The shortest text that reads back; `keepPoint` says whether a whole value keeps `.0`. -/
def Double.shortest (x : Double) (keepPoint : Bool) : String :=
  match x.parts with
  | .nan => "nan"
  | .infinite neg => if neg then "-inf" else "inf"
  | .finite neg s =>
      let (n, d) := s.ratio
      let body :=
        if n = 0 then (if keepPoint then ['0', '.', '0'] else ['0'])
        else
          let p := Double.shortestPoint ⟨x.bits &&& 0x7fffffffffffffff⟩ n d
          let all := Nat.toDigits 10 p.digits
          let e := p.exponent + (all.length - 1 : Nat)
          ShortestStyle.standard.write keepPoint (dropTrailingZeros all) e
      String.ofList (if neg then '-' :: body else body)

/-! ## §3 Decimal numbers -/

/-- A decimal number that keeps its digits. -/
inductive Decimal
  | finite (negative : Bool) (coefficient : Nat) (exponent : Int)
  | infinite (negative : Bool)
  | nan (negative signalling : Bool) (payload : Nat)
  deriving DecidableEq, Repr, Inhabited

namespace Decimal

/-- The value of a run of digits. -/
def digitsValue? (cs : List Char) : Option Nat :=
  cs.foldl (fun acc c => acc.bind fun a => (Text.digitValue? c).map fun d => 10 * a + d) (some 0)

/-- Splits off the leading digits. -/
def spanDigits (cs : List Char) : List Char × List Char :=
  cs.span fun c => (Text.digitValue? c).isSome

/-- Reads the part after the letter of a power of ten. -/
def readExponent? (cs : List Char) : Option Int :=
  let (neg, ds) := match cs with
    | '-' :: r => (true, r)
    | '+' :: r => (false, r)
    | r => (false, r)
  if ds.isEmpty then none
  else (digitsValue? ds).map fun n => if neg then -(n : Int) else n

/-- Reads digits, a point and a power of ten. -/
def readFinite? (neg : Bool) (cs : List Char) : Option Decimal :=
  let (whole, rest) := spanDigits cs
  let (frac, rest) := match rest with
    | '.' :: r => spanDigits r
    | r => ([], r)
  if whole.isEmpty && frac.isEmpty then none
  else
    let exponent? : Option Int := match rest with
      | [] => some 0
      | c :: r => if c = 'e' || c = 'E' then readExponent? r else none
    match exponent?, digitsValue? (whole ++ frac) with
    | some e, some n => some (.finite neg n (e - frac.length))
    | _, _ => none

/-- Reads a decimal number; blanks around it and underscores in it do not count. -/
def parse? (s : String) : Option Decimal :=
  let cs := (Text.trimChars s.toList).filter (· ≠ '_')
  let (neg, body) := match cs with
    | '-' :: r => (true, r)
    | '+' :: r => (false, r)
    | r => (false, r)
  let lower := (String.ofList body).toLower
  if lower == "inf" || lower == "infinity" then some (.infinite neg)
  else if lower.startsWith "nan" then
    (digitsValue? (body.drop 3)).map (.nan neg false)
  else if lower.startsWith "snan" then
    (digitsValue? (body.drop 4)).map (.nan neg true)
  else readFinite? neg body

/-- The text of a decimal number: positional while the exponent is not positive and the first digit is
not further than six places behind the point. -/
def text : Decimal → String
  | .infinite neg => if neg then "-Infinity" else "Infinity"
  | .nan neg sig payload =>
      (if neg then "-" else "") ++ (if sig then "sNaN" else "NaN") ++
        (if payload = 0 then "" else toString payload)
  | .finite neg n e =>
      let ds := Nat.toDigits 10 n
      let leftDigits : Int := e + ds.length
      let dotPlace : Int := if e ≤ 0 && -6 < leftDigits then leftDigits else 1
      let (whole, frac) :=
        if dotPlace ≤ 0 then (['0'], '.' :: (List.replicate (-dotPlace).toNat '0' ++ ds))
        else if (ds.length : Int) ≤ dotPlace then
          (ds ++ List.replicate (dotPlace.toNat - ds.length) '0', [])
        else (ds.take dotPlace.toNat, '.' :: ds.drop dotPlace.toNat)
      let power : List Char :=
        if leftDigits = dotPlace then []
        else
          let p := leftDigits - dotPlace
          'E' :: (if p < 0 then '-' else '+') :: Nat.toDigits 10 p.natAbs
      String.ofList ((if neg then ['-'] else []) ++ whole ++ frac ++ power)

/-- The double nearest to a decimal number, with infinity beyond the greatest finite one; a signalling
NaN has none. -/
def toDouble? : Decimal → Option Double
  | .infinite neg => some (Double.infinity neg)
  | .nan _ sig _ => if sig then none else some Double.nan
  | .finite neg n e =>
      if n = 0 then some (Double.zero neg)
      else if 400 < e + (Nat.toDigits 10 n).length then some (Double.infinity neg)
      else if e + (Nat.toDigits 10 n).length < -400 then some (Double.zero neg)
      else
        let (a, b) := DecimalPoint.ratio ⟨n, e⟩
        some ((Double.ofRatio neg a b).getD (Double.infinity neg))

end Decimal

/-- Reads a floating-point number in decimal; blanks around it, single underscores between digits. -/
def Double.parse? (s : String) : Option Double :=
  let cs := Text.trimBy Text.isNumberBlank s.toList
  let goodUnderscores := (cs.zip (cs.drop 1 ++ [' '])).all fun (a, b) =>
    (a ≠ '_' || (Text.digitValue? b).isSome) && (b ≠ '_' || (Text.digitValue? a).isSome)
  if !goodUnderscores || cs.head? == some '_' || Text.trimChars cs ≠ cs then none
  else
    match Decimal.parse? s with
    | some (.nan neg false 0) =>
        if neg || (String.ofList cs).toLower.endsWith "nan" then some Double.nan else none
    | some (.nan ..) => none
    | some d => d.toDouble?
    | none => none

end MemberAccess.Number
