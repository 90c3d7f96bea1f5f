import MemberAccess.Builtin.Basic
import MemberAccess.Number.Decimal
import MemberAccess.Text.Quoted

/-!
# Atoms

The values that hold no other value: numbers, texts, and the names under which objects, routines and the
library's own records are kept.  A mutable object is an *address*; everything else about an atom is in
the atom itself, so two atoms are one and the same value to a program exactly when they are equal here.

Equality of numbers as a program sees it crosses the kinds of numbers (`1`, `1.0` and `true` are equal);
it is `Atom.equal`, and it compares exact ratios.
-/

namespace MemberAccess

open Number

/-- A class: one of the built-in ones, or the `i`-th that the program declared. -/
inductive ClassRef
  | builtin (b : Builtin)
  | user (i : Nat)
  deriving DecidableEq, Repr, Inhabited

/-- The place of a mutable object. -/
abbrev Address := Nat

/-- A number of fixed width, as arrays hold them. -/
inductive FixedNumber
  | float32 (x : Double)
  | float64 (x : Double)
  | int64 (n : Int)
  | truth (b : Bool)
  | complex64 (re im : Double)
  deriving DecidableEq, Repr, Inhabited

/-- Something that can be called: a declared function, or a routine of a built-in class. -/
inductive Routine
  | user (id : Nat)
  | builtin (owner : Builtin) (name : String)
  deriving DecidableEq, Repr, Inhabited

/-- The records of this library that a program can hold as values. -/
inductive HandleKind
  | descriptor | shape | accessor | cache | plan | pair
  deriving DecidableEq, Repr, Inhabited

/-- A value that holds no other value. -/
inductive Atom
  | none
  | bool (b : Bool)
  | int (n : Int)
  | float (x : Double)
  | complex (re im : Double)
  | text (s : String)
  | bytes (bs : List UInt8)
  | range (start stop step : Int)
  | fraction (numerator : Int) (denominator : Nat)
  | decimal (d : Decimal)
  | fixed (n : FixedNumber)
  | object (a : Address)
  | routine (r : Routine)
  | static (r : Routine)
  | classMethod (r : Routine)
  | property (id : Nat)
  | slot (owner : ClassRef) (name : String)
  | field (owner : Builtin) (name : String)
  | handle (kind : HandleKind) (id : Nat)
  | module
  deriving DecidableEq, Repr, Inhabited

namespace FixedNumber

/-- The class of a number of fixed width. -/
def builtin : FixedNumber → Builtin
  | float32 _ => .float32
  | float64 _ => .float64
  | int64 _ => .int64
  | truth _ => .truth
  | complex64 .. => .complex64

end FixedNumber

namespace Atom

/-! ## §1 Numeric equality -/

/-- A number as a signed ratio, or one of the values that no ratio stands for. -/
inductive Quantity
  | ratio (n : Int) (d : Nat)
  | infinite (negative : Bool)
  | undefined
  deriving DecidableEq, Repr

/-- The quantity of a double. -/
def quantityOfDouble (x : Double) : Quantity :=
  match x.parts with
  | .nan => .undefined
  | .infinite neg => .infinite neg
  | .finite neg s =>
      let (n, d) := s.ratio
      .ratio (if neg then -n else n) d

/-- The quantity of a decimal number. -/
def quantityOfDecimal : Decimal → Quantity
  | .nan .. => .undefined
  | .infinite neg => .infinite neg
  | .finite neg n e =>
      let (a, b) := DecimalPoint.ratio ⟨n, e⟩
      .ratio (if neg then -a else a) b

/-- The real and imaginary parts of a number. -/
def quantities? : Atom → Option (Quantity × Quantity)
  | .bool b => some (.ratio (if b then 1 else 0) 1, .ratio 0 1)
  | .int n => some (.ratio n 1, .ratio 0 1)
  | .float x => some (quantityOfDouble x, .ratio 0 1)
  | .complex re im => some (quantityOfDouble re, quantityOfDouble im)
  | .fraction n d => some (.ratio n d, .ratio 0 1)
  | .decimal d => some (quantityOfDecimal d, .ratio 0 1)
  | .fixed (.float32 x) | .fixed (.float64 x) => some (quantityOfDouble x, .ratio 0 1)
  | .fixed (.int64 n) => some (.ratio n 1, .ratio 0 1)
  | .fixed (.truth b) => some (.ratio (if b then 1 else 0) 1, .ratio 0 1)
  | .fixed (.complex64 re im) => some (quantityOfDouble re, quantityOfDouble im)
  | _ => Option.none

/-- Equality of quantities; an undefined one equals nothing. -/
def Quantity.equal : Quantity → Quantity → Bool
  | .ratio n d, .ratio m e => n * e == m * d
  | .infinite a, .infinite b => a == b
  | _, _ => false

/-- A ratio in lowest terms; the other quantities as they are. -/
def Quantity.lowest : Quantity → Quantity
  | .ratio n d => .ratio (n / Int.gcd n d) (d / Int.gcd n d)
  | q => q

/-- The numbers of a range. -/
def rangeItems (start stop step : Int) : List Int :=
  if step = 0 then []
  else
    let count := if 0 < step then (stop - start + step - 1).fdiv step
      else (start - stop - step - 1).fdiv (-step)
    (List.range count.toNat).map fun i : Nat => start + step * (i : Int)

/-- Equality as a program sees it: of numbers by value, of ranges by their items, else identity. -/
def equal (a b : Atom) : Bool :=
  match a.quantities?, b.quantities? with
  | some (r, i), some (s, j) => r.equal s && i.equal j
  | some _, Option.none | Option.none, some _ => false
  | Option.none, Option.none =>
      match a, b with
      | .range s t u, .range s' t' u' => rangeItems s t u == rangeItems s' t' u'
      | _, _ => a == b

/-! ## §2 Classes of atoms -/

/-- The class of an atom that is no object of the store. -/
def builtin? : Atom → Option Builtin
  | .none => some .noneType
  | .bool _ => some .bool
  | .int _ => some .int
  | .float _ => some .float
  | .complex .. => some .complex
  | .text _ => some .str
  | .bytes _ => some .bytes
  | .range .. => some .range
  | .fraction .. => some .fraction
  | .decimal _ => some .decimal
  | .fixed n => some n.builtin
  | .object _ => Option.none
  | .routine (.user _) => some .function
  | .routine (.builtin ..) => some .methodDescriptor
  | .static _ => some .staticMethod
  | .classMethod _ => some .classMethod
  | .property _ => some .property
  | .slot .. => some .memberDescriptor
  | .field .. => some .fieldDescriptor
  | .handle .descriptor _ => some .memberDescriptorRecord
  | .handle .shape _ => some .callShape
  | .handle .accessor _ => some .function
  | .handle .cache _ => some .accessorCache
  | .handle .plan _ => some .invocationPlan
  | .handle .pair _ => some .accessorPair
  | .module => some .module

/-! ## §3 Printing -/

/-- The text of the parts of a complex number. -/
def complexText (re im : Double) : String :=
  let imText := im.shortest false
  if re.isZero && !re.isNegative then imText ++ "j"
  else
    let sign := if im.isNegative && !im.isNaN then "" else "+"
    "(" ++ re.shortest false ++ sign ++ imText ++ "j)"

/-- The printed form of an atom that is no object of the store. -/
def print : Atom → String
  | .none => "None"
  | .bool b => if b then "True" else "False"
  | .int n => toString n
  | .float x => x.shortest true
  | .complex re im => complexText re im
  | .text s => Text.quoted s
  | .bytes bs => Text.quotedBytes bs
  | .range s t u =>
      "range(" ++ toString s ++ ", " ++ toString t ++ (if u = 1 then "" else ", " ++ toString u) ++ ")"
  | .fraction n d => "Fraction(" ++ toString n ++ ", " ++ toString d ++ ")"
  | .decimal d => "Decimal('" ++ d.text ++ "')"
  | .fixed (.float32 x) => "np.float32(" ++ x.shortest true ++ ")"
  | .fixed (.float64 x) => "np.float64(" ++ x.shortest true ++ ")"
  | .fixed (.int64 n) => "np.int64(" ++ toString n ++ ")"
  | .fixed (.truth b) => if b then "np.True_" else "np.False_"
  | .fixed (.complex64 re im) => "np.complex64(" ++ complexText re im ++ ")"
  | .object _ => "<object>"
  | .routine (.user _) => "<function>"
  | .routine (.builtin o n) => "<method '" ++ n ++ "' of '" ++ o.name ++ "' objects>"
  | .static _ => "<staticmethod>"
  | .classMethod _ => "<classmethod>"
  | .property _ => "<property object>"
  | .slot _ n => "<member '" ++ n ++ "'>"
  | .field o n => "<attribute '" ++ n ++ "' of '" ++ o.name ++ "' objects>"
  | .handle .. => "<record>"
  | .module => "<module>"

end Atom
end MemberAccess
