import MemberAccess.Value.Conversion

/-!
# Arrays from values

Arrays are made by a library of their own, which `Value.asArray` turns to; what it makes of a value is up
to the runner.  What follows is how the runner of a program (`runFunction`) has it answer, as far as
programs here need it: an array is made from a number, from nested lists, tuples and ranges of numbers, or from another array.
All rows of one axis must have one length.  The element type is the widest among truth values, integers,
floats and complex numbers that occur; without any element it is a float.  Elements are kept in 32 bits:
an integer has to fit, a float is rounded and goes to infinity beyond the greatest one.

An array outside the library keeps 64 bits instead, and becomes a library array by cutting its elements
down.
-/

namespace MemberAccess

open Number

/-- How much an element can hold. -/
inductive Width
  | truth | integer | float | complex
  deriving DecidableEq, Repr, Inhabited

/-- The place of a width in the order of widths. -/
def Width.rank : Width → Nat
  | truth => 0 | integer => 1 | float => 2 | complex => 3

/-- The wider of two widths. -/
def Width.max (a b : Width) : Width := if a.rank ≤ b.rank then b else a

/-- The width of an atom that can be an element. -/
def Atom.width? : Atom → Option Width
  | .bool _ | .fixed (.truth _) => some .truth
  | .int _ | .fixed (.int64 _) => some .integer
  | .float _ | .fixed (.float32 _) | .fixed (.float64 _) => some .float
  | .complex .. | .fixed (.complex64 ..) => some .complex
  | _ => Option.none

/-- An atom that may be an element, without its fixed width. -/
def Atom.plain : Atom → Atom
  | .fixed (.truth b) => .bool b
  | .fixed (.int64 n) => .int n
  | .fixed (.float32 x) | .fixed (.float64 x) => .float x
  | .fixed (.complex64 re im) => .complex re im
  | a => a

namespace ArrayContent

/-! ## §1 Rows -/

/-- Puts rows of one shape into one more axis. -/
def stack (rows : List (List Nat × List Atom)) : Outcome (List Nat × List Atom) :=
  match rows with
  | [] => .ok ([0], [])
  | (shape, _) :: _ =>
      if rows.all fun r => r.1 == shape then .ok (rows.length :: shape, rows.flatMap (·.2))
      else .error (.fault .valueError)

/-- The items of a list or tuple that is no instance of a subclass. -/
def items? (st : Store) (a : Address) : Option (List Value) :=
  let o := st.object a
  match o.cls, o.payload with
  | .builtin .list, .list xs => some xs
  | .builtin .tuple, .tuple xs => some xs
  | _, _ => none

mutual
/-- The shape and the elements of a value; fuel bounds the nesting. -/
def gather (st : Store) : Nat → Value → Outcome (List Nat × List Atom)
  | 0, _ => .error (.fault .valueError)
  | fuel + 1, v =>
      match v with
      | .object a =>
          match items? st a with
          | some xs => (gatherAll st fuel xs).bind stack
          | none =>
              match st.arrayOf? v with
              | some c => .ok (c.shape, c.elements)
              | none => element (st.atomOf? v)
      | .atom (.range s t u) => .ok ([(Atom.rangeItems s t u).length], (Atom.rangeItems s t u).map .int)
      | v => element (st.atomOf? v)
where
  /-- A single element. -/
  element (a : Option Atom) : Outcome (List Nat × List Atom) :=
    match a with
    | some a => if a.width?.isSome then .ok ([], [a]) else .error (.fault .typeError)
    | none => .error (.fault .typeError)

/-- The shapes and elements of several values. -/
def gatherAll (st : Store) : Nat → List Value → Outcome (List (List Nat × List Atom))
  | 0, _ => .error (.fault .valueError)
  | _ + 1, [] => .ok []
  | fuel + 1, v :: vs => do
      let r ← gather st fuel v
      let rs ← gatherAll st fuel vs
      return r :: rs
end

/-- The widest width among elements; none at all counts as floats. -/
def widest (as : List Atom) : Width :=
  match as.filterMap Atom.width? with
  | [] => .float
  | w :: ws => ws.foldl Width.max w

/-! ## §2 Elements -/

/-- An integer cut down to 32 bits. -/
def wrap32 (n : Int) : Int := n.bmod 0x100000000

/-- The double of an atom that is a real number. -/
def realOf (a : Atom) : Outcome Double :=
  match a.plain with
  | .bool b => .ok (if b then ⟨0x3ff0000000000000⟩ else Double.zero false)
  | .int n =>
      match Double.ofInt n with
      | some x => .ok x
      | none => .error (.fault .overflowError)
  | .float x => .ok x
  | _ => .error (.fault .typeError)

/-- An atom as an element of the given width in 32 bits. -/
def element32 (w : Width) (a : Atom) : Outcome Atom :=
  match w with
  | .truth => .ok a.plain
  | .integer =>
      match a with
      | .bool b | .fixed (.truth b) => .ok (.int (if b then 1 else 0))
      | .fixed (.int64 n) => .ok (.int (wrap32 n))
      | .int n =>
          if -0x80000000 ≤ n && n < 0x80000000 then .ok (.int n) else .error (.fault .overflowError)
      | _ => .error (.fault .typeError)
  | .float => (realOf a).map fun x => .float x.toSingle
  | .complex =>
      match a.plain with
      | .complex re im => .ok (.complex re.toSingle im.toSingle)
      | a => (realOf a).map fun x => .complex x.toSingle (Double.zero false)

/-- The element type of a width in 32 bits. -/
def type32 : Width → ElementType
  | .truth => .bool
  | .integer => .int32
  | .float => .float32
  | .complex => .complex64

/-- The element type of a width in 64 bits. -/
def type64 : Width → ElementType
  | .truth => .bool
  | .integer => .int64
  | .float => .float64
  | .complex => .complex128

/-- The nesting that is looked through before a value is given up as too deep. -/
def nesting (st : Store) (v : Value) : Nat :=
  match v with
  | .object a =>
      match st.arrayOf? v with
      | some _ => 4
      | none => 4 + 2 * st.objects.size + (((items? st a).map (·.length)).getD 0) +
          st.objects.foldl (fun n o => n + match o.payload with
            | .list xs => xs.length
            | .tuple xs => xs.length
            | _ => 0) 0
  | _ => 4

/-- The library array that a value becomes. -/
def ofValue (st : Store) (v : Value) : Outcome ArrayContent := do
  let (shape, as) ← gather st (nesting st v) v
  let w := widest as
  let as ← as.mapM (element32 w)
  return ⟨type32 w, shape, as⟩

/-- An atom as an element of the given width in 64 bits. -/
def element64 (w : Width) (a : Atom) : Outcome Atom :=
  match w with
  | .truth => .ok a.plain
  | .integer =>
      match a.plain with
      | .bool b => .ok (.fixed (.int64 (if b then 1 else 0)))
      | .int n =>
          if -0x8000000000000000 ≤ n && n < 0x8000000000000000 then .ok (.fixed (.int64 n))
          else .error (.fault .overflowError)
      | _ => .error (.fault .typeError)
  | .float => (realOf a).map .float
  | .complex =>
      match a.plain with
      | .complex re im => .ok (.complex re im)
      | a => (realOf a).map fun x => .complex x (Double.zero false)

/-- The array outside the library that a value becomes. -/
def hostOfValue (st : Store) (v : Value) : Outcome ArrayContent := do
  let (shape, as) ← gather st (nesting st v) v
  let w := widest as
  let as ← as.mapM (element64 w)
  return ⟨type64 w, shape, as⟩

end ArrayContent

namespace Value

open MemberAccess.Action

/-- Has the array library make an array of a value; an array is its own array. -/
def asArray (v : Value) : Action Value := do
  let st ← get
  if st.classOf v = .builtin .arrayValue then return v
  else
    let c ← arrayContent v
    allocateBuiltin .arrayValue (.array c)

/-- Makes an array outside the library of a value. -/
def asHostArray (v : Value) : Action Value := do
  let c ← ofOutcome (ArrayContent.hostOfValue (← get) v)
  allocateBuiltin .hostArray (.array c)

/-- Makes a number of fixed width of a value. -/
def asFixed (k : FixedKind) (v : Value) : Action Value := do
  match k with
  | .float32 => return .atom (.fixed (.float32 (← toFloat v).toSingle))
  | .float64 => return .atom (.fixed (.float64 (← toFloat v)))
  | .int64 =>
      let n ← toIndex v
      if -0x8000000000000000 ≤ n && n < 0x8000000000000000 then return .atom (.fixed (.int64 n))
      else fault .overflowError
  | .truth =>
      match (← get).atomOf? v with
      | some (.bool b) => return .atom (.fixed (.truth b))
      | some (.int n) => return .atom (.fixed (.truth (n != 0)))
      | some (.float x) => return .atom (.fixed (.truth !x.isZero))
      | _ => fault .typeError
  | .complex64 =>
      let (re, im) ← toComplex v
      return .atom (.fixed (.complex64 re.toSingle im.toSingle))

end Value
end MemberAccess
