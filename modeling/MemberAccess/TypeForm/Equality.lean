import MemberAccess.TypeForm.Basic

/-!
# Equality of annotations

Two annotations are *equal* when they say the same thing: unions by the set of their members, however
written; applied classes by origin and arguments; literals by their values; variables by name and by
what stands behind them.  An applied class written directly and one written through its generic spelling
are different.

Equality needs no hash, but everything that is kept in a table does; `TypeForm.hashable` says which
annotations have one.
-/

namespace MemberAccess

/-! ## §1 Foreign objects -/

namespace Foreign

/-- What a foreign object is compared by. -/
inductive Key
  | number (re im : Atom.Quantity)
  | items (numbers : List Int)
  | printed (text : String)
  | itself (value : Atom)
  deriving DecidableEq, Repr

/-- Numbers are compared by value, ranges by their items, tuples by their printed form, and all else by
identity; a number that no quantity stands for equals itself alone. -/
def key (f : Foreign) : Key :=
  match f.value.quantities? with
  | some (.undefined, _) | some (_, .undefined) => .itself f.value
  | some (re, im) => .number re.lowest im.lowest
  | none =>
      match f.value with
      | .range s t u => .items (Atom.rangeItems s t u)
      | a => if f.hashable && f.printed.startsWith "(" then .printed f.printed else .itself a

/-- Equality of foreign objects. -/
def equal (a b : Foreign) : Bool := a.key == b.key && a.hashable == b.hashable

/-- Two literal values are one when value and kind agree. -/
def sameLiteral (a b : Foreign) : Bool := a.value == b.value && a.hashable == b.hashable

end Foreign

/-! ## §2 Annotations -/

namespace TypeForm

mutual
/-- Whether two annotations say the same thing. -/
def equal : TypeForm → TypeForm → Bool
  | .none, .none => true
  | .cls c, .cls d => c == d
  | .bare f, .bare g => f == g
  | .ellipsis, .ellipsis => true
  | .text s, .text t => s == t
  | .forward s, .forward t => s == t
  | .variable n, .variable m => n == m
  | .bounded n a, .bounded m b => n == m && same a b
  | .choice n a, .choice m b => n == m && same a b
  | .union _ _ xs, .union _ _ ys => within xs ys && ys.all (someEqual xs)
  | .alias _ s o xs, .alias _ t p ys => s == t && o == p && equalList xs ys
  | .callable _ xs a, .callable _ ys b => equalList xs ys && equal a b
  | .annotated _ a ns, .annotated _ b ms => equal a b && ns == ms
  | .classVar _ a, .classVar _ b => equal a b
  | .final _ a, .final _ b => equal a b
  | .literal _ vs, .literal _ ws =>
      vs.all (fun v => ws.any v.sameLiteral) && ws.all (fun w => vs.any w.sameLiteral)
  | .foreign a, .foreign b => a.equal b
  | _, _ => false

/-- Whether two lists are equal member by member. -/
def equalList : List TypeForm → List TypeForm → Bool
  | [], [] => true
  | a :: as, b :: bs => equal a b && equalList as bs
  | _, _ => false

/-- Whether every annotation of the first list equals one of the second. -/
def within : List TypeForm → List TypeForm → Bool
  | [], _ => true
  | a :: as, bs => bs.any (equal a) && within as bs

/-- Whether some annotation of the list equals the given one. -/
def someEqual : List TypeForm → TypeForm → Bool
  | [], _ => false
  | a :: as, b => equal a b || someEqual as b
end

mutual
/-- Whether an annotation can be kept in a table. -/
def hashable : TypeForm → Bool
  | .union _ _ xs => hashableList xs
  | .alias _ _ _ xs => hashableList xs
  | .callable _ xs a => hashableList xs && hashable a
  | .annotated _ a _ => hashable a
  | .classVar _ a | .final _ a => hashable a
  | .literal _ vs => vs.all (·.hashable)
  | .foreign f => f.hashable
  | _ => true

/-- Whether every annotation of a list can be kept in a table. -/
def hashableList : List TypeForm → Bool
  | [] => true
  | a :: as => hashable a && hashableList as
end

/-- Keeps the first of each group of equal annotations. -/
def distinct (ts : List TypeForm) : List TypeForm :=
  ts.foldl (fun kept t => if kept.any (equal · t) then kept else kept ++ [t]) []

end TypeForm
end MemberAccess
