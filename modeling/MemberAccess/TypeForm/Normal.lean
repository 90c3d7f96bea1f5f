import MemberAccess.TypeForm.Equality

/-!
# Normal annotations

Before two annotations are compared, a converter is chosen or a plan is made, the spellings that stand
for another annotation are replaced by it: the absent value by its class, a text that was never looked
up by the class of everything, a variable by its bound or its choice, and wrappers by what they wrap.

What the rest of the library asks of an annotation is then asked of the normal one: whether anything
goes, whether it is a union and of what, which class its instances belong to.
-/

namespace MemberAccess

/-- What an annotation applies to arguments: a class, or a form that is no class. -/
inductive Origin
  | cls (c : ClassRef)
  | form (f : BareForm)
  deriving DecidableEq, Repr, Inhabited

/-- An argument of an applied annotation; the parameters of a callable are one argument. -/
inductive Argument
  | single (t : TypeForm)
  | group (ts : List TypeForm)
  | note (s : String)
  | value (v : Foreign)
  deriving DecidableEq, Repr, Inhabited

namespace TypeForm

/-- The annotation that the rest of the library compares. -/
def normalize : TypeForm → TypeForm
  | .none => .builtin .noneType
  | .text _ => .builtin .any
  | .variable _ => .builtin .any
  | .bounded _ bound => bound.normalize
  | .choice _ options => options
  | .annotated _ inner _ => inner.normalize
  | .classVar _ inner => inner.normalize
  | t => t

/-- Whether every value fits. -/
def isAny (t : TypeForm) : Bool := t == .builtin .any || t == .builtin .object

/-- Whether an annotation is a union. -/
def isUnion : TypeForm → Bool
  | .union .. => true
  | _ => false

/-- The members of a union. -/
def members : TypeForm → List TypeForm
  | .union _ _ ts => ts
  | _ => []

/-- What an annotation applies to arguments, if it does. -/
def origin? : TypeForm → Option Origin
  | .bare f => f.origin?.map fun b => .cls (.builtin b)
  | .builtin .generic => some (.cls (.builtin .generic))
  | .union _ .subscript _ => some (.form .union)
  | .union _ .bar _ => some (.cls (.builtin .barUnion))
  | .alias _ _ o _ => some (.cls o)
  | .callable .. => some (.cls (.builtin .callable))
  | .annotated .. => some (.form .annotated)
  | .classVar .. => some (.form .classVar)
  | .final .. => some (.form .final)
  | .literal .. => some (.form .literal)
  | _ => Option.none

/-- The arguments of an applied annotation. -/
def arguments : TypeForm → List Argument
  | .union _ _ ts => ts.map .single
  | .alias _ _ _ ts => ts.map .single
  | .callable _ [.ellipsis] r => [.single .ellipsis, .single r]
  | .callable _ ps r => [.group ps, .single r]
  | .annotated _ t ns => .single t :: ns.map .note
  | .classVar _ t | .final _ t => [.single t]
  | .literal _ vs => vs.map .value
  | _ => []

/-- The class whose instances an annotation describes, if there is one. -/
def runtimeClass? (t : TypeForm) : Option ClassRef :=
  let t := t.normalize
  if t = .builtin .any then Option.none
  else
    match t.origin? with
    | some (.cls c) => some c
    | some (.form _) => Option.none
    | Option.none =>
        match t with
        | .cls c => some c
        | _ => Option.none

/-- The three classes of numbers that widen into one another. -/
def isPromoting (t : TypeForm) : Bool :=
  t == .builtin .int || t == .builtin .float || t == .builtin .complex

/-- The widenings of numbers. -/
def promotes (source target : TypeForm) : Bool :=
  (source == .builtin .int && (target == .builtin .float || target == .builtin .complex)) ||
    (source == .builtin .float && target == .builtin .complex)

end TypeForm

/-- Equality of arguments. -/
def Argument.equal : Argument → Argument → Bool
  | .single a, .single b => a.equal b
  | .group as, .group bs => TypeForm.equalList as bs
  | .note s, .note t => s == t
  | .value a, .value b => a.equal b
  | .note s, .single (.text t) | .single (.text t), .note s => s == t
  | .value a, .single (.foreign b) | .single (.foreign b), .value a => a.equal b
  | _, _ => false

/-- Whether an argument lets everything through. -/
def Argument.isAny : Argument → Bool
  | .single t => t.normalize.isAny
  | .note _ => true
  | .value v => (v.value matches .text _)
  | .group _ => false

end MemberAccess
