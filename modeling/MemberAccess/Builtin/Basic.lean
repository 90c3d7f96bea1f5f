/-!
# The built-in classes

The classes that every object world holds before a program adds its own: numbers, texts, containers,
the abstract classes of numbers and of containers, and the classes of the things the world itself is
made of (functions, annotations, descriptors, accessors).

A class is known here by its name, its *lineage* (itself first, then its ancestors in the order in which
members are looked up) and a few yes-or-no facts.  What members it has is the matter of
`Builtin.Member`.
-/

namespace MemberAccess

/-- A built-in class. -/
inductive Builtin
  -- roots
  | object | type | noneType | any
  -- plain values
  | int | float | complex | str | bytes | bool
  | list | tuple | dict | set | frozenset | range
  -- exact numbers and the abstract classes of numbers
  | number | complexNumber | realNumber | rationalNumber | integralNumber | fraction | decimal
  -- abstract classes of containers
  | sequence | mapping | iterable | sized | callable | reversible | collection | container
  -- classes that other classes are declared with
  | generic | protocol
  -- arrays and the fixed-width numbers they hold
  | array | arrayValue | hostArray | float64 | float32 | int64 | truth | complex64
  -- pieces of classes
  | function | method | builtinFunction | methodDescriptor | slotWrapper | classMethodDescriptor
  | boundSlot | staticMethod | classMethod | property | memberDescriptor | fieldDescriptor
  | module
  -- metaclasses
  | abstractMeta | protocolMeta | anyMeta
  -- annotations as objects
  | ellipsis | typeVariable | forwardReference | unionAlias | barUnion | builtinAlias | subscriptAlias
  | callableAlias | literalAlias | annotatedAlias | bareAlias | specialForm
  -- handles of this library
  | memberDescriptorRecord | callShape | accessorCache | invocationPlan | accessorPair
  deriving DecidableEq, Repr, Inhabited

namespace Builtin

/-- The simple name of a built-in class. -/
def name : Builtin → String
  | object => "object" | type => "type" | noneType => "NoneType" | any => "Any"
  | int => "int" | float => "float" | complex => "complex" | str => "str" | bytes => "bytes"
  | bool => "bool" | list => "list" | tuple => "tuple" | dict => "dict" | set => "set"
  | frozenset => "frozenset" | range => "range"
  | number => "Number" | complexNumber => "Complex" | realNumber => "Real"
  | rationalNumber => "Rational" | integralNumber => "Integral"
  | fraction => "Fraction" | decimal => "Decimal"
  | sequence => "Sequence" | mapping => "Mapping" | iterable => "Iterable" | sized => "Sized"
  | callable => "Callable" | reversible => "Reversible" | collection => "Collection"
  | container => "Container"
  | generic => "Generic" | protocol => "Protocol"
  | array => "Array" | arrayValue => "ArrayImpl" | hostArray => "ndarray"
  | float64 => "float64" | float32 => "float32" | int64 => "int64" | truth => "bool"
  | complex64 => "complex64"
  | function => "function" | method => "method" | builtinFunction => "builtin_function_or_method"
  | methodDescriptor => "method_descriptor" | slotWrapper => "wrapper_descriptor"
  | classMethodDescriptor => "classmethod_descriptor" | boundSlot => "method-wrapper"
  | staticMethod => "staticmethod" | classMethod => "classmethod" | property => "property"
  | memberDescriptor => "member_descriptor" | fieldDescriptor => "getset_descriptor"
  | module => "module"
  | abstractMeta => "ABCMeta" | protocolMeta => "_ProtocolMeta" | anyMeta => "_AnyMeta"
  | ellipsis => "ellipsis" | typeVariable => "TypeVar" | forwardReference => "ForwardRef"
  | unionAlias => "_UnionGenericAlias" | barUnion => "UnionType" | builtinAlias => "GenericAlias"
  | subscriptAlias => "_GenericAlias" | callableAlias => "_CallableGenericAlias"
  | literalAlias => "_LiteralGenericAlias" | annotatedAlias => "_AnnotatedAlias"
  | bareAlias => "_SpecialGenericAlias" | specialForm => "_SpecialForm"
  | memberDescriptorRecord => "MemberDescriptor" | callShape => "CallShape"
  | accessorCache => "AccessorCache" | invocationPlan => "InvocationPlan"
  | accessorPair => "AccessorPair"

/-- The name that messages use; only the class of arrays carries its home with it. -/
def qualifiedName : Builtin → String
  | array => "jaxlib._jax.Array"
  | b => b.name

/-- The ancestors of a built-in class, without itself and without `object`. -/
def ancestors : Builtin → List Builtin
  | bool => [int]
  | complexNumber => [number]
  | realNumber => [complexNumber, number]
  | rationalNumber => [realNumber, complexNumber, number]
  | integralNumber => [rationalNumber, realNumber, complexNumber, number]
  | fraction => [rationalNumber, realNumber, complexNumber, number]
  | sequence => [reversible, collection, sized, iterable, container]
  | mapping => [collection, sized, iterable, container]
  | reversible => [iterable]
  | collection => [sized, iterable, container]
  | protocol => [generic]
  | arrayValue => [array]
  | float64 => [float]
  | abstractMeta | anyMeta => [type]
  | protocolMeta => [abstractMeta, type]
  | callableAlias | literalAlias | annotatedAlias | unionAlias => [subscriptAlias]
  | accessorPair => [tuple]
  | _ => []

/-- A built-in class followed by its ancestors, in lookup order. -/
def lineage (b : Builtin) : List Builtin :=
  if b = object then [object] else b :: b.ancestors ++ [object]

theorem mem_lineage_self (b : Builtin) : b ∈ b.lineage := by
  unfold lineage
  split
  · simp [*]
  · simp

theorem object_mem_lineage (b : Builtin) : object ∈ b.lineage := by
  unfold lineage
  split <;> simp

/-- The class of a built-in class. -/
def metaclass : Builtin → Builtin
  | number | complexNumber | realNumber | rationalNumber | integralNumber | fraction
  | sequence | mapping | iterable | sized | callable | reversible | collection | container =>
      abstractMeta
  | protocol => protocolMeta
  | any => anyMeta
  | _ => type

/-- The abstract classes that a class is registered with, apart from those in its lineage. -/
def registered : Builtin → List Builtin
  | int => [integralNumber, rationalNumber, realNumber, complexNumber, number]
  | float => [realNumber, complexNumber, number]
  | complex => [complexNumber, number]
  | decimal => [number]
  | float64 | float32 => [realNumber, complexNumber, number]
  | int64 => [integralNumber, rationalNumber, realNumber, complexNumber, number]
  | complex64 => [complexNumber, number]
  | list | tuple | str | bytes | range =>
      [sequence, reversible, collection, sized, iterable, container]
  | dict => [mapping, collection, sized, iterable, container]
  | _ => []

/-- The special methods whose presence makes a class an instance of an abstract class. -/
def requiredMethods : Builtin → Option (List String)
  | iterable => some ["__iter__"]
  | sized => some ["__len__"]
  | callable => some ["__call__"]
  | container => some ["__contains__"]
  | reversible => some ["__reversed__", "__iter__"]
  | collection => some ["__len__", "__iter__", "__contains__"]
  | _ => none

/-- Whether a new class may name this one among its bases. -/
def mayBeBase : Builtin → Bool
  | noneType | bool | range | generic | barUnion | function | method | builtinFunction
  | ellipsis | arrayValue | array | truth => false
  | _ => true

/-- The abstract methods that a subclass has to define before it has instances. -/
def abstractMethods : Builtin → List String
  | complexNumber => ["__abs__", "__add__", "__complex__", "__eq__", "__mul__", "__neg__", "__pos__",
      "__pow__", "__radd__", "__rmul__", "__rpow__", "__rtruediv__", "__truediv__", "conjugate",
      "imag", "real"]
  | realNumber => ["__abs__", "__add__", "__ceil__", "__eq__", "__float__", "__floor__",
      "__floordiv__", "__le__", "__lt__", "__mod__", "__mul__", "__neg__", "__pos__", "__pow__",
      "__radd__", "__rfloordiv__", "__rmod__", "__rmul__", "__round__", "__rpow__", "__rtruediv__",
      "__truediv__", "__trunc__"]
  | rationalNumber => ["__abs__", "__add__", "__ceil__", "__eq__", "__floor__", "__floordiv__",
      "__le__", "__lt__", "__mod__", "__mul__", "__neg__", "__pos__", "__pow__", "__radd__",
      "__rfloordiv__", "__rmod__", "__rmul__", "__round__", "__rpow__", "__rtruediv__",
      "__truediv__", "__trunc__", "denominator", "numerator"]
  | integralNumber => ["__abs__", "__add__", "__and__", "__ceil__", "__eq__", "__floor__",
      "__floordiv__", "__int__", "__invert__", "__le__", "__lshift__", "__lt__", "__mod__", "__mul__",
      "__neg__", "__or__", "__pos__", "__pow__", "__radd__", "__rand__", "__rfloordiv__",
      "__rlshift__", "__rmod__", "__rmul__", "__ror__", "__round__", "__rpow__", "__rrshift__",
      "__rshift__", "__rtruediv__", "__rxor__", "__truediv__", "__trunc__", "__xor__"]
  | sequence => ["__getitem__", "__len__"]
  | mapping => ["__getitem__", "__iter__", "__len__"]
  | iterable => ["__iter__"]
  | sized => ["__len__"]
  | callable => ["__call__"]
  | reversible => ["__iter__", "__reversed__"]
  | collection => ["__contains__", "__iter__", "__len__"]
  | container => ["__contains__"]
  | _ => []

end Builtin
end MemberAccess
