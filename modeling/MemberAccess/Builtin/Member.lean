import MemberAccess.Builtin.Basic

/-!
# The members of the built-in classes

What stands in the namespace of each built-in class, as far as looking members up can tell: whether the
entry is a routine, how it is bound, and how many positional parameters its signature shows (the
receiver included), if it shows any at all.  The abstract container classes, the numbers and the texts
answer to a program's members and protocols through this table.
-/

namespace MemberAccess

/-- How a built-in routine stands in its class. -/
inductive RoutineKind
  /-- written like any function -/
  | plain
  /-- a method of a built-in class -/
  | descriptor
  /-- the method behind an operator -/
  | slotWrapper
  /-- a method that is bound to the class -/
  | classDescriptor
  /-- not bound at all -/
  | free
  deriving DecidableEq, Repr, Inhabited

/-- An entry in the namespace of a built-in class. -/
inductive BuiltinMember
  /-- a routine with the count of its positional parameters, if its signature is known -/
  | routine (kind : RoutineKind) (positional : Option Nat)
  /-- a routine without receiver -/
  | static (positional : Option Nat)
  /-- a routine whose receiver is the class -/
  | classMethod (positional : Option Nat)
  /-- a computed attribute -/
  | property
  /-- an attribute kept in the object -/
  | field
  /-- the absent value, which blocks an inherited method -/
  | absent
  /-- any other constant -/
  | constant
  deriving DecidableEq, Repr, Inhabited

namespace Builtin

/-- The entries of each class, the names of like entries together. -/
def memberGroups : Builtin → List (BuiltinMember × String)
  | .object => [
      (.routine .free (some 0), "__new__"),
      (.routine .slotWrapper (some 1), "__repr__ __hash__ __str__ __init__"),
      (.routine .slotWrapper (some 2), "__getattribute__ __delattr__ __lt__ __le__ __eq__ __ne__ __gt__ __ge__"),
      (.routine .slotWrapper (some 3), "__setattr__"),
      (.routine .descriptor (some 2), "__reduce_ex__ __format__"),
      (.routine .descriptor (some 1), "__reduce__ __getstate__ __sizeof__ __dir__"),
      (.routine .classDescriptor none, "__subclasshook__ __init_subclass__"),
      (.field, "__class__"),
      (.constant, "__doc__")]
  | .type => [
      (.routine .free (some 0), "__new__"),
      (.routine .slotWrapper (some 1), "__repr__ __call__ __init__"),
      (.routine .slotWrapper (some 2), "__getattribute__ __delattr__ __or__ __ror__"),
      (.routine .slotWrapper (some 3), "__setattr__"),
      (.routine .descriptor (some 1), "mro __subclasses__ __dir__ __sizeof__"),
      (.routine .classDescriptor none, "__prepare__"),
      (.routine .descriptor (some 2), "__instancecheck__ __subclasscheck__"),
      (.field, "__basicsize__ __itemsize__ __flags__ __weakrefoffset__ __base__ __dictoffset__"),
      (.field, "__mro__ __name__ __qualname__ __bases__ __module__ __abstractmethods__"),
      (.field, "__dict__ __doc__ __text_signature__ __annotations__")]
  | .noneType => [
      (.routine .free (some 0), "__new__"),
      (.routine .slotWrapper (some 1), "__repr__ __bool__"),
      (.absent, "__doc__")]
  | .any => [
      (.constant, "__module__ __doc__"),
      (.static (some 1), "__new__"),
      (.field, "__dict__ __weakref__")]
  | .int => [
      (.routine .free (some 0), "__new__"),
      (.routine .slotWrapper (some 1), "__repr__ __hash__ __neg__ __pos__ __abs__ __bool__ __invert__ __int__"),
      (.routine .slotWrapper (some 1), "__float__ __index__"),
      (.routine .slotWrapper (some 2), "__getattribute__ __lt__ __le__ __eq__ __ne__ __gt__ __ge__ __add__ __radd__"),
      (.routine .slotWrapper (some 2), "__sub__ __rsub__ __mul__ __rmul__ __mod__ __rmod__ __divmod__ __rdivmod__"),
      (.routine .slotWrapper (some 2), "__lshift__ __rlshift__ __rshift__ __rrshift__ __and__ __rand__ __xor__"),
      (.routine .slotWrapper (some 2), "__rxor__ __or__ __ror__ __floordiv__ __rfloordiv__ __truediv__ __rtruediv__"),
      (.routine .slotWrapper (some 3), "__pow__ __rpow__"),
      (.routine .descriptor none, "conjugate __trunc__ __floor__ __ceil__ __round__"),
      (.routine .descriptor (some 1), "bit_length bit_count as_integer_ratio __getnewargs__ __sizeof__"),
      (.routine .descriptor (some 3), "to_bytes"),
      (.routine .classDescriptor (some 3), "from_bytes"),
      (.routine .descriptor (some 2), "__format__"),
      (.field, "real imag numerator denominator"),
      (.constant, "__doc__")]
  | .float => [
      (.routine .free (some 0), "__new__"),
      (.routine .slotWrapper (some 1), "__repr__ __hash__ __neg__ __pos__ __abs__ __bool__ __int__ __float__"),
      (.routine .slotWrapper (some 2), "__getattribute__ __lt__ __le__ __eq__ __ne__ __gt__ __ge__ __add__ __radd__"),
      (.routine .slotWrapper (some 2), "__sub__ __rsub__ __mul__ __rmul__ __mod__ __rmod__ __divmod__ __rdivmod__"),
      (.routine .slotWrapper (some 2), "__floordiv__ __rfloordiv__ __truediv__ __rtruediv__"),
      (.routine .slotWrapper (some 3), "__pow__ __rpow__"),
      (.routine .descriptor (some 1), "conjugate __trunc__ __floor__ __ceil__ as_integer_ratio hex is_integer"),
      (.routine .descriptor (some 1), "__getnewargs__"),
      (.routine .descriptor (some 2), "__round__ __format__"),
      (.routine .classDescriptor (some 2), "fromhex __getformat__"),
      (.field, "real imag"),
      (.constant, "__doc__")]
  | .complex => [
      (.routine .free (some 0), "__new__"),
      (.routine .slotWrapper (some 1), "__repr__ __hash__ __neg__ __pos__ __abs__ __bool__"),
      (.routine .slotWrapper (some 2), "__getattribute__ __lt__ __le__ __eq__ __ne__ __gt__ __ge__ __add__ __radd__"),
      (.routine .slotWrapper (some 2), "__sub__ __rsub__ __mul__ __rmul__ __truediv__ __rtruediv__"),
      (.routine .slotWrapper (some 3), "__pow__ __rpow__"),
      (.routine .descriptor (some 1), "conjugate __complex__ __getnewargs__"),
      (.routine .descriptor (some 2), "__format__"),
      (.field, "real imag"),
      (.constant, "__doc__")]
  | .str => [
      (.routine .free (some 0), "__new__"),
      (.routine .slotWrapper (some 1), "__repr__ __hash__ __str__ __iter__ __len__"),
      (.routine .slotWrapper (some 2), "__getattribute__ __lt__ __le__ __eq__ __ne__ __gt__ __ge__ __mod__ __rmod__"),
      (.routine .slotWrapper (some 2), "__getitem__ __add__ __mul__ __rmul__ __contains__"),
      (.routine .descriptor (some 3), "encode split rsplit center ljust rjust"),
      (.routine .descriptor (some 4), "replace"),
      (.routine .descriptor (some 2), "join expandtabs partition lstrip rstrip rpartition splitlines strip translate"),
      (.routine .descriptor (some 2), "removeprefix removesuffix zfill __format__"),
      (.routine .descriptor (some 1), "capitalize casefold title lower swapcase upper isascii islower isupper istitle"),
      (.routine .descriptor (some 1), "isspace isdecimal isdigit isnumeric isalpha isalnum isidentifier isprintable"),
      (.routine .descriptor (some 1), "__sizeof__"),
      (.routine .descriptor none, "count find index rfind rindex startswith endswith format format_map"),
      (.routine .descriptor none, "__getnewargs__"),
      (.static none, "maketrans"),
      (.constant, "__doc__")]
  | .bytes => [
      (.routine .free (some 0), "__new__"),
      (.routine .slotWrapper (some 1), "__repr__ __hash__ __str__ __iter__ __len__"),
      (.routine .slotWrapper (some 2), "__getattribute__ __lt__ __le__ __eq__ __ne__ __gt__ __ge__ __mod__ __rmod__"),
      (.routine .slotWrapper (some 2), "__getitem__ __add__ __mul__ __rmul__ __contains__"),
      (.routine .descriptor none, "__getnewargs__ capitalize count endswith find hex index isalnum isalpha"),
      (.routine .descriptor none, "isascii isdigit islower isspace istitle isupper lower rfind rindex startswith"),
      (.routine .descriptor none, "swapcase title upper"),
      (.routine .descriptor (some 1), "__bytes__"),
      (.routine .descriptor (some 3), "center decode ljust rjust rsplit split translate"),
      (.routine .descriptor (some 2), "expandtabs join lstrip partition removeprefix removesuffix rpartition rstrip"),
      (.routine .descriptor (some 2), "splitlines strip zfill"),
      (.routine .classDescriptor (some 2), "fromhex"),
      (.static (some 2), "maketrans"),
      (.routine .descriptor (some 4), "replace"),
      (.constant, "__doc__")]
  | .bool => [
      (.routine .free (some 0), "__new__"),
      (.routine .slotWrapper (some 1), "__repr__"),
      (.routine .slotWrapper (some 2), "__and__ __rand__ __xor__ __rxor__ __or__ __ror__"),
      (.constant, "__doc__")]
  | .list => [
      (.routine .free (some 0), "__new__"),
      (.routine .slotWrapper (some 1), "__repr__ __iter__ __init__ __len__"),
      (.absent, "__hash__"),
      (.routine .slotWrapper (some 2), "__getattribute__ __lt__ __le__ __eq__ __ne__ __gt__ __ge__ __delitem__ __add__"),
      (.routine .slotWrapper (some 2), "__mul__ __rmul__ __contains__ __iadd__ __imul__"),
      (.routine .descriptor none, "__getitem__"),
      (.routine .slotWrapper (some 3), "__setitem__"),
      (.routine .descriptor (some 1), "__reversed__ __sizeof__ clear copy reverse sort"),
      (.routine .descriptor (some 2), "append extend pop remove count"),
      (.routine .descriptor (some 3), "insert"),
      (.routine .descriptor (some 4), "index"),
      (.routine .classDescriptor none, "__class_getitem__"),
      (.constant, "__doc__")]
  | .tuple => [
      (.routine .free (some 0), "__new__"),
      (.routine .slotWrapper (some 1), "__repr__ __hash__ __iter__ __len__"),
      (.routine .slotWrapper (some 2), "__getattribute__ __lt__ __le__ __eq__ __ne__ __gt__ __ge__ __getitem__ __add__"),
      (.routine .slotWrapper (some 2), "__mul__ __rmul__ __contains__"),
      (.routine .descriptor (some 1), "__getnewargs__"),
      (.routine .descriptor (some 4), "index"),
      (.routine .descriptor (some 2), "count"),
      (.routine .classDescriptor none, "__class_getitem__"),
      (.constant, "__doc__")]
  | .dict => [
      (.routine .free (some 0), "__new__"),
      (.routine .slotWrapper (some 1), "__repr__ __iter__ __init__ __len__"),
      (.absent, "__hash__"),
      (.routine .slotWrapper (some 2), "__getattribute__ __lt__ __le__ __eq__ __ne__ __gt__ __ge__ __or__ __ror__"),
      (.routine .slotWrapper (some 2), "__ior__ __delitem__"),
      (.routine .descriptor none, "__getitem__ __sizeof__ pop keys items values update clear copy"),
      (.routine .slotWrapper (some 3), "__setitem__"),
      (.routine .descriptor (some 2), "__contains__"),
      (.routine .descriptor (some 3), "get setdefault"),
      (.routine .descriptor (some 1), "popitem __reversed__"),
      (.routine .classDescriptor (some 3), "fromkeys"),
      (.routine .classDescriptor none, "__class_getitem__"),
      (.constant, "__doc__")]
  | .set => [
      (.routine .free (some 0), "__new__"),
      (.routine .slotWrapper (some 1), "__repr__ __iter__ __init__ __len__"),
      (.absent, "__hash__"),
      (.routine .slotWrapper (some 2), "__getattribute__ __lt__ __le__ __eq__ __ne__ __gt__ __ge__ __sub__ __rsub__"),
      (.routine .slotWrapper (some 2), "__and__ __rand__ __xor__ __rxor__ __or__ __ror__ __isub__ __iand__ __ixor__"),
      (.routine .slotWrapper (some 2), "__ior__"),
      (.routine .descriptor none, "__contains__ add clear copy discard difference difference_update intersection"),
      (.routine .descriptor none, "intersection_update isdisjoint pop __reduce__ remove __sizeof__"),
      (.routine .descriptor none, "symmetric_difference symmetric_difference_update union update"),
      (.routine .descriptor (some 2), "issubset issuperset"),
      (.routine .classDescriptor none, "__class_getitem__"),
      (.constant, "__doc__")]
  | .frozenset => [
      (.routine .free (some 0), "__new__"),
      (.routine .slotWrapper (some 1), "__repr__ __hash__ __iter__ __len__"),
      (.routine .slotWrapper (some 2), "__getattribute__ __lt__ __le__ __eq__ __ne__ __gt__ __ge__ __sub__ __rsub__"),
      (.routine .slotWrapper (some 2), "__and__ __rand__ __xor__ __rxor__ __or__ __ror__"),
      (.routine .descriptor none, "__contains__ copy difference intersection isdisjoint __reduce__ __sizeof__"),
      (.routine .descriptor none, "symmetric_difference union"),
      (.routine .descriptor (some 2), "issubset issuperset"),
      (.routine .classDescriptor none, "__class_getitem__"),
      (.constant, "__doc__")]
  | .range => [
      (.routine .free (some 0), "__new__"),
      (.routine .slotWrapper (some 1), "__repr__ __hash__ __iter__ __bool__ __len__"),
      (.routine .slotWrapper (some 2), "__getattribute__ __lt__ __le__ __eq__ __ne__ __gt__ __ge__ __getitem__"),
      (.routine .slotWrapper (some 2), "__contains__"),
      (.routine .descriptor none, "__reversed__ __reduce__ count index"),
      (.field, "start stop step"),
      (.constant, "__doc__")]
  | .number => [
      (.constant, "__module__ __doc__ __slots__ __abstractmethods__ _abc_impl"),
      (.absent, "__hash__")]
  | .complexNumber => [
      (.constant, "__module__ __doc__ __slots__ __abstractmethods__ _abc_impl"),
      (.routine .plain (some 1), "__complex__ __bool__ __neg__ __pos__ __abs__ conjugate"),
      (.property, "real imag"),
      (.routine .plain (some 2), "__add__ __radd__ __sub__ __rsub__ __mul__ __rmul__ __truediv__ __rtruediv__"),
      (.routine .plain (some 2), "__pow__ __rpow__ __eq__"),
      (.absent, "__hash__")]
  | .realNumber => [
      (.constant, "__module__ __doc__ __slots__ __abstractmethods__ _abc_impl"),
      (.routine .plain (some 1), "__float__ __trunc__ __floor__ __ceil__ __complex__ conjugate"),
      (.routine .plain (some 2), "__round__ __divmod__ __rdivmod__ __floordiv__ __rfloordiv__ __mod__ __rmod__"),
      (.routine .plain (some 2), "__lt__ __le__"),
      (.property, "real imag")]
  | .rationalNumber => [
      (.constant, "__module__ __doc__ __slots__ __abstractmethods__ _abc_impl"),
      (.property, "numerator denominator"),
      (.routine .plain (some 1), "__float__")]
  | .integralNumber => [
      (.constant, "__module__ __doc__ __slots__ __abstractmethods__ _abc_impl"),
      (.routine .plain (some 1), "__int__ __index__ __invert__ __float__"),
      (.routine .plain (some 3), "__pow__"),
      (.routine .plain (some 2), "__lshift__ __rlshift__ __rshift__ __rrshift__ __and__ __rand__ __xor__"),
      (.routine .plain (some 2), "__rxor__ __or__ __ror__"),
      (.property, "numerator denominator")]
  | .fraction => [
      (.constant, "__module__ __doc__ __slots__ __abstractmethods__ _abc_impl"),
      (.static (some 3), "__new__"),
      (.classMethod (some 2), "from_float from_decimal"),
      (.routine .plain (some 1), "as_integer_ratio __repr__ __str__ __pos__ __neg__ __abs__ __trunc__ __floor__"),
      (.routine .plain (some 1), "__ceil__ __hash__ __bool__ __reduce__ __copy__"),
      (.routine .plain (some 2), "limit_denominator _operator_fallbacks _add __add__ __radd__ _sub __sub__"),
      (.routine .plain (some 2), "__rsub__ _mul __mul__ __rmul__ _div __truediv__ __rtruediv__ _floordiv"),
      (.routine .plain (some 2), "__floordiv__ __rfloordiv__ _divmod __divmod__ __rdivmod__ _mod __mod__"),
      (.routine .plain (some 2), "__rmod__ __pow__ __rpow__ __int__ __round__ __eq__ __lt__ __gt__ __le__ __ge__"),
      (.routine .plain (some 2), "__deepcopy__"),
      (.property, "numerator denominator"),
      (.routine .plain (some 3), "_richcmp"),
      (.field, "_denominator _numerator")]
  | .decimal => [
      (.routine .free (some 0), "__new__"),
      (.routine .slotWrapper (some 1), "__repr__ __hash__ __str__ __neg__ __pos__ __abs__ __bool__ __int__ __float__"),
      (.routine .slotWrapper (some 2), "__getattribute__ __lt__ __le__ __eq__ __ne__ __gt__ __ge__ __add__ __radd__"),
      (.routine .slotWrapper (some 2), "__sub__ __rsub__ __mul__ __rmul__ __mod__ __rmod__ __divmod__ __rdivmod__"),
      (.routine .slotWrapper (some 2), "__floordiv__ __rfloordiv__ __truediv__ __rtruediv__"),
      (.routine .slotWrapper (some 3), "__pow__ __rpow__"),
      (.routine .descriptor (some 2), "exp ln log10 next_minus next_plus normalize sqrt is_normal is_subnormal logb"),
      (.routine .descriptor (some 2), "logical_invert number_class to_eng_string"),
      (.routine .descriptor (some 3), "to_integral to_integral_exact to_integral_value compare compare_signal max"),
      (.routine .descriptor (some 3), "max_mag min min_mag next_toward remainder_near compare_total compare_total_mag"),
      (.routine .descriptor (some 3), "copy_sign same_quantum logical_and logical_or logical_xor rotate scaleb shift"),
      (.routine .descriptor (some 4), "quantize fma"),
      (.routine .descriptor (some 1), "is_canonical is_finite is_infinite is_nan is_qnan is_snan is_signed is_zero"),
      (.routine .descriptor (some 1), "adjusted canonical conjugate radix copy_abs copy_negate as_tuple"),
      (.routine .descriptor (some 1), "as_integer_ratio"),
      (.routine .classDescriptor (some 2), "from_float"),
      (.routine .descriptor none, "__copy__ __deepcopy__ __format__ __reduce__ __round__ __ceil__ __floor__"),
      (.routine .descriptor none, "__trunc__ __complex__ __sizeof__"),
      (.field, "real imag"),
      (.constant, "__doc__ __module__")]
  | .sequence => [
      (.constant, "__module__ __doc__ __slots__ __abstractmethods__ _abc_impl"),
      (.routine .plain (some 2), "__getitem__ __contains__ count"),
      (.routine .plain (some 1), "__iter__ __reversed__"),
      (.routine .plain (some 4), "index")]
  | .mapping => [
      (.constant, "__module__ __doc__ __slots__ __abstractmethods__ _abc_impl"),
      (.routine .plain (some 2), "__getitem__ __contains__ __eq__"),
      (.routine .plain (some 3), "get"),
      (.routine .plain (some 1), "keys items values"),
      (.absent, "__reversed__ __hash__")]
  | .iterable => [
      (.constant, "__module__ __slots__ __abstractmethods__ _abc_impl"),
      (.routine .plain (some 1), "__iter__"),
      (.classMethod (some 2), "__subclasshook__"),
      (.classMethod none, "__class_getitem__"),
      (.absent, "__doc__")]
  | .sized => [
      (.constant, "__module__ __slots__ __abstractmethods__ _abc_impl"),
      (.routine .plain (some 1), "__len__"),
      (.classMethod (some 2), "__subclasshook__"),
      (.absent, "__doc__")]
  | .callable => [
      (.constant, "__module__ __slots__ __abstractmethods__ _abc_impl"),
      (.routine .plain (some 1), "__call__"),
      (.classMethod (some 2), "__subclasshook__ __class_getitem__"),
      (.absent, "__doc__")]
  | .reversible => [
      (.constant, "__module__ __slots__ __abstractmethods__ _abc_impl"),
      (.routine .plain (some 1), "__reversed__"),
      (.classMethod (some 2), "__subclasshook__"),
      (.absent, "__doc__")]
  | .collection => [
      (.constant, "__module__ __slots__ __abstractmethods__ _abc_impl"),
      (.classMethod (some 2), "__subclasshook__"),
      (.absent, "__doc__")]
  | .container => [
      (.constant, "__module__ __slots__ __abstractmethods__ _abc_impl"),
      (.routine .plain (some 2), "__contains__"),
      (.classMethod (some 2), "__subclasshook__"),
      (.classMethod none, "__class_getitem__"),
      (.absent, "__doc__")]
  | .generic => [
      (.constant, "__module__ __doc__ __slots__ _is_protocol"),
      (.classMethod (some 2), "__class_getitem__"),
      (.classMethod (some 1), "__init_subclass__")]
  | .protocol => [
      (.constant, "__module__ __doc__ __slots__ _is_protocol _is_runtime_protocol __parameters__"),
      (.constant, "__abstractmethods__ _abc_impl"),
      (.classMethod (some 1), "__init_subclass__")]
  | .function => [
      (.routine .free (some 0), "__new__"),
      (.routine .slotWrapper (some 1), "__repr__ __call__"),
      (.routine .slotWrapper (some 3), "__get__"),
      (.field, "__closure__ __doc__ __globals__ __module__ __builtins__ __code__ __defaults__"),
      (.field, "__kwdefaults__ __annotations__ __dict__ __name__ __qualname__")]
  | .method => [
      (.routine .free (some 0), "__new__"),
      (.routine .slotWrapper (some 1), "__repr__ __hash__ __call__"),
      (.routine .slotWrapper (some 2), "__getattribute__ __delattr__ __lt__ __le__ __eq__ __ne__ __gt__ __ge__"),
      (.routine .slotWrapper (some 3), "__setattr__"),
      (.routine .descriptor (some 1), "__reduce__"),
      (.field, "__func__ __self__ __doc__")]
  | .arrayValue => [
      (.field, "at dtype ndim shape size real imag T nbytes itemsize"),
      (.routine .plain (some 1),
        "__array__ __bool__ __complex__ __float__ __hash__ __index__ __int__ __iter__ __len__ __neg__"),
      (.routine .plain (some 1), "__abs__ __invert__ __pos__ __repr__ __reversed__ __str__"),
      (.routine .plain (some 2), "__add__ __sub__ __mul__ __getitem__ __contains__ __eq__ __radd__")]
  | .hostArray => [
      (.field, "T data dtype flags flat imag itemsize nbytes ndim real shape size strides base"),
      (.routine .slotWrapper (some 1),
        "__abs__ __bool__ __float__ __index__ __int__ __invert__ __iter__ __len__ __neg__ __pos__"),
      (.routine .slotWrapper (some 2), "__add__ __contains__ __eq__ __getitem__ __mul__ __sub__"),
      (.routine .descriptor none,
        "__complex__ all any argmax argmin astype copy item max mean min ravel reshape sum tolist")]
  | .float32 | .float64 | .int64 | .complex64 | .truth => [
      (.field, "T data dtype flags flat imag itemsize nbytes ndim real shape size strides base"),
      (.routine .slotWrapper (some 1), "__abs__ __bool__ __float__ __int__ __neg__ __pos__"),
      (.routine .slotWrapper (some 2), "__add__ __eq__ __mul__ __sub__"),
      (.routine .descriptor none,
        "__complex__ all any argmax argmin astype copy item max mean min ravel reshape sum tolist")]
  | _ => []

/-- The entry of a name in the namespace of a built-in class itself. -/
def member? (b : Builtin) (name : String) : Option BuiltinMember :=
  if b = .int64 ∧ name = "__index__" then some (.routine .slotWrapper (some 1))
  else (b.memberGroups.find? fun g => (g.2.splitOn " ").contains name).map (·.1)

/-- The first class of the lineage that has an entry for the name, with that entry. -/
def lookup? (b : Builtin) (name : String) : Option (Builtin × BuiltinMember) :=
  b.lineage.findSome? fun c => (c.member? name).map (c, ·)

end Builtin
end MemberAccess
