import MemberAccess.TypeForm.Printing

/-!
# Member descriptors

A descriptor says which member is meant, of which class, and what is known about it: the types of its
parameters and of its value, whether it needs a receiver, and which of its sides can be used.  Kind,
class and name alone decide which member it is, so descriptors that were found by different ways for the
same member are equal and share what is kept for it.
-/

namespace MemberAccess

/-- The kinds of members. -/
inductive MemberKind
  | constructor | method | field | property
  deriving DecidableEq, Repr, Inhabited

/-- The word for a kind. -/
def MemberKind.name : MemberKind → String
  | constructor => "constructor" | method => "method" | field => "field" | property => "property"

/-- A handle on one member of a class. -/
structure MemberDescriptor where
  kind : MemberKind
  declaring : TypeForm
  name : String
  parameters : List TypeForm
  /-- the type of the result, of the field or property, or of the constructed instance -/
  valueType : TypeForm
  isStatic : Bool
  target : Value
  readable : Bool
  writable : Bool
  getterPublic : Bool
  setterPublic : Bool
  deriving DecidableEq, Repr, Inhabited

namespace MemberDescriptor

/-- A descriptor of which only the member itself is known. -/
def bare (kind : MemberKind) (declaring : TypeForm) (name : String) : MemberDescriptor :=
  { kind, declaring, name
    parameters := []
    valueType := .builtin .any
    isStatic := false
    target := .nothing
    readable := true
    writable := false
    getterPublic := true
    setterPublic := true }

/-- The count of parameters. -/
def arity (d : MemberDescriptor) : Nat := d.parameters.length

/-- Whether the member gives a value; only the class of the absent value says that it does not. -/
def isValueProducing (d : MemberDescriptor) : Bool := d.valueType != .builtin .noneType

/-- Whether two descriptors mean the same member. -/
def sameMember (d e : MemberDescriptor) : Bool :=
  d.kind == e.kind && d.declaring.equal e.declaring && d.name == e.name

/-- Whether a descriptor can be a key of a table. -/
def isHashable (d : MemberDescriptor) : Bool := d.declaring.hashable

/-- The member with its class in front; a constructor is named by the class alone. -/
def qualifiedName (st : Store) (d : MemberDescriptor) : String :=
  let owner := d.declaring.typeName st
  if d.kind = .constructor then owner else owner ++ "." ++ d.name

/-- A descriptor in messages. -/
def text (st : Store) (d : MemberDescriptor) : String := d.kind.name ++ " " ++ d.qualifiedName st

end MemberDescriptor
end MemberAccess
