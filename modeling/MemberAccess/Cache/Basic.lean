import MemberAccess.Member.Descriptor
import MemberAccess.Number.Double
import MemberAccess.Shape.Basic

/-!
# Caches

A cache keeps what was made for a member and a shape.  A request for a key that is kept gives what is
kept; any other request makes it anew, and what was made is kept unless making it failed.  Nothing is
ever dropped.

Keys are compared by what they mean: the same member, an equal shape.  A cache counts its requests; the
counts can be set back to zero, which leaves what is kept alone.
-/

namespace MemberAccess

open Number

/-- The key of a cache entry. -/
structure CacheKey where
  descriptor : MemberDescriptor
  shape : Shape
  deriving DecidableEq, Repr, Inhabited

namespace CacheKey

/-- Whether two keys mean the same. -/
def equal (k l : CacheKey) : Bool := k.descriptor.sameMember l.descriptor && k.shape.equal l.shape

/-- Whether a key can be looked up. -/
def isHashable (k : CacheKey) : Bool := k.descriptor.isHashable && k.shape.isHashable

end CacheKey

/-- The counts of a cache. -/
structure Tally where
  hits : Nat
  misses : Nat
  compiles : Nat
  failures : Nat
  deriving DecidableEq, Repr, Inhabited

namespace Tally

/-- Nothing counted yet. -/
def zero : Tally := ⟨0, 0, 0, 0⟩

/-- How many of the requests found what they asked for. -/
def hitRate (t : Tally) : Double :=
  if t.hits + t.misses = 0 then Double.zero false
  else (Double.ofRatio false t.hits (t.hits + t.misses)).getD (Double.zero false)

end Tally

/-- A cache of things made for keys. -/
structure AccessorCache (α : Type) where
  entries : List (CacheKey × α)
  tally : Tally
  deriving Repr, Inhabited

namespace AccessorCache

variable {α : Type}

/-- A cache that keeps nothing yet. -/
def empty : AccessorCache α := ⟨[], .zero⟩

/-- What is kept for a key. -/
def find? (c : AccessorCache α) (k : CacheKey) : Option α :=
  (c.entries.find? fun e => e.1.equal k).map (·.2)

/-- How much is kept. -/
def size (c : AccessorCache α) : Nat := c.entries.length

/-- Sets the counts back to zero. -/
def reset (c : AccessorCache α) : AccessorCache α := { c with tally := .zero }

/-- Counts a request that found what it asked for. -/
def hit (c : AccessorCache α) : AccessorCache α :=
  { c with tally := { c.tally with hits := c.tally.hits + 1 } }

/-- Counts a request that did not find what it asked for. -/
def miss (c : AccessorCache α) : AccessorCache α :=
  { c with tally := { c.tally with misses := c.tally.misses + 1 } }

/-- Counts that what was asked for was made, and keeps it unless something is kept for the key by now. -/
def keep (c : AccessorCache α) (k : CacheKey) (a : α) : AccessorCache α :=
  { entries := if (c.find? k).isSome then c.entries else c.entries ++ [(k, a)]
    tally := { c.tally with compiles := c.tally.compiles + 1 } }

/-- What a request gives that had something made: what is kept for the key by now, else what was made. -/
def given (c : AccessorCache α) (k : CacheKey) (a : α) : α := (c.find? k).getD a

/-- Counts that what was asked for could not be made. -/
def fail (c : AccessorCache α) : AccessorCache α :=
  { c with tally := { c.tally with failures := c.tally.failures + 1 } }

/-- Counting changes nothing that is kept. -/
@[simp] theorem entries_hit (c : AccessorCache α) : c.hit.entries = c.entries := rfl

@[simp] theorem entries_miss (c : AccessorCache α) : c.miss.entries = c.entries := rfl

@[simp] theorem entries_fail (c : AccessorCache α) : c.fail.entries = c.entries := rfl

@[simp] theorem entries_reset (c : AccessorCache α) : c.reset.entries = c.entries := rfl

end AccessorCache
end MemberAccess
