import MemberAccess.Hierarchy.Membership
import MemberAccess.Value.Conversion

/-!
# Stores that grow

A store grows by objects that are new.  What there was before is then what it was: its classes, its
properties, its objects, and with them what any value that the store knows is and brings with it.

Much is asked of the classes alone, and stays what it is wherever the classes stay what they are.
-/

namespace MemberAccess

/-! ## §1  What is asked of the classes -/

namespace Store

section
variable {st st' : Store} (h : st'.classes = st.classes)
include h

theorem classInfo_congr : st'.classInfo = st.classInfo := by
  cases st
  cases st'
  cases h
  rfl

theorem lookup?_congr : st'.lookup? = st.lookup? := by
  cases st
  cases st'
  cases h
  rfl

theorem isProtocol_congr : st'.isProtocol = st.isProtocol := by
  cases st
  cases st'
  cases h
  rfl

theorem protocolMembers_congr : st'.protocolMembers = st.protocolMembers := by
  cases st
  cases st'
  cases h
  rfl

theorem lineage_congr : st'.lineage = st.lineage := by
  cases st
  cases st'
  cases h
  rfl

theorem hasMethodsOnly_congr : st'.hasMethodsOnly = st.hasMethodsOnly := by
  cases st
  cases st'
  cases h
  rfl

theorem descends_congr : st'.descends = st.descends := by
  cases st
  cases st'
  cases h
  rfl

theorem subclassTest_congr : st'.subclassTest = st.subclassTest := by
  cases st
  cases st'
  cases h
  rfl

theorem isSubclass_congr : st'.isSubclass = st.isSubclass := by
  cases st
  cases st'
  cases h
  rfl

end

/-! ## §2  What is asked of values -/

section

/-- The getter of the property that the class of a value has under a name. -/
def getter? (st : Store) (v : Value) (name : String) : Option Nat :=
  match st.lookup? (st.classOf v) name with
  | some (_, .atom (.property p)) => (st.properties[p]?.getD default).getter
  | _ => none

end

/-! ## §3  New objects -/

/-- An invariant that new objects do not touch. -/
def SparesNew (I : Store → Prop) : Prop := ∀ st o, I st → I (st.allocate o).1

/-- A store grows into another that has new objects and is the same apart from them. -/
def Grows (st st' : Store) : Prop := ∃ new : Array Object, st' = { st with objects := st.objects ++ new }

/-- A store knows a value that is no object or one of its own. -/
def Knows (st : Store) (v : Value) : Prop := ∀ a, v = .object a → a < st.objects.size

variable {st st' st'' : Store} {v : Value} {n : String} {k : ClassRef}

theorem Grows.refl (st : Store) : st.Grows st := ⟨#[], by rw [Array.append_empty]⟩

theorem Grows.trans (h : st.Grows st') (h' : st'.Grows st'') : st.Grows st'' := by
  obtain ⟨new, rfl⟩ := h
  obtain ⟨new', rfl⟩ := h'
  exact ⟨new ++ new', by rw [Array.append_assoc]⟩

theorem sparesNew_grows : SparesNew st.Grows := by
  intro st' o h
  exact h.trans ⟨#[o], by rw [allocate, Array.push_eq_append]⟩

theorem Grows.classes (h : st.Grows st') : st'.classes = st.classes := by
  obtain ⟨new, rfl⟩ := h
  rfl

theorem Grows.properties (h : st.Grows st') : st'.properties = st.properties := by
  obtain ⟨new, rfl⟩ := h
  rfl

/-- The objects that there were are what they were. -/
theorem Grows.object (h : st.Grows st') {a : Address} (ha : a < st.objects.size) :
    st'.object a = st.object a := by
  obtain ⟨new, rfl⟩ := h
  simp [Store.object, Array.getElem?_append_left ha]

theorem Grows.knows (h : st.Grows st') (hv : st.Knows v) : st'.Knows v := by
  obtain ⟨new, rfl⟩ := h
  intro a ha
  exact Nat.lt_of_lt_of_le (hv a ha) (by simp)

theorem Grows.classOf (h : st.Grows st') (hv : st.Knows v) : st'.classOf v = st.classOf v := by
  have hinfo := classInfo_congr h.classes
  unfold Store.classOf
  split
  case h_1 a => rw [h.object (hv a rfl)]
  case h_5 t =>
    split <;> first | rfl | rw [hinfo]
  all_goals rfl

theorem Grows.specialMethod? (h : st.Grows st') (hv : st.Knows v) :
    st'.specialMethod? v n = st.specialMethod? v n := by
  unfold Store.specialMethod?
  rw [h.classOf hv, lookup?_congr h.classes]

/-! ## §4  Stores of the same classes -/

/-- What is known to a store is in another one of the same class, and the classes are the same. -/
structure KeepsClasses (st st' : Store) : Prop where
  classes : st'.classes = st.classes
  properties : st'.properties = st.properties
  knows {v : Value} : st.Knows v → st'.Knows v
  classOf {v : Value} : st.Knows v → st'.classOf v = st.classOf v

theorem Grows.keepsClasses (h : st.Grows st') : st.KeepsClasses st' where
  classes := h.classes
  properties := h.properties
  knows := h.knows
  classOf := h.classOf

theorem KeepsClasses.trans (h : st.KeepsClasses st') (h' : st'.KeepsClasses st'') : st.KeepsClasses st'' where
  classes := h'.classes.trans h.classes
  properties := h'.properties.trans h.properties
  knows hv := h'.knows (h.knows hv)
  classOf hv := (h'.classOf (h.knows hv)).trans (h.classOf hv)

/-- It is enough that the objects keep their classes. -/
theorem KeepsClasses.of_objects (hclasses : st'.classes = st.classes) (hproperties : st'.properties = st.properties)
    (hsize : st.objects.size ≤ st'.objects.size)
    (hcls : ∀ a < st.objects.size, (st'.object a).cls = (st.object a).cls) : st.KeepsClasses st' where
  classes := hclasses
  properties := hproperties
  knows hv a ha := Nat.lt_of_lt_of_le (hv a ha) hsize
  classOf := by
    intro v hv
    have hinfo := classInfo_congr hclasses
    unfold Store.classOf
    split
    case h_1 a => exact hcls a (hv a rfl)
    case h_5 t =>
      split <;> first | rfl | rw [hinfo]
    all_goals rfl

theorem KeepsClasses.getter? (h : st.KeepsClasses st') (hv : st.Knows v) :
    st'.getter? v n = st.getter? v n := by
  unfold Store.getter?
  rw [h.classOf hv, lookup?_congr h.classes, h.properties]

end Store
end MemberAccess
