import MemberAccess.Proofs.GrowingStores
import MemberAccess.Proofs.Runs

/-!
# Values without special methods

The class of a value may take part when its attributes or items are read.  What follows says when it does
not, and what reading comes to then: the built-in way.
-/

namespace MemberAccess

open MemberAccess.Action

/-! ## §1  Classes without special methods -/

namespace Store

variable {st : Store} {v : Value} {n : String}

/-- Whether a declared class says what stands under a name in the class of a value. -/
def overrides (st : Store) (v : Value) (name : String) : Bool :=
  match st.lookup? (st.classOf v) name with
  | some (.user _, _) => true
  | _ => false

theorem overrides_of_entries
    (h : ∀ i, .user i ∈ st.lineage (st.classOf v) → (st.classInfo i).entries.lookup n = none) :
    st.overrides v n = false := by
  unfold overrides
  split
  case h_2 => rfl
  case h_1 i e hl =>
    unfold lookup? at hl
    obtain ⟨k, hk, he⟩ := List.exists_of_findSome?_eq_some hl
    simp only [Option.map_eq_some_iff, Prod.mk.injEq] at he
    obtain ⟨e, he, rfl, -⟩ := he
    rw [ entry?, h i hk] at he
    cases he

/-- No declared class says anything for an instance of a built-in one. -/
theorem overrides_of_builtin {b : Builtin} (h : st.classOf v = .builtin b) (n : String) :
    st.overrides v n = false := by
  refine overrides_of_entries ?_
  intro i hi
  rw [h] at hi
  obtain ⟨b', -, hb'⟩ := List.mem_map.mp hi
  cases hb'

/-- What built-in classes say is no method of a program's own. -/
theorem specialMethod?_of_overrides (h : st.overrides v n = false) : st.specialMethod? v n = none := by
  unfold specialMethod?
  split
  case h_2 => rfl
  case h_1 c id hl =>
    cases c with
    | user i =>
      rw [overrides, hl] at h
      cases h
    | builtin b =>
      exfalso
      unfold lookup? at hl
      obtain ⟨k, -, he⟩ := List.exists_of_findSome?_eq_some hl
      simp only [Option.map_eq_some_iff, Prod.mk.injEq] at he
      obtain ⟨e, he, rfl, rfl⟩ := he
      rw [ entry?] at he
      split at he <;> simp at he

/-- A value has a special method only where a declared class of its lineage has an entry for it. -/
theorem specialMethod?_of_entries
    (h : ∀ i, .user i ∈ st.lineage (st.classOf v) → (st.classInfo i).entries.lookup n = none) :
    st.specialMethod? v n = none :=
  specialMethod?_of_overrides (overrides_of_entries h)

/-- An instance of a built-in class has none of a program's own special methods. -/
theorem specialMethod?_of_builtin {b : Builtin} (h : st.classOf v = .builtin b) (n : String) :
    st.specialMethod? v n = none :=
  specialMethod?_of_overrides (overrides_of_builtin h n)

/-- A value whose class does not take part when its attributes are read. -/
structure ReadsPlainly (st : Store) (v : Value) : Prop where
  getAttribute : st.specialMethod? v "__getattribute__" = none
  getMissing : st.specialMethod? v "__getattr__" = none

theorem readsPlainly_of_builtin {b : Builtin} (h : st.classOf v = .builtin b) : st.ReadsPlainly v :=
  ⟨specialMethod?_of_builtin h _, specialMethod?_of_builtin h _⟩

/-- What stands under a name in the class of a value, or in the class that the value is. -/
def Shows (st : Store) (v : Value) (name : String) (e : Value) : Prop :=
  ∃ k, st.lookup? (st.classOf v) name = some (k, e) ∨ ∃ c, v = .cls c ∧ st.lookup? c name = some (k, e)

/-- **No code comes with an attribute of a value**: no declared class says how its attributes are read, no
property gives it, and nothing that stands for it in a class has a say in what is given. -/
structure ReadsFreely (st : Store) (v : Value) (name : String) : Prop where
  knows : st.Knows v
  getAttribute : st.overrides v "__getattribute__" = false
  getMissing : st.overrides v "__getattr__" = false
  getter : st.getter? v name = none
  shown {e : Value} : st.Shows v name e → st.Knows e ∧ st.overrides e "__get__" = false

/-- No code comes with the question which class a value has: it does not answer for itself, and no class says
by a method what is below it. -/
structure ShowsClass (st : Store) (v : Value) : Prop where
  knows : st.Knows v
  answer {n : String} : n ∈ ["__class__", "__getattribute__"] → st.overrides v n = false
  hook (i : Nat) : (st.classInfo i).entries.lookup "__subclasshook__" = none

section
variable {st' : Store} (h : st.KeepsClasses st')
include h

theorem KeepsClasses.overrides (hv : st.Knows v) : st'.overrides v n = st.overrides v n := by
  unfold Store.overrides
  rw [h.classOf hv, lookup?_congr h.classes]

theorem KeepsClasses.shows {e : Value} (hv : st.Knows v) (hshows : st'.Shows v n e) : st.Shows v n e := by
  unfold Shows at hshows ⊢
  rwa [h.classOf hv, lookup?_congr h.classes] at hshows

/-- No code comes with the attribute where the classes are the same. -/
theorem ReadsFreely.of_keeps (hfree : st.ReadsFreely v n) : st'.ReadsFreely v n where
  knows := h.knows hfree.knows
  getAttribute := (h.overrides hfree.knows).trans hfree.getAttribute
  getMissing := (h.overrides hfree.knows).trans hfree.getMissing
  getter := (h.getter? hfree.knows).trans hfree.getter
  shown hshows := by
    obtain ⟨hknows, hget⟩ := hfree.shown (h.shows hfree.knows hshows)
    exact ⟨h.knows hknows, (h.overrides hknows).trans hget⟩

theorem ShowsClass.of_keeps (hshows : st.ShowsClass v) : st'.ShowsClass v where
  knows := h.knows hshows.knows
  answer hn := (h.overrides hshows.knows).trans (hshows.answer hn)
  hook i := by
    rw [classInfo_congr h.classes]
    exact hshows.hook i

end

theorem ReadsFreely.readsPlainly (h : st.ReadsFreely v n) : st.ReadsPlainly v :=
  ⟨specialMethod?_of_overrides h.getAttribute, specialMethod?_of_overrides h.getMissing⟩

end Store

/-! ## §2  Reading attributes -/

namespace Value

variable {st : Store} {v : Value} {run : Runner}

theorem perform_getAttribute (h : st.ReadsPlainly v) (name : String) :
    (v.getAttribute name).perform run st = (v.readAttribute name).perform run st := by
  unfold getAttribute
  rw [perform_bind_get]
  simp only [h.getAttribute, h.getMissing]

/-- What stands in the class of a value under a name, and neither decides nor wants to be asked, is given where
the value has no attribute of its own. -/
theorem perform_readInstance_beside {name : String} {k : ClassRef} {e : Value}
    (hfound : st.lookup? (st.classOf v) name = some (k, e)) (he : Store.isAuthoritative e = false)
    (hasks : st.specialMethod? e "__get__" = none) :
    (v.readInstance name).perform run st =
      (.ok (((st.ownFields v).lookup name).getD (Store.bind v (st.classOf v) e)), st) := by
  have hfirst : st.asksFirst e = false := by rw [Store.asksFirst, hasks, Option.isSome_none, Bool.false_and]
  have hentry : (v.readEntry (st.classOf v) e).perform run st = (.ok (Store.bind v (st.classOf v) e), st) := by
    rw [readEntry, perform_bind_get, hasks]
    rfl
  unfold readInstance
  rw [perform_bind_get]
  dsimp only
  rw [hfound]
  simp only [he, hfirst, Bool.false_eq_true, if_false]
  cases (st.ownFields v).lookup name with
  | none => exact hentry
  | some x => rfl

/-- What a class holds under a name is given for its instance. -/
theorem perform_readInstance_of_entry {name : String} {k : ClassRef} {e : Value}
    (hfound : st.lookup? (st.classOf v) name = some (k, e)) (he : Store.isAuthoritative e = false)
    (hasks : st.specialMethod? e "__get__" = none) (hown : (st.ownFields v).lookup name = none) :
    (v.readInstance name).perform run st = (.ok (Store.bind v (st.classOf v) e), st) := by
  rw [perform_readInstance_beside hfound he hasks, hown, Option.getD_none]

/-- A failure of a look for an attribute is taken for a no where the attribute is missing. -/
def missingOr (f : Failure) : Outcome Bool := if f.isA .attributeError then .ok false else .error f

/-- Looking for an attribute reads it, and once more where its value has to be looked at. -/
theorem perform_hasMember {mayBeAbsent : Bool} {n : String} :
    (v.hasMember mayBeAbsent n).perform run st =
      match (v.getAttribute n).perform run st with
      | (.ok _, st₁) => (if mayBeAbsent then pure true
          else do return (← v.getAttribute n) != .nothing : Action Bool).perform run st₁
      | (.error f, st₁) => (missingOr f, st₁) := by
  have hthere : (do discard (v.getAttribute n); return true : Action Bool).perform run st =
      match (v.getAttribute n).perform run st with
      | (.ok _, st₁) => (.ok true, st₁)
      | (.error f, st₁) => (.error f, st₁) := by
    change ((v.getAttribute n >>= fun _ => pure ()) >>= fun _ => pure true : Action Bool).perform run st = _
    rw [bind_assoc, perform_bind]
    rcases (v.getAttribute n).perform run st with ⟨f | y, st₁⟩ <;> rfl
  unfold hasMember missingOr
  rw [perform_bind, perform_tryCatch, hthere]
  rcases (v.getAttribute n).perform run st with ⟨f | y, st₁⟩
  · dsimp only
    by_cases hf : f.isA .attributeError = true <;> simp [hf]
  · simp

/-- A value has a member that may be absent if the member can be read from it. -/
theorem perform_hasMember_of_read {n : String} {x : Value} {st' : Store}
    (h : (v.getAttribute n).perform run st = (.ok x, st')) :
    (v.hasMember true n).perform run st = (.ok true, st') := by
  rw [perform_hasMember, h]
  rfl

end Value
end MemberAccess
