import MemberAccess.Proofs.AcceptedValues
import MemberAccess.Proofs.ConvertedValues

/-!
# Values that are kept

A value that fits a type already should come through the conversion for it as it is.  A union sees to that
by looking at the classes of its members before it tries any member, so that an exact member wins over one
that widens.  The look knows the members that have a class of their own.  What stands in a union inside a
member is found only when the member's turn comes, and by then an earlier member may have made something
else of the value: an integer comes out of a float or a bound to integers or texts as a float
(`BoundUnion.integer_is_widened`).

So it is said by position what is kept.  A value fits a type *foremost* if it comes to a class that it is
an instance of by members that are found by the look, or before which nothing adapts the value.  Such
values are kept, and what a conversion gave is kept if nothing adapts it once more
(`Value.fitting_values_are_kept`).

A conversion may test a value for many classes before it comes to the one that counts, and the tests for
protocols run code.  All is said of values for which the tests give answers that stay the same meanwhile
(`Value.Steady`).
-/

namespace MemberAccess

open MemberAccess.Action

/-! ## §1  Tests that go on saying the same -/

/-- In every store that keeps to an invariant, testing a value for a class says what it says in one store,
and leaves a store that keeps to it. -/
def Value.TestsSteadily (v : Value) (run : Runner) (st : Store) (I : Store → Prop) (k : ClassRef) :
    Prop :=
  ∀ st₁, I st₁ → ∃ b st₂, (v.isInstance k).perform run st₁ = (.ok b, st₂) ∧ I st₂ ∧
    (b = true ↔ v.IsOf run st k)

/-- **A value is steady for a type**: while an invariant is kept to, its class is what it was, and so are
the answers of the tests for the classes of the type. -/
structure Value.Steady (v : Value) (run : Runner) (st : Store) (I : Store → Prop) (t : TypeForm) :
    Prop where
  start : I st
  retains {st' : Store} : I st' → st.Retains v st'
  tests {u : TypeForm} {k : ClassRef} : u ∈ t.leaves → u.runtimeClass? = some k →
    st.isUntestable k = false → v.TestsSteadily run st I k

section
variable {run : Runner} {I : Store → Prop} {st st₁ st' : Store} {v : Value} {k : ClassRef}
  {ks : List ClassRef} {t u : TypeForm} {c : Converter}

theorem Store.Retains.names (h : st.Retains v st₁) :
    st₁.names (st₁.classOf v) k = st.names (st.classOf v) k := by
  rw [h.classOf, (Store.SameHierarchy.of_classes h.classes).names]

theorem Store.Retains.testsMembers (h : st.Retains v st₁) : st₁.testsMembers k = st.testsMembers k :=
  (Store.SameHierarchy.of_classes h.classes).testsMembers k

/-- Classes that are tested by ancestry and registration are tested steadily. -/
theorem Value.testsSteadily_of_plain (hretains : ∀ st', I st' → st.Retains v st')
    (hplain : st.testsMembers k = false) (hany : k ≠ .builtin .any) : v.TestsSteadily run st I k := by
  intro st₁ h₁
  have hst₁ := hretains st₁ h₁
  refine ⟨_, st₁, perform_isInstance_eq_names (hst₁.testsMembers.trans hplain) hany, h₁, ?_⟩
  rw [hst₁.names, isOf_iff_names hplain hany]

/-- Values are steady for types whose classes are tested by ancestry and registration. -/
theorem Value.steady_of_plain (hv : st.Knows v) (ht : t.TestedPlainly st) :
    v.Steady run st (st.Retains v) t where
  start := ⟨rfl, rfl, rfl, rfl, hv⟩
  retains := id
  tests := by
    intro u k hu hk _
    obtain ⟨hplain, hany⟩ := ht u hu k hk
    exact testsSteadily_of_plain (fun _ => id) hplain hany

/-- Conversions of a value of a built-in class run none of a program's methods. -/
theorem Value.convertsTamely_of_builtin {run' : Runner} {F : Failure → Prop} {b : Builtin}
    (h : st.classOf v = .builtin b) : v.ConvertsTamely run run' (st.Retains v) F := by
  intro st₁ h₁ n _ id hid
  rw [Store.specialMethod?_of_builtin (h₁.classOf.trans h)] at hid
  cases hid

/-- What is steady for a union is steady for its members. -/
theorem Value.Steady.of_mem {i : Mark} {w : UnionSpelling} {ts : List TypeForm}
    (h : v.Steady run st I t) (htn : t.normalize = .union i w ts) (hu : u ∈ ts) :
    v.Steady run st I u where
  start := h.start
  retains := h.retains
  tests := by
    intro u' k hu' hk
    exact h.tests (TypeForm.mem_leaves_of_member htn hu hu') hk

/-- The classes that the converter of a type tests for are those of its leaves, and that of union
objects. -/
theorem Store.class_of_tested (ho : st.Ordered) (hc : st.converter? [] t = some c) (hk : k ∈ c.tested) :
    k = .builtin .barUnion ∨ ∃ u ∈ t.leaves, u.runtimeClass? = some k ∧ st.isUntestable k = false := by
  induction t using TypeForm.induction_leaves generalizing c with
  | plain t ht =>
    obtain ⟨-, hplain⟩ := plainConverter_of_converter? ht hc
    cases hplain with
    | «instance» hclass htest =>
      obtain rfl := List.mem_singleton.mp hk
      exact .inr ⟨t.normalize, TypeForm.normalize_mem_leaves ht, hclass, htest⟩
    | _ => cases hk
  | union t i w ts htn ih =>
    obtain ⟨cs, e, hcs, rfl⟩ := exists_of_converter?_union htn hc
    rw [Converter.tested, List.mem_append] at hk
    rcases hk with hk | hk
    · obtain ⟨u, hu, hclass⟩ := List.mem_filterMap.mp hk
      cases htu : u.normalize.isUnion with
      | true => exact .inl (TypeForm.exists_bar_of_runtimeClass? htu hclass).1
      | false =>
        have hclass' := TypeForm.runtimeClass?_normalize_of_some hclass
        obtain ⟨c', -, hc'⟩ := (mem_converters? hcs).2 u hu
        obtain ⟨-, hplain⟩ := plainConverter_of_converter? htu hc'
        have hleaf := TypeForm.mem_leaves_of_member htn hu (TypeForm.normalize_mem_leaves htu)
        exact .inr ⟨u.normalize, hleaf, hclass', hplain.isUntestable ho hclass'⟩
    · obtain ⟨c', hc', hk⟩ := Converter.mem_testedBySome.mp hk
      obtain ⟨u, hu, hconverter⟩ := (mem_converters? hcs).1 c' hc'
      rcases ih u hu hconverter hk with hbar | ⟨u', hu', hclass, htest⟩
      · exact .inl hbar
      · exact .inr ⟨u', TypeForm.mem_leaves_of_member htn hu hu', hclass, htest⟩

/-- What is steady for a type is tested steadily for all that the converter of the type tests for. -/
theorem Value.Steady.tested (h : v.Steady run st I t) (ho : st.Ordered)
    (hc : st.converter? [] t = some c) (hk : k ∈ c.tested) : v.TestsSteadily run st I k := by
  rcases Store.class_of_tested ho hc hk with rfl | ⟨u, hu, hclass, htest⟩
  · exact testsSteadily_of_plain (fun _ => h.retains) rfl (by decide)
  · exact h.tests hu hclass htest

/-- Whether a value is an instance of one of several classes is tested steadily, too. -/
theorem Value.perform_isInstanceOfSome_steady (h : ∀ k ∈ ks, v.TestsSteadily run st I k) (h₁ : I st₁) :
    ∃ b st₂, (v.isInstanceOfSome ks).perform run st₁ = (.ok b, st₂) ∧ I st₂ ∧
      (b = true ↔ ∃ k ∈ ks, v.IsOf run st k) := by
  induction ks generalizing st₁ with
  | nil => exact ⟨false, st₁, rfl, h₁, by simp⟩
  | cons k ks ih =>
    obtain ⟨b, st₂, hb, h₂, hiff⟩ := h k (by simp) st₁ h₁
    rw [isInstanceOfSome, perform_bind_ok hb]
    cases b with
    | true => exact ⟨true, st₂, rfl, h₂, by simp [← hiff]⟩
    | false =>
      obtain ⟨b, st₃, hb, h₃, hiff'⟩ := ih (fun k' hk' => h k' (by simp [hk'])) h₂
      refine ⟨b, st₃, hb, h₃, ?_⟩
      simp [hiff', ← hiff]

/-- A test that says the same in another store makes the value an instance there. -/
theorem Value.TestsSteadily.isOf (h : v.TestsSteadily run st I k) (h₁ : I st₁) :
    v.IsOf run st₁ k ↔ v.IsOf run st k := by
  obtain ⟨b, st₂, hb, -, hiff⟩ := h st₁ h₁
  rw [← hiff, IsOf, hb]
  exact ⟨Except.ok.inj, congrArg _⟩

end

/-! ## §2  Conversions that give a value itself -/

namespace Action

section
variable (run : Runner) (I : Store → Prop) (v : Value) (x : Action Value)

/-- In stores that keep to an invariant an action gives a value itself. -/
def Gives : Prop := ∀ st, I st → ∃ st', x.perform run st = (.ok v, st') ∧ I st'

/-- In stores that keep to an invariant an action gives a value itself or refuses it. -/
def GivesOrRefuses : Prop :=
  ∀ st, I st → ∃ st', I st' ∧ (x.perform run st = (.ok v, st') ∨
    ∃ f, f.isA .argumentTypeMismatch = true ∧ x.perform run st = (.error f, st'))

end

variable {run : Runner} {I : Store → Prop} {v : Value} {place e : String}

theorem givesOrRefuses_refuse : GivesOrRefuses run I v (v.refuse place e) :=
  fun st h => ⟨st, h, .inr ⟨_, rfl, rfl⟩⟩

end Action

namespace Converter

variable {run : Runner} {I : Store → Prop} {st : Store} {v : Value} {place e : String} {c : Converter}
  {cs before after : List Converter} {ks : List ClassRef}

/-- Several converters each of which gives a value itself or refuses it together do so, too. -/
theorem givesOrRefuses_applyFirst (h : ∀ c ∈ cs, GivesOrRefuses run I v (c.apply v place)) :
    GivesOrRefuses run I v (applyFirst cs v place e) := by
  induction cs with
  | nil =>
    rw [applyFirst]
    exact givesOrRefuses_refuse
  | cons c cs ih =>
    intro st hst
    rw [applyFirst, perform_tryCatch]
    obtain ⟨st₁, h₁, hgives | ⟨f, hf, hrefuses⟩⟩ := h c (by simp) st hst
    · rw [hgives]
      exact ⟨st₁, h₁, .inl rfl⟩
    · rw [hrefuses]
      simp only [hf, if_true]
      exact ih (fun c' hc' => h c' (by simp [hc'])) st₁ h₁

/-- Of several converters one that gives a value itself is not anticipated by converters that give it
themselves or refuse it. -/
theorem gives_applyFirst (hbefore : ∀ c ∈ before, GivesOrRefuses run I v (c.apply v place))
    (hc : Gives run I v (c.apply v place)) :
    Gives run I v (applyFirst (before ++ c :: after) v place e) := by
  induction before with
  | nil =>
    intro st hst
    obtain ⟨st₁, hgives, h₁⟩ := hc st hst
    rw [List.nil_append, applyFirst, perform_tryCatch, hgives]
    exact ⟨st₁, rfl, h₁⟩
  | cons c' before ih =>
    intro st hst
    rw [List.cons_append, applyFirst, perform_tryCatch]
    obtain ⟨st₁, h₁, hgives | ⟨f, hf, hrefuses⟩⟩ := hbefore c' (by simp) st hst
    · rw [hgives]
      exact ⟨st₁, rfl, h₁⟩
    · rw [hrefuses]
      simp only [hf, if_true]
      exact ih (fun c'' hc'' => hbefore c'' (by simp [hc''])) st₁ h₁

variable (htests : ∀ k ∈ ks, v.TestsSteadily run st I k)
include htests

/-- A union gives an instance of one of its classes itself. -/
theorem gives_union_of_class (hk : ∃ k ∈ ks, v.IsOf run st k) :
    Gives run I v ((union cs ks e).apply v place) := by
  intro st₁ h₁
  obtain ⟨b, st₂, hb, h₂, hiff⟩ := Value.perform_isInstanceOfSome_steady htests h₁
  rw [apply, perform_bind_ok hb, if_pos (hiff.mpr hk)]
  exact ⟨st₂, rfl, h₂⟩

/-- A union gives what a member gives itself, if no earlier member makes anything else of it. -/
theorem gives_union_of_member (hbefore : ∀ c ∈ before, GivesOrRefuses run I v (c.apply v place))
    (hc : Gives run I v (c.apply v place)) :
    Gives run I v ((union (before ++ c :: after) ks e).apply v place) := by
  intro st₁ h₁
  obtain ⟨b, st₂, hb, h₂, -⟩ := Value.perform_isInstanceOfSome_steady htests h₁
  rw [apply, perform_bind_ok hb]
  cases b with
  | true => exact ⟨st₂, rfl, h₂⟩
  | false => exact gives_applyFirst hbefore hc st₂ h₂

/-- A union of members that give a value itself or refuse it does so, too. -/
theorem givesOrRefuses_union (h : ∀ c ∈ cs, GivesOrRefuses run I v (c.apply v place)) :
    GivesOrRefuses run I v ((union cs ks e).apply v place) := by
  intro st₁ h₁
  obtain ⟨b, st₂, hb, h₂, -⟩ := Value.perform_isInstanceOfSome_steady htests h₁
  rw [apply, perform_bind_ok hb]
  cases b with
  | true => exact ⟨st₂, h₂, .inl rfl⟩
  | false => exact givesOrRefuses_applyFirst h st₂ h₂

end Converter

/-! ## §3  What leaves a value as it is -/

/-- A leaf makes something else of a value: a number of a wider class, an integer of what stands for one
as an index, an array of what is no text. -/
inductive Store.Adapts (st : Store) (v : Value) (u : TypeForm) : Prop
  | float : u = .builtin .float → st.isBuiltinInstance v .float = false →
      st.isBuiltinInstance v .realNumber = true → Adapts st v u
  | complex : u = .builtin .complex → st.isBuiltinInstance v .complex = false →
      st.isBuiltinInstance v .number = true → Adapts st v u
  | int : u = .builtin .int → st.isBuiltinInstance v .int = false →
      st.classHas v "__index__" = true → Adapts st v u
  | array : st.isArrayType u = true → st.classOf v ≠ .builtin .arrayValue → v ≠ .nothing →
      st.isBuiltinInstance v .str = false → st.isBuiltinInstance v .bytes = false → Adapts st v u

/-- No leaf of a type makes anything else of a value. -/
def Store.Spares (st : Store) (v : Value) (t : TypeForm) : Prop := ∀ u ∈ t.leaves, ¬ st.Adapts v u

namespace Store

variable {run : Runner} {I : Store → Prop} {st st₁ : Store} {v : Value} {k : ClassRef}
  {t u : TypeForm} {c : Converter} {place : String}

theorem Retains.isBuiltinInstance (h : st.Retains v st₁) {b : Builtin} :
    st₁.isBuiltinInstance v b = st.isBuiltinInstance v b := by
  rw [Store.isBuiltinInstance, Store.isBuiltinInstance, h.classOf, subclassTest_congr h.classes]

theorem Retains.classHas (h : st.Retains v st₁) {n : String} : st₁.classHas v n = st.classHas v n := by
  rw [Store.classHas, Store.classHas, h.classOf, lookup?_congr h.classes]

theorem Spares.of_mem {i : Mark} {w : UnionSpelling} {ts : List TypeForm} (h : st.Spares v t)
    (htn : t.normalize = .union i w ts) (hu : u ∈ ts) : st.Spares v u :=
  fun u' hu' => h u' (TypeForm.mem_leaves_of_member htn hu hu')

/-- **The converter of a leaf that does not adapt a value gives the value itself or refuses it.** -/
theorem PlainConverter.givesOrRefuses (hc : st.PlainConverter u (some c)) (hu : ¬ st.Adapts v u)
    (hretains : ∀ st₁, I st₁ → st.Retains v st₁)
    (htests : ∀ k ∈ c.tested, v.TestsSteadily run st I k) :
    GivesOrRefuses run I v (c.apply v place) := by
  intro st₁ h₁
  have hst₁ := hretains st₁ h₁
  have hkept {x : Action Value} (hx : x.perform run st₁ = (.ok v, st₁)) : ∃ st₂, I st₂ ∧
      (x.perform run st₁ = (.ok v, st₂) ∨
        ∃ f, f.isA .argumentTypeMismatch = true ∧ x.perform run st₁ = (.error f, st₂)) :=
    ⟨st₁, h₁, .inl hx⟩
  cases hc with
  | array harray =>
    rw [Converter.apply, Value.convertArray, perform_bind_get]
    split
    · exact hkept rfl
    case isFalse hclass =>
      split
      · exact givesOrRefuses_refuse st₁ h₁
      case isFalse hother =>
        simp only [Bool.or_eq_true, decide_eq_true_eq, not_or, Bool.not_eq_true] at hother
        rw [hst₁.classOf] at hclass
        rw [hst₁.isBuiltinInstance, hst₁.isBuiltinInstance] at hother
        exact absurd (.array harray hclass hother.1.1 hother.1.2 hother.2) hu
  | absent ht =>
    rw [Converter.apply]
    split
    · exact hkept rfl
    · exact givesOrRefuses_refuse st₁ h₁
  | float ht =>
    rw [Converter.apply, Value.convertFloat, perform_bind_get, hst₁.isBuiltinInstance,
      hst₁.isBuiltinInstance]
    split
    · exact hkept rfl
    case isFalse hno =>
      split
      case isTrue hreal => exact absurd (.float ht (Bool.eq_false_iff.mpr hno) hreal) hu
      · exact givesOrRefuses_refuse st₁ h₁
  | complex ht =>
    rw [Converter.apply, Value.convertComplex, perform_bind_get, hst₁.isBuiltinInstance,
      hst₁.isBuiltinInstance]
    split
    · exact hkept rfl
    case isFalse hno =>
      split
      case isTrue hnumber => exact absurd (.complex ht (Bool.eq_false_iff.mpr hno) hnumber) hu
      · exact givesOrRefuses_refuse st₁ h₁
  | int ht =>
    rw [Converter.apply, Value.convertInt, perform_bind_get, hst₁.isBuiltinInstance, hst₁.classHas]
    split
    · exact hkept rfl
    case isFalse hno =>
      split
      case isTrue hindex => exact absurd (.int ht (Bool.eq_false_iff.mpr hno) hindex) hu
      · exact givesOrRefuses_refuse st₁ h₁
  | «instance» hclass =>
    obtain ⟨b, st₂, hb, h₂, -⟩ := htests _ (List.mem_singleton_self _) st₁ h₁
    rw [Converter.apply, Value.convertInstance, perform_bind_ok hb]
    cases b with
    | true => exact ⟨st₂, h₂, .inl rfl⟩
    | false => exact givesOrRefuses_refuse st₂ h₂

/-- The converter of a type whose leaves do not adapt a value gives the value itself or refuses it. -/
theorem Spares.givesOrRefuses (h : st.Spares v t) (ho : st.Ordered) (hs : v.Steady run st I t)
    (hc : st.converter? [] t = some c) : GivesOrRefuses run I v (c.apply v place) := by
  induction t using TypeForm.induction_leaves generalizing c with
  | plain t ht =>
    obtain ⟨-, hplain⟩ := plainConverter_of_converter? ht hc
    exact hplain.givesOrRefuses (h _ (TypeForm.normalize_mem_leaves ht)) (fun _ => hs.retains)
      (fun _ => hs.tested ho hc)
  | union t i w ts htn ih =>
    obtain ⟨cs, e, hcs, rfl⟩ := exists_of_converter?_union htn hc
    refine Converter.givesOrRefuses_union (fun k hk => hs.tested ho hc (List.mem_append_left _ hk)) ?_
    intro c' hc'
    obtain ⟨u, hu, hconverter⟩ := (mem_converters? hcs).1 c' hc'
    exact ih u hu (h.of_mem htn hu) (hs.of_mem htn hu) hconverter

/-! ## §4  Values that fit foremost -/

/-- The converters of a list of types stand where their types stand. -/
theorem converters?_append {rules : List Rule} {before after : List TypeForm} {cs : List Converter}
    (h : st.converters? rules (before ++ u :: after) = some cs) :
    ∃ cs₁ c cs₂, cs = cs₁ ++ c :: cs₂ ∧ st.converters? rules before = some cs₁ ∧
      st.converter? rules u = some c := by
  induction before generalizing cs with
  | nil =>
    rw [List.nil_append, converters?] at h
    cases hc : st.converter? rules u with
    | none => simp [hc] at h
    | some c =>
      cases hcs : st.converters? rules after with
      | none => simp [hcs] at h
      | some cs₂ =>
        simp only [hc, hcs, Option.some.injEq] at h
        exact ⟨[], c, cs₂, h.symm, by rw [converters?], rfl⟩
  | cons t before ih =>
    rw [List.cons_append, converters?] at h
    cases hc : st.converter? rules t with
    | none => simp [hc] at h
    | some c =>
      cases hcs : st.converters? rules (before ++ u :: after) with
      | none => simp [hcs] at h
      | some cs' =>
        simp only [hc, hcs, Option.some.injEq] at h
        obtain ⟨cs₁, c', cs₂, rfl, hbefore, hu⟩ := ih hcs
        exact ⟨c :: cs₁, c', cs₂, h.symm, by rw [converters?, hc, hbefore], hu⟩

end Store

/-- **A value fits a type foremost**: it fits the type that is no union; or it is an instance of a class
that the look of the union is for; or it fits a member foremost, and no member before that adapts it. -/
inductive Foremost (st : Store) (isOf : ClassRef → Prop) (v : Value) : TypeForm → Prop
  | plain {t : TypeForm} : t.normalize.isUnion = false → FitsAt st isOf v t.normalize →
      Foremost st isOf v t
  | looked {t u : TypeForm} {i : Mark} {w : UnionSpelling} {ts : List TypeForm} {k : ClassRef} :
      t.normalize = .union i w ts → u ∈ ts → u.runtimeClass? = some k → isOf k → Foremost st isOf v t
  | member {t u : TypeForm} {i : Mark} {w : UnionSpelling} {before after : List TypeForm} :
      t.normalize = .union i w (before ++ u :: after) → (∀ t' ∈ before, st.Spares v t') →
      Foremost st isOf v u → Foremost st isOf v t

section
variable {run : Runner} {I : Store → Prop} {st st₁ : Store} {v : Value} {k : ClassRef}
  {t u : TypeForm} {c : Converter} {place : String}

/-- The converter of a type that is no union gives what fits the type itself. -/
theorem Store.PlainConverter.gives (ho : st.Ordered) (hv : v.Ordinary st) (hc : st.PlainConverter u (some c))
    (hany : u.isAny = false) (hretains : ∀ st₁, I st₁ → st.Retains v st₁)
    (htests : ∀ k ∈ c.tested, v.TestsSteadily run st I k) (h : FitsAt st (v.IsOf run st) v u) :
    Gives run I v (c.apply v place) := by
  intro st₁ h₁
  obtain ⟨k, hk, hof⟩ := hc.isOf ho hany (fun h => h ▸ Value.isOf_nothing) h
  rcases hc.instance_or_plain ho hk with rfl | ⟨hplain, hknown⟩
  · obtain ⟨b, st₂, hb, h₂, hiff⟩ := htests _ (List.mem_singleton_self _) st₁ h₁
    rw [Converter.apply, Value.convertInstance, perform_bind_ok hb, if_pos (hiff.mpr hof)]
    exact ⟨st₂, rfl, h₂⟩
  · have hst₁ := hretains st₁ h₁
    have htest : (v.isInstance k).perform run st₁ = (.ok true, st₁) := by
      rw [Value.perform_isInstance_eq_names (hplain st₁) hknown, hst₁.names,
        (Value.isOf_iff_names (hplain st) hknown).mp hof]
    exact ⟨st₁, hc.keeps ho (hst₁.ordered ho) (hst₁.ordinary hv) hk htest, h₁⟩

/-- **What fits a type foremost is given by its converter as it is**, by induction over the way on which
the value is found. -/
theorem Foremost.gives (h : Foremost st (v.IsOf run st) v t) (ho : st.Ordered) (hv : v.Ordinary st)
    (hs : v.Steady run st I t) (hc : st.converter? [] t = some c) :
    Gives run I v (c.apply v place) := by
  induction h generalizing c with
  | plain ht hfits =>
    obtain ⟨hany, hplain⟩ := Store.plainConverter_of_converter? ht hc
    exact hplain.gives ho hv hany (fun _ => hs.retains) (fun _ => hs.tested ho hc) hfits
  | looked htn hu hk hof =>
    obtain ⟨cs, e, hcs, rfl⟩ := Store.exists_of_converter?_union htn hc
    exact Converter.gives_union_of_class (fun k hk => hs.tested ho hc (List.mem_append_left _ hk))
      ⟨_, List.mem_filterMap.mpr ⟨_, hu, hk⟩, hof⟩
  | member htn hbefore _ ih =>
    obtain ⟨cs, e, hcs, rfl⟩ := Store.exists_of_converter?_union htn hc
    obtain ⟨cs₁, c', cs₂, rfl, hcs₁, hconverter⟩ := Store.converters?_append hcs
    refine Converter.gives_union_of_member (fun k hk => hs.tested ho hc (List.mem_append_left _ hk)) ?_ ?_
    · intro c₁ hc₁
      obtain ⟨t', ht', hearlier⟩ := (Store.mem_converters? hcs₁).1 c₁ hc₁
      exact (hbefore t' ht').givesOrRefuses ho (hs.of_mem htn (by simp [ht'])) hearlier
    · exact ih (hs.of_mem htn (List.mem_append_right _ List.mem_cons_self)) hconverter

end

/-! ## §5  What fits, and what was given -/

/-- The members of a type are no unions themselves, and normal once they are normalized. -/
def TypeForm.OneLevel (t : TypeForm) : Prop :=
  ∀ u ∈ t.normalize.members, u.normalize.isUnion = false ∧ u.normalize.normalize = u.normalize

section
variable {run : Runner} {I : Store → Prop} {st st₁ st' : Store} {v w : Value} {k : ClassRef}
  {t u : TypeForm} {c : Converter} {place : String}

/-- In a type of one level the look of a union is for the classes of all members. -/
theorem TypeForm.OneLevel.looked {i : Mark} {s : UnionSpelling} {ts : List TypeForm} (h : t.OneLevel)
    (htn : t.normalize = .union i s ts) (hu : u ∈ ts) :
    u.normalize.isUnion = false ∧ u.normalize.runtimeClass? = u.runtimeClass? := by
  obtain ⟨hplain, hnormal⟩ := h u (by rw [htn]; exact hu)
  exact ⟨hplain, TypeForm.runtimeClass?_normalize hnormal⟩

/-- What fits a type of one level that has a converter fits it foremost: all classes are looked at. -/
theorem Fits.foremost_of_oneLevel (h : Fits st (v.IsOf run st) v t) (ho : st.Ordered)
    (hc : st.converter? [] t = some c) (hone : t.OneLevel) : Foremost st (v.IsOf run st) v t := by
  cases h with
  | plain ht hfits => exact .plain ht hfits
  | member htn hu hfits =>
    obtain ⟨hplain, hclass⟩ := hone.looked htn hu
    cases hfits with
    | member hun =>
      rw [hun] at hplain
      cases hplain
    | plain _ hfits =>
      obtain ⟨cs, e, hcs, rfl⟩ := Store.exists_of_converter?_union htn hc
      obtain ⟨c', -, hc'⟩ := (Store.mem_converters? hcs).2 _ hu
      obtain ⟨hany, hconverter⟩ := Store.plainConverter_of_converter? hplain hc'
      obtain ⟨k, hk, hof⟩ := hconverter.isOf ho hany (fun h => h ▸ Value.isOf_nothing) hfits
      exact .looked htn hu (hclass.symm.trans hk) hof

/-- What fits a member foremost fits the type foremost, if the type spares it. -/
theorem Foremost.of_mem {isOf : ClassRef → Prop} {i : Mark} {s : UnionSpelling} {ts : List TypeForm}
    (h : Foremost st isOf v u) (hspares : st.Spares v t) (htn : t.normalize = .union i s ts)
    (hu : u ∈ ts) : Foremost st isOf v t := by
  obtain ⟨before, after, rfl⟩ := List.append_of_mem hu
  exact .member htn (fun t' ht' => hspares.of_mem htn (by simp [ht'])) h

/-- What fits a type fits it foremost, if the type spares it: the order of the members does not count. -/
theorem Fits.foremost_of_spares {isOf : ClassRef → Prop} (h : Fits st isOf v t)
    (hspares : st.Spares v t) : Foremost st isOf v t := by
  induction h with
  | plain ht hfits => exact .plain ht hfits
  | member htn hu _ ih => exact (ih (hspares.of_mem htn hu)).of_mem hspares htn hu

/-- Steady tests are tame. -/
theorem Value.TestsSteadily.tamely (h : v.TestsSteadily run st I k) :
    v.TestsTamely run run I (fun _ => True) k := by
  intro st₁ h₁
  obtain ⟨b, st₂, hb, h₂, -⟩ := h st₁ h₁
  refine ⟨rfl, ?_, fun _ _ => trivial⟩
  rw [hb]
  exact h₂

/-- What the converter of a type that is no union gives is an instance of the class that it is for, and
goes on being one. -/
theorem Store.PlainConverter.isOf_of_convert (ho : st.Ordered) (hc : st.PlainConverter u (some c))
    (hany : u.isAny = false) (htests : ∀ k ∈ c.tested, v.TestsSteadily run st I k) (h₁ : I st₁)
    (h : (c.apply v place).perform run st₁ = (.ok w, st')) :
    ∃ k, u.runtimeClass? = some k ∧ w.IsOf run st' k := by
  have hfits := fitsAt_of_plainConverter ho hc h
  obtain ⟨k, hk, hseen⟩ := hc.isOf ho hany (fun h => .now (h ▸ Value.isOf_nothing)) hfits
  refine ⟨k, hk, ?_⟩
  rcases hc.instance_or_plain ho hk with rfl | ⟨hplain, -⟩
  · have htest := htests k (List.mem_singleton_self _)
    obtain ⟨b, st₂, hb, h₂, hiff⟩ := htest st₁ h₁
    rw [Converter.apply, Value.convertInstance, perform_bind_ok hb] at h
    cases b with
    | true =>
      cases h
      exact (htest.isOf h₂).mpr (hiff.mp rfl)
    | false => exact absurd h Value.not_perform_refuse
  · cases hseen with
    | now hof => exact hof
    | just hp =>
      rw [isProtocol_of_plain (hplain _)] at hp
      cases hp

/-- **What a conversion gave fits the type foremost**, if the type is of one level or spares it. -/
theorem Foremost.of_convert (ho : st.Ordered) (hs : v.Steady run st I t) (hnew : Store.SparesNew I)
    (hmethods : v.ConvertsTamely run run I fun _ => True) (hc : st.converter? [] t = some c)
    (h₁ : I st₁) (h : (c.apply v place).perform run st₁ = (.ok w, st'))
    (hcond : t.OneLevel ∨ st'.Spares w t) : Foremost st' (w.IsOf run st') w t := by
  induction t using TypeForm.induction_leaves generalizing c st₁ with
  | plain t ht =>
    obtain ⟨hany, hplain⟩ := Store.plainConverter_of_converter? ht hc
    obtain ⟨k, hk, hof⟩ := hplain.isOf_of_convert ho hany (fun _ => hs.tested ho hc) h₁ h
    exact .plain ht (.instance hk hof)
  | union t i s ts htn ih =>
    obtain ⟨cs, e, hcs, rfl⟩ := Store.exists_of_converter?_union htn hc
    have htests : ∀ k ∈ ts.filterMap TypeForm.runtimeClass?, v.TestsSteadily run st I k :=
      fun k hk => hs.tested ho hc (List.mem_append_left _ hk)
    obtain ⟨b, st₂, hb, h₂, hiff⟩ := Value.perform_isInstanceOfSome_steady htests h₁
    rw [Converter.apply, perform_bind_ok hb] at h
    cases b with
    | true =>
      cases h
      obtain ⟨k, hk, hof⟩ := hiff.mp rfl
      obtain ⟨u, hu, hclass⟩ := List.mem_filterMap.mp hk
      exact .looked htn hu hclass (((htests k hk).isOf h₂).mpr hof)
    | false =>
      -- the members before the one that gives the value may run special methods, and keep the invariant
      have hkeeps : ∀ c' ∈ cs, ∀ st₃, I st₃ → I ((c'.apply v place).perform run st₃).2 := by
        intro c' hc' st₃ h₃
        obtain ⟨u, hu, hconverter⟩ := (Store.mem_converters? hcs).1 c' hc'
        exact Converter.keeps_apply hnew hmethods (Converter.isBuiltIn_of_converter? hconverter)
          (fun k hk => ((hs.of_mem htn hu).tested ho hconverter hk).tamely) h₃
      obtain ⟨c', hc', st₃, h₃, hgives⟩ := Converter.exists_of_applyFirst hkeeps h₂ h
      obtain ⟨u, hu, hconverter⟩ := (Store.mem_converters? hcs).1 c' hc'
      have hs' := hs.of_mem htn hu
      rcases hcond with hone | hspares
      · obtain ⟨huu, hclass⟩ := hone.looked htn hu
        obtain ⟨hany, hplain⟩ := Store.plainConverter_of_converter? huu hconverter
        obtain ⟨k, hk, hof⟩ :=
          hplain.isOf_of_convert ho hany (fun _ => hs'.tested ho hconverter) h₃ hgives
        exact .looked htn hu (hclass.symm.trans hk) hof
      · exact (ih u hu hs' hconverter h₃ hgives (.inr (hspares.of_mem htn hu))).of_mem hspares htn hu

/-! ## §6  Kept values -/

/-- What fits a type foremost, where the type has a converter, comes out of the coercion as it is. -/
theorem Value.coerce_of_foremost (ho : st.Ordered) (hv : v.Ordinary st) (hs : v.Steady run st I t)
    (h : ∀ c, st.converter? [] t = some c → Foremost st (v.IsOf run st) v t) :
    ∃ st', (v.coerce [] t place).perform run st = (.ok v, st') ∧ I st' := by
  unfold coerce
  rw [perform_bind_get]
  cases hc : st.converter? [] t with
  | none => exact ⟨st, rfl, hs.start⟩
  | some c => exact (h c hc).gives ho hv hs hc st hs.start

end

namespace BoundUnion

/-- A class whose objects stand for five as an index, and one of them. -/
def counting : Store :=
  { Store.empty with
    classes := #[
      { (default : ClassInfo) with
        name := "Count"
        qualifiedName := "Count"
        bases := [.builtin .object]
        lineage := [.user 0, .builtin .object]
        entries := [("__index__", .routine (.user 0))]
        hasFields := true }]
    functions := #[
      { (default : Function) with
        name := "__index__"
        qualifiedName := "Count.__index__"
        parameters := [⟨"self", .positional, none, none⟩]
        body := .statements [.result (.constant (.int 5))] }]
    objects := #[⟨.user 0, .plain, [], []⟩] }

/-- The bound first, and floats after it. -/
def boundOrFloat : TypeForm := .union 0 .subscript [.bounded "V" wholeOrText, .builtin .float]

theorem testedPlainly_boundOrFloat : boundOrFloat.TestedPlainly .empty := by
  intro u hu k hk
  rw [TypeForm.leaves_of_union rfl, List.mem_flatMap] at hu
  obtain ⟨t, ht, hu⟩ := hu
  have hplain : u = .builtin .int ∨ u = .builtin .str ∨ u = .builtin .float := by
    rcases List.mem_cons.mp ht with rfl | ht
    · rw [leaves_bound] at hu
      simpa [or_assoc] using Or.inl hu
    · obtain rfl := List.mem_singleton.mp ht
      rw [TypeForm.leaves_cls] at hu
      exact .inr (.inr (List.mem_singleton.mp hu))
  rcases hplain with rfl | rfl | rfl <;> cases hk <;> exact ⟨rfl, by decide⟩

/-- The integer is found in the bound, which nothing comes before. -/
theorem foremost_boundOrFloat :
    Foremost .empty ((Value.int 3).IsOf runner .empty) (.int 3) boundOrFloat := by
  have hbound : Foremost .empty ((Value.int 3).IsOf runner .empty) (.int 3) (.bounded "V" wholeOrText) :=
    .looked rfl List.mem_cons_self rfl rfl
  refine @Foremost.member _ _ _ _ _ 0 .subscript [] [.builtin .float] rfl ?_ hbound
  intro t ht
  cases ht

end BoundUnion
end MemberAccess
