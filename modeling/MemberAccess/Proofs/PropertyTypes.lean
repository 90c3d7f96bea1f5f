import MemberAccess.Proofs.FoundMembers
import MemberAccess.Proofs.KnownAnnotations

/-!
# What the values of a property are

A property says twice what its values are: its getter in the annotation of its result, its setter in the
annotation of the parameter that takes the assigned value.  The getter counts, and the setter where the
getter says nothing.

Which parameter of the setter counts is found among the annotations, by their order, and not among the
parameters: it is the last one that is annotated.  So a property goes by its values where nothing behind the
parameter for the value is annotated and that parameter is, or nothing is
(`value_type_of_property`); where a parameter behind the value is annotated, its type becomes the type of the
values (`Parcels.unit_decides`).
-/

namespace MemberAccess

open MemberAccess.Action

/-! ## §1  The parameter for the value -/

/-- The parameter that takes the argument of a place in a call without keywords. -/
def takingParameter? : List Parameter → Nat → Option Parameter
  | [], _ => none
  | p :: ps, i =>
      match p.kind, i with
      | .positional, 0 | .positionalOnly, 0 => some p
      | .positional, i + 1 | .positionalOnly, i + 1 => takingParameter? ps i
      | .variadic, _ => some p
      | .keywordOnly, i | .keywords, i => takingParameter? ps i

/-- The parameter of a setter that takes the assigned value: the second argument, behind the receiver. -/
def Function.valueParameter? (f : Function) : Option Parameter := takingParameter? f.parameters 1

/-- The last parameter that is annotated. -/
def Function.lastAnnotated? (f : Function) : Option Parameter :=
  (f.parameters.filter (·.type.isSome)).getLast?

/-- No two parameters share a name, and none has the name that is kept for the result. -/
def Function.WellNamed (f : Function) : Prop :=
  (f.parameters.map (·.name)).Nodup ∧ Hints.resultName ∉ f.parameters.map (·.name)

instance (f : Function) : Decidable f.WellNamed := inferInstanceAs (Decidable (_ ∧ _))

variable {run : Runner} {st st' : Store} {f : Function} {p : Parameter}
  {hints : List (String × TypeForm)}

theorem mem_of_takingParameter? : ∀ {ps : List Parameter} {i : Nat}, takingParameter? ps i = some p → p ∈ ps
  | q :: ps, i, h => by
    unfold takingParameter? at h
    split at h
    case h_3 | h_4 => exact .tail _ (mem_of_takingParameter? h)
    case h_6 | h_7 => exact .tail _ (mem_of_takingParameter? h)
    all_goals cases h; exact .head _

/-- A positional parameter takes the first argument and leaves the rest to the parameters behind it. -/
theorem exists_of_bindParameters_positional {q : Parameter} {ps : List Parameter} {v : Value}
    {vs : List Value} {bound : List (String × Value)} (hq : q.isPositional = true)
    (h : (bindParameters (q :: ps) (v :: vs)).perform run st = (.ok bound, st')) :
    ∃ rest, bound = (q.name, v) :: rest ∧ (bindParameters ps vs).perform run st = (.ok rest, st') := by
  unfold bindParameters at h
  have hkind : q.kind = .positional ∨ q.kind = .positionalOnly := by simpa [Parameter.isPositional] using hq
  rcases hkind with hkind | hkind <;>
  · rw [hkind] at h
    obtain ⟨rest, st₁, hrest, hbound⟩ := exists_of_perform_bind h
    cases hbound
    exact ⟨rest, rfl, hrest⟩

/-- **The parameter for a place is bound to the argument of the place** in every call that fits the
parameters, unless it takes all further arguments together. -/
theorem bound_of_bindParameters {ps : List Parameter} {vs : List Value} {bound : List (String × Value)}
    {i : Nat} {v : Value} (h : (bindParameters ps vs).perform run st = (.ok bound, st'))
    (hv : vs[i]? = some v) :
    ∃ p w, takingParameter? ps i = some p ∧ (p.name, w) ∈ bound ∧ (p.isPositional = true → w = v) := by
  induction ps generalizing vs i st bound with
  | nil =>
    cases vs with
    | nil => cases hv
    | cons => cases h
  | cons q ps ih =>
    by_cases hq : q.isPositional = true
    · have hkind : q.kind = .positional ∨ q.kind = .positionalOnly := by
        simpa [Parameter.isPositional] using hq
      cases vs with
      | nil => cases hv
      | cons u vs =>
        obtain ⟨rest, rfl, hrest⟩ := exists_of_bindParameters_positional hq h
        cases i with
        | zero =>
          cases hv
          refine ⟨q, _, ?_, .head _, fun _ => rfl⟩
          rcases hkind with hkind | hkind <;> simp [takingParameter?, hkind]
        | succ i =>
          obtain ⟨p, w, hp, hmem, hw⟩ := ih hrest hv
          refine ⟨p, w, ?_, .tail _ hmem, hw⟩
          rcases hkind with hkind | hkind <;> simp [takingParameter?, hkind, hp]
    · unfold bindParameters at h
      unfold takingParameter?
      split at h
      case h_1 hkind | h_2 hkind => exact absurd (by simp [Parameter.isPositional, hkind]) hq
      case h_3 hkind =>
        obtain ⟨tuple, st₁, htuple, h⟩ := exists_of_perform_bind h
        obtain ⟨rest, st₂, hrest, h⟩ := exists_of_perform_bind h
        cases h
        refine ⟨q, tuple, by rw [hkind], .head _, ?_⟩
        simp [Parameter.isPositional, hkind]
      case h_4 hkind =>
        split at h
        case h_2 => cases h
        case h_1 =>
          obtain ⟨rest, st₂, hrest, h⟩ := exists_of_perform_bind h
          cases h
          obtain ⟨p, w, hp, hmem, hw⟩ := ih hrest hv
          exact ⟨p, w, by rw [hkind]; exact hp, .tail _ hmem, hw⟩
      case h_5 hkind =>
        obtain ⟨dict, st₁, hdict, h⟩ := exists_of_perform_bind h
        obtain ⟨rest, st₂, hrest, h⟩ := exists_of_perform_bind h
        cases h
        obtain ⟨p, w, hp, hmem, hw⟩ := ih hrest hv
        exact ⟨p, w, by rw [hkind]; exact hp, .tail _ hmem, hw⟩

/-! ## §2  The names of annotations -/

namespace Function

/-- The names of the parameters that are annotated, in order. -/
def annotatedNames (f : Function) : List String := (f.parameters.filter (·.type.isSome)).map (·.name)

theorem map_fst_written :
    (Hints.written f).map (·.1) = f.annotatedNames ++ (f.result.map fun _ => Hints.resultName).toList := by
  unfold Hints.written annotatedNames
  rw [List.map_append, List.map_filterMap]
  congr 1
  · induction f.parameters with
    | nil => rfl
    | cons p ps ih =>
      cases hp : p.type with
      | none =>
        rw [List.filterMap_cons_none (by rw [hp]; rfl), List.filter_cons_of_neg (by rw [hp]; decide), ih]
      | some t =>
        rw [List.filterMap_cons_some (by rw [hp]; rfl), List.filter_cons_of_pos (by rw [hp]; rfl), ih]
        rfl
  · cases f.result <;> rfl

theorem mem_annotatedNames {n : String} (h : n ∈ f.annotatedNames) : n ∈ f.parameters.map (·.name) :=
  List.map_subset _ (List.filter_subset_self _) h

theorem WellNamed.nodup_written (h : f.WellNamed) : ((Hints.written f).map (·.1)).Nodup := by
  have hnames : f.annotatedNames.Nodup := h.1.sublist (List.filter_sublist.map _)
  rw [map_fst_written]
  refine List.nodup_append.mpr ⟨hnames, by cases f.result <;> simp, ?_⟩
  rintro n hn m hm rfl
  cases hresult : f.result with
  | none => simp [hresult] at hm
  | some t =>
    rw [hresult] at hm
    obtain rfl : n = Hints.resultName := by simpa using hm
    exact h.2 (mem_annotatedNames hn)

end Function

namespace Hints

/-- The normal form of what is known under a name; where nothing is known anything goes. -/
def typeUnder (hints : List (String × TypeForm)) (name : String) : TypeForm :=
  ((hints.lookup name).getD (.builtin .any)).normalize

/-- The type that known annotations give to a parameter, if there is one. -/
def typeOf (hints : List (String × TypeForm)) : Option Parameter → TypeForm
  | some p => typeUnder hints p.name
  | none => .builtin .any

variable (hnamed : f.WellNamed) (hkeys : hints.map (·.1) = (written f).map (·.1))
include hnamed hkeys

/-- Without the result the annotated parameters are left. -/
theorem map_fst_parameters :
    (hints.filter fun h => h.1 != resultName).map (·.1) = f.annotatedNames := by
  have hfilter : (hints.filter fun h => h.1 != resultName).map (·.1) =
      (hints.map (·.1)).filter (· != resultName) := by rw [List.filter_map]; rfl
  rw [hfilter, hkeys, Function.map_fst_written, List.filter_append]
  have hresult : ((f.result.map fun _ => resultName).toList).filter (· != resultName) = [] := by
    cases f.result <;> simp
  rw [hresult, List.append_nil, List.filter_eq_self]
  intro n hn
  exact bne_iff_ne.mpr fun h => hnamed.2 (h ▸ Function.mem_annotatedNames hn)

/-- A parameter that is not annotated is known nothing of. -/
theorem typeOf_of_unannotated (h : f.lastAnnotated? = none) {p : Parameter} (hp : p ∈ f.parameters) :
    typeUnder hints p.name = .builtin .any := by
  have hnone : hints.lookup p.name = none := by
    rw [List.lookup_eq_none_iff]
    intro e he
    rw [bne_iff_ne]
    intro heq
    have hmem : e.1 ∈ (written f).map (·.1) := hkeys ▸ List.mem_map_of_mem he
    rw [Function.map_fst_written, Function.annotatedNames, List.getLast?_eq_none_iff.mp h] at hmem
    have hname : e.1 = resultName := by
      cases hresult : f.result with
      | none => simp [hresult] at hmem
      | some t => simpa [hresult] using hmem
    exact hnamed.2 (hname ▸ heq ▸ List.mem_map_of_mem hp)
  rw [typeUnder, hnone]
  rfl

/-- **What a setter says of its values is what it says of its last annotated parameter.** -/
theorem setterType_eq : (Member.setterType hints).getD (.builtin .any) = typeOf hints f.lastAnnotated? := by
  have hnames := map_fst_parameters hnamed hkeys
  unfold Member.setterType
  cases hlast : f.lastAnnotated? with
  | none =>
    rw [Function.annotatedNames, List.getLast?_eq_none_iff.mp hlast, List.map_nil, List.map_eq_nil_iff] at hnames
    rw [hnames]
    rfl
  | some p =>
    obtain ⟨ps, hps⟩ := List.getLast?_eq_some_iff.mp hlast
    rw [Function.annotatedNames, hps, List.map_append] at hnames
    obtain ⟨before, last, hsplit, -, hone⟩ := List.map_eq_append_iff.mp hnames
    obtain ⟨e, rfl, hename⟩ := List.map_eq_singleton_iff.mp hone
    have hmem : e ∈ hints := by
      have : e ∈ hints.filter fun h => h.1 != resultName := by simp [hsplit]
      exact List.mem_of_mem_filter this
    have hlookup : hints.lookup p.name = some e.2 := by
      rw [← show e.1 = p.name from hename]
      exact lookup_of_mem (hkeys ▸ hnamed.nodup_written) hmem
    rw [hsplit, List.getLast?_append, typeOf, typeUnder, hlookup]
    rfl

end Hints

/-! ## §3  The type of a property -/

namespace Member

variable {c : ClassRef} {d : MemberDescriptor} {name : String}

/-- What the getter of a property says of its values: nothing without a getter, or where the annotation of
its result says nothing. -/
def GetterSays (run : Runner) (st : Store) (q : Property) (read : TypeForm) (st' : Store) : Prop :=
  match q.getter with
  | none => read = .builtin .any ∧ st' = st
  | some g => ∃ hints, (Hints.known (st.function g)).perform run st = (.ok hints, st') ∧
      read = Hints.typeUnder hints Hints.resultName

/-- A setter speaks of the value if the last annotated parameter is the one for the value. -/
def SpeaksOfValue (f : Function) : Prop := ∀ p, f.lastAnnotated? = some p → f.valueParameter? = some p

/-- The type of a property is what the getter says, or else what the known annotations of the setter say. -/
theorem exists_getterSays {q : Property} {t : TypeForm}
    (h : (propertyType q).perform run st = (.ok t, st')) :
    ∃ read st₁, GetterSays run st q read st₁ ∧
      (read ≠ .builtin .any → t = read) ∧
      (read = .builtin .any → q.setter = none → t = read) ∧
      (read = .builtin .any → ∀ s, q.setter = some s →
        ∃ hints, (Hints.known (st.function s)).perform run st₁ = (.ok hints, st') ∧
          t = (setterType hints).getD read) := by
  unfold propertyType at h
  rw [perform_bind_get] at h
  extract_lets rest at h
  have hrest : ∀ {read st₁}, (rest read).perform run st₁ = (.ok t, st') →
      (read ≠ .builtin .any → t = read) ∧ (read = .builtin .any → q.setter = none → t = read) ∧
      (read = .builtin .any → ∀ s, q.setter = some s →
        ∃ hints, (Hints.known (st.function s)).perform run st₁ = (.ok hints, st') ∧
          t = (setterType hints).getD read) := by
    intro read st₁ h
    unfold rest at h
    by_cases hany : read = .builtin .any
    · rw [if_pos hany] at h
      cases hs : q.setter with
      | none =>
        rw [hs] at h
        cases h
        exact ⟨fun _ => rfl, fun _ _ => rfl, nofun⟩
      | some s =>
        rw [hs] at h
        obtain ⟨hints, st₂, hknown, h⟩ := exists_of_perform_bind h
        cases h
        refine ⟨fun hne => absurd hany hne, nofun, ?_⟩
        rintro - s' hs'
        cases hs'
        exact ⟨hints, hknown, rfl⟩
    · rw [if_neg hany] at h
      cases h
      exact ⟨fun _ => rfl, fun h => absurd h hany, fun h => absurd h hany⟩
  cases hg : q.getter with
  | none =>
    rw [hg] at h
    exact ⟨.builtin .any, st, by rw [GetterSays, hg]; exact ⟨rfl, rfl⟩, hrest h⟩
  | some g =>
    rw [hg] at h
    obtain ⟨hints, st₁, hknown, h⟩ := exists_of_perform_bind h
    exact ⟨_, st₁, by rw [GetterSays, hg]; exact ⟨hints, hknown, rfl⟩, hrest h⟩

end Member
end MemberAccess

namespace MemberAccess.Parcels

open MemberAccess.Action Member

/-- Parcels, with a setter whose value is annotated, and one that takes a value of any type and an integer
besides, which has a default. -/
def world : Store :=
  { Store.empty with
    classes := #[
      { (default : ClassInfo) with
        name := "Parcel"
        qualifiedName := "Parcel"
        bases := [.builtin .object]
        lineage := [.user 0, .builtin .object]
        entries := [("size", .atom (.property 0)), ("worth", .atom (.property 1))]
        hasFields := true }]
    functions := #[
      { (default : Function) with
        name := "size"
        qualifiedName := "Parcel.size"
        home := "world"
        parameters := [⟨"self", .positional, none, none⟩,
          ⟨"value", .positional, some (.builtin .int), none⟩] },
      { (default : Function) with
        name := "worth"
        qualifiedName := "Parcel.worth"
        home := "world"
        parameters := [⟨"self", .positional, none, none⟩, ⟨"value", .positional, none, none⟩,
          ⟨"unit", .positional, some (.builtin .int), some (.int 1)⟩] }]
    properties := #[⟨none, some 0⟩, ⟨none, some 1⟩] }

/-- What the runner of a world is for a call. -/
abbrev runner : Runner := runFunction callDepth

/-- A property of parcels is described by the type that its functions give it. -/
theorem resolve_own {name : String} {p : Nat} {t : TypeForm}
    (hfind : find? world (.user 0) name = some (.user 0, name, .atom (.property p)))
    (htype : (propertyType (property world p)).perform runner world = (.ok t, world)) :
    (resolve (.property name) (.cls (.user 0))).perform runner world =
      (.ok (propertyDescriptor world (.user 0) name p t), world) := by
  have hfound : (find (.user 0) name).perform runner world =
      (.ok (.user 0, name, .atom (.property p)), world) := by
    unfold find
    rw [perform_bind_get, hfind]
    rfl
  exact (perform_bind_ok hfound).trans (perform_bind_ok htype)

end MemberAccess.Parcels
