import MemberAccess.Proofs.EqualShapes
import MemberAccess.Proofs.FoundMembers
import MemberAccess.Proofs.GrowingStores

/-!
# Members that are described alike

Two descriptors describe a member alike when they agree on everything that a caller sees of it, types up to
equality, whether a field can be set left aside.  Descriptors of the same member do, at whatever times and by
way of whatever classes they were found (`Describes.alike`).

What is found at two times need not be the same object: looking an annotation up makes a new one wherever a
part of it was looked up.  It need not even mean the same, since the text of an annotation can run code.  So
that it does mean the same is asked for (`AnnotationsAgree`), of the functions that are declared and of the
classes; at one time it always does.  What it means for routines and for properties follows.
-/

namespace MemberAccess

open MemberAccess.Action

/-! ## §1  Annotations at two times -/

/-- Named annotations that say the same, one by one. -/
def SameHints (hs hs' : List (String × TypeForm)) : Prop :=
  List.Forall₂ (fun h h' => h.1 = h'.1 ∧ h.2.equal h'.2 = true) hs hs'

namespace SameHints

variable {hs hs' : List (String × TypeForm)}

theorem refl (hs : List (String × TypeForm)) : SameHints hs hs :=
  List.forall₂_same.mpr fun h _ => ⟨rfl, TypeForm.equal_refl h.2⟩

/-- A name has annotations that say the same, or none. -/
theorem lookup (h : SameHints hs hs') (n : String) :
    (hs.lookup n = none ∧ hs'.lookup n = none) ∨
      ∃ t t', hs.lookup n = some t ∧ hs'.lookup n = some t' ∧ t.equal t' = true := by
  induction h with
  | nil => exact .inl ⟨rfl, rfl⟩
  | @cons p p' hs hs' hp _ ih =>
    obtain ⟨m, t⟩ := p
    obtain ⟨m', t'⟩ := p'
    obtain ⟨rfl, ht⟩ : m = m' ∧ t.equal t' = true := hp
    rw [List.lookup_cons, List.lookup_cons]
    cases n == m with
    | true => exact .inr ⟨t, t', rfl, rfl, ht⟩
    | false => exact ih

end SameHints

namespace Member

/-- What a setter takes is what the last of its parameters is said to be. -/
theorem setterType_cons (h : String × TypeForm) (hs : List (String × TypeForm)) :
    setterType (h :: hs) =
      (setterType hs).or (if h.1 != Hints.resultName then some h.2.normalize else none) := by
  unfold setterType
  rw [List.filter_cons]
  split
  · rw [List.getLast?_cons]
    cases (hs.filter fun h => h.1 != Hints.resultName).getLast? <;> rfl
  · cases (hs.filter fun h => h.1 != Hints.resultName).getLast? <;> rfl

/-- Setters of which the same is known take the same. -/
theorem setterType_congr {hs hs' : List (String × TypeForm)} (h : SameHints hs hs') {t t' : TypeForm}
    (ht : t.equal t' = true) : ((setterType hs).getD t).equal ((setterType hs').getD t') = true := by
  induction h generalizing t t' with
  | nil => exact ht
  | @cons p p' _ _ hp _ ih =>
    obtain ⟨hname, htype⟩ := hp
    rw [setterType_cons, setterType_cons, Option.getD_or, Option.getD_or, ← hname]
    refine ih ?_
    cases p.1 != Hints.resultName with
    | true => exact TypeForm.normalize_congr htype
    | false => exact ht

/-- What is known of the function of one side of a property; nothing where the side is missing. -/
def knownOfSide (st : Store) (f : Option Nat) : Action (List (String × TypeForm)) :=
  match f with
  | some g => Hints.known (st.function g)
  | none => return []

/-- What a getter is known to give. -/
def getterType (hs : List (String × TypeForm)) : TypeForm :=
  ((hs.lookup Hints.resultName).getD (.builtin .any)).normalize

theorem getterType_congr {hs hs' : List (String × TypeForm)} (h : SameHints hs hs') :
    (getterType hs).equal (getterType hs') = true := by
  refine TypeForm.normalize_congr ?_
  rcases h.lookup Hints.resultName with ⟨hn, hn'⟩ | ⟨t, t', ht, ht', hequal⟩
  · rw [hn, hn']
    exact TypeForm.equal_refl _
  · rw [ht, ht']
    exact hequal

/-- The type of a property goes by what is known of its two sides. -/
theorem propertyType_eq (q : Property) :
    propertyType q = get >>= fun st => knownOfSide st q.getter >>= fun hs =>
      if getterType hs = .builtin .any then
        knownOfSide st q.setter >>= fun ws => pure ((setterType ws).getD (getterType hs))
      else pure (getterType hs) := by
  have hany : (TypeForm.builtin .any).normalize = .builtin .any := rfl
  unfold propertyType knownOfSide
  refine bind_congr fun st => ?_
  cases q.getter <;> cases q.setter <;> simp [hany, getterType, setterType]

/-- **Times at which the annotations mean the same**, two by two: the declared functions and the classes are
said the same about, and having looked a function up leads to such times again. -/
structure Meaning (run : Runner) (st : Store) (R : Store → Store → Prop) : Prop where
  ofFunction {g : Nat} {s s' t t' : Store} {hs hs' : List (String × TypeForm)} :
    R s s' → (Hints.known (st.function g)).perform run s = (.ok hs, t) →
    (Hints.known (st.function g)).perform run s' = (.ok hs', t') → SameHints hs hs' ∧ R t t'
  ofClass {k : ClassRef} {s s' t t' : Store} {hs hs' : List (String × TypeForm)} :
    R s s' → (Hints.knownOfClass k).perform run s = (.ok hs, t) →
    (Hints.knownOfClass k).perform run s' = (.ok hs', t') → SameHints hs hs'

theorem Meaning.ofSide {run : Runner} {st s s' t t' : Store} {R : Store → Store → Prop}
    (hR : Meaning run st R) {f : Option Nat} {hs hs' : List (String × TypeForm)} (hss : R s s')
    (h : (knownOfSide st f).perform run s = (.ok hs, t))
    (h' : (knownOfSide st f).perform run s' = (.ok hs', t')) : SameHints hs hs' ∧ R t t' := by
  cases f with
  | some g => exact hR.ofFunction hss h h'
  | none =>
    cases h
    cases h'
    exact ⟨.refl _, hss⟩

/-- **The annotations mean the same at two times** at which the same classes, functions and properties are
declared. -/
structure AnnotationsAgree (run : Runner) (st st' : Store) : Prop where
  classes : st'.classes = st.classes
  functions : st'.functions = st.functions
  properties : st'.properties = st.properties
  meaning : ∃ R, Meaning run st R ∧ R st st'

namespace AnnotationsAgree

variable {run : Runner} {st st' s s' : Store}

/-- At one time the annotations mean what they mean. -/
theorem refl (run : Runner) (st : Store) : AnnotationsAgree run st st where
  classes := rfl
  functions := rfl
  properties := rfl
  meaning := by
    refine ⟨(· = ·), ⟨?_, ?_⟩, rfl⟩
    · rintro g s _ t t' hs hs' rfl h h'
      rw [h] at h'
      cases h'
      exact ⟨.refl _, rfl⟩
    · rintro k s _ t t' hs hs' rfl h h'
      rw [h] at h'
      cases h'
      exact .refl _

variable (ha : AnnotationsAgree run st st')
include ha

theorem knownOfSide_eq : knownOfSide st' = knownOfSide st := by
  funext f
  unfold knownOfSide Store.function
  rw [ha.functions]

theorem ofClass {k : ClassRef} {hs hs' : List (String × TypeForm)}
    (h : (Hints.knownOfClass k).perform run st = (.ok hs, s))
    (h' : (Hints.knownOfClass k).perform run st' = (.ok hs', s')) : SameHints hs hs' := by
  obtain ⟨R, hR, hst⟩ := ha.meaning
  exact hR.ofClass hst h h'

/-- The same is known of a routine. -/
theorem routine {r : Routine} {hs hs' : List (String × TypeForm)}
    (h : (Hints.knownOfRoutine r).perform run st = (.ok hs, s))
    (h' : (Hints.knownOfRoutine r).perform run st' = (.ok hs', s')) : SameHints hs hs' := by
  cases r with
  | builtin o n =>
    cases h
    cases h'
    exact .refl _
  | user g =>
    obtain ⟨R, hR, hst⟩ := ha.meaning
    unfold Hints.knownOfRoutine at h h'
    rw [perform_bind_get] at h h'
    rw [ha.functions] at h'
    exact (hR.ofFunction hst h h').1

/-- **The value of a property is of the same type**: its getter says it, and where that says nothing its
setter does, at the times to which looking the getter up led. -/
theorem property {q : Property} {t t' : TypeForm} (h : (propertyType q).perform run st = (.ok t, s))
    (h' : (propertyType q).perform run st' = (.ok t', s')) : t.equal t' = true := by
  obtain ⟨R, hR, hst⟩ := ha.meaning
  rw [propertyType_eq, perform_bind_get] at h h'
  obtain ⟨hs, s₁, hhs, h⟩ := exists_of_perform_bind h
  obtain ⟨hs', s₁', hhs', h'⟩ := exists_of_perform_bind h'
  rw [ha.knownOfSide_eq] at hhs' h'
  obtain ⟨hread, hR₁⟩ := hR.ofSide hst hhs hhs'
  have hequal := getterType_congr hread
  have hany : getterType hs = .builtin .any ↔ getterType hs' = .builtin .any := by
    have hcls := TypeForm.beq_cls_congr hequal (.builtin .any)
    rw [Bool.eq_iff_iff, beq_iff_eq, beq_iff_eq] at hcls
    exact hcls
  by_cases hsilent : getterType hs = .builtin .any
  · rw [if_pos hsilent] at h
    rw [if_pos (hany.mp hsilent)] at h'
    obtain ⟨ws, s₂, hws, h⟩ := exists_of_perform_bind h
    obtain ⟨ws', s₂', hws', h'⟩ := exists_of_perform_bind h'
    cases h
    cases h'
    exact setterType_congr (hR.ofSide hR₁ hws hws').1 hequal
  · rw [if_neg hsilent] at h
    rw [if_neg (mt hany.mpr hsilent)] at h'
    cases h
    cases h'
    exact hequal

end AnnotationsAgree

section
variable {st st' : Store} (h : st'.classes = st.classes)
include h

theorem find?_congr : find? st' = find? st := by
  cases st
  cases st'
  cases h
  rfl

theorem fieldHint_congr : fieldHint st' = fieldHint st := by
  cases st
  cases st'
  cases h
  rfl

theorem isFrozen_congr : isFrozen st' = isFrozen st := by
  cases st
  cases st'
  cases h
  rfl

end

section
variable {st st' : Store} (hf : st'.functions = st.functions)
include hf

theorem signature?_congr : st'.signature? = st.signature? := by
  cases st
  cases st'
  cases hf
  rfl

theorem classSignature?_congr (hc : st'.classes = st.classes) :
    st'.classSignature? = st.classSignature? := by
  cases st
  cases st'
  cases hf
  cases hc
  rfl

theorem propertyDescriptor_congr (hp : st'.properties = st.properties) :
    propertyDescriptor st' = propertyDescriptor st := by
  cases st
  cases st'
  cases hf
  cases hp
  rfl

end

/-- The constructor of a class goes by the annotations of one routine, or by none. -/
theorem constructorHints_eq {st st' : Store} (c : ClassRef) (h : st'.classes = st.classes) (run : Runner) :
    (∃ r, (constructorHints c).perform run st = (Hints.knownOfRoutine r).perform run st ∧
      (constructorHints c).perform run st' = (Hints.knownOfRoutine r).perform run st') ∨
    (constructorHints c).perform run st = (.ok [], st) ∧
      (constructorHints c).perform run st' = (.ok [], st') := by
  unfold constructorHints
  rw [perform_bind_get, perform_bind_get, Store.lookup?_congr h]
  dsimp only
  split
  · split
    · rename_i e _
      cases Store.makerOf? e with
      | none => exact .inr ⟨rfl, rfl⟩
      | some m => exact .inl ⟨m.1, rfl, rfl⟩
    · exact .inr ⟨rfl, rfl⟩
  · split
    · rename_i e _
      cases Store.makerOf? e with
      | none => exact .inr ⟨rfl, rfl⟩
      | some m => exact .inl ⟨m.1, rfl, rfl⟩
    · exact .inr ⟨rfl, rfl⟩
  · rename_i e _ _
    cases Store.makerOf? e with
    | none => exact .inr ⟨rfl, rfl⟩
    | some m => exact .inl ⟨m.1, rfl, rfl⟩

end Member

/-! ## §2  Descriptors that say the same -/

/-- **Two descriptors describe a member alike**: they agree on everything but whether the member can be set,
on types up to equality. -/
structure MemberDescriptor.Alike (d e : MemberDescriptor) : Prop where
  kind : d.kind = e.kind
  declaring : d.declaring = e.declaring
  name : d.name = e.name
  parameters : List.Forall₂ (fun t u => t.equal u = true) d.parameters e.parameters
  valueType : d.valueType.equal e.valueType = true
  isStatic : d.isStatic = e.isStatic
  target : d.target = e.target
  readable : d.readable = e.readable
  getterPublic : d.getterPublic = e.getterPublic
  setterPublic : d.setterPublic = e.setterPublic

namespace Member

variable {run : Runner} {st st₁ st₂ : Store} {c c₁ c₂ k : ClassRef} {d d₁ d₂ : MemberDescriptor}
  {hs hs' : List (String × TypeForm)}

/-- What is known of a parameter by name says the same. -/
theorem parameterType_congr (h : SameHints hs hs') (p : ShownParameter) :
    (parameterType hs p).equal (parameterType hs' p) = true := by
  unfold parameterType
  rcases h.lookup p.name with ⟨hn, hn'⟩ | ⟨t, t', ht, ht', hequal⟩
  · rw [hn, hn']
    exact TypeForm.equal_refl _
  · rw [ht, ht']
    exact TypeForm.normalize_congr hequal

theorem parameterTypes_congr (h : SameHints hs hs') (ps : List ShownParameter) :
    List.Forall₂ (fun t u => t.equal u = true) (ps.map (parameterType hs)) (ps.map (parameterType hs')) :=
  List.forall₂_map_left_iff.mpr (List.forall₂_map_right_iff.mpr
    (List.forall₂_same.mpr fun p _ => parameterType_congr h p))

theorem constructorDescriptor_alike (c : ClassRef) (s : Signature) (h : SameHints hs hs') :
    (constructorDescriptor c s hs).Alike (constructorDescriptor c s hs') where
  kind := rfl
  declaring := rfl
  name := rfl
  parameters := parameterTypes_congr h _
  valueType := TypeForm.equal_refl _
  isStatic := rfl
  target := rfl
  readable := rfl
  getterPublic := rfl
  setterPublic := rfl

theorem methodDescriptor_alike (k : ClassRef) (kept : String) (m : MethodEntry) (s : Signature)
    (h : SameHints hs hs') :
    (methodDescriptor k kept m s hs).Alike (methodDescriptor k kept m s hs') where
  kind := rfl
  declaring := rfl
  name := rfl
  parameters := parameterTypes_congr h _
  valueType := by
    unfold methodDescriptor
    rcases h.lookup Hints.resultName with ⟨hn, hn'⟩ | ⟨t, t', ht, ht', hequal⟩
    · simp only [hn, hn']
      exact TypeForm.equal_refl _
    · simp only [ht, ht']
      exact TypeForm.normalize_congr hequal
  isStatic := rfl
  target := rfl
  readable := rfl
  getterPublic := rfl
  setterPublic := rfl

theorem propertyDescriptor_alike (k : ClassRef) (kept : String) (p : Nat) {t t' : TypeForm}
    (h : t.equal t' = true) :
    (propertyDescriptor st k kept p t).Alike (propertyDescriptor st k kept p t') where
  kind := rfl
  declaring := rfl
  name := rfl
  parameters := .nil
  valueType := h
  isStatic := rfl
  target := rfl
  readable := rfl
  getterPublic := rfl
  setterPublic := rfl

/-- Equal annotations make a field one of the class, or one of its instances. -/
theorem isStaticField_congr {t t' : TypeForm} (h : t.equal t' = true) :
    isStaticField t = isStaticField t' := by
  cases TypeForm.equals_of_equal h <;> rfl

theorem fieldHint_alike (name : String) (h : SameHints hs hs') :
    (fieldHint st k name hs).equal (fieldHint st k name hs') = true := by
  unfold fieldHint
  rcases h.lookup name with ⟨hn, hn'⟩ | ⟨t, t', ht, ht', hequal⟩
  · rw [hn, hn']
    exact TypeForm.equal_refl _
  · rw [ht, ht']
    exact hequal

theorem fieldDescriptor_alike (k : ClassRef) (name : String) {t t' : TypeForm} (w w' : Bool)
    (h : t.equal t' = true) :
    (fieldDescriptor k name t w).Alike (fieldDescriptor k name t' w') where
  kind := rfl
  declaring := rfl
  name := rfl
  parameters := .nil
  valueType := TypeForm.normalize_congr h
  isStatic := isStaticField_congr h
  target := rfl
  readable := rfl
  getterPublic := rfl
  setterPublic := rfl

/-- The entry that is found is the one that its class keeps under that name. -/
theorem entry?_of_find? {name kept : String} {k : ClassRef} {e : Value}
    (h : find? st c name = some (k, kept, e)) : st.entry? k kept = some e := by
  unfold find? at h
  obtain ⟨k', -, h⟩ := List.exists_of_findSome?_eq_some h
  obtain ⟨n, -, h⟩ := List.exists_of_findSome?_eq_some h
  obtain ⟨e', he, h⟩ := Option.map_eq_some_iff.mp h
  cases h
  exact he

/-- Two ways to one name of one class lead to one entry. -/
theorem entry_unique {name₁ name₂ kept : String} {e₁ e₂ : Value}
    (h₁ : find? st c₁ name₁ = some (k, kept, e₁)) (h₂ : find? st c₂ name₂ = some (k, kept, e₂)) :
    e₁ = e₂ :=
  Option.some.inj ((entry?_of_find? h₁).symm.trans (entry?_of_find? h₂))

/-- A field can be set unless the records of the class that was asked about are frozen. -/
theorem Describes.writable_of_field (h : Describes run st c d) (hkind : d.kind = .field) :
    d.writable = !isFrozen st c := by
  cases h with
  | field => rfl
  | constructor | method | property => cases hkind

/-- What is found speaks of a class. -/
theorem Describes.exists_declaring (h : Describes run st c d) : ∃ k, d.declaring = .cls k := by
  cases h <;> exact ⟨_, rfl⟩

/-- **What is said of the same member is the same**, whenever and by way of whatever class it was found, as long
as the annotations mean the same; but whether a field can be set need not be. -/
theorem Describes.alike (ha : AnnotationsAgree run st₁ st₂) (h₁ : Describes run st₁ c₁ d₁)
    (h₂ : Describes run st₂ c₂ d₂) (hkind : d₁.kind = d₂.kind) (hdeclaring : d₁.declaring = d₂.declaring)
    (hname : d₁.name = d₂.name) : d₁.Alike d₂ ∧ (d₁.kind = .field ∨ d₁.writable = d₂.writable) := by
  cases h₁ with
  | constructor hs₁ hh₁ =>
    cases h₂ with
    | constructor hs₂ hh₂ =>
      cases hdeclaring
      rw [classSignature?_congr ha.functions ha.classes, hs₁] at hs₂
      cases hs₂
      refine ⟨constructorDescriptor_alike _ _ ?_, .inr rfl⟩
      rcases constructorHints_eq c₁ ha.classes run with ⟨r, hr₁, hr₂⟩ | ⟨hn₁, hn₂⟩
      · rw [hr₁] at hh₁
        rw [hr₂] at hh₂
        exact ha.routine hh₁ hh₂
      · rw [hn₁] at hh₁
        rw [hn₂] at hh₂
        cases hh₁
        cases hh₂
        exact .refl _
    | method | property | field => cases hkind
  | method hf₁ hm₁ hs₁ hh₁ =>
    cases h₂ with
    | method hf₂ hm₂ hs₂ hh₂ =>
      cases hdeclaring
      cases hname
      rw [find?_congr ha.classes] at hf₂
      obtain rfl := entry_unique hf₁ hf₂
      rw [hm₁] at hm₂
      cases hm₂
      rw [signature?_congr ha.functions, hs₁] at hs₂
      cases hs₂
      exact ⟨methodDescriptor_alike _ _ _ _ (ha.routine hh₁ hh₂), .inr rfl⟩
    | constructor | property | field => cases hkind
  | property hf₁ ht₁ =>
    cases h₂ with
    | property hf₂ ht₂ =>
      cases hdeclaring
      cases hname
      rw [find?_congr ha.classes] at hf₂
      cases entry_unique hf₁ hf₂
      have hsame : Member.property st₂ = Member.property st₁ := by
        unfold Member.property
        rw [ha.properties]
      rw [hsame] at ht₂
      rw [propertyDescriptor_congr ha.functions ha.properties]
      exact ⟨propertyDescriptor_alike _ _ _ (ha.property ht₁ ht₂), .inr rfl⟩
    | constructor | method | field => cases hkind
  | field hk₁ hh₁ =>
    cases h₂ with
    | field hk₂ hh₂ =>
      cases hdeclaring
      cases hname
      rw [fieldHint_congr ha.classes]
      exact ⟨fieldDescriptor_alike _ _ _ _ (fieldHint_alike _ (ha.ofClass hh₁ hh₂)), .inl rfl⟩
    | constructor | method | property => cases hkind

/-- At one time the types are the same too. -/
theorem Describes.agree (h₁ : Describes run st c₁ d₁) (h₂ : Describes run st c₂ d₂)
    (hkind : d₁.kind = d₂.kind) (hdeclaring : d₁.declaring = d₂.declaring) (hname : d₁.name = d₂.name) :
    d₁ = { d₂ with writable := d₁.writable } := by
  cases h₁ with
  | constructor hs₁ hh₁ =>
    cases h₂ with
    | constructor hs₂ hh₂ =>
      cases hdeclaring
      rw [hs₁] at hs₂
      rw [hh₁] at hh₂
      cases hs₂
      cases hh₂
      rfl
    | method | property | field => cases hkind
  | method hf₁ hm₁ hs₁ hh₁ =>
    cases h₂ with
    | method hf₂ hm₂ hs₂ hh₂ =>
      cases hdeclaring
      cases hname
      obtain rfl := entry_unique hf₁ hf₂
      rw [hm₁] at hm₂
      cases hm₂
      rw [hs₁] at hs₂
      rw [hh₁] at hh₂
      cases hs₂
      cases hh₂
      rfl
    | constructor | property | field => cases hkind
  | property hf₁ ht₁ =>
    cases h₂ with
    | property hf₂ ht₂ =>
      cases hdeclaring
      cases hname
      cases entry_unique hf₁ hf₂
      rw [ht₁] at ht₂
      cases ht₂
      rfl
    | constructor | method | field => cases hkind
  | field hk₁ hh₁ =>
    cases h₂ with
    | field hk₂ hh₂ =>
      cases hdeclaring
      cases hname
      rw [hh₁] at hh₂
      cases hh₂
      rfl
    | constructor | method | property => cases hkind

end Member

/-! ## §3  Building for them -/

namespace MemberDescriptor.Alike

variable {d e : MemberDescriptor} {s : Shape} {st : Store} {rules : List Rule}
  {answer : TypeForm → TypeForm → Bool}

variable (h : d.Alike e)
include h

/-- They make equal keys. -/
theorem keys (s : Shape) : (CacheKey.mk d s).equal ⟨e, s⟩ = true :=
  CacheKey.equal_iff.mpr ⟨MemberDescriptor.sameMember_iff.mpr
    ⟨h.kind, by rw [h.declaring]; exact TypeForm.equal_refl _, h.name⟩, Shape.equal_refl s⟩

theorem comparable (hc : Comparable d s) : Comparable e s where
  declaring := by rw [← h.declaring]; exact hc.declaring
  valueType := TypeForm.comparable_of_equal h.valueType hc.valueType
  base t ht := by rw [← h.declaring]; exact hc.base t ht
  pinned t ht := by rw [← TypeForm.standsForUnion_congr h.valueType]; exact hc.pinned t ht

theorem pinnedFits_agree (ha : Answers answer) (hc : Comparable d s) :
    AgreeBy (· = ·) (Contract.pinnedFits answer st d s) (Contract.pinnedFits answer st e s) := by
  unfold Contract.pinnedFits
  cases hr : s.result? with
  | none => exact .ok rfl
  | some t =>
    obtain ⟨ht, hu⟩ := hc.pinned t hr
    dsimp only
    rw [assigns_congr ha (TypeForm.equal_refl t) h.valueType ht hc.valueType hu,
      assigns_congr ha h.valueType (TypeForm.equal_refl t) hc.valueType ht hu.symm, h.kind]
    split <;>
    · refine .bind (.refl _) ?_
      rintro b _ rfl
      cases b with
      | true => exact .ok rfl
      | false => exact .error rfl

/-- **Descriptors that are alike keep the contract together with a shape**, or break it in the same kind of
way, unless it is a setter that one of them lacks. -/
theorem holds_agree (ha : Answers answer) (hc : Comparable d s)
    (hw : s.family ≠ .set ∨ d.writable = e.writable) :
    AgreeBy (· = ·) (Contract.holds answer st d s) (Contract.holds answer st e s) := by
  have htext : d.text st = e.text st := by
    unfold MemberDescriptor.text MemberDescriptor.qualifiedName
    rw [h.kind, h.declaring, h.name]
  have hfamily : Contract.checkFamily st d s = Contract.checkFamily st e s := by
    simp only [Contract.checkFamily, h.kind, htext]
  have hcount : d.arity = e.arity := h.parameters.length_eq
  have harity : Contract.checkArity st d s = Contract.checkArity st e s := by
    simp only [Contract.checkArity, hcount, htext]
  have hproducing : d.isValueProducing = e.isValueProducing := by
    simp only [MemberDescriptor.isValueProducing, bne, TypeForm.builtin,
      TypeForm.beq_cls_congr h.valueType]
  have hany : (d.valueType.normalize != .builtin .any) = (e.valueType.normalize != .builtin .any) := by
    simp only [bne, TypeForm.builtin, TypeForm.beq_cls_congr (TypeForm.normalize_congr h.valueType)]
  have hvalue : AgreeBy (· = ·) (Contract.checkValueKind st d s) (Contract.checkValueKind st e s) := by
    unfold Contract.checkValueKind
    rw [hproducing, hany]
    split
    · exact .error rfl
    · split
      · exact .error rfl
      · exact .ok rfl
  have hstatic : Contract.checkStatic d s = Contract.checkStatic e s := by
    simp only [Contract.checkStatic, h.kind, h.isStatic, h.name]
  have hreceiver : Contract.receiverFits answer st d s = Contract.receiverFits answer st e s := by
    simp only [Contract.receiverFits, h.declaring]
  have hside : Contract.checkSide st d s = Contract.checkSide st e s := by
    have hhas : ∀ side, s.family.side? = some side → d.has side = e.has side := by
      intro side hs
      cases side with
      | get => exact h.readable
      | set =>
        refine hw.resolve_left (not_not.mpr ?_)
        cases hf : s.family <;> rw [hf] at hs <;> first | rfl | cases hs
    have hpublic : ∀ side, d.isPublic side = e.isPublic side := by
      rintro (_ | _)
      · exact h.getterPublic
      · exact h.setterPublic
    unfold Contract.checkSide
    cases hs : s.family.side? with
    | none => rfl
    | some side => simp only [hhas side hs, hpublic, h.name, h.kind, h.declaring]
  unfold Contract.holds
  rw [hfamily, harity, hstatic, hreceiver, hside]
  exact .bind (.refl _) fun _ _ _ => .bind (.refl _) fun _ _ _ => .bind hvalue fun _ _ _ =>
    .bind (.refl _) fun _ _ _ => .bind (.refl _) fun _ _ _ =>
    .bind (h.pinnedFits_agree ha hc) fun _ _ _ => .refl _

/-- The texts of their accessors have the same defects. -/
theorem defect?_eq :
    (Plan.ofComparable st rules d s).defect? st = (Plan.ofComparable st rules e s).defect? st := by
  obtain ⟨hkind, hdeclaring, hname, -, -, hstatic, htarget, -, -, -⟩ := h
  obtain ⟨kind, declaring, name, parameters, valueType, isStatic, target, r, w, g, p⟩ := d
  obtain ⟨kind', declaring', name', parameters', valueType', isStatic', target', r', w', g', p'⟩ := e
  dsimp only at hkind hdeclaring hname hstatic htarget
  subst hkind hdeclaring hname hstatic htarget
  rfl

end MemberDescriptor.Alike

namespace Engine

variable {σ : Session} {d e : MemberDescriptor} {s : Shape}

/-- Building succeeds for what passes the checks and whose text has no defect. -/
theorem exists_verdict_iff (hc : Comparable d s) :
    (∃ a, verdictIn σ d s = .ok a) ↔
      Contract.holds (σ.memo.answer σ.store) σ.store d s = .ok () ∧
        (Plan.ofComparable σ.store σ.rules d s).defect? σ.store = none := by
  have hverdict : verdictIn σ d s = (Contract.holds (σ.memo.answer σ.store) σ.store d s >>= fun _ =>
      Accessor.ofPlan σ.store σ.settings.listsSource (Plan.ofComparable σ.store σ.rules d s)) := by
    unfold verdictIn verdict made
    rw [Plan.synthesize_ok hc]
    rfl
  rw [hverdict]
  cases Contract.holds (σ.memo.answer σ.store) σ.store d s with
  | error f =>
    constructor
    · rintro ⟨a, ha⟩
      cases ha
    · rintro ⟨hno, -⟩
      cases hno
  | ok u =>
    constructor
    · rintro ⟨a, ha⟩
      exact ⟨rfl, Accessor.defect?_of_ofPlan ha⟩
    · rintro ⟨-, hdefect⟩
      obtain ⟨a, ha, -⟩ := Accessor.ofPlan_of_defect? σ.settings.listsSource hdefect
      exact ⟨a, ha⟩

/-- **Building succeeds alike for descriptors that are alike**, unless it is for a setter that one of them
lacks. -/
theorem exists_verdict_congr (h : d.Alike e) (hc : Comparable d s)
    (hw : s.family ≠ .set ∨ d.writable = e.writable) :
    (∃ a, verdictIn σ d s = .ok a) ↔ ∃ a, verdictIn σ e s = .ok a := by
  rw [exists_verdict_iff hc, exists_verdict_iff (h.comparable hc), h.defect?_eq]
  have hholds : AgreeBy (· = ·) (Contract.holds (σ.memo.answer σ.store) σ.store d s)
      (Contract.holds (σ.memo.answer σ.store) σ.store e s) :=
    h.holds_agree (Memo.answers_answer _ _) hc hw
  generalize Contract.holds (σ.memo.answer σ.store) σ.store d s = x at hholds
  generalize Contract.holds (σ.memo.answer σ.store) σ.store e s = y at hholds
  cases hholds with
  | ok hu =>
    subst hu
    exact Iff.rfl
  | error =>
    constructor <;>
    · rintro ⟨hno, -⟩
      cases hno

end Engine
end MemberAccess
