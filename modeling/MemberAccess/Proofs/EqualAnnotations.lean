import Mathlib.Data.List.Forall2
import Mathlib.Tactic.Tauto
import MemberAccess.TypeForm.Normal
import MemberAccess.TypeForm.Printing

/-!
# Equality of annotations is an equivalence

`TypeForm.equal` is what caches, memos and shared forms look their keys up by, and it walks unions as
sets.  This file shows that it is an equivalence, for which the lists inside an annotation are read as
what they are compared as: member by member (`equalList`), or each way as sets (`within`, `someEqual`).

Everything asked of an annotation before it is used as a key respects equality: whether it has a hash,
whether it stands for a union, what its normal form is.  What does *not* respect it is the order of the
members of a union, and the object itself.
-/

namespace MemberAccess

/-! ## §1  Lists inside annotations -/

namespace TypeForm

theorem equalList_iff {as bs : List TypeForm} :
    equalList as bs = true ↔ List.Forall₂ (fun a b => equal a b = true) as bs := by
  induction as generalizing bs with
  | nil => cases bs <;> simp [equalList]
  | cons a as ih => cases bs <;> simp [equalList, ih]

/-- A relation that may be read backwards on the members of a list may be so on the list. -/
theorem forall₂_symm {r : TypeForm → TypeForm → Prop} {as bs : List TypeForm}
    (ih : ∀ a ∈ as, ∀ b, r a b → r b a) (h : List.Forall₂ r as bs) : List.Forall₂ r bs as := by
  induction h with
  | nil => exact .nil
  | cons hab _ ihs =>
      exact .cons (ih _ (by simp) _ hab) (ihs fun a ha => ih a (by simp [ha]))

/-- A relation that chains on the members of a list chains on the list. -/
theorem forall₂_trans {r : TypeForm → TypeForm → Prop} {as bs cs : List TypeForm}
    (ih : ∀ a ∈ as, ∀ b c, r a b → r b c → r a c) (h : List.Forall₂ r as bs)
    (h' : List.Forall₂ r bs cs) : List.Forall₂ r as cs := by
  induction h generalizing cs with
  | nil => exact h'
  | cons hab _ ihs =>
      cases h' with
      | cons hbc hs => exact .cons (ih _ (by simp) _ _ hab hbc) (ihs (fun a ha => ih a (by simp [ha])) hs)

theorem within_iff {as bs : List TypeForm} :
    within as bs = true ↔ ∀ a ∈ as, ∃ b ∈ bs, equal a b = true := by
  induction as with
  | nil => simp [within]
  | cons a as ih => simp [within, ih]

theorem someEqual_iff {as : List TypeForm} {b : TypeForm} :
    someEqual as b = true ↔ ∃ a ∈ as, equal a b = true := by
  induction as with
  | nil => simp [someEqual]
  | cons a as ih => simp [someEqual, ih]

/-- Unions are compared as sets: each member of one has an equal among the other's. -/
theorem equal_union_iff {i j : Mark} {s t : UnionSpelling} {xs ys : List TypeForm} :
    equal (.union i s xs) (.union j t ys) = true ↔
      (∀ x ∈ xs, ∃ y ∈ ys, equal x y = true) ∧ ∀ y ∈ ys, ∃ x ∈ xs, equal x y = true := by
  simp only [equal, Bool.and_eq_true, List.all_eq_true, within_iff, someEqual_iff]

end TypeForm

/-! ## §2  Foreign objects -/

namespace Foreign

theorem equal_refl (a : Foreign) : a.equal a = true := by simp [equal]

theorem equal_symm {a b : Foreign} (h : a.equal b = true) : b.equal a = true := by
  simp only [equal, Bool.and_eq_true, beq_iff_eq] at h ⊢
  exact ⟨h.1.symm, h.2.symm⟩

theorem equal_trans {a b c : Foreign} (h : a.equal b = true) (h' : b.equal c = true) :
    a.equal c = true := by
  simp only [equal, Bool.and_eq_true, beq_iff_eq] at h h' ⊢
  exact ⟨h.1.trans h'.1, h.2.trans h'.2⟩

theorem hashable_congr {a b : Foreign} (h : a.equal b = true) : a.hashable = b.hashable := by
  simp only [equal, Bool.and_eq_true, beq_iff_eq] at h
  exact h.2

theorem sameLiteral_refl (a : Foreign) : a.sameLiteral a = true := by simp [sameLiteral]

theorem sameLiteral_trans {a b c : Foreign} (h : a.sameLiteral b = true)
    (h' : b.sameLiteral c = true) : a.sameLiteral c = true := by
  simp only [sameLiteral, Bool.and_eq_true, beq_iff_eq] at h h' ⊢
  exact ⟨h.1.trans h'.1, h.2.trans h'.2⟩

/-- Literals are compared as sets, too. -/
theorem equal_literal_iff {i j : Mark} {vs ws : List Foreign} :
    TypeForm.equal (.literal i vs) (.literal j ws) = true ↔
      (∀ v ∈ vs, ∃ w ∈ ws, v.sameLiteral w = true) ∧ ∀ w ∈ ws, ∃ v ∈ vs, w.sameLiteral v = true := by
  simp only [TypeForm.equal, Bool.and_eq_true, List.all_eq_true, List.any_eq_true]

end Foreign

/-! ## §3  The equivalence -/

namespace TypeForm

/-- The annotations that stand directly inside an annotation, as far as equality looks into them. -/
def parts : TypeForm → List TypeForm
  | .union _ _ ts | .alias _ _ _ ts => ts
  | .callable _ ps r => r :: ps
  | .annotated _ i _ | .classVar _ i | .final _ i => [i]
  | _ => []

theorem sizeOf_lt_of_mem_parts {t u : TypeForm} (h : u ∈ t.parts) : sizeOf u < sizeOf t := by
  cases t <;> simp only [parts, List.not_mem_nil, List.mem_cons, or_false] at h
  case union =>
    have := List.sizeOf_lt_of_mem h
    rw [union.sizeOf_spec]
    omega
  case «alias» =>
    have := List.sizeOf_lt_of_mem h
    rw [alias.sizeOf_spec]
    omega
  case callable =>
    rw [callable.sizeOf_spec]
    rcases h with rfl | h
    · omega
    · have := List.sizeOf_lt_of_mem h
      omega
  all_goals
    subst h
    simp only [annotated.sizeOf_spec, classVar.sizeOf_spec, final.sizeOf_spec]
    omega

/-- Induction over what stands directly inside an annotation. -/
theorem induction_parts {P : TypeForm → Prop} (step : ∀ t, (∀ u ∈ t.parts, P u) → P t)
    (t : TypeForm) : P t :=
  step t fun u _ => induction_parts step u
termination_by sizeOf t
decreasing_by exact sizeOf_lt_of_mem_parts ‹_›

/-- **What equal annotations have in common**, kind by kind: what stands inside them is equal in turn. -/
inductive Equals : TypeForm → TypeForm → Prop
  | none : Equals .none .none
  | cls (c : ClassRef) : Equals (.cls c) (.cls c)
  | bare (f : BareForm) : Equals (.bare f) (.bare f)
  | ellipsis : Equals .ellipsis .ellipsis
  | text (s : String) : Equals (.text s) (.text s)
  | forward (s : String) : Equals (.forward s) (.forward s)
  | «variable» (n : String) : Equals (.variable n) (.variable n)
  | bounded (n : String) (a : TypeForm) : Equals (.bounded n a) (.bounded n a)
  | choice (n : String) (a : TypeForm) : Equals (.choice n a) (.choice n a)
  | union {i j : Mark} {s t : UnionSpelling} {xs ys : List TypeForm} :
      (∀ x ∈ xs, ∃ y ∈ ys, equal x y = true) → (∀ y ∈ ys, ∃ x ∈ xs, equal x y = true) →
      Equals (.union i s xs) (.union j t ys)
  | «alias» {i j : Mark} {s : AliasSpelling} {o : ClassRef} {xs ys : List TypeForm} :
      List.Forall₂ (fun x y => equal x y = true) xs ys → Equals (.alias i s o xs) (.alias j s o ys)
  | callable {i j : Mark} {xs ys : List TypeForm} {r q : TypeForm} :
      List.Forall₂ (fun x y => equal x y = true) xs ys → equal r q = true →
      Equals (.callable i xs r) (.callable j ys q)
  | annotated {i j : Mark} {a b : TypeForm} {ns : List String} :
      equal a b = true → Equals (.annotated i a ns) (.annotated j b ns)
  | classVar {i j : Mark} {a b : TypeForm} : equal a b = true → Equals (.classVar i a) (.classVar j b)
  | final {i j : Mark} {a b : TypeForm} : equal a b = true → Equals (.final i a) (.final j b)
  | literal {i j : Mark} {vs ws : List Foreign} :
      (∀ v ∈ vs, ∃ w ∈ ws, v.sameLiteral w = true) → (∀ w ∈ ws, ∃ v ∈ vs, w.sameLiteral v = true) →
      Equals (.literal i vs) (.literal j ws)
  | foreign {f g : Foreign} : f.equal g = true → Equals (.foreign f) (.foreign g)

/-- Annotations of two kinds are never equal, and those of one kind are compared part by part. -/
theorem equals_of_equal {a b : TypeForm} (h : a.equal b = true) : Equals a b := by
  unfold equal at h
  -- the cases are the kinds in their order, and a last one for two kinds
  split at h
  case h_1 | h_4 => constructor
  case h_2 | h_3 | h_5 | h_6 | h_7 =>
    obtain rfl := eq_of_beq h
    constructor
  case h_8 | h_9 =>
    rw [Bool.and_eq_true, beq_iff_eq, same_iff] at h
    obtain ⟨rfl, rfl⟩ := h
    constructor
  case h_10 =>
    simp only [Bool.and_eq_true, List.all_eq_true, within_iff, someEqual_iff] at h
    exact .union h.1 h.2
  case h_11 =>
    simp only [Bool.and_eq_true, beq_iff_eq, equalList_iff] at h
    obtain ⟨⟨rfl, rfl⟩, h⟩ := h
    exact .alias h
  case h_12 =>
    rw [Bool.and_eq_true, equalList_iff] at h
    exact .callable h.1 h.2
  case h_13 =>
    rw [Bool.and_eq_true, beq_iff_eq] at h
    obtain ⟨h, rfl⟩ := h
    exact .annotated h
  case h_14 => exact .classVar h
  case h_15 => exact .final h
  case h_16 =>
    simp only [Bool.and_eq_true, List.all_eq_true, List.any_eq_true] at h
    exact .literal h.1 h.2
  case h_17 => exact .foreign h
  case h_18 => cases h

theorem Equals.equal {a b : TypeForm} (h : Equals a b) : a.equal b = true := by
  cases h with
  | union h h' => exact equal_union_iff.mpr ⟨h, h'⟩
  | literal h h' => exact Foreign.equal_literal_iff.mpr ⟨h, h'⟩
  | «alias» h => simpa [TypeForm.equal, equalList_iff] using h
  | callable h h' => simpa [TypeForm.equal, equalList_iff] using ⟨h, h'⟩
  | annotated h => simpa [TypeForm.equal] using h
  | classVar h | final h | foreign h => simpa [TypeForm.equal] using h
  | _ => simp [TypeForm.equal, same_self]

/-- **Every annotation equals itself.** -/
theorem equal_refl (a : TypeForm) : a.equal a = true := by
  induction a using induction_parts with
  | _ a ih =>
    refine Equals.equal ?_
    cases a with
    | union i s xs => exact .union (fun x hx => ⟨x, hx, ih x hx⟩) fun x hx => ⟨x, hx, ih x hx⟩
    | literal i vs =>
      exact .literal (fun v hv => ⟨v, hv, v.sameLiteral_refl⟩) fun v hv => ⟨v, hv, v.sameLiteral_refl⟩
    | «alias» i s o xs => exact .alias (List.forall₂_same.mpr ih)
    | callable i xs r =>
      exact .callable (List.forall₂_same.mpr fun x hx => ih x (by simp [parts, hx])) (ih r (by simp [parts]))
    | annotated i t ns => exact .annotated (ih t (by simp [parts]))
    | classVar i t => exact .classVar (ih t (by simp [parts]))
    | final i t => exact .final (ih t (by simp [parts]))
    | foreign f => exact .foreign f.equal_refl
    | _ => constructor

/-- **Equality may be read both ways.** -/
theorem equal_symm {a b : TypeForm} (h : a.equal b = true) : b.equal a = true := by
  induction a using induction_parts generalizing b with
  | _ a ih =>
    refine Equals.equal ?_
    replace h := equals_of_equal h
    cases h with
    | union h h' =>
      refine .union (fun y hy => ?_) fun x hx => ?_
      · obtain ⟨x, hx, hxy⟩ := h' y hy
        exact ⟨x, hx, ih x hx hxy⟩
      · obtain ⟨y, hy, hxy⟩ := h x hx
        exact ⟨y, hy, ih x hx hxy⟩
    | «alias» h => exact .alias (forall₂_symm (fun x hx _ hxy => ih x hx hxy) h)
    | callable h h' =>
      refine .callable (forall₂_symm (fun x hx _ hxy => ?_) h) (ih _ (by simp [parts]) h')
      exact ih x (by simp [parts, hx]) hxy
    | annotated h => exact .annotated (ih _ (by simp [parts]) h)
    | classVar h => exact .classVar (ih _ (by simp [parts]) h)
    | final h => exact .final (ih _ (by simp [parts]) h)
    | literal h h' => exact .literal h' h
    | foreign h => exact .foreign (Foreign.equal_symm h)
    | _ => constructor

/-- **Equality chains.** -/
theorem equal_trans {a b c : TypeForm} (h : a.equal b = true) (h' : b.equal c = true) :
    a.equal c = true := by
  induction a using induction_parts generalizing b c with
  | _ a ih =>
    refine Equals.equal ?_
    replace h := equals_of_equal h
    cases h with
    | union hxs hys =>
      -- the members of the union in the middle lead from the first to the third, and back
      replace h' := equals_of_equal h'
      cases h' with
      | union hys' hzs =>
        refine .union (fun x hx => ?_) fun z hz => ?_
        · obtain ⟨y, hy, hxy⟩ := hxs x hx
          obtain ⟨z, hz, hyz⟩ := hys' y hy
          exact ⟨z, hz, ih x hx hxy hyz⟩
        · obtain ⟨y, hy, hyz⟩ := hzs z hz
          obtain ⟨x, hx, hxy⟩ := hys y hy
          exact ⟨x, hx, ih x hx hxy hyz⟩
    | «alias» h =>
      replace h' := equals_of_equal h'
      cases h' with
      | «alias» h' => exact .alias (forall₂_trans (fun x hx _ _ hxy hyz => ih x hx hxy hyz) h h')
    | callable h hr =>
      replace h' := equals_of_equal h'
      cases h' with
      | callable h' hr' =>
        refine .callable (forall₂_trans (fun x hx _ _ hxy hyz => ?_) h h') (ih _ (by simp [parts]) hr hr')
        exact ih x (by simp [parts, hx]) hxy hyz
    | annotated h =>
      replace h' := equals_of_equal h'
      cases h' with
      | annotated h' => exact .annotated (ih _ (by simp [parts]) h h')
    | classVar h =>
      replace h' := equals_of_equal h'
      cases h' with
      | classVar h' => exact .classVar (ih _ (by simp [parts]) h h')
    | final h =>
      replace h' := equals_of_equal h'
      cases h' with
      | final h' => exact .final (ih _ (by simp [parts]) h h')
    | literal hvs hws =>
      replace h' := equals_of_equal h'
      cases h' with
      | literal hws' hus =>
        refine .literal (fun v hv => ?_) fun u hu => ?_
        · obtain ⟨w, hw, hvw⟩ := hvs v hv
          obtain ⟨u, hu, hwu⟩ := hws' w hw
          exact ⟨u, hu, Foreign.sameLiteral_trans hvw hwu⟩
        · obtain ⟨w, hw, huw⟩ := hus u hu
          obtain ⟨v, hv, hwv⟩ := hws w hw
          exact ⟨v, hv, Foreign.sameLiteral_trans huw hwv⟩
    | foreign h =>
      replace h' := equals_of_equal h'
      cases h' with
      | foreign h' => exact .foreign (Foreign.equal_trans h h')
    | _ => exact equals_of_equal h'

/-- Equal annotations are interchangeable in a comparison. -/
theorem equal_congr {a b c d : TypeForm} (h : a.equal b = true) (h' : c.equal d = true) :
    a.equal c = b.equal d := by
  rw [Bool.eq_iff_iff]
  exact ⟨fun hac => equal_trans (equal_symm h) (equal_trans hac h'),
    fun hbd => equal_trans h (equal_trans hbd (equal_symm h'))⟩

/-! ## §4  What respects equality -/

theorem hashableList_iff {ts : List TypeForm} :
    hashableList ts = true ↔ ∀ t ∈ ts, t.hashable = true := by
  induction ts with
  | nil => simp [hashableList]
  | cons t ts ih => simp [hashableList, ih]

/-- Whatever is in the second of two lists that agree place by place agrees with something in the first. -/
theorem exists_of_forall₂ {r : TypeForm → TypeForm → Prop} {as bs : List TypeForm} {v : TypeForm}
    (h : List.Forall₂ r as bs) (hv : v ∈ bs) : ∃ u ∈ as, r u v := by
  induction h with
  | nil => simp at hv
  | cons huv _ ih =>
    rcases List.mem_cons.mp hv with rfl | hv
    · exact ⟨_, List.mem_cons_self, huv⟩
    · obtain ⟨u, hu, huv⟩ := ih hv
      exact ⟨u, List.mem_cons_of_mem _ hu, huv⟩

/-- Whatever stands inside an annotation equals something that stands inside an equal one. -/
theorem exists_part_of_equal {a b v : TypeForm} (h : a.equal b = true) (hv : v ∈ b.parts) :
    ∃ u ∈ a.parts, u.equal v = true := by
  replace h := equals_of_equal h
  cases h with
  | union _ h => exact h v hv
  | «alias» h => exact exists_of_forall₂ h hv
  | callable h h' =>
    rcases List.mem_cons.mp hv with rfl | hv
    · exact ⟨_, List.mem_cons_self, h'⟩
    · obtain ⟨u, hu, huv⟩ := exists_of_forall₂ h hv
      exact ⟨u, List.mem_cons_of_mem _ hu, huv⟩
  | annotated h | classVar h | final h =>
    obtain rfl := List.mem_singleton.mp hv
    exact ⟨_, List.mem_singleton_self _, h⟩
  | _ => simp [parts] at hv

/-- What is asked of an annotation itself and then of all that stands inside it respects equality, if the
first question does. -/
theorem of_equal {P Q : TypeForm → Prop} (hP : ∀ t, P t ↔ Q t ∧ ∀ u ∈ t.parts, P u)
    (hown : ∀ {a b}, Equals a b → Q a → Q b) {a b : TypeForm} (h : a.equal b = true) (ha : P a) :
    P b := by
  induction a using induction_parts generalizing b with
  | _ a ih =>
    rw [hP] at ha ⊢
    refine ⟨hown (equals_of_equal h) ha.1, ?_⟩
    intro v hv
    obtain ⟨u, hu, huv⟩ := exists_part_of_equal h hv
    exact ih u hu huv (ha.2 u hu)

/-- Equal literals show values that are the same. -/
theorem Equals.forall_literal {Q : Foreign → Prop} (hQ : ∀ {v w}, v.sameLiteral w = true → Q w → Q v)
    {a b : TypeForm} (h : Equals a b) (ha : ∀ i vs, a = .literal i vs → ∀ v ∈ vs, Q v) :
    ∀ i vs, b = .literal i vs → ∀ v ∈ vs, Q v := by
  rintro j ws rfl w hw
  cases h with
  | literal _ h =>
    obtain ⟨v, hv, hwv⟩ := h w hw
    exact hQ hwv (ha _ _ rfl v hv)

theorem hashable_of_equal {a b : TypeForm} (h : a.equal b = true) (ha : a.hashable = true) :
    b.hashable = true := by
  refine of_equal (P := fun t => t.hashable = true)
    (Q := fun t => (∀ i vs, t = .literal i vs → ∀ v ∈ vs, v.hashable = true) ∧
      ∀ f, t = .foreign f → f.hashable = true) ?_ ?_ h ha
  · intro t
    cases t <;> simp [hashable, hashableList_iff, parts, and_comm]
  · intro a b hab hown
    -- a literal that is the same one is of the same type, and so has a hash with it
    refine ⟨hab.forall_literal (fun hvw hw => ?_) hown.1, ?_⟩
    · simp only [Foreign.sameLiteral, Bool.and_eq_true, beq_iff_eq] at hvw
      rwa [hvw.2]
    · rintro g rfl
      cases hab with
      | foreign h => exact (Foreign.hashable_congr h) ▸ hown.2 _ rfl

/-- **Equal annotations have a hash together.** -/
theorem hashable_congr {a b : TypeForm} (h : a.equal b = true) : a.hashable = b.hashable :=
  Bool.eq_iff_iff.mpr ⟨hashable_of_equal h, hashable_of_equal (equal_symm h)⟩

theorem arePrintable_iff {ts : List TypeForm} :
    arePrintable ts = true ↔ ∀ t ∈ ts, t.isPrintable = true := by
  induction ts with
  | nil => simp [arePrintable]
  | cons t ts ih => simp [arePrintable, ih]

/-- Equal objects can be printed together. -/
theorem canPrint_of_equal {a b : Foreign} (h : a.equal b = true) : canPrint a = canPrint b := by
  simp only [Foreign.equal, Bool.and_eq_true, beq_iff_eq] at h
  rw [canPrint, canPrint, h.1]

/-- So can equal literal values: what a value is compared by is a number or not by the value alone. -/
theorem canPrint_of_sameLiteral {a b : Foreign} (h : a.sameLiteral b = true) :
    canPrint a = canPrint b := by
  simp only [Foreign.sameLiteral, Bool.and_eq_true, beq_iff_eq] at h
  unfold canPrint Foreign.key
  rw [h.1]
  rcases b.value.quantities? with _ | ⟨_ | _ | _, _ | _ | _⟩
  case none => cases b.value <;> first | rfl | (dsimp only; split_ifs <;> rfl)
  all_goals rfl

theorem isPrintable_of_equal {a b : TypeForm} (h : a.equal b = true) (ha : a.isPrintable = true) :
    b.isPrintable = true := by
  refine of_equal (P := fun t => t.isPrintable = true)
    (Q := fun t => (∀ i vs, t = .literal i vs → ∀ v ∈ vs, canPrint v = true) ∧
      ∀ f, t = .foreign f → canPrint f = true) ?_ ?_ h ha
  · intro t
    cases t <;> simp [isPrintable, arePrintable_iff, parts, and_comm]
  · intro a b hab hown
    refine ⟨hab.forall_literal (fun hvw hw => ?_) hown.1, ?_⟩
    · rwa [canPrint_of_sameLiteral hvw]
    · rintro g rfl
      cases hab with
      | foreign h => exact canPrint_of_equal h ▸ hown.2 _ rfl

/-- **Equal annotations can be named in messages together.** -/
theorem isPrintable_congr {a b : TypeForm} (h : a.equal b = true) : a.isPrintable = b.isPrintable :=
  Bool.eq_iff_iff.mpr ⟨isPrintable_of_equal h, isPrintable_of_equal (equal_symm h)⟩

/-- **Equal annotations have equal normal forms.** -/
theorem normalize_congr {a b : TypeForm} (h : a.equal b = true) :
    a.normalize.equal b.normalize = true := by
  induction a using induction_parts generalizing b with
  | _ a ih =>
    have hequals := equals_of_equal h
    cases hequals with
    | annotated hab | classVar hab =>
      simp only [normalize]
      exact ih _ (by simp [parts]) hab
    | _ => first | exact h | exact equal_refl _

/-- A class equals no annotation but itself. -/
theorem eq_cls_of_equal {c : ClassRef} {b : TypeForm} (h : (TypeForm.cls c).equal b = true) :
    b = .cls c := by
  replace h := equals_of_equal h
  cases h with
  | cls => rfl

/-- Equal annotations are the same class, or neither is that class. -/
theorem beq_cls_congr {a b : TypeForm} (h : a.equal b = true) (c : ClassRef) :
    (a == .cls c) = (b == .cls c) := by
  rw [Bool.eq_iff_iff, beq_iff_eq, beq_iff_eq]
  constructor
  · rintro rfl
    exact eq_cls_of_equal h
  · rintro rfl
    exact eq_cls_of_equal (equal_symm h)

theorem isAny_congr {a b : TypeForm} (h : a.equal b = true) : a.isAny = b.isAny := by
  simp only [isAny, builtin, beq_cls_congr h]

theorem isPromoting_congr {a b : TypeForm} (h : a.equal b = true) : a.isPromoting = b.isPromoting := by
  simp only [isPromoting, builtin, beq_cls_congr h]

theorem promotes_congr {a b c d : TypeForm} (h : a.equal b = true) (h' : c.equal d = true) :
    a.promotes c = b.promotes d := by
  simp only [promotes, builtin, beq_cls_congr h, beq_cls_congr h']

theorem isUnion_congr {a b : TypeForm} (h : a.equal b = true) : a.isUnion = b.isUnion := by
  cases equals_of_equal h <;> rfl

end TypeForm
end MemberAccess
