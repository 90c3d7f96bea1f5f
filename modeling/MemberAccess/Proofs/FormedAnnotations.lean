import MemberAccess.Proofs.ShownClassVariables

/-!
# Annotations that can be formed

Not every tree of annotations is an annotation object.  Members of unions are operands that were checked, so
that the absent value, a text, a class variable and another union are never among them; and what a variable
with a choice of types keeps is the union of these types.  Forming an annotation of formed ones gives a formed
one, also where it is the one that was formed for equal operands before, since a store shares formed
annotations only.
-/

namespace MemberAccess

open MemberAccess.Action

namespace TypeForm

variable {t u v o x : TypeForm} {ts us : List TypeForm} {place : Place}

/-! ## §1  Unions of operands -/

/-- What may stand among the members of a union. -/
def isMember : TypeForm → Bool
  | .none | .text _ | .classVar .. | .union .. => false
  | _ => true

/-- What the union form gives for operands: the one that they all come to, or a union of those that differ. -/
def IsUnionOf (ts : List TypeForm) (t : TypeForm) : Prop :=
  ∃ us, checkOperands .operand ts = .ok us ∧
    match distinct (flatten us) with
    | [u] => t = u
    | vs => ∃ m, t = .union m .subscript vs

theorem ne_of_convertOperand (h : convertOperand t = .ok u) : u ≠ .none ∧ ∀ s, u ≠ .text s := by
  unfold convertOperand forwardOf at h
  split at h
  case h_1 =>
    cases h
    exact ⟨nofun, nofun⟩
  case h_2 =>
    split at h
    · cases h
      exact ⟨nofun, nofun⟩
    · cases h
  case h_3 hnone htext =>
    cases h
    exact ⟨hnone, htext⟩

/-- An operand of a form is a union or may be a member of one. -/
theorem isMember_of_checkOperand (h : checkOperand .operand t = .ok u) (hu : u.isUnion = false) :
    u.isMember = true := by
  have hconvert := convertOperand_of_checkOperand h
  obtain ⟨hnone, htext⟩ := ne_of_convertOperand hconvert
  cases u with
  | none => exact absurd rfl hnone
  | text s => exact absurd rfl (htext s)
  | union => cases hu
  | classVar =>
    rw [checkOperand, hconvert] at h
    cases h
  | _ => rfl

/-- The members of checked operands. -/
theorem isMember_of_mem_flatten (hus : checkOperands .operand ts = .ok us) (hv : v ∈ flatten us)
    (hunion : ∀ m w vs, .union m w vs ∈ us → ∀ v ∈ vs, v.isMember = true) : v.isMember = true := by
  obtain ⟨u, hu, hv⟩ := List.mem_flatMap.mp hv
  obtain ⟨t, -, hchecked⟩ := exists_of_forall₂ (forall₂_of_checkOperands hus) hu
  split at hv
  case h_1 m w vs => exact hunion m w vs hu v hv
  case h_2 hplain =>
    obtain rfl := List.mem_singleton.mp hv
    refine isMember_of_checkOperand hchecked (Bool.eq_false_iff.mpr fun hu => ?_)
    cases v with
    | union m w vs => exact hplain m w vs rfl
    | _ => cases hu

/-! ## §2  Annotations said once -/

theorem exists_mem_distinct (h : u ∈ ts) : ∃ v ∈ distinct ts, v.equal u = true := by
  have hkept : ∀ kept : List TypeForm, (∃ v ∈ kept, v.equal u = true) ∨ u ∈ ts →
      ∃ v ∈ ts.foldl (fun kept t => if kept.any (equal · t) then kept else kept ++ [t]) kept,
        v.equal u = true := by
    clear h
    induction ts with
    | nil => exact fun kept h => h.resolve_right List.not_mem_nil
    | cons t ts ih =>
      intro kept h
      rw [List.foldl_cons]
      refine ih _ ?_
      rcases h with ⟨v, hv, hequal⟩ | h
      · refine .inl ⟨v, ?_, hequal⟩
        split
        · exact hv
        · exact List.mem_append_left _ hv
      · rcases List.mem_cons.mp h with rfl | h
        · refine .inl ?_
          split
          case isTrue hany => exact List.any_eq_true.mp hany
          case isFalse => exact ⟨u, List.mem_append_right _ List.mem_cons_self, equal_refl u⟩
        · exact .inr h
  exact hkept [] (.inr h)

theorem pairwise_distinct (ts : List TypeForm) : (distinct ts).Pairwise fun a b => a.equal b = false := by
  have hkept : ∀ kept : List TypeForm, (kept.Pairwise fun a b => a.equal b = false) →
      (ts.foldl (fun kept t => if kept.any (equal · t) then kept else kept ++ [t]) kept).Pairwise
        fun a b => a.equal b = false := by
    induction ts with
    | nil => exact fun kept h => h
    | cons t ts ih =>
      intro kept h
      rw [List.foldl_cons]
      refine ih _ ?_
      split
      case isTrue => exact h
      case isFalse hany =>
        refine List.pairwise_append.mpr ⟨h, List.pairwise_singleton _ t, fun a ha b hb => ?_⟩
        obtain rfl := List.mem_singleton.mp hb
        exact Bool.eq_false_iff.mpr fun hequal => hany (List.any_eq_true.mpr ⟨a, ha, hequal⟩)
  exact hkept [] .nil

/-- One annotation is left of several exactly if they are all equal. -/
theorem distinct_eq_singleton (hx : x ∈ ts) (h : ∀ u ∈ ts, u.equal x = true) :
    ∃ o ∈ ts, distinct ts = [o] := by
  obtain ⟨v, hv, -⟩ := exists_mem_distinct hx
  have hpairwise := pairwise_distinct ts
  have hmem : ∀ u ∈ distinct ts, u ∈ ts := fun u => mem_of_mem_distinct
  cases hdistinct : distinct ts with
  | nil =>
    rw [hdistinct] at hv
    cases hv
  | cons a rest =>
    rw [hdistinct] at hpairwise hmem
    cases rest with
    | nil => exact ⟨a, hmem a List.mem_cons_self, rfl⟩
    | cons b rest =>
      have hab := (List.pairwise_cons.mp hpairwise).1 b List.mem_cons_self
      have ha := h a (hmem a List.mem_cons_self)
      have hb := h b (hmem b (List.mem_cons_of_mem _ List.mem_cons_self))
      rw [equal_trans ha (equal_symm hb)] at hab
      cases hab

theorem equal_of_distinct_eq (h : distinct ts = [o]) (hu : u ∈ ts) : u.equal o = true := by
  obtain ⟨v, hv, hequal⟩ := exists_mem_distinct hu
  rw [h] at hv
  obtain rfl := List.mem_singleton.mp hv
  exact equal_symm hequal

/-! ## §3  Formed annotations -/

/-- An annotation as it can be formed. -/
inductive Formed : TypeForm → Prop
  | none : Formed .none
  | cls (c : ClassRef) : Formed (.cls c)
  | bare (f : BareForm) : Formed (.bare f)
  | ellipsis : Formed .ellipsis
  | text (s : String) : Formed (.text s)
  | forward (s : String) : Formed (.forward s)
  | «variable» (n : String) : Formed (.variable n)
  | bounded {n : String} {b : TypeForm} : Formed b → Formed (.bounded n b)
  | choice {n : String} {ts : List TypeForm} {o : TypeForm} :
      (∀ t ∈ ts, Formed t) → IsUnionOf ts o → Formed (.choice n o)
  | union {m : Mark} {w : UnionSpelling} {ts : List TypeForm} :
      (∀ t ∈ ts, t.isMember = true) → (∀ t ∈ ts, Formed t) → Formed (.union m w ts)
  | «alias» {m : Mark} {s : AliasSpelling} {c : ClassRef} {ts : List TypeForm} :
      (∀ t ∈ ts, Formed t) → Formed (.alias m s c ts)
  | callable {m : Mark} {ps : List TypeForm} {r : TypeForm} :
      (∀ p ∈ ps, Formed p) → Formed r → Formed (.callable m ps r)
  | annotated {m : Mark} {i : TypeForm} {ns : List String} : Formed i → Formed (.annotated m i ns)
  | classVar {m : Mark} {i : TypeForm} : Formed i → Formed (.classVar m i)
  | final {m : Mark} {i : TypeForm} : Formed i → Formed (.final m i)
  | literal (m : Mark) (vs : List Foreign) : Formed (.literal m vs)
  | foreign (f : Foreign) : Formed (.foreign f)

theorem Formed.of_convertOperand (h : t.Formed) (hu : convertOperand t = .ok u) : u.Formed := by
  unfold convertOperand forwardOf at hu
  split at hu
  case h_1 =>
    cases hu
    exact .cls _
  case h_2 =>
    split at hu
    · cases hu
      exact .forward _
    · cases hu
  case h_3 =>
    cases hu
    exact h

theorem Formed.of_checkOperand (h : t.Formed) (hu : checkOperand place t = .ok u) : u.Formed :=
  h.of_convertOperand (convertOperand_of_checkOperand hu)

theorem formed_of_checkOperands (h : ∀ t ∈ ts, t.Formed) (hus : checkOperands place ts = .ok us) :
    ∀ u ∈ us, u.Formed := by
  intro u hu
  obtain ⟨t, ht, hchecked⟩ := exists_of_forall₂ (forall₂_of_checkOperands hus) hu
  exact (h t ht).of_checkOperand hchecked

/-- The members of formed operands are formed, and may be members. -/
theorem formed_of_mem_flatten (h : ∀ t ∈ ts, t.Formed) (hus : checkOperands .operand ts = .ok us)
    (hv : v ∈ flatten us) : v.Formed ∧ v.isMember = true := by
  have hformed := formed_of_checkOperands h hus
  refine ⟨?_, isMember_of_mem_flatten hus hv fun m w vs hu => ?_⟩
  · obtain ⟨u, hu, hv⟩ := List.mem_flatMap.mp hv
    split at hv
    case h_1 =>
      cases hformed _ hu with
      | union _ hmembers => exact hmembers v hv
    case h_2 =>
      obtain rfl := List.mem_singleton.mp hv
      exact hformed v hu
  · cases hformed _ hu with
    | union hmembers _ => exact hmembers

/-- A union of formed operands is one of their members or a union of them. -/
theorem IsUnionOf.mem_or_union (ho : IsUnionOf ts o) :
    ∃ us, checkOperands .operand ts = .ok us ∧
      (o ∈ flatten us ∨ ∃ m vs, o = .union m .subscript vs ∧ ∀ v ∈ vs, v ∈ flatten us) := by
  obtain ⟨us, hus, ho⟩ := ho
  refine ⟨us, hus, ?_⟩
  split at ho
  case h_1 u hdistinct =>
    subst ho
    refine .inl (mem_of_mem_distinct ?_)
    rw [hdistinct]
    exact List.mem_singleton_self o
  case h_2 =>
    obtain ⟨m, rfl⟩ := ho
    exact .inr ⟨m, _, rfl, fun v => mem_of_mem_distinct⟩

theorem IsUnionOf.formed (h : ∀ t ∈ ts, t.Formed) (ho : IsUnionOf ts o) : o.Formed := by
  obtain ⟨us, hus, ho | ⟨m, vs, rfl, hvs⟩⟩ := ho.mem_or_union
  · exact (formed_of_mem_flatten h hus ho).1
  · exact .union (fun v hv => (formed_of_mem_flatten h hus (hvs v hv)).2)
      fun v hv => (formed_of_mem_flatten h hus (hvs v hv)).1

/-- What a choice of formed types keeps is a union or may be a member of one. -/
theorem IsUnionOf.isMember (h : ∀ t ∈ ts, t.Formed) (ho : IsUnionOf ts o) (hunion : o.isUnion = false) :
    o.isMember = true := by
  obtain ⟨us, hus, ho | ⟨m, vs, rfl, -⟩⟩ := ho.mem_or_union
  · exact (formed_of_mem_flatten h hus ho).2
  · cases hunion

end TypeForm

/-! ## §4  Stores that share them -/

/-- A store that keeps formed annotations for whoever asks again; a union is kept for formed operands. -/
structure Store.SharesFormed (st : Store) : Prop where
  formed {former : Former} {ts : List TypeForm} {t : TypeForm} : (former, ts, t) ∈ st.shared → t.Formed
  union {ts : List TypeForm} {t : TypeForm} :
    (.union, ts, t) ∈ st.shared → (∀ u ∈ ts, u.Formed) ∧ TypeForm.IsUnionOf ts t

theorem Store.sharesFormed_empty : Store.empty.SharesFormed := ⟨nofun, nofun⟩

namespace Action

/-- An action that gives what has a property, from a store that shares formed annotations, and leaves such a
store, also where it fails. -/
def Forms {α : Type} (P : α → Prop) (x : Action α) : Prop :=
  ∀ run st, st.SharesFormed → (x.perform run st).2.SharesFormed ∧ ∀ a, (x.perform run st).1 = .ok a → P a

variable {α β : Type} {P : α → Prop} {Q : β → Prop} {x : Action α} {k : α → Action β} {a : α}

theorem forms_pure (h : P a) : Forms P (pure a) := by
  refine fun run st hst => ⟨hst, fun b hb => ?_⟩
  cases hb
  exact h

theorem forms_fault {e : ErrorKind} : Forms P (fault e : Action α) := fun _ _ hst => ⟨hst, nofun⟩

theorem forms_ofOutcome {r : Outcome α} (h : ∀ a, r = .ok a → P a) : Forms P (ofOutcome r) := by
  intro run st hst
  rw [perform_ofOutcome]
  exact ⟨hst, h⟩

theorem forms_get : Forms (fun _ => True) (get : Action Store) := fun _ _ hst => ⟨hst, fun _ _ => trivial⟩

theorem forms_freshMark : Forms (fun _ => True) freshMark :=
  fun _ _ hst => ⟨⟨hst.formed, hst.union⟩, fun _ _ => trivial⟩

theorem forms_bind (hx : Forms P x) (hk : ∀ a, P a → Forms Q (k a)) : Forms Q (x >>= k) := by
  intro run st hst
  obtain ⟨hst', ha⟩ := hx run st hst
  rw [perform_bind]
  rcases hrun : x.perform run st with ⟨f | a, st'⟩
  · rw [hrun] at hst'
    exact ⟨hst', nofun⟩
  · rw [hrun] at hst' ha
    exact hk a (ha a rfl) run st' hst'

theorem Forms.mono {P' : α → Prop} (hx : Forms P x) (h : ∀ a, P a → P' a) : Forms P' x :=
  fun run st hst => ⟨(hx run st hst).1, fun a ha => h a ((hx run st hst).2 a ha)⟩

/-- Refusing something first forms what the rest forms. -/
theorem forms_refusing {p : Prop} [Decidable p] {e : ErrorKind} {k : PUnit → Action β}
    (hk : ∀ u, Forms Q (k u)) : Forms Q (if p then fault e >>= k else k ⟨⟩) := by
  split
  · exact forms_bind forms_fault fun u (_ : True) => hk u
  · exact hk _

theorem forms_mapM {γ : Type} {as : List γ} {g : γ → Action α} (h : ∀ c ∈ as, Forms P (g c)) :
    Forms (fun bs => ∀ b ∈ bs, P b) (as.mapM g) := by
  induction as with
  | nil => exact forms_pure nofun
  | cons c as ih =>
    rw [List.mapM_cons]
    refine forms_bind (h c List.mem_cons_self) fun b hb => ?_
    refine forms_bind (ih fun c hc => h c (List.mem_cons_of_mem _ hc)) fun bs hbs => forms_pure ?_
    exact List.forall_mem_cons.mpr ⟨hb, hbs⟩

end Action

/-! ## §5  Forming -/

namespace TypeForm

variable {t u : TypeForm} {ts us ps : List TypeForm} {place : Place} {former : Former}
  {make : Action TypeForm}

/-- What is given for formed operands was formed of them, or of equal ones before. -/
theorem forms_shared (hts : ∀ u ∈ ts, u.Formed)
    (hmake : Forms (fun t => t.Formed ∧ (former = .union → IsUnionOf ts t)) make) :
    Forms (fun t => t.Formed ∧
      (former = .union → ∃ us, equalList us ts = true ∧ (∀ u ∈ us, u.Formed) ∧ IsUnionOf us t))
      (shared former ts make) := by
  have hself : equalList ts ts = true := equalList_iff.mpr (List.forall₂_same.mpr fun u _ => equal_refl u)
  unfold shared
  split
  · exact hmake.mono fun t ht => ⟨ht.1, fun hunion => ⟨ts, hself, hts, ht.2 hunion⟩⟩
  intro run st hst
  rw [perform_bind_get]
  split
  case h_1 us t hfind =>
    have hmem := List.mem_of_find?_eq_some hfind
    have hkey := List.find?_some hfind
    rw [Bool.and_eq_true, beq_iff_eq] at hkey
    refine ⟨hst, fun a ha => ?_⟩
    cases ha
    refine ⟨hst.formed hmem, fun hunion => ⟨us, hkey.2, ?_⟩⟩
    rw [hkey.1, hunion] at hmem
    exact hst.union hmem
  case h_2 =>
    refine forms_bind hmake (fun t ht => ?_) run st hst
    intro run st hst
    refine ⟨⟨fun hmem => ?_, fun hmem => ?_⟩, fun a ha => ?_⟩
    · rcases List.mem_cons.mp hmem with heq | hmem
      · cases heq
        exact ht.1
      · exact hst.formed hmem
    · rcases List.mem_cons.mp hmem with heq | hmem
      · cases heq
        exact ⟨hts, ht.2 rfl⟩
      · exact hst.union hmem
    · cases ha
      exact ⟨ht.1, fun hunion => ⟨ts, hself, hts, ht.2 hunion⟩⟩

/-- The forms that are not unions. -/
theorem forms_shared_of_ne (hformer : former ≠ .union) (hts : ∀ u ∈ ts, u.Formed)
    (hmake : Forms Formed make) : Forms Formed (shared former ts make) :=
  (forms_shared hts (hmake.mono fun _ ht => ⟨ht, fun heq => absurd heq hformer⟩)).mono fun _ ht => ht.1

theorem forms_checkOperand (ht : t.Formed) : Forms Formed (ofOutcome (checkOperand place t)) :=
  forms_ofOutcome fun _ hu => ht.of_checkOperand hu

theorem forms_checkOperands (hts : ∀ t ∈ ts, t.Formed) :
    Forms (fun us => ∀ u ∈ us, u.Formed) (ofOutcome (checkOperands place ts)) :=
  forms_ofOutcome fun _ hus => formed_of_checkOperands hts hus

theorem forms_unionOfMembers (hus : checkOperands .operand ts = .ok us) :
    Forms (IsUnionOf ts) (unionOfMembers us) := by
  unfold unionOfMembers
  rcases hdistinct : distinct (flatten us) with _ | ⟨a, _ | ⟨b, rest⟩⟩
  · exact forms_bind forms_freshMark fun m _ => forms_pure ⟨us, hus, by rw [hdistinct]; exact ⟨m, rfl⟩⟩
  · exact forms_pure ⟨us, hus, by rw [hdistinct]⟩
  · exact forms_bind forms_freshMark fun m _ => forms_pure ⟨us, hus, by rw [hdistinct]; exact ⟨m, rfl⟩⟩

/-- **A union that is formed is the union of the operands, or of equal ones.** -/
theorem forms_unionOf (hts : ∀ t ∈ ts, t.Formed) :
    Forms (fun t => t.Formed ∧ ∃ us, equalList us ts = true ∧ (∀ u ∈ us, u.Formed) ∧ IsUnionOf us t)
      (unionOf ts) := by
  have hmake : Forms (fun t => t.Formed ∧ (Former.union = .union → IsUnionOf ts t)) (do
      if ts.isEmpty then fault .typeError
      let us ← ofOutcome (checkOperands .operand ts)
      unionOfMembers us) := by
    refine forms_refusing fun _ => forms_bind (forms_ofOutcome fun us hus => hus) fun us hus => ?_
    exact (forms_unionOfMembers hus).mono fun t ht => ⟨ht.formed hts, fun _ => ht⟩
  exact (forms_shared hts hmake).mono fun t ht => ⟨ht.1, ht.2 rfl⟩

theorem forms_union (hts : ∀ t ∈ ts, t.Formed) : Forms Formed (unionOf ts) :=
  (forms_unionOf hts).mono fun _ ht => ht.1

theorem forms_optionalOf (ht : t.Formed) : Forms Formed (optionalOf t) := by
  refine forms_shared_of_ne nofun (List.forall_mem_singleton.mpr ht) ?_
  refine forms_bind (forms_checkOperand ht) fun u hu => forms_union ?_
  exact List.forall_mem_cons.mpr ⟨hu, List.forall_mem_singleton.mpr (.cls _)⟩

/-- Plain alternatives are flat, or unions with bars. -/
theorem formed_of_mem_plainMembers (hts : ∀ t ∈ ts, t.Formed)
    (hplain : ∀ t ∈ ts, isPlainAlternative t = true) (hu : u ∈ plainMembers ts) :
    u.Formed ∧ u.isMember = true := by
  obtain ⟨t, ht, hu⟩ := List.mem_flatMap.mp ((mem_of_mem_kept hu).resolve_left List.not_mem_nil)
  have hformed := hts t ht
  have halternative := hplain t ht
  split at hu
  case h_1 =>
    cases hformed with
    | union hmembers hall => exact ⟨hall u hu, hmembers u hu⟩
  case h_2 =>
    obtain rfl := List.mem_singleton.mp hu
    exact ⟨.cls _, rfl⟩
  case h_3 hbar hnone =>
    obtain rfl := List.mem_singleton.mp hu
    refine ⟨hformed, ?_⟩
    cases u with
    | none => exact absurd rfl hnone
    | union m w vs =>
      cases w with
      | bar => exact absurd rfl (hbar m vs)
      | subscript => cases halternative
    | text | classVar => cases halternative
    | _ => rfl

theorem forms_barOf (ht : t.Formed) (hu : u.Formed) : Forms Formed (barOf t u) := by
  have hboth : ∀ v ∈ [t, u], v.Formed := List.forall_mem_cons.mpr ⟨ht, List.forall_mem_singleton.mpr hu⟩
  unfold barOf
  split
  case isTrue hplain =>
    rw [Bool.and_eq_true] at hplain
    have hmember : ∀ v ∈ plainMembers [t, u], v.Formed ∧ v.isMember = true := fun v =>
      formed_of_mem_plainMembers hboth
        (List.forall_mem_cons.mpr ⟨hplain.1, List.forall_mem_singleton.mpr hplain.2⟩)
    refine forms_refusing fun _ => ?_
    split
    case h_1 v hone =>
      rw [hone] at hmember
      exact forms_pure (hmember v List.mem_cons_self).1
    case h_2 =>
      refine forms_bind forms_freshMark fun m _ => forms_pure ?_
      exact .union (fun v hv => (hmember v hv).2) fun v hv => (hmember v hv).1
  case isFalse =>
    split
    · exact forms_union hboth
    · exact forms_fault

theorem forms_barsOf (hts : ∀ t ∈ ts, t.Formed) : Forms Formed (barsOf ts) := by
  cases ts with
  | nil => exact forms_fault
  | cons t ts =>
    change Forms Formed (ts.foldlM barOf t)
    induction ts generalizing t with
    | nil => exact forms_pure (hts t List.mem_cons_self)
    | cons u ts ih =>
      obtain ⟨ht, hts⟩ := List.forall_mem_cons.mp hts
      obtain ⟨hu, hts⟩ := List.forall_mem_cons.mp hts
      rw [List.foldlM_cons]
      exact forms_bind (forms_barOf ht hu) fun v hv => ih v (List.forall_mem_cons.mpr ⟨hv, hts⟩)

theorem forms_classVarOf (ht : t.Formed) : Forms Formed (classVarOf t) := by
  refine forms_shared_of_ne nofun (List.forall_mem_singleton.mpr ht) ?_
  exact forms_bind (forms_checkOperand ht) fun u hu => forms_bind forms_freshMark fun m _ =>
    forms_pure hu.classVar

theorem forms_finalOf (ht : t.Formed) : Forms Formed (finalOf t) := by
  refine forms_shared_of_ne nofun (List.forall_mem_singleton.mpr ht) ?_
  exact forms_bind (forms_checkOperand ht) fun u hu => forms_bind forms_freshMark fun m _ =>
    forms_pure hu.final

theorem forms_annotatedOf {notes : List String} (ht : t.Formed) : Forms Formed (annotatedOf t notes) := by
  refine forms_shared_of_ne nofun (List.forall_mem_singleton.mpr ht) ?_
  refine forms_bind (forms_checkOperand ht) fun u hu => ?_
  split
  case h_1 =>
    cases hu with
    | annotated hi => exact forms_bind forms_freshMark fun m _ => forms_pure hi.annotated
  case h_2 => exact forms_bind forms_freshMark fun m _ => forms_pure hu.annotated

theorem forms_callableOf (hps : ∀ p ∈ ps, p.Formed) (ht : t.Formed) : Forms Formed (callableOf ps t) := by
  refine forms_shared_of_ne nofun (List.forall_mem_cons.mpr ⟨ht, hps⟩) ?_
  refine forms_bind (forms_checkOperand ht) fun r hr => ?_
  refine forms_bind (forms_mapM fun p hp => forms_ofOutcome fun q hq => (hps p hp).of_convertOperand hq)
    fun qs hqs => ?_
  exact forms_bind forms_freshMark fun m _ => forms_pure (.callable hqs hr)

theorem forms_literalOf {vs : List Foreign} : Forms Formed (literalOf vs) := by
  unfold literalOf
  split
  · refine forms_shared_of_ne nofun ?_
      (forms_bind forms_freshMark fun m _ => forms_pure (.literal m _))
    intro t ht
    obtain ⟨v, -, rfl⟩ := List.mem_map.mp ht
    exact .foreign v
  · exact forms_bind forms_freshMark fun m _ => forms_pure (.literal m _)

theorem forms_directAliasOf {c : ClassRef} (hts : ∀ t ∈ ts, t.Formed) :
    Forms Formed (directAliasOf c ts) :=
  forms_bind forms_freshMark fun _ _ => forms_pure (.alias hts)

theorem forms_genericAliasOf {c : ClassRef} {count : Option Nat} (hts : ∀ t ∈ ts, t.Formed) :
    Forms Formed (genericAliasOf c count ts) := by
  refine forms_shared_of_ne nofun (List.forall_mem_cons.mpr ⟨.cls c, hts⟩) ?_
  refine forms_bind (forms_checkOperands hts) fun us hus => forms_refusing fun _ => ?_
  exact forms_bind forms_freshMark fun m _ => forms_pure (.alias hus)

theorem forms_classAliasOf {c : ClassRef} (hts : ∀ t ∈ ts, t.Formed) :
    Forms Formed (classAliasOf c ts) := by
  have hkey : ∀ u ∈ TypeForm.cls c :: ts, u.Formed := List.forall_mem_cons.mpr ⟨.cls c, hts⟩
  unfold classAliasOf
  refine forms_bind forms_get fun st _ => ?_
  split
  · exact forms_directAliasOf hts
  split
  case h_1 =>
    split
    · refine forms_refusing fun _ => forms_shared_of_ne nofun hkey ?_
      exact forms_bind forms_freshMark fun m _ => forms_pure (.alias hts)
    · split
      · exact forms_fault
      · refine forms_refusing fun _ => forms_shared_of_ne nofun hkey ?_
        refine forms_bind (forms_mapM fun t ht => forms_ofOutcome fun u hu => (hts t ht).of_convertOperand hu)
          fun us hus => forms_refusing fun _ => ?_
        exact forms_bind forms_freshMark fun m _ => forms_pure (.alias hus)
  case h_2 => exact forms_directAliasOf hts
  case h_3 => exact forms_fault

theorem forms_subscriptOf (hts : ∀ t ∈ ts, t.Formed) : Forms Formed (subscriptOf t ts) := by
  have hhead : ∀ u ∈ ts.head?, u.Formed := fun u hu => hts u (List.mem_of_mem_head? hu)
  unfold subscriptOf
  split
  · exact forms_classAliasOf hts
  · exact forms_genericAliasOf hts
  · exact forms_genericAliasOf hts
  · exact forms_genericAliasOf hts
  · exact forms_genericAliasOf hts
  · exact forms_union hts
  · exact forms_optionalOf (hhead _ rfl)
  · exact forms_classVarOf (hhead _ rfl)
  · exact forms_finalOf (hhead _ rfl)
  · exact forms_literalOf
  · exact forms_annotatedOf (hhead _ rfl)
  · exact forms_fault

end TypeForm

/-- A value that is no annotation, or a formed one. -/
def Value.IsFormed (v : Value) : Prop := ∀ t, v = .typeForm t → t.Formed

theorem Value.IsFormed.toTypeForm {v : Value} (h : v.IsFormed) (printed : String) (hashable : Bool) :
    (v.toTypeForm printed hashable).Formed := by
  unfold Value.toTypeForm
  split
  · exact .none
  · exact .text _
  · exact h _ rfl
  · exact .foreign _
  · exact .foreign _

theorem TypeForm.Formed.toValue {t : TypeForm} (h : t.Formed) : t.toValue.IsFormed := by
  intro u hu
  cases t <;> cases hu <;> exact h

namespace TypeForm

variable {t : TypeForm} {ts : List TypeForm}

/-- **A form applied to formed operands forms an annotation.** -/
theorem forms_apply {former : Former} {vs : List Value} (hvs : ∀ v ∈ vs, v.IsFormed) :
    Forms Value.IsFormed (former.apply vs) := by
  unfold Former.apply
  refine forms_bind forms_get fun st _ => ?_
  have hts : ∀ t ∈ vs.map st.typeFormOf, t.Formed := by
    intro t ht
    obtain ⟨v, hv, rfl⟩ := List.mem_map.mp ht
    exact (hvs v hv).toTypeForm _ _
  generalize vs.map st.typeFormOf = ts at hts
  have hgiven {x : Action TypeForm} (hx : Forms Formed x) :
      Forms Value.IsFormed (x >>= fun t => pure t.toValue) :=
    forms_bind hx fun t ht => forms_pure ht.toValue
  have htail : ∀ u ∈ ts.tail, u.Formed := fun u hu => hts u (List.mem_of_mem_tail hu)
  have hhead : ∀ u ∈ ts.head?, u.Formed := fun u hu => hts u (List.mem_of_mem_head? hu)
  have hforward (s : String) : Forms Formed (ofOutcome (forwardOf s)) := by
    refine forms_ofOutcome fun t ht => ?_
    unfold forwardOf at ht
    split at ht
    · cases ht
      exact .forward _
    · cases ht
  dsimp only
  split
  · exact hgiven (forms_union hts)
  · exact hgiven (forms_optionalOf (hhead _ rfl))
  · exact hgiven (forms_barsOf hts)
  · exact hgiven (forms_subscriptOf htail)
  · exact hgiven (forms_callableOf htail (hhead _ rfl))
  · exact hgiven (forms_classVarOf (hhead _ rfl))
  · exact hgiven (forms_finalOf (hhead _ rfl))
  · exact hgiven (forms_annotatedOf (hhead _ rfl))
  · exact hgiven forms_literalOf
  · exact hgiven (hforward _)
  · exact hgiven forms_fault

/-- **A variable that is made is formed**, and keeps the union of its choice, or of equal types. -/
theorem forms_variableOf {name : String} {bound : Option TypeForm} (hbound : ∀ b ∈ bound, b.Formed)
    (hts : ∀ t ∈ ts, t.Formed) : Forms Formed (variableOf name bound ts) := by
  unfold variableOf
  refine forms_bind (P := fun b => ∀ u ∈ b, u.Formed) ?_ fun b hb => ?_
  · cases hkept : bound.filter (· ≠ .none) with
    | none => exact forms_pure nofun
    | some b =>
      have hmem := (Option.filter_eq_some_iff.mp hkept).1
      refine forms_bind (forms_checkOperand (hbound b hmem)) fun u hu => forms_pure ?_
      rintro _ ⟨⟩
      exact hu
  · split
    case h_1 u => exact forms_pure (hb u rfl).bounded
    case h_2 => exact forms_pure (.variable name)
    case h_3 | h_4 => exact forms_fault
    case h_5 =>
      refine forms_bind (forms_checkOperands hts) fun us hus => ?_
      refine forms_bind (forms_unionOf hus) fun o ho => forms_pure ?_
      obtain ⟨-, vs, -, hvs, hunion⟩ := ho
      exact .choice hvs hunion

end TypeForm
end MemberAccess
