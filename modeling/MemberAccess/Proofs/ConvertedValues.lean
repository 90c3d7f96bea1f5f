import MemberAccess.Proofs.RejectedCalls

/-!
# Converted values

A conversion gives what fits the type that it is for, or fails.  So the body of a member, when it is
reached through an accessor, should only ever see arguments that fit the types that the member is declared
to take: an accessor hands over nothing but what its conversions gave (`Engine.converted_values_fit`).

There is one way around this.  A union lets instances of its members' classes pass before it converts
anything, and a member that is itself a union written with a bar has the class of union objects.  Such a
member may stand behind a variable or a wrapper.  Then a union object passes for a value of the union,
although it fits none of the members (`BoundUnion.union_object_passes`).
-/

namespace MemberAccess

open MemberAccess.Action

/-! ## §1  Conversions -/

section
variable {st₀ st st' : Store} {rules : List Rule} {t : TypeForm} {run : Runner} {v w : Value}
  {place : String}

/-- **A value that is converted for a type, if that has a converter, fits the type**, unless it is a union
object that is kept because of a union inside the type. -/
theorem Value.givenFor_of_convertedBy (ho : st₀.Ordered) (hrules : RulesFit st₀ rules)
    (h : (v.convertedBy (st₀.converter? rules t) place).perform run st = (.ok w, st')) :
    w.GivenFor v st₀ run st' t := by
  cases hc : st₀.converter? rules t with
  | none => exact .inl (Store.fits_orObject_of_no_converter hc)
  | some c =>
    rw [hc] at h
    exact Store.givenFor_of_convert ho hrules hc h

theorem Value.coerce_eq_convertedBy :
    (v.coerce rules t place).perform run st =
      (v.convertedBy (st.converter? rules t) place).perform run st := by
  unfold coerce convertedBy
  exact perform_bind_get

theorem rulesFit_nil : RulesFit st₀ [] := nofun

end

/-! ## §2  Arguments in turn -/

namespace Accessor

variable {a : Accessor} {run : Runner} {st st' : Store} {arguments : List Value}

/-- What several actions in a row give is given by each after those before it. -/
theorem exists_of_perform_mapM {α β : Type} {g : α → Action β} {l : List α} {ys : List β}
    (h : (l.mapM g).perform run st = (.ok ys, st')) {i : Nat} {y : β} (hy : ys[i]? = some y) :
    ∃ x zs st₁ st₂, l[i]? = some x ∧ ((l.take i).mapM g).perform run st = (.ok zs, st₁) ∧
      (g x).perform run st₁ = (.ok y, st₂) := by
  induction l generalizing st ys i with
  | nil =>
    cases h
    simp at hy
  | cons x l ih =>
    rw [List.mapM_cons] at h
    obtain ⟨z, st₁, hx, h⟩ := exists_of_perform_bind h
    obtain ⟨zs, st₂, hl, h⟩ := exists_of_perform_bind h
    cases h
    cases i with
    | zero =>
      cases hy
      exact ⟨x, [], st, st₁, rfl, rfl, hx⟩
    | succ i =>
      obtain ⟨x', ws, st₃, st₄, hx', htake, hgives⟩ := ih hl hy
      refine ⟨x', z :: ws, st₃, st₄, hx', ?_, hgives⟩
      rw [List.take_succ_cons, List.mapM_cons, perform_bind_ok hx]
      exact perform_bind_ok htake

/-- **An accessor hands a value over in a place**: it is what was supplied for the place, as it was
converted, after the arguments before it were. -/
def HandsOver (a : Accessor) (run : Runner) (st : Store) (arguments : List Value) (i : Nat) (v w : Value)
    (st' : Store) : Prop :=
  ∃ r ys st₁ st₂, a.converted[i]? = some r ∧
    ((a.converted.take i).mapM (a.convertStep arguments)).perform run st = (.ok ys, st₁) ∧
    (a.supplied arguments r.slot).perform run st₁ = (.ok v, st₂) ∧
    (v.convertedBy r.converter r.name).perform run st₂ = (.ok w, st')

/-- The converted arguments are what is handed over in their places. -/
theorem handsOver_of_conversions {xs : List Value} {i : Nat} {x : Value}
    (h : (a.conversions arguments).perform run st = (.ok xs, st')) (hx : xs[i]? = some x) :
    ∃ v st₁, a.HandsOver run st arguments i v x st₁ := by
  obtain ⟨r, ys, st₁, st₃, hr, htake, hgives⟩ := exists_of_perform_mapM h hx
  obtain ⟨v, st₂, hsupplied, hconverted⟩ := exists_of_perform_bind hgives
  exact ⟨v, st₃, r, ys, st₁, st₂, hr, htake, hsupplied, hconverted⟩

end Accessor

/-! ## §3  Accessors that were built -/

/-- Without a pinned type the conversions are those of the declared types. -/
theorem Plan.slotConverter?_of_unpinned {st : Store} {rules : List Rule} {d : MemberDescriptor} {s : Shape}
    {t : TypeForm} (hs : s.family = .set → s.result? = none) (ht : t ∈ d.takenTypes s) :
    slotConverter? st rules d s t = st.converter? rules t := by
  unfold slotConverter?
  split
  case isTrue hset =>
    have hany : (pinnedForm s).isAny = true := by
      rw [pinnedForm, hs hset]
      rfl
    have htaken : t = d.valueType := by
      rw [MemberDescriptor.takenTypes, hset] at ht
      exact List.mem_singleton.mp ht
    rw [valueConverter?, if_pos hany, htaken]
  case isFalse => rfl

namespace Engine

variable {σ σ₁ : Session} {d : MemberDescriptor} {s : Shape} {a : Accessor}

/-- **What a built accessor hands over fits the declared type of its place**, unless it is a union object
that is kept because of a union inside the type. -/
theorem Built.givenFor_of_handsOver (hb : Built σ d s a) (ho : σ.store.Ordered)
    (hrules : RulesFit σ.store σ.rules) (hs : s.family = .set → s.result? = none) {run : Runner}
    {st st' : Store} {arguments : List Value} {i : Nat} {v w : Value}
    (h : a.HandsOver run st arguments i v w st') :
    ∃ t, (d.takenTypes s)[i]? = some t ∧ w.GivenFor v σ.store run st' t := by
  obtain ⟨r, ys, st₁, st₂, hr, -, -, hconverted⟩ := h
  rw [hb.converted_eq] at hr
  obtain ⟨-, -, htype, hconverter⟩ := Plan.slot_of_slotSteps hr
  rw [hconverter, Plan.slotConverter?_of_unpinned hs (List.mem_of_getElem? htype)] at hconverted
  exact ⟨r.type, htype, Value.givenFor_of_convertedBy ho hrules hconverted⟩

/-- **Conversion is sound without added rules.**  What a value is coerced to fits the type, unless it is
the union object that it was and the type has a union written with a bar inside a union.  And a call of an
accessor that was built is rejected, or completes its access with values that were each converted in turn
and fit the declared types of their places in the same sense. -/
theorem converted_values_fit (ho : σ.store.Ordered) (hrules : σ.rules = []) :
    (∀ (v w : Value) (t : TypeForm) (place : String) (run : Runner) (st' : Store),
      (v.coerce σ.rules t place).perform run σ.store = (.ok w, st') → w.GivenFor v σ.store run st' t) ∧
    ∀ (d : MemberDescriptor) (s : Shape) (n : Nat) (σ₁ : Session) (a : Accessor),
      (build (.proper d) (.proper s)).run.run σ = (.ok n, σ₁) → σ₁.accessors[n]? = some a →
      (s.family = .set → s.result? = none) →
      ∀ (run : Runner) (st : Store) (arguments : List Value),
        arguments.length = a.plan.parameterNames.length →
        (∃ place f st', a.RejectedAt run st arguments place f st' ∧
          (a.call arguments).perform run st = (.error f, st')) ∨
        ∃ v xs st₁ st₂ st₃, (a.inspect arguments).perform run st = (.ok (), st₁) ∧
          (a.approach arguments).perform run st₁ = (.ok v, st₂) ∧
          (a.conversions arguments).perform run st₂ = (.ok xs, st₃) ∧
          (a.call arguments).perform run st =
            (a.complete v xs >>= Accessor.finish a.plan).perform run st₃ ∧
          ∀ i x, xs[i]? = some x → ∃ t y st', (d.takenTypes s)[i]? = some t ∧
            a.HandsOver run st₂ arguments i y x st' ∧ x.GivenFor y σ.store run st' t := by
  have hfit : RulesFit σ.store σ.rules := by
    rw [hrules]
    exact rulesFit_nil
  refine ⟨?_, ?_⟩
  · intro v w t place run st' h
    rw [Value.coerce_eq_convertedBy] at h
    exact Value.givenFor_of_convertedBy ho hfit h
  · intro d s n σ₁ a hrun ha hs run st arguments hlen
    have hbuilt : Built σ d s a := built_of_run hrun ha
    rcases hbuilt.orderly.rejected_or_completed hlen run st with
      ⟨place, f, st', hrejected⟩ | ⟨v, xs, st₁, st₂, st₃, hinspect, happroach, hconversions, hcall⟩
    · exact .inl ⟨place, f, st', hrejected, hrejected.perform_call hbuilt.orderly hlen⟩
    · refine .inr ⟨v, xs, st₁, st₂, st₃, hinspect, happroach, hconversions, hcall, ?_⟩
      intro i x hx
      obtain ⟨y, st', hover⟩ := Accessor.handsOver_of_conversions hconversions hx
      obtain ⟨t, ht, hgiven⟩ := hbuilt.givenFor_of_handsOver ho hfit hs hover
      exact ⟨t, y, st', ht, hover, hgiven⟩

end Engine

/-! ## §4  A union object for a float -/

namespace BoundUnion

/-- What the runner of a world is for a call. -/
abbrev runner : Runner := runFunction callDepth

/-- Integers or texts, written with a bar. -/
def wholeOrText : TypeForm := .union 1 .bar [.builtin .int, .builtin .str]

/-- Floats, or what a variable stands for that is bound to integers or texts. -/
def floatOrBound : TypeForm := .union 0 .subscript [.builtin .float, .bounded "V" wholeOrText]

theorem leaves_bound : (TypeForm.bounded "V" wholeOrText).leaves = [.builtin .int, .builtin .str] := by
  have hleaves : (TypeForm.bounded "V" wholeOrText).leaves =
      [TypeForm.builtin .int, .builtin .str].flatMap TypeForm.leaves := TypeForm.leaves_of_union rfl
  simpa using hleaves

theorem leaves_floatOrBound : floatOrBound.leaves = [.builtin .float, .builtin .int, .builtin .str] := by
  have hleaves : floatOrBound.leaves =
      [TypeForm.builtin .float, .bounded "V" wholeOrText].flatMap TypeForm.leaves :=
    TypeForm.leaves_of_union rfl
  simpa [leaves_bound] using hleaves

/-- Instances of floats and of union objects pass; only then are the members tried, and the integers and
texts of the bound are looked for in their turn. -/
theorem converter?_floatOrBound {st : Store} : ∃ e e' e'', st.converter? [] floatOrBound =
    some (.union
      [.float, .union [.int, .instance (.builtin .str) e] [.builtin .int, .builtin .str] e']
      [.builtin .float, .builtin .barUnion] e'') := by
  have hfloat : st.converter? [] (.builtin .float) = some .float := by
    rw [Store.converter?_of_plain rfl rfl rfl]
    rfl
  have hint : st.converter? [] (.builtin .int) = some .int := by
    rw [Store.converter?_of_plain rfl rfl rfl]
    rfl
  have htext : ∃ e, st.converter? [] (.builtin .str) = some (.instance (.builtin .str) e) := by
    rw [Store.converter?_of_plain rfl rfl rfl]
    exact ⟨_, rfl⟩
  obtain ⟨e, htext⟩ := htext
  have hbound : ∃ e', st.converter? [] (.bounded "V" wholeOrText) =
      some (.union [.int, .instance (.builtin .str) e] [.builtin .int, .builtin .str] e') := by
    rw [Store.converter?_of_union rfl rfl rfl]
    simp only [Store.converters?, hint, htext]
    exact ⟨_, rfl⟩
  obtain ⟨e', hbound⟩ := hbound
  rw [floatOrBound, Store.converter?_of_union rfl rfl rfl]
  simp only [Store.converters?, hfloat, hbound]
  exact ⟨e, e', _, rfl⟩

/-- **A union object passes for a float, an integer or a text**: it is of the class of union objects, which
the variable's bound has, and fits none of the three. -/
theorem union_object_passes :
    ((Value.typeForm wholeOrText).coerce [] floatOrBound "value").perform runner .empty =
      (.ok (.typeForm wholeOrText), .empty) ∧
    ¬ Fits .empty (OrObject ((Value.typeForm wholeOrText).SeenAs runner .empty))
      (.typeForm wholeOrText) floatOrBound := by
  refine ⟨?_, ?_⟩
  · obtain ⟨e, e', e'', hc⟩ := @converter?_floatOrBound .empty
    unfold Value.coerce
    rw [perform_bind_get, hc]
    rfl
  · intro h
    obtain ⟨u, hu, hfits⟩ := fits_iff_leaf.mp h
    rw [leaves_floatOrBound] at hu
    have hplain : ∃ b : Builtin, u = .builtin b ∧ (b = .float ∨ b = .int ∨ b = .str) := by
      simp only [List.mem_cons, List.not_mem_nil, or_false] at hu
      rcases hu with rfl | rfl | rfl <;> exact ⟨_, rfl, by decide⟩
    obtain ⟨b, rfl, hb⟩ := hplain
    have hof := hfits.isOf_of_cls (by rcases hb with rfl | rfl | rfl <;> rfl)
      (by rcases hb with rfl | rfl | rfl <;> decide) (by rcases hb with rfl | rfl | rfl <;> rfl)
    rcases hof with hobject | hseen
    · rcases hb with rfl | rfl | rfl <;> cases hobject
    · have hof := hseen.isOf_of_builtin (by rcases hb with rfl | rfl | rfl <;> decide)
      rcases hb with rfl | rfl | rfl <;> cases hof

end BoundUnion

/-! ## §5  An integer for a float -/

namespace Meters

open Engine

theorem ordered_world : world.Ordered := by
  have h₀ := Store.ordered_push (world.classInfo 0) Store.ordered_empty (by decide +kernel)
    (Store.canBeBases_singleton rfl nofun) nofun
  have h₁ := Store.ordered_push (world.classInfo 1) h₀ (by decide +kernel)
    (Store.canBeBases_singleton rfl (by rintro j ⟨⟩; decide)) nofun
  exact h₁.of_classes rfl

/-- The method of a plain tool is called with a float for an integer, and gives it back. -/
theorem call_plain_tool {a : Accessor} (ho : a.Orderly) (hplan : a.plan = plan)
    (hsubject : a.subject = .receiver) :
    (a.call [.object 1, .int 3]).perform runner world = (.ok (.float ⟨0x4008000000000000⟩), world) := by
  have hname : useTool.attributeName = "use" := by decide +kernel
  have hfloat : ((Value.int 3).convertFloat "arg0").perform runner world =
      (.ok (.float ⟨0x4008000000000000⟩), world) := Value.convertFloat_int (by decide +kernel)
  have hinspect : (a.inspect [.object 1, .int 3]).perform runner world = (.ok (), world) := by
    rw [Accessor.inspect_eq_checkReceiver (by rw [hplan]; rfl) (by rw [hplan]; rfl), hplan]
    rfl
  have happroach : (a.approach [.object 1, .int 3]).perform runner world =
      (.ok (.bound (.user 0) (.object 1)), world) := by
    unfold Accessor.approach Accessor.holder
    rw [hsubject, hplan]
    change ((Value.object 1).getAttribute useTool.attributeName).perform runner world = _
    rw [hname]
    exact read_use
  have hconversions : (a.conversions [.object 1, .int 3]).perform runner world =
      (.ok [.float ⟨0x4008000000000000⟩], world) := by
    have hstep : (a.convertStep [.object 1, .int 3] ⟨0, "arg0", .builtin .float, some .float⟩).perform
        runner world = (.ok (.float ⟨0x4008000000000000⟩), world) := by
      unfold Accessor.convertStep Accessor.supplied
      rw [hplan]
      exact hfloat
    have hconverted : a.converted = [⟨0, "arg0", .builtin .float, some .float⟩] := by
      rw [Accessor.converted, hsubject, hplan]
      rfl
    rw [Accessor.conversions, hconverted, List.mapM_cons, perform_bind_ok hstep]
    rfl
  rw [ho.perform_call_eq_phases (by rw [hplan]; rfl), perform_bind_ok hinspect,
    perform_bind_ok happroach, perform_bind_ok hconversions, Accessor.complete, hsubject, hplan]
  rfl

/-- An integer is coerced to a float that fits, and the method of a tool is handed one that fits. -/
theorem integer_is_handed_as_float :
    (∀ w st', ((Value.int 3).coerce [] (.builtin .float) "value").perform runner world = (.ok w, st') →
      w.GivenFor (.int 3) world runner st' (.builtin .float)) ∧
    ∃ n σ a, (build (.proper useTool) (.proper shape)).run.run (.start world) = (.ok n, σ) ∧
      σ.accessors[n]? = some a ∧
      (a.call [.object 1, .int 3]).perform runner world = (.ok (.float ⟨0x4008000000000000⟩), world) ∧
      ∃ xs st₂ st₃, (a.conversions [.object 1, .int 3]).perform runner st₂ = (.ok xs, st₃) ∧
        ∀ i x, xs[i]? = some x → ∃ t y st', useTool.parameters[i]? = some t ∧
          a.HandsOver runner st₂ [.object 1, .int 3] i y x st' ∧ x.GivenFor y world runner st' t := by
  obtain ⟨hcoerce, haccessor⟩ := converted_values_fit (σ := .start world) ordered_world rfl
  refine ⟨fun w st' h => hcoerce _ w _ _ runner st' h, ?_⟩
  obtain ⟨n, σ, a, hrun, ha, hplan, hsubject⟩ := built_useTool
  have hcall := call_plain_tool (built_of_run hrun ha).orderly hplan hsubject
  refine ⟨n, σ, a, hrun, ha, hcall, ?_⟩
  rcases haccessor useTool shape n σ a hrun ha nofun runner world [.object 1, .int 3]
      (by rw [hplan]; rfl) with ⟨place, f, st', -, hfails⟩ | ⟨v, xs, st₁, st₂, st₃, -, -, hgives, -, hfit⟩
  · rw [hcall] at hfails
    cases hfails
  · exact ⟨xs, st₂, st₃, hgives, hfit⟩

end Meters
end MemberAccess
