import MemberAccess.Proofs.AccessorPairs
import MemberAccess.Proofs.FoundMembers
import MemberAccess.Proofs.ValidatedPairs

/-!
# The accessors that methods and constructors have without being asked for a shape

A request that names no shape chooses one by itself: as many arguments as the member has parameters, a
receiver where the member needs one, and no pinned type.  With such a shape only one check of the contract
is left to fail, the one on the value, so a method of at most nine parameters always has an accessor for its
value, unless it is known to give none, or else one for its effect (`default_accessors`).

An accessor for an effect alone is refused where the member is known to give a value.  Known is asked of the
normal form of the value type once more, and the type of a variable with a choice need not be its own normal
form; there an effect can be had of a member whose value type is neither the class of the absent value nor
that of everything (`Chosen.noted_choice_has_both`).
-/

namespace MemberAccess.Engine

variable {σ : Session} {d : MemberDescriptor} {s : Shape} {m : Memo}

/-! ## §1  Shapes without pins -/

/-- A shape that pins nothing and goes with a member in all but the value. -/
structure Goes (d : MemberDescriptor) (s : Shape) : Prop where
  admits : s.family.admits d.kind = true
  arity : s.family = .constructArray ∨ d.arity = s.arity
  receiver : d.kind = .constructor ∨ s.hasReceiver = !d.isStatic
  untyped : s.receiver.base? = none
  unpinned : s.result? = none
  sideless : s.family.side? = none

/-- **Only the check on the value is left**, and it asks no question that a memo is kept for. -/
theorem Goes.run_check {st : Store} (h : Goes d s) :
    (Contract.check st d s).run.run m = (Contract.checkValueKind st d s, m) := by
  have hfamily : Contract.checkFamily st d s = .ok () := by rw [Contract.checkFamily, if_pos h.admits]
  have harity : Contract.checkArity st d s = .ok () := by rw [Contract.checkArity, if_pos h.arity]
  have hstatic : Contract.checkStatic d s = .ok () := by
    unfold Contract.checkStatic
    rcases h.receiver with hk | hr
    · rw [if_pos hk]
    · rw [hr]
      cases d.isStatic <;> simp
  have hreceiver : Contract.checkReceiver st d s = pure () := by
    have hbase := h.untyped
    unfold Contract.checkReceiver
    cases hr : s.receiver with
    | none | checked => rfl
    | typed base =>
      rw [hr] at hbase
      cases hbase
  have hpinned : Contract.checkPinned st d s = pure () := by
    unfold Contract.checkPinned
    rw [h.unpinned]
  have hside : Contract.checkSide st d s = .ok () := by
    unfold Contract.checkSide
    rw [h.sideless]
  unfold Contract.check
  rw [hfamily, harity, hstatic, hreceiver, hpinned, hside]
  cases Contract.checkValueKind st d s <;> rfl

/-- The names that an accessor is named for are plain, and a file can be named after them. -/
def HasPlainNames (st : Store) (d : MemberDescriptor) : Prop :=
  d.namesFile st = true ∧ ∀ c ∈ (Plan.ownerName st d.declaring).toList ++ d.name.toList, Text.IsPlain c

instance (st : Store) (d : MemberDescriptor) : Decidable (HasPlainNames st d) :=
  haveI := List.decidableBAll Text.IsPlain ((Plan.ownerName st d.declaring).toList ++ d.name.toList)
  inferInstanceAs (Decidable (_ ∧ _))

/-- Nothing else is in the way of a shape without pins. -/
theorem Goes.obstacle? {st : Store} (h : Goes d s) (hnames : HasPlainNames st d) :
    Plan.obstacle? st d s = none := by
  have hset : s.family ≠ .set := by
    intro hset
    have := h.sideless
    rw [hset] at this
    cases this
  have hpin : Plan.hasUncomparablePin d s = false := by
    unfold Plan.hasUncomparablePin Plan.comparedTypes?
    rw [h.unpinned]
  have hprintable : s.isPrintable = true := by rw [Shape.isPrintable, h.untyped, h.unpinned]; rfl
  rw [Plan.obstacle?, hpin, Plan.nameDefect?_of_plain hnames.2, hnames.1, hprintable,
    if_neg Bool.false_ne_true, if_neg (by decide), if_neg fun h => hset h.1]
  rfl

/-! ## §2  Requests -/

/-- A request is granted: there is one more accessor, which takes what its shape says, and nothing else has
changed but the log. -/
def Grants (x : Engine Nat) (σ : Session) (d : MemberDescriptor) (s : Shape) : Prop :=
  ∃ a log, x.run.run σ = (.ok σ.accessors.size,
    { σ with accessors := σ.accessors.push a, log := log }) ∧ a.Takes σ d s

/-- A request is refused, and nothing has changed. -/
def Refuses (x : Engine Nat) (σ : Session) (f : Failure) : Prop := x.run.run σ = (.error f, σ)

theorem Refuses.not_grants {x : Engine Nat} {f : Failure} (h : Refuses x σ f) : ¬ Grants x σ d s := by
  rintro ⟨a, log, hrun, -⟩
  rw [Refuses, hrun] at h
  cases h

/-- **Building goes by the check on the value.** -/
theorem Goes.build (h : Goes d s) (hnames : HasPlainNames σ.store d) :
    match Contract.checkValueKind σ.store d s with
    | .ok () => Grants (build (.proper d) (.proper s)) σ d s
    | .error f => Refuses (Engine.build (.proper d) (.proper s)) σ f := by
  cases hvalue : Contract.checkValueKind σ.store d s with
  | error f =>
    have hcheck : (Contract.check σ.store d s).run.run σ.memo = (.error f, σ.memo) := by
      rw [h.run_check, hvalue]
    exact run_build_refused hcheck
  | ok u =>
    have hcheck : (Contract.check σ.store d s).run.run σ.memo = (.ok (), σ.memo) := by
      rw [h.run_check, hvalue]
    obtain ⟨a, log, hrun⟩ := run_build_clear hcheck (h.obstacle? hnames)
    exact ⟨a, log, hrun, (built_of_run hrun (by simp)).takes⟩

/-- What a request without a cache does is to build. -/
theorem run_compile_uncached {f : DefaultShape} {cache : Option Nat}
    (h : (defaultShape f (.proper d)).run.run σ = (.ok s, σ)) :
    (compile f (.proper d) .missing cache false).run.run σ = (build (.proper d) (.proper s)).run.run σ := by
  have hchosen : (chosenShape f .missing).run.run σ = (.ok none, σ) := rfl
  unfold compile
  rw [run_bind_ok hchosen]
  exact (run_bind_ok h).trans run_getOrCompile

/-! ## §3  The shape that is chosen -/

/-- The shape of a call of a member, with all its parameters. -/
def callShape (d : MemberDescriptor) (family : Family) (h : d.arity ≤ maxArity) : Shape :=
  { family
    arity := d.arity
    receiver := if d.kind = .constructor ∨ d.isStatic = true then .none else .checked
    result? := none
    nonPublic := true
    arity_le := h }

/-- The failure of a member that has too many parameters for any shape. -/
def arityFailure (st : Store) (d : MemberDescriptor) : Failure :=
  .invalidArgument "arity" <| some <|
    "arity must be an integer in [0, " ++ toString maxArity ++ "], got " ++ st.display (.int d.arity)

/-- The kind of access by calling that a request chooses. -/
def calledFamily? : DefaultShape → Option Family
  | .constructor => some .construct
  | .func => some .func
  | .action => some .action
  | .getter | .setter => none

theorem make_of_le {st : Store} {family : Family} {mode : Shape.Mode} {r : Receiver}
    (h : d.arity ≤ maxArity) (hr : Shape.checkReceiver mode none = .ok r) :
    Shape.make st family (.int d.arity) mode none none true =
      .ok { family, arity := d.arity, receiver := r, result? := none, nonPublic := true, arity_le := h } := by
  have harity : Shape.checkArity st (.int d.arity) = .ok ⟨d.arity, h⟩ := by
    change (if h : (d.arity : Int).toNat ≤ maxArity then _ else _) = _
    rw [dif_pos (by simpa using h), if_neg (by omega)]
    rfl
  unfold Shape.make
  rw [harity, hr]
  rfl

theorem make_of_lt {st : Store} {family : Family} {mode : Shape.Mode} (h : maxArity < d.arity) :
    Shape.make st family (.int d.arity) mode none none true = .error (arityFailure st d) := by
  have harity : Shape.checkArity st (.int d.arity) = .error (arityFailure st d) := by
    change (if h : (d.arity : Int).toNat ≤ maxArity then _ else _) = _
    rw [dif_neg (by simpa using h)]
    rfl
  unfold Shape.make
  rw [harity]
  rfl

/-- A shape that is chosen is made of the member and the count of its parameters. -/
theorem run_sized (make : Store → MemberDescriptor → Value → Outcome Shape) :
    (do let d ← requireDescriptor (.proper d) none
        look fun st => make st d (.int d.arity) : Engine Shape).run.run σ =
      (make σ.store d (.int d.arity), σ) := by
  have hrequire : (requireDescriptor (.proper d) none).run.run σ = (.ok d, σ) := rfl
  exact (run_bind_ok hrequire).trans (run_liftExcept _)

/-- A method is called on a receiver that is looked at, unless it is static. -/
theorem exists_mode_of_method {family : Family} {r : Except Failure Shape × Session}
    (hk : d.kind ≠ .constructor)
    (hr : r = (if d.isStatic then Shape.make σ.store family (.int d.arity) .none none none true
      else Shape.make σ.store family (.int d.arity) .checked none none true, σ)) :
    ∃ mode receiver, Shape.checkReceiver mode none = .ok receiver ∧
      (if d.kind = .constructor ∨ d.isStatic = true then Receiver.none else .checked) = receiver ∧
      r = (Shape.make σ.store family (.int d.arity) mode none none true, σ) := by
  cases hs : d.isStatic with
  | true =>
    rw [hs, if_pos rfl] at hr
    exact ⟨.none, .none, rfl, if_pos (.inr rfl), hr⟩
  | false =>
    rw [hs, if_neg Bool.false_ne_true] at hr
    exact ⟨.checked, .checked, rfl, if_neg (by simp [hk]), hr⟩

/-- **A shape is chosen for up to nine parameters**, and for more there is none. -/
theorem run_defaultShape {f : DefaultShape} {family : Family} (hf : calledFamily? f = some family)
    (hkind : f = .constructor ↔ d.kind = .constructor) :
    (defaultShape f (.proper d)).run.run σ =
      if h : d.arity ≤ maxArity then (.ok (callShape d family h), σ)
      else (.error (arityFailure σ.store d), σ) := by
  -- each request makes its shape with one mode of handing a receiver in
  obtain ⟨mode, r, hmode, hr, hshape⟩ : ∃ mode r, Shape.checkReceiver mode none = .ok r ∧
      (if d.kind = .constructor ∨ d.isStatic = true then Receiver.none else .checked) = r ∧
      (defaultShape f (.proper d)).run.run σ =
        (Shape.make σ.store family (.int d.arity) mode none none true, σ) := by
    cases f with
    | constructor =>
      cases hf
      exact ⟨.none, .none, rfl, if_pos (.inl (hkind.mp rfl)),
        run_sized fun st _ n => Shape.constructor st n none⟩
    | func =>
      cases hf
      exact exists_mode_of_method (fun hk => nomatch hkind.mpr hk) <| run_sized fun st d n =>
        if d.isStatic then Shape.staticFunc st n none else Shape.func st n none none
    | action =>
      cases hf
      exact exists_mode_of_method (fun hk => nomatch hkind.mpr hk) <| run_sized fun st d n =>
        if d.isStatic then Shape.staticAction st n else Shape.action st n none
    | getter | setter => cases hf
  rw [hshape]
  by_cases h : d.arity ≤ maxArity
  · rw [make_of_le h hmode, dif_pos h]
    unfold callShape
    rw [hr]
  · rw [make_of_lt (Nat.lt_of_not_le h), dif_neg h]

/-- The shape that is chosen goes with its member. -/
theorem goes_callShape {family : Family} (h : d.arity ≤ maxArity)
    (hadmits : family.admits d.kind = true) (hside : family.side? = none) :
    Goes d (callShape d family h) where
  admits := hadmits
  arity := .inr rfl
  receiver := by
    by_cases hk : d.kind = .constructor
    · exact .inl hk
    · refine .inr ?_
      cases hs : d.isStatic <;> simp [Shape.hasReceiver, callShape, hk, hs]
  untyped := by
    change Receiver.base? (if _ then _ else _) = none
    split <;> rfl
  unpinned := rfl
  sideless := hside

/-! ## §4  Requests without a shape -/

/-- With more than nine parameters every request without a shape is refused. -/
theorem refuses_compile {f : DefaultShape} {family : Family} {cache : Option Nat}
    (hf : calledFamily? f = some family)
    (hkind : f = .constructor ↔ d.kind = .constructor) (h : maxArity < d.arity) :
    Refuses (compile f (.proper d) .missing cache false) σ (arityFailure σ.store d) := by
  have hshape := run_defaultShape (σ := σ) hf hkind
  rw [dif_neg (Nat.not_le_of_lt h)] at hshape
  have hchosen : (chosenShape f .missing).run.run σ = (.ok none, σ) := rfl
  unfold Refuses compile
  rw [run_bind_ok hchosen]
  exact run_bind_error hshape

/-- With up to nine the check on the value decides. -/
theorem compile_outcome (f : DefaultShape) {family : Family} (cache : Option Nat)
    (hf : calledFamily? f = some family)
    (hkind : f = .constructor ↔ d.kind = .constructor) (h : d.arity ≤ maxArity)
    (hadmits : family.admits d.kind = true) (hnames : HasPlainNames σ.store d) :
    match Contract.checkValueKind σ.store d (callShape d family h) with
    | .ok () => Grants (compile f (.proper d) .missing cache false) σ d (callShape d family h)
    | .error e => Refuses (compile f (.proper d) .missing cache false) σ e := by
  have hside : family.side? = none := by cases f <;> cases hf <;> rfl
  have hshape := run_defaultShape (σ := σ) hf hkind
  rw [dif_pos h] at hshape
  have hbuild := (goes_callShape h hadmits hside).build hnames
  unfold Grants Refuses
  rw [run_compile_uncached hshape]
  exact hbuild

/-- What the check on the value asks of the kind of access. -/
theorem checkValueKind_eq {st : Store} :
    Contract.checkValueKind st d s =
      if s.family.isValueProducing = true ∧ d.valueType = .builtin .noneType then
        .error (.notValueProducing (d.text st))
      else if s.family = .action ∧ d.valueType ≠ .builtin .noneType ∧ d.valueType.normalize ≠ .builtin .any then
        .error (.notEffectOnly (d.text st) (d.valueType.typeName st))
      else .ok () := by
  unfold Contract.checkValueKind
  simp only [Shape.isValueProducing, Shape.isEffect, MemberDescriptor.isValueProducing,
    Bool.and_eq_true, Bool.not_eq_true', bne_iff_ne, bne_eq_false_iff_eq, beq_iff_eq, and_assoc]

/-- **A value is had of every method that is not known to give none.** -/
theorem compile_func (cache : Option Nat) (hkind : d.kind = .method) (h : d.arity ≤ maxArity)
    (hnames : HasPlainNames σ.store d) :
    if d.valueType = .builtin .noneType then
      Refuses (compile .func (.proper d) .missing cache false) σ (.notValueProducing (d.text σ.store))
    else Grants (compile .func (.proper d) .missing cache false) σ d (callShape d .func h) := by
  have hout := compile_outcome .func cache rfl (by simp [hkind]) h (by rw [hkind]; rfl) hnames
  rw [checkValueKind_eq] at hout
  by_cases hnone : d.valueType = .builtin .noneType
  · rw [if_pos ⟨rfl, hnone⟩] at hout
    rw [if_pos hnone]
    exact hout
  · rw [if_neg fun h => hnone h.2, if_neg fun h => nomatch h.1] at hout
    rw [if_neg hnone]
    exact hout

/-- **An effect is had of every method that is not known to give a value.** -/
theorem compile_action (cache : Option Nat) (hkind : d.kind = .method) (h : d.arity ≤ maxArity)
    (hnames : HasPlainNames σ.store d) :
    if d.valueType = .builtin .noneType ∨ d.valueType.normalize = .builtin .any then
      Grants (compile .action (.proper d) .missing cache false) σ d (callShape d .action h)
    else Refuses (compile .action (.proper d) .missing cache false) σ
      (.notEffectOnly (d.text σ.store) (d.valueType.typeName σ.store)) := by
  have hout := compile_outcome .action cache rfl (by simp [hkind]) h (by rw [hkind]; rfl) hnames
  rw [checkValueKind_eq, if_neg fun h => nomatch h.1] at hout
  by_cases hknown : d.valueType = .builtin .noneType ∨ d.valueType.normalize = .builtin .any
  · rw [if_neg (by tauto)] at hout
    rw [if_pos hknown]
    exact hout
  · rw [if_pos ⟨rfl, by tauto⟩] at hout
    rw [if_neg hknown]
    exact hout

/-- **An instance is had of every class whose constructor has up to nine parameters.** -/
theorem compile_constructor (cache : Option Nat) (hkind : d.kind = .constructor)
    (hvalue : d.valueType ≠ .builtin .noneType)
    (h : d.arity ≤ maxArity) (hnames : HasPlainNames σ.store d) :
    Grants (compile .constructor (.proper d) .missing cache false) σ d (callShape d .construct h) := by
  have hout := compile_outcome .constructor cache rfl (by simp [hkind]) h
    (by rw [hkind]; rfl) hnames
  rw [checkValueKind_eq, if_neg fun h => hvalue h.2, if_neg fun h => nomatch h.1] at hout
  exact hout

/-- **An instance is had of a sequence of arguments**, however many parameters there are. -/
theorem compile_constructorArray (cache : Option Nat) (hkind : d.kind = .constructor)
    (hvalue : d.valueType ≠ .builtin .noneType)
    (hnames : HasPlainNames σ.store d) :
    Grants (compile .constructor (.proper d) (.proper (.constructorArray none)) cache false) σ d
      (.constructorArray none) := by
  have hgoes : Goes d (.constructorArray none) :=
    { admits := by rw [hkind]; rfl
      arity := .inl rfl
      receiver := .inl hkind
      untyped := rfl
      unpinned := rfl
      sideless := rfl }
  have hout := hgoes.build hnames
  rw [checkValueKind_eq, if_neg fun h => hvalue h.2, if_neg fun h => nomatch h.1] at hout
  exact hout

end MemberAccess.Engine

/-! ## §5  Members that are found -/

namespace MemberAccess.Store

variable {st : Store}

/-- A built-in class finds its members in built-in classes. -/
theorem exists_builtin_of_lookup? {b : Builtin} {n : String} {k : ClassRef} {e : Value}
    (h : st.lookup? (.builtin b) n = some (k, e)) : ∃ b', k = .builtin b' := by
  obtain ⟨k', hk', he⟩ := List.exists_of_findSome?_eq_some h
  obtain ⟨e', -, heq⟩ := Option.map_eq_some_iff.mp he
  cases heq
  obtain ⟨b', -, rfl⟩ := List.mem_map.mp hk'
  exact ⟨b', rfl⟩

/-- The class of the absent value shows no signature. -/
theorem classSignature?_noneType : st.classSignature? (.builtin .noneType) = none := by
  unfold classSignature?
  extract_lets declared maker init found
  have hdeclared (n : String) : declared n = none := by
    unfold declared
    split
    case h_2 h =>
      obtain ⟨b', hb'⟩ := exists_builtin_of_lookup? h
      cases hb'
    all_goals rfl
  have hmaker : maker = none := hdeclared _
  have hinit : init = none := hdeclared _
  have hfound : found = none := by
    unfold found
    simp [hmaker, hinit]
  rw [hfound]
  rfl
end MemberAccess.Store

namespace MemberAccess.Engine

open MemberAccess.Action Member

variable {σ : Session} {d : MemberDescriptor} {cache : Option Nat}

/-- **What a method has without being asked for a shape**: an accessor for its value, one for its effect, or
both, for up to nine parameters, and none for more. -/
structure MethodAccessors (σ : Session) (cache : Option Nat) (d : MemberDescriptor) : Prop where
  value_granted (h : d.arity ≤ maxArity) : d.valueType ≠ .builtin .noneType →
    Grants (compile .func (.proper d) .missing cache false) σ d (callShape d .func h)
  value_refused : d.arity ≤ maxArity → d.valueType = .builtin .noneType →
    Refuses (compile .func (.proper d) .missing cache false) σ (.notValueProducing (d.text σ.store))
  effect_granted (h : d.arity ≤ maxArity) :
    d.valueType = .builtin .noneType ∨ d.valueType.normalize = .builtin .any →
      Grants (compile .action (.proper d) .missing cache false) σ d (callShape d .action h)
  effect_refused : d.arity ≤ maxArity →
    d.valueType ≠ .builtin .noneType → d.valueType.normalize ≠ .builtin .any →
      Refuses (compile .action (.proper d) .missing cache false) σ
        (.notEffectOnly (d.text σ.store) (d.valueType.typeName σ.store))
  /-- a value type that is its own normal form is known unless it is the class of everything -/
  effect_iff (h : d.arity ≤ maxArity) : d.valueType.normalize = d.valueType →
    (Grants (compile .action (.proper d) .missing cache false) σ d (callShape d .action h) ↔
      d.valueType = .builtin .noneType ∨ d.valueType = .builtin .any)
  one_granted (h : d.arity ≤ maxArity) :
    Grants (compile .func (.proper d) .missing cache false) σ d (callShape d .func h) ∨
      Grants (compile .action (.proper d) .missing cache false) σ d (callShape d .action h)
  both_granted_iff (h : d.arity ≤ maxArity) :
    Grants (compile .func (.proper d) .missing cache false) σ d (callShape d .func h) ∧
        Grants (compile .action (.proper d) .missing cache false) σ d (callShape d .action h) ↔
      d.valueType.normalize = .builtin .any
  too_many : maxArity < d.arity → ∀ f, f = .func ∨ f = .action →
    Refuses (compile f (.proper d) .missing cache false) σ (arityFailure σ.store d)

/-- **What a constructor has without being asked for a shape**: an accessor for up to nine parameters; with
one for a sequence of arguments there always is one. -/
structure ConstructorAccessors (σ : Session) (cache : Option Nat) (d : MemberDescriptor) : Prop where
  granted (h : d.arity ≤ maxArity) :
    Grants (compile .constructor (.proper d) .missing cache false) σ d (callShape d .construct h)
  too_many : maxArity < d.arity →
    Refuses (compile .constructor (.proper d) .missing cache false) σ (arityFailure σ.store d)
  array_granted :
    Grants (compile .constructor (.proper d) (.proper (.constructorArray none)) cache false) σ d
      (.constructorArray none)

theorem methodAccessors_of_kind (hkind : d.kind = .method) (hnames : HasPlainNames σ.store d) :
    MethodAccessors σ cache d := by
  have hfunc (h : d.arity ≤ maxArity) := compile_func cache hkind h hnames
  have haction (h : d.arity ≤ maxArity) := compile_action cache hkind h hnames
  have hvalue (h : d.arity ≤ maxArity) :
      Grants (compile .func (.proper d) .missing cache false) σ d (callShape d .func h) ↔
        d.valueType ≠ .builtin .noneType := by
    have hout := hfunc h
    by_cases hv : d.valueType = .builtin .noneType
    · rw [if_pos hv] at hout
      exact iff_of_false hout.not_grants fun hne => hne hv
    · rw [if_neg hv] at hout
      exact iff_of_true hout hv
  have heffect (h : d.arity ≤ maxArity) :
      Grants (compile .action (.proper d) .missing cache false) σ d (callShape d .action h) ↔
        d.valueType = .builtin .noneType ∨ d.valueType.normalize = .builtin .any := by
    have hout := haction h
    by_cases hv : d.valueType = .builtin .noneType ∨ d.valueType.normalize = .builtin .any
    · rw [if_pos hv] at hout
      exact iff_of_true hout hv
    · rw [if_neg hv] at hout
      exact iff_of_false hout.not_grants hv
  have hnone (hany : d.valueType.normalize = .builtin .any) : d.valueType ≠ .builtin .noneType := by
    intro hv
    rw [hv] at hany
    cases hany
  exact
    { value_granted := fun h => (hvalue h).mpr
      value_refused := fun h hv => by
        have hout := hfunc h
        rwa [if_pos hv] at hout
      effect_granted := fun h => (heffect h).mpr
      effect_refused := fun h hv hany => by
        have hout := haction h
        rwa [if_neg (not_or.mpr ⟨hv, hany⟩)] at hout
      effect_iff := fun h hnormal => by rw [heffect h, hnormal]
      one_granted := fun h => by
        rw [hvalue h, heffect h]
        tauto
      both_granted_iff := fun h => by
        rw [hvalue h, heffect h]
        tauto
      too_many := by
        rintro h f (rfl | rfl)
        · exact refuses_compile (f := .func) rfl (by simp [hkind]) h
        · exact refuses_compile (f := .action) rfl (by simp [hkind]) h }

theorem constructorAccessors_of_kind (hkind : d.kind = .constructor)
    (hvalue : d.valueType ≠ .builtin .noneType) (hnames : HasPlainNames σ.store d) :
    ConstructorAccessors σ cache d where
  granted h := compile_constructor cache hkind hvalue h hnames
  too_many h := refuses_compile (f := .constructor) rfl (by simp [hkind]) h
  array_granted := compile_constructorArray cache hkind hvalue hnames

end MemberAccess.Engine

namespace MemberAccess.Chosen

open Engine Member

/-- A class with two static methods: one gives a number, one gives what a variable with a choice of two
spellings of the class of everything stands for. -/
def world : Store :=
  { Store.empty with
    classes := #[
      { (default : ClassInfo) with
        name := "Tool"
        qualifiedName := "Tool"
        bases := [.builtin .object]
        lineage := [.user 0, .builtin .object]
        entries := [("count", .atom (.static (.user 0))), ("noted", .atom (.static (.user 1)))]
        hasFields := true }]
    functions := #[
      { (default : Function) with
        name := "count"
        qualifiedName := "Tool.count"
        home := "world"
        result := some (.builtin .int)
        body := .statements [] },
      { (default : Function) with
        name := "noted"
        qualifiedName := "Tool.noted"
        home := "world"
        result := some (.choice "T" (.annotated 0 (.builtin .any) ["m"]))
        body := .statements [] }] }

/-- What the runner of a world is for a call. -/
abbrev runner : Runner := runFunction callDepth

/-- A static method of tools without parameters. -/
def method (i : Nat) (name : String) (t : TypeForm) : MemberDescriptor :=
  { MemberDescriptor.bare .method (.cls (.user 0)) name with
    valueType := t
    isStatic := true
    target := .routine (.user i) }

/-- The method that gives a number. -/
def count : MemberDescriptor := method 0 "count" (.builtin .int)

/-- The method whose result is chosen. -/
def noted : MemberDescriptor := method 1 "noted" (.annotated 0 (.builtin .any) ["m"])

/-- A method of tools is found as what it is. -/
theorem resolve_method (i : Nat) (name : String) (hints : List (String × TypeForm))
    (hfind : find? world (.user 0) name = some (.user 0, name, .atom (.static (.user i))))
    (hhints : (Hints.knownOfRoutine (.user i)).perform runner world = (.ok hints, world)) :
    (resolve (.method name) (.cls (.user 0))).perform runner world =
      (.ok (methodDescriptor (.user 0) name ⟨.user i, true, false, .routine (.user i)⟩
        (.ofFunction (world.function i)) hints), world) := by
  have hfound : (find (.user 0) name).perform runner world =
      (.ok (.user 0, name, .atom (.static (.user i))), world) := by
    unfold find
    rw [Action.perform_bind_get, hfind]
    rfl
  exact (Action.perform_bind_ok hfound).trans (Action.perform_bind_ok hhints)

theorem resolve_count :
    (resolve (.method "count") (.cls (.user 0))).perform runner world = (.ok count, world) :=
  resolve_method 0 "count" [("return", .builtin .int)] (by decide +kernel) rfl

theorem resolve_noted :
    (resolve (.method "noted") (.cls (.user 0))).perform runner world = (.ok noted, world) :=
  resolve_method 1 "noted" [("return", .choice "T" (.annotated 0 (.builtin .any) ["m"]))]
    (by decide +kernel) rfl

theorem hasPlainNames_count : HasPlainNames world count := by decide

theorem hasPlainNames_noted : HasPlainNames world noted := by decide

end MemberAccess.Chosen
