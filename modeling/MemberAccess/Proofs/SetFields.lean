import MemberAccess.Proofs.AccessorPairs
import MemberAccess.Proofs.AssignedAttributes
import MemberAccess.Proofs.ConvertedValues
import MemberAccess.Proofs.FoundMembers
import MemberAccess.Proofs.PinnedResults
import MemberAccess.Proofs.ValidatedPairs

/-!
# Set fields

A field that was set is got as what the value was converted to, and nothing else has moved
(`Engine.set_then_get`).  That is so of every object that keeps the field by itself, where no code comes with
the object and the value; a setter that fails then leaves everything as it is.

Code comes along with the tests for protocols: they read the attributes that a protocol asks for, and reading
a property runs it.  And where the protocol asks for a method under the name of the field, an object that only
follows the protocol is refused by the getter once the field is `None` (`Depot.tests_move_attributes`).
-/

namespace MemberAccess

open MemberAccess.Action

/-! ## §1  Looks at receivers -/

/-- No code comes with an object and a value that is set in it: looking at the one and converting the other
runs no getters and no special methods of theirs, and no rules that were added. -/
structure Store.SetsFreely (st : Store) (x v : Value) (look : Option ClassRef) (converter : Option Converter) :
    Prop where
  receiver {k : ClassRef} : look = some k → st.TestsFreely x k
  value {c : Converter} : converter = some c → st.ConvertsFreely v c

/-- The class that an accessor of a member looks for in receivers: that of the declaring type, unless the
receivers are of a base that was accepted for it. -/
def MemberDescriptor.lookedFor? (d : MemberDescriptor) (base : Option TypeForm) : Option ClassRef :=
  if base.isSome then none else d.declaring.lookedFor?

namespace Accessor

variable {a : Accessor} {look : Option ClassRef} {t : TypeForm} {run : Runner} {st st' : Store} {x : Value}
  {xs : List Value}

/-- A receiver passes the look of an accessor: nothing is looked for, or it is an instance of the class. -/
def Passes (look : Option ClassRef) (run : Runner) (st st' : Store) (x : Value) : Prop :=
  match look with
  | none => st' = st
  | some k => (x.isInstance k).perform run st = (.ok true, st')

/-- What an accessor with a look lets through is there and passes. -/
theorem Orderly.passes_of_inspect (ho : a.Orderly) (hlen : (x :: xs).length = a.plan.parameterNames.length)
    (hr : a.plan.receiver = some ⟨t, look⟩)
    (h : (a.inspect (x :: xs)).perform run st = (.ok (), st')) :
    x ≠ .nothing ∧ Passes look run st st' x := by
  obtain ⟨hs, henv⟩ := ho.lookup_of_cons hlen hr rfl
  rw [inspect_eq_checkReceiver hs hr] at h
  by_cases hx : x = .nothing
  · subst hx
    rw [perform_checkReceiver_nothing henv] at h
    cases h
  refine ⟨hx, ?_⟩
  cases look with
  | none =>
    rw [perform_checkReceiver_none henv hx] at h
    cases h
    rfl
  | some k =>
    rw [perform_checkReceiver_some henv hx] at h
    rcases htest : (x.isInstance k).perform run st with ⟨f | _ | _, st₁⟩
    · rw [htest] at h
      cases h
    · rw [htest] at h
      cases h
    · rw [htest] at h
      cases h
      exact htest

/-- It lets through what is there and passes. -/
theorem Orderly.inspect_of_passes (ho : a.Orderly) (hlen : (x :: xs).length = a.plan.parameterNames.length)
    (hr : a.plan.receiver = some ⟨t, look⟩) (hx : x ≠ .nothing) (h : Passes look run st st' x) :
    (a.inspect (x :: xs)).perform run st = (.ok (), st') := by
  obtain ⟨hs, henv⟩ := ho.lookup_of_cons hlen hr rfl
  rw [inspect_eq_checkReceiver hs hr]
  cases look with
  | none =>
    cases h
    exact perform_checkReceiver_none henv hx
  | some k => rw [perform_checkReceiver_some henv hx, show (x.isInstance k).perform run st = _ from h]

/-- An object that has passed passes again after one of its attributes was assigned, unless `None` was assigned
and the object only follows the protocol that is looked for. -/
theorem passes_again {i : Address} {v w : Value} {st₁ : Store} {c : Option Converter}
    (hfree : st.SetsFreely (.object i) v look c) (hpass : Passes look run st st₁ (.object i))
    (hleads : st.Leads st' i w) (hkeeps : st.KeepsClasses st')
    (hw : ∀ k, look = some k → w ≠ .nothing ∨ st.descends (st.object i).cls k = true) :
    ∃ st₂, st'.Grows st₂ ∧ Passes look run st' st₂ (.object i) := by
  cases look with
  | none => exact ⟨st', .refl st', rfl⟩
  | some k =>
    obtain ⟨st₂, hagain, hgrows⟩ := hleads.isInstance_again (hfree.receiver rfl)
      ((hfree.receiver rfl).of_keeps hkeeps) (hw k rfl) hpass
    exact ⟨st₂, hgrows, hagain⟩

end Accessor

/-! ## §2  Getters and setters -/

/-- A shape that is equal to one without a pinned type has none. -/
theorem Shape.unpinned_congr {s s' : Shape} (h : s.equal s' = true) (hs' : s'.result? = none) :
    s.result? = none := by
  rcases Shape.result_congr h with ⟨hnone, -⟩ | ⟨t, t', -, hsome, -⟩
  · exact hnone
  · rw [hs'] at hsome
    cases hsome

namespace Member

/-- What asking for a field gives. -/
theorem exists_of_resolve_field {run : Runner} {st st' : Store} {c : ClassRef} {name : String}
    {d : MemberDescriptor} (h : (resolve (.field name) (.cls c)).perform run st = (.ok d, st')) :
    ∃ k hint, d = fieldDescriptor k name hint (!isFrozen st c) := by
  unfold resolve at h
  obtain ⟨c', st₁, hc, hrest⟩ := exists_of_perform_bind h
  cases hc
  obtain ⟨k, hints, -, -, -, hd⟩ := exists_of_fieldOf hrest
  exact ⟨k, _, hd⟩

end Member

namespace Engine

variable {σ : Session} {d : MemberDescriptor} {base : Option TypeForm} {nonPublic : Bool}
  {a b : Accessor} {s s₀ : Shape} {run : Runner} {st st' : Store} {x v : Value}

section
variable (h : Built σ d s a) (hkind : d.kind = .field) (hinstance : d.isStatic = false)
include h hkind hinstance

/-- An accessor of a field of instances looks at its receiver. -/
theorem Built.receiver_of_field (hs : s.equal s₀ = true) (hs₀ : s₀.receiver = .ofBase base) :
    a.plan.receiver = some ⟨d.declaring, d.lookedFor? base⟩ := by
  have hk : d.kind ≠ .constructor := by simp [hkind]
  rw [h.receiver, Plan.receiverStep_congr hs]
  cases base with
  | none => exact Plan.receiverStep_of_checked hs₀ hk hinstance
  | some t =>
    have hs' : s₀ = { s₀ with receiver := .typed t } := by rw [← show s₀.receiver = .typed t from hs₀]
    rw [hs']
    exact Plan.receiverStep_typed hk hinstance

/-- It is made on its receiver. -/
theorem Built.subject_of_field (hs : s.equal s₀ = true) (hs₀ : s₀.receiver = .ofBase base)
    (hf : s.family.operation ≠ .construct) : a.subject = .receiver := by
  rw [h.subject, Plan.subject, h.operation, if_neg hf, h.receiver_of_field hkind hinstance hs hs₀]
  rfl

/-- Its parameters are the receiver and what is set, if anything is. -/
theorem Built.names_of_field (hs : s.equal s₀ = true) (harity : s₀.arity = 0)
    (hf : s.family ≠ .constructArray) :
    a.plan.parameterNames = "instance" :: if s.family = .set then ["value"] else [] := by
  have hcount : d.arity = 0 := by
    rw [(arity_of_checkArity h.arity).resolve_left hf, Shape.arity_congr hs, harity]
  rw [h.takes.parameters, MemberDescriptor.parametersFor, if_neg hf]
  simp [hinstance, hkind, hcount]

theorem Built.length_of_getter (hs : s.equal (Shape.getter base none nonPublic) = true) :
    [x].length = a.plan.parameterNames.length := by
  have hfamily : s.family = .get := Shape.family_congr hs
  rw [h.names_of_field hkind hinstance hs rfl (by simp [hfamily]), if_neg (by simp [hfamily])]
  rfl

/-- **A getter of a field reads it** from a receiver that passes. -/
theorem Built.call_getter (hs : s.equal (Shape.getter base none nonPublic) = true) (hx : x ≠ .nothing)
    (hpass : Accessor.Passes (d.lookedFor? base) run st st' x) :
    (a.call [x]).perform run st = (x.getAttribute d.attributeName).perform run st' := by
  have hfamily : s.family = .get := Shape.family_congr hs
  have hlen : [x].length = a.plan.parameterNames.length := h.length_of_getter hkind hinstance hs
  have hsubject := h.subject_of_field hkind hinstance hs rfl (by rw [hfamily]; nofun)
  have hoperation : a.plan.operation = .get := by rw [h.operation, hfamily]; rfl
  have hinspect := h.orderly.inspect_of_passes hlen (h.receiver_of_field hkind hinstance hs rfl) hx hpass
  have happroach : a.approach [x] = pure x := by
    rw [Accessor.approach, hsubject, hoperation, Accessor.holder, hsubject]
    rfl
  have hconversions : a.conversions [x] = pure [] := by
    rw [Accessor.conversions, Accessor.converted, hsubject, hoperation]
    rfl
  have hcomplete : a.complete x [] = x.getAttribute d.attributeName := by
    rw [Accessor.complete, hsubject, hoperation, h.descriptor]
  have hfinish : Accessor.finish a.plan = pure := by
    funext y
    rw [finish_of_built h (by rw [Shape.isValueProducing, hfamily]; rfl), Plan.resultConverter?,
      Shape.unpinned_congr hs rfl]
    rfl
  rw [h.orderly.perform_call_eq_phases hlen, perform_bind_ok hinspect, happroach, hconversions]
  simp only [pure_bind]
  rw [hcomplete, hfinish, bind_pure]

omit hkind hinstance in
/-- A setter converts the value alone, for the type of the member. -/
theorem Built.converted_of_setter (hs : s.equal (Shape.setter base none nonPublic) = true) :
    a.converted = [⟨0, "value", d.valueType, σ.store.converter? σ.rules d.valueType⟩] := by
  have hfamily : s.family = .set := Shape.family_congr hs
  have htaken : d.takenTypes s = [d.valueType] := by rw [MemberDescriptor.takenTypes, hfamily]
  have hconverter : Plan.slotConverter? σ.store σ.rules d s d.valueType =
      σ.store.converter? σ.rules d.valueType :=
    Plan.slotConverter?_of_unpinned (fun _ => Shape.unpinned_congr hs rfl) (by simp [htaken])
  have hname : s.slotName 0 = "value" := by rw [Shape.slotName, hfamily]
  rw [h.converted_eq, Plan.slotSteps, htaken, ← hconverter, ← hname]
  rfl

/-- The value is what it is given behind the receiver. -/
theorem Built.supplied_of_setter (hs : s.equal (Shape.setter base none nonPublic) = true) :
    a.supplied [x, v] 0 = pure v := by
  have hnone : a.plan.arrayArity = none := by
    rw [h.arrayArity, if_neg (by simp [Shape.family_congr hs, Shape.setter])]
  rw [Accessor.supplied, hnone, h.receiver_of_field hkind hinstance hs rfl]
  rfl

theorem Built.convertStep_of_setter (hs : s.equal (Shape.setter base none nonPublic) = true) :
    a.convertStep [x, v] ⟨0, "value", d.valueType, σ.store.converter? σ.rules d.valueType⟩ =
      v.convertedBy (σ.store.converter? σ.rules d.valueType) "value" := by
  rw [Accessor.convertStep, h.supplied_of_setter hkind hinstance hs, pure_bind]

variable (hs : s.equal (Shape.setter base none nonPublic) = true)
include hs

theorem Built.length_of_setter : [x, v].length = a.plan.parameterNames.length := by
  have hfamily : s.family = .set := Shape.family_congr hs
  rw [h.names_of_field hkind hinstance hs rfl (by simp [hfamily]), if_pos hfamily]
  rfl

theorem Built.subject_of_setter : a.subject = .receiver ∧ a.plan.operation = .set := by
  have hfamily : s.family = .set := Shape.family_congr hs
  refine ⟨h.subject_of_field hkind hinstance hs rfl (by rw [hfamily]; nofun), ?_⟩
  rw [h.operation, hfamily]
  rfl

/-- Nothing is read from the receiver before the value is converted. -/
theorem Built.approach_of_setter : a.approach [x, v] = pure x := by
  obtain ⟨hsubject, hoperation⟩ := h.subject_of_setter hkind hinstance hs
  rw [Accessor.approach, hsubject, hoperation, Accessor.holder, hsubject]
  rfl

/-- **A setter of a field sets it to what the value is converted to**, on a receiver that passes. -/
theorem Built.call_setter_of_passes {st₁ st₂ : Store} {w : Value} (hx : x ≠ .nothing)
    (hpass : Accessor.Passes (d.lookedFor? base) run st st₁ x)
    (hconverted : (v.convertedBy (σ.store.converter? σ.rules d.valueType) "value").perform run st₁ =
      (.ok w, st₂)) :
    (a.call [x, v]).perform run st =
      (x.setAttribute d.attributeName w >>= fun _ => pure .nothing).perform run st₂ := by
  have hlen : [x, v].length = a.plan.parameterNames.length := h.length_of_setter hkind hinstance hs
  obtain ⟨hsubject, hoperation⟩ := h.subject_of_setter hkind hinstance hs
  have hinspect := h.orderly.inspect_of_passes hlen
    (h.receiver_of_field hkind hinstance hs rfl) hx hpass
  have hconversions : (a.conversions [x, v]).perform run st₁ = (.ok [w], st₂) := by
    rw [Accessor.conversions, h.converted_of_setter hs, List.mapM_cons,
      h.convertStep_of_setter hkind hinstance hs, perform_bind_ok hconverted]
    rfl
  have hcomplete : a.complete x [w] = x.setAttribute d.attributeName w >>= fun _ => pure .nothing := by
    rw [Accessor.complete, hsubject, hoperation, h.descriptor]
  have hfinish : Accessor.finish a.plan = fun _ => pure .nothing := by
    funext y
    rw [Accessor.finish, hoperation]
  rw [h.orderly.perform_call_eq_phases hlen, perform_bind_ok hinspect,
    h.approach_of_setter hkind hinstance hs, pure_bind, perform_bind_ok hconversions, hcomplete, hfinish,
    bind_assoc]
  simp only [pure_bind]

/-- **It does so, or the call is rejected.** -/
theorem Built.call_setter (run : Runner) (st : Store) (x v : Value) :
    (∃ place f st', a.RejectedAt run st [x, v] place f st' ∧
      (a.call [x, v]).perform run st = (.error f, st')) ∨
    ∃ w st₁ st₂, x ≠ .nothing ∧ Accessor.Passes (d.lookedFor? base) run st st₁ x ∧
      (v.convertedBy (σ.store.converter? σ.rules d.valueType) "value").perform run st₁ = (.ok w, st₂) ∧
      (a.call [x, v]).perform run st =
        (x.setAttribute d.attributeName w >>= fun _ => pure .nothing).perform run st₂ := by
  have hlen : [x, v].length = a.plan.parameterNames.length := h.length_of_setter hkind hinstance hs
  rcases h.orderly.rejected_or_completed hlen run st with
    ⟨place, f, st', hrejected⟩ | ⟨y, xs, st₁, st₂, st₃, hinspect, happroach, hconversions, -⟩
  · exact .inl ⟨place, f, st', hrejected, hrejected.perform_call h.orderly hlen⟩
  obtain ⟨hx, hpass⟩ := h.orderly.passes_of_inspect hlen (h.receiver_of_field hkind hinstance hs rfl) hinspect
  obtain rfl : st₂ = st₁ := by
    rw [h.approach_of_setter hkind hinstance hs] at happroach
    cases happroach
    rfl
  rw [Accessor.conversions, h.converted_of_setter hs, List.mapM_cons,
    h.convertStep_of_setter hkind hinstance hs] at hconversions
  obtain ⟨w, st₄, hconverted, hrest⟩ := exists_of_perform_bind hconversions
  cases hrest
  exact .inr ⟨w, st₂, st₃, hx, hpass, hconverted,
    h.call_setter_of_passes hkind hinstance hs hx hpass hconverted⟩

/-- An absent receiver is refused, whatever is to be set. -/
theorem Built.call_setter_nothing :
    (a.call [.nothing, v]).perform run st = (.error (.nullReceiver (d.text st)), st) := by
  have hrejected : a.RejectedAt run st [.nothing, v] "instance"
      (.nullReceiver (a.plan.descriptor.text st)) st :=
    .absentReceiver (h.receiver_of_field hkind hinstance hs rfl) rfl
  rw [h.descriptor] at hrejected
  exact hrejected.perform_call h.orderly (h.length_of_setter hkind hinstance hs)

/-- Then no code comes with the arguments of the setter. -/
theorem Built.bringsNoCode_of_setter
    (hfree : st.SetsFreely x v (d.lookedFor? base) (σ.store.converter? σ.rules d.valueType)) :
    a.BringsNoCode st [x, v] where
  sequence hsome := by
    rw [h.arrayArity, if_neg (by simp [Shape.family_congr hs, Shape.setter])] at hsome
    cases hsome
  receiver hr := by
    rw [h.receiver_of_field hkind hinstance hs rfl] at hr
    exact hfree.receiver (congrArg ReceiverStep.check (Option.some.inj hr))
  member _ _ hset := by
    rw [h.operation, Shape.family_congr hs] at hset
    exact absurd rfl hset
  values := by
    intro r c hr hc run st₁ y st₂ hgrows hsupplied
    rw [h.converted_of_setter hs, List.mem_singleton] at hr
    subst hr
    rw [h.supplied_of_setter hkind hinstance hs] at hsupplied
    cases hsupplied
    exact (hfree.value hc).of_grows hgrows

/-- **Where no code comes with the receiver and the value**, looking at the one and converting the other adds at
most new objects. -/
theorem Built.grows_of_setter {st₁ st₂ : Store} {w : Value}
    (hfree : st.SetsFreely x v (d.lookedFor? base) (σ.store.converter? σ.rules d.valueType))
    (hx : x ≠ .nothing) (hpass : Accessor.Passes (d.lookedFor? base) run st st₁ x)
    (hconverted : (v.convertedBy (σ.store.converter? σ.rules d.valueType) "value").perform run st₁ =
      (.ok w, st₂)) :
    st.Grows st₂ := by
  have hlen : [x, v].length = a.plan.parameterNames.length := h.length_of_setter hkind hinstance hs
  have hcode := h.bringsNoCode_of_setter hkind hinstance hs hfree
  have hinspects : Tame run run st.Grows (fun _ => True) (a.inspect [x, v]) st :=
    hcode.tame_inspect h.orderly hlen
  have h₁ := hinspects.keeps
  rw [h.orderly.inspect_of_passes hlen (h.receiver_of_field hkind hinstance hs rfl) hx hpass] at h₁
  have hconverts : Tame run run st.Grows (BlamesOnly "value") _ st₁ := hcode.tame_convertStep rfl h₁
    (by rw [h.converted_of_setter hs]; exact List.mem_singleton_self _)
  have h₂ := hconverts.keeps
  rw [h.convertStep_of_setter hkind hinstance hs, hconverted] at h₂
  exact h₂

end

/-! ## §3  Set, then get -/

/-- The attribute of an object is what a value was converted to, and nothing else has moved: a getter gives
it. -/
theorem Built.gets_assigned {i : Address} {name : String} {w : Value} {st₁ : Store}
    (h : Built σ d s a) (hkind : d.kind = .field) (hinstance : d.isStatic = false)
    (hs : s.equal (Shape.getter base none nonPublic) = true) (hname : d.attributeName = name)
    (hplain : st.KeepsPlainly i name) (hgrows : (st.assign i name w).Grows st₁)
    (hpass : Accessor.Passes (d.lookedFor? base) run (st.assign i name w) st₁ (.object i)) :
    (a.call [.object i]).perform run (st.assign i name w) = (.ok w, st₁) := by
  have hthere : Value.object i ≠ .nothing := by simp
  rw [h.call_getter hkind hinstance hs hthere hpass, hname]
  exact Store.perform_getAttribute_assign hplain hgrows

/-- **What a getter and a setter of a field come to together**: the setter refuses an absent receiver; it
returns when the object has passed and the value was converted, and then the field is what the value was
converted to, which the getter gives; and nothing else has moved, and nothing at all where the setter fails.
The last two are said of calls that no code comes with: code may move what it likes. -/
structure SetsAndGets (a b : Accessor) (d : MemberDescriptor) (base : Option TypeForm) (name : String)
    (c : Option Converter) : Prop where
  absent {run : Runner} {st : Store} {v : Value} :
    (b.call [.nothing, v]).perform run st = (.error (.nullReceiver (d.text st)), st)
  returns {run : Runner} {st st' : Store} {i : Address} {v y : Value} :
    (b.call [.object i, v]).perform run st = (.ok y, st') → ∃ w st₁ st₂,
      Accessor.Passes (d.lookedFor? base) run st st₁ (.object i) ∧
      (v.convertedBy c "value").perform run st₁ = (.ok w, st₂) ∧
      (st₂.KeepsPlainly i name → st₂.MovesOnly st' i name ∧
        ∀ st₃, st'.Grows st₃ → Accessor.Passes (d.lookedFor? base) run st' st₃ (.object i) →
          (a.call [.object i]).perform run st' = (.ok w, st₃)) ∧
      (st.KeepsPlainly i name → st.SetsFreely (.object i) v (d.lookedFor? base) c →
        st.MovesOnly st' i name ∧
        ((∀ k, d.lookedFor? base = some k → w ≠ .nothing ∨ st.descends (st.object i).cls k = true) →
          ∃ st₃, st'.Grows st₃ ∧ (a.call [.object i]).perform run st' = (.ok w, st₃)))
  fails {run : Runner} {st st' : Store} {i : Address} {v : Value} {f : Failure} :
    (b.call [.object i, v]).perform run st = (.error f, st') → st.KeepsPlainly i name →
      st.SetsFreely (.object i) v (d.lookedFor? base) c → st.Grows st'

/-- So it is of what was built, at whatever times. -/
theorem setsAndGets_of_built {σ σ' : Session} {s s' : Shape} {name : String}
    (h : Built σ d s a) (hs : s.equal (Shape.getter base none nonPublic) = true)
    (h' : Built σ' d s' b) (hs' : s'.equal (Shape.setter base none nonPublic) = true)
    (hkind : d.kind = .field) (hinstance : d.isStatic = false) (hname : d.attributeName = name) :
    SetsAndGets a b d base name (σ'.store.converter? σ'.rules d.valueType) where
  absent := h'.call_setter_nothing hkind hinstance hs'
  returns := by
    intro run st st' i v y hreturns
    rcases h'.call_setter hkind hinstance hs' run st (.object i) v with
      ⟨place, f, st₁, -, hcall⟩ | ⟨w, st₁, st₂, hx, hpass, hconverted, hcall⟩
    · rw [hcall] at hreturns
      cases hreturns
    rw [hcall, hname] at hreturns
    obtain ⟨_, st₃, hset, hrest⟩ := exists_of_perform_bind hreturns
    cases hrest
    refine ⟨w, st₁, st₂, hpass, hconverted, ?_, ?_⟩
    · intro hplain
      obtain rfl := Store.eq_assign_of_setAttribute hplain hset
      exact ⟨Store.movesOnly_assign hplain, fun st₄ => h.gets_assigned hkind hinstance hs hname hplain⟩
    · intro hplain hfree
      have hgrows := h'.grows_of_setter hkind hinstance hs' hfree hx hpass hconverted
      have hplain' := hplain.of_keeps hgrows.keepsClasses
      obtain rfl := Store.eq_assign_of_setAttribute hplain' hset
      refine ⟨(Store.movesOnly_assign hplain').of_grows hgrows hplain.known, ?_⟩
      intro hw
      obtain ⟨st₄, hgrows', hagain⟩ := Accessor.passes_again hfree hpass
        ((Store.leads_assign hplain'.known).of_grows hplain.known hgrows)
        (hgrows.keepsClasses.trans (Store.keepsClasses_assign hplain'.known)) hw
      exact ⟨st₄, hgrows', h.gets_assigned hkind hinstance hs hname hplain' hgrows' hagain⟩
  fails := by
    intro run st st' i v f hfails hplain hfree
    rcases h'.call_setter hkind hinstance hs' run st (.object i) v with
      ⟨place, f', st₁, hrejected, hcall⟩ | ⟨w, st₁, st₂, hx, hpass, hconverted, hcall⟩
    · rw [hcall] at hfails
      cases hfails
      exact (hrejected.without_effect h'.orderly (h'.length_of_setter hkind hinstance hs')
        (h'.bringsNoCode_of_setter hkind hinstance hs' hfree)).1
    · -- past the rejections only setting the attribute can fail
      have hgrows := h'.grows_of_setter hkind hinstance hs' hfree hx hpass hconverted
      rw [hcall, hname] at hfails
      rcases Store.perform_setAttribute run w (hplain.of_keeps hgrows.keepsClasses) with
        ⟨kind, -, hset⟩ | hset
      · rw [perform_bind_error hset] at hfails
        cases hfails
        exact hgrows
      · rw [perform_bind_ok hset] at hfails
        cases hfails

/-- **Set, then get, and nothing else moves**: of a field of instances that was found under a name which is
used as it is, a getter and a setter that are asked for together do so.  The conversion is that of the session
in which the setter was built, which is the one of the request unless a cache kept the setter. -/
theorem set_then_get {run₀ : Runner} {st₀ st₁ : Store} {c : ClassRef} {name : String} {d : MemberDescriptor}
    {σ σ₁ : Session} {base : Option TypeForm} {nonPublic useCache : Bool} {cache : Option Nat} {g k : Nat}
    (hd : (Member.resolve (.field name) (.cls c)).perform run₀ st₀ = (.ok d, st₁))
    (hinstance : d.isStatic = false) (hname : d.attributeName = name)
    (hcache : cache.getD Session.defaultCache < σ.caches.size)
    (hgetter : KeepsFor σ (cache.getD Session.defaultCache) d (Shape.getter base none nonPublic))
    (hsetter : KeepsFor σ (cache.getD Session.defaultCache) d (Shape.setter base none nonPublic))
    (hpair : (compilePair .field (.proper d) base none nonPublic cache useCache).run.run σ =
      (.ok ⟨some g, some k⟩, σ₁)) :
    ∃ a b σ₂, σ₁.accessors[g]? = some a ∧ σ₁.accessors[k]? = some b ∧
      (¬ IsKept σ cache useCache d (Shape.setter base none nonPublic) → ChoosesAlike σ σ₂) ∧
      SetsAndGets a b d base name (σ₂.store.converter? σ₂.rules d.valueType) := by
  have hkind : d.kind = .field := by
    obtain ⟨_, _, rfl⟩ := Member.exists_of_resolve_field hd
    rfl
  obtain ⟨σ₃, a, σ₂, b, ⟨ha, s, hs, hbuilt⟩, ⟨hb, s', hs', hbuilt'⟩, halike⟩ :=
    made_of_compilePair hcache hgetter hsetter hpair
  exact ⟨a, b, σ₂, ha, hb, halike,
    setsAndGets_of_built hbuilt hs hbuilt' hs' hkind hinstance hname⟩

end Engine

/-! ## §4  Crates that take note of being looked at -/

namespace Depot

open Engine

/-- A crate with its label and its item, and a note that it was looked at. -/
def crate (label item : Value) (isSeen : Bool) : Object :=
  ⟨.user 1, .plain, [], (.user 1, "label", label) :: (.user 1, "item", item) ::
    if isSeen then [(.user 1, "seen", .int 1)] else []⟩

/-- A rack, with its weight if that was set. -/
def rack (weight? : Option Value) : Object :=
  ⟨.user 3, .plain, [], weight?.toList.map fun w => (.user 2, "weight", w)⟩

/-- What is filed has a size, which is looked up by a getter that takes note of it. -/
def world : Store :=
  { Store.empty with
    classes := #[
      { (default : ClassInfo) with
        name := "HasSize"
        qualifiedName := "HasSize"
        bases := [.builtin .protocol]
        lineage := [.user 0, .builtin .protocol, .builtin .generic, .builtin .object]
        annotations := [("item", .cls (.user 0)), ("label", .builtin .any)]
        entries := [("size", .atom (.property 0)), ("label", .routine (.user 0)), ("item", .int 0)]
        isProtocol := true
        isRuntimeProtocol := true },
      { (default : ClassInfo) with
        name := "Crate"
        qualifiedName := "Crate"
        bases := [.builtin .object]
        lineage := [.user 1, .builtin .object]
        entries := [("size", .atom (.property 0)), ("label", .atom (.slot (.user 1) "label")),
          ("item", .atom (.slot (.user 1) "item")), ("seen", .atom (.slot (.user 1) "seen"))] },
      { (default : ClassInfo) with
        name := "Shelf"
        qualifiedName := "Shelf"
        bases := [.builtin .object]
        lineage := [.user 2, .builtin .object]
        annotations := [("weight", .builtin .float)]
        entries := [("weight", .atom (.slot (.user 2) "weight"))] },
      { (default : ClassInfo) with
        name := "Rack"
        qualifiedName := "Rack"
        bases := [.user 2]
        lineage := [.user 3, .user 2, .builtin .object] }]
    functions := #[
      { (default : Function) with
        name := "size"
        qualifiedName := "Crate.size"
        parameters := [⟨"self", .positional, none, none⟩]
        body := .statements [.set "seen" (.constant (.int 1)), .result (.constant (.int 1))] }]
    properties := #[⟨some 0, none⟩]
    objects := #[crate (.int 1) (.int 0) false, crate (.int 1) (.int 0) false, rack none] }

/-- The world with two crates and a rack. -/
def holding (x y r : Object) : Store := { world with objects := #[x, y, r] }

theorem classes_holding {x y r : Object} : (holding x y r).classes = world.classes := rfl

/-- What the runner of the world is for a call. -/
abbrev runner : Runner := runFunction callDepth

/-- What has a size has an item that has a size. -/
def item : MemberDescriptor := Member.fieldDescriptor (.user 0) "item" (.cls (.user 0)) true

/-- Its label can be anything. -/
def label : MemberDescriptor := Member.fieldDescriptor (.user 0) "label" (.builtin .any) true

/-- The weight of a shelf, and so of a rack. -/
def weight : MemberDescriptor := Member.fieldDescriptor (.user 2) "weight" (.builtin .float) true

theorem resolve_item : (Member.resolve (.field "item") (.cls (.user 0))).perform runner world =
    (.ok item, world) := rfl

theorem resolve_label : (Member.resolve (.field "label") (.cls (.user 0))).perform runner world =
    (.ok label, world) := rfl

theorem resolve_weight : (Member.resolve (.field "weight") (.cls (.user 3))).perform runner world =
    (.ok weight, world) := rfl

/-- The fields have their pairs of accessors. -/
theorem exists_pair {d : MemberDescriptor} (hd : d = item ∨ d = label ∨ d = weight) :
    ∃ g k σ₁, (compilePair .field (.proper d) none none true none false).run.run (.start world) =
      (.ok ⟨some g, some k⟩, σ₁) := by
  have hget : (Contract.check world d (Shape.getter none none true)).run.run .empty = (.ok (), .empty) := by
    rcases hd with rfl | rfl | rfl <;> rfl
  have hset : (Contract.check world d (Shape.setter none none true)).run.run .empty = (.ok (), .empty) := by
    rcases hd with rfl | rfl | rfl <;> rfl
  have hclear : Plan.obstacle? world d (Shape.getter none none true) = none := by
    rcases hd with rfl | rfl | rfl <;> decide +kernel
  have hclear' : Plan.obstacle? world d (Shape.setter none none true) = none := by
    rcases hd with rfl | rfl | rfl <;> decide +kernel
  have hsides : d.kind = .field ∧ d.readable = true ∧ d.writable = true := by
    rcases hd with rfl | rfl | rfl <;> exact ⟨rfl, rfl, rfl⟩
  exact exists_pair_of_clear (σ := .start world) hsides.1 hsides.2.1 hsides.2.2 hget hclear hset hclear'

/-- They were built in a new session. -/
theorem built_pair {d : MemberDescriptor} {g k : Nat} {σ₁ : Session}
    (h : (compilePair .field (.proper d) none none true none false).run.run (.start world) =
      (.ok ⟨some g, some k⟩, σ₁)) :
    ∃ a b σ₂ σ₃ s s', σ₁.accessors[g]? = some a ∧ σ₁.accessors[k]? = some b ∧
      s.equal (Shape.getter none none true) = true ∧ Built σ₂ d s a ∧
      s'.equal (Shape.setter none none true) = true ∧ Built σ₃ d s' b ∧
      σ₃.store.converter? σ₃.rules d.valueType = world.converter? [] d.valueType := by
  obtain ⟨σ₂, a, σ₃, b, ⟨ha, s, hs, hbuilt⟩, ⟨hb, s', hs', hbuilt'⟩, halike⟩ :=
    made_of_compilePair (by decide) (keepsFor_start rfl) (keepsFor_start rfl) h
  obtain ⟨hstore, hrules⟩ := halike (by rintro ⟨⟨⟩, -⟩)
  refine ⟨a, b, σ₂, σ₃, s, s', ha, hb, hs, hbuilt, hs', hbuilt', ?_⟩
  rw [hstore, hrules]
  rfl

/-- No class of the world has special methods. -/
theorem lookup_special {n : String} (hn : n ∈ ["__index__", "__float__", "__complex__", "__class__",
    "__getattribute__", "__getattr__", "__setattr__", "__subclasshook__"]) (i : Nat) :
    (world.classInfo i).entries.lookup n = none := by
  have hnames : ∀ j : Fin 4, ∀ n ∈ ["__index__", "__float__", "__complex__", "__class__",
      "__getattribute__", "__getattr__", "__setattr__", "__subclasshook__"],
      (world.classInfo j).entries.lookup n = none := by decide
  match i with
  | 0 => exact hnames 0 n hn
  | 1 => exact hnames 1 n hn
  | 2 => exact hnames 2 n hn
  | 3 => exact hnames 3 n hn
  | _ + 4 => rfl

theorem readsPlainly (x y r : Object) (v : Value) : (holding x y r).ReadsPlainly v where
  getAttribute := Store.specialMethod?_of_entries fun i _ => lookup_special (by simp) i
  getMissing := Store.specialMethod?_of_entries fun i _ => lookup_special (by simp) i

/-! ### Crates are looked at -/

/-- A crate that gives its size, its label and its item has a size, unless there is no label. -/
theorem look_eq {i : Address} {x y r x' y' : Object} {n l m : Value}
    (hcls : ((holding x y r).object i).cls = .user 1)
    (hsize : ((Value.object i).readAttribute "size").perform runner (holding x y r) =
      (.ok n, holding x' y' r))
    (hlabel : ((Value.object i).readAttribute "label").perform runner (holding x' y' r) =
      (.ok l, holding x' y' r))
    (hitem : ((Value.object i).readAttribute "item").perform runner (holding x' y' r) =
      (.ok m, holding x' y' r)) :
    ((Value.object i).isInstance (.user 0)).perform runner (holding x y r) =
      (.ok (l != .nothing), holding x' y' r) := by
  have hclass : (holding x y r).classOf (.object i) = .user 1 := hcls
  have hnames : (holding x y r).protocolMembers (.user 0) = ["size", "label", "item"] := by
    rw [Store.protocolMembers_congr classes_holding]
    decide +kernel
  have hmethods : (holding x y r).hasMethodsOnly (.user 0) = false := by
    rw [Store.hasMethodsOnly_congr classes_holding]
    decide +kernel
  have hfollows : (holding x y r).descends (.user 1) (.user 0) = false := by
    rw [Store.descends_congr classes_holding]
    decide
  have hasks : (holding x y r).asksMethod (.user 0) "size" = false ∧
      (holding x' y' r).asksMethod (.user 0) "label" = true ∧
      (holding x' y' r).asksMethod (.user 0) "item" = false := by
    unfold Store.asksMethod
    rw [Store.lookup?_congr classes_holding, Store.lookup?_congr classes_holding]
    decide
  obtain ⟨hasksSize, hasksLabel, hasksItem⟩ := hasks
  rw [← Value.perform_getAttribute (readsPlainly ..)] at hsize hlabel hitem
  -- a label is a method, so it is read once more to see that it is there
  have hthere : ((Value.object i).hasMember false "label").perform runner (holding x' y' r) =
      (.ok (l != .nothing), holding x' y' r) := by
    rw [Value.perform_hasMember, hlabel]
    exact perform_bind_ok hlabel
  have hmembers : ((Value.object i).hasMembers (.user 0) ["size", "label", "item"]).perform runner
      (holding x y r) = (.ok (l != .nothing), holding x' y' r) := by
    rw [Store.perform_hasMembers_cons, hasksSize, Bool.not_false,
      perform_bind_ok (Value.perform_hasMember_of_read hsize), if_pos rfl, Store.perform_hasMembers_cons,
      hasksLabel]
    refine (perform_bind_ok hthere).trans ?_
    cases l != .nothing with
    | false => rfl
    | true =>
      rw [if_pos rfl, Store.perform_hasMembers_cons, hasksItem]
      exact perform_bind_ok (Value.perform_hasMember_of_read hitem)
  rw [Value.perform_isInstance_by_members rfl rfl hmethods (by rw [hclass]; decide), hnames, hmembers,
    hclass, hfollows]
  simp

/-- The first crate takes note that it was looked at. -/
theorem look_first : ((Value.object 0).isInstance (.user 0)).perform runner world =
    (.ok true, holding (crate (.int 1) (.int 0) true) (crate (.int 1) (.int 0) false) (rack none)) :=
  look_eq (l := .int 1) rfl rfl rfl rfl

/-- So does the second one. -/
theorem look_second : ((Value.object 1).isInstance (.user 0)).perform runner
      (holding (crate (.int 1) (.int 0) true) (crate (.int 1) (.int 0) false) (rack none)) =
    (.ok true, holding (crate (.int 1) (.int 0) true) (crate (.int 1) (.int 0) true) (rack none)) :=
  look_eq (l := .int 1) rfl rfl rfl rfl

/-- The first crate without a label has no size. -/
theorem look_unlabelled : ((Value.object 0).isInstance (.user 0)).perform runner
      (holding (crate .nothing (.int 0) true) (crate (.int 1) (.int 0) false) (rack none)) =
    (.ok false, holding (crate .nothing (.int 0) true) (crate (.int 1) (.int 0) false) (rack none)) :=
  look_eq (l := .nothing) rfl rfl rfl rfl

/-- When the item of a crate is set to another crate, both are looked at and take note. -/
theorem setting_an_item_moves_seen :
    ∃ g k σ₁ b, (compilePair .field (.proper item) none none true none false).run.run (.start world) =
        (.ok ⟨some g, some k⟩, σ₁) ∧ σ₁.accessors[k]? = some b ∧
      (b.call [.object 0, .object 1]).perform runner world =
        (.ok .nothing,
          holding (crate (.int 1) (.object 1) true) (crate (.int 1) (.int 0) true) (rack none)) := by
  have hitem : item.attributeName = "item" := by decide
  have hthere : Value.object 0 ≠ .nothing := by simp
  obtain ⟨g, k, σ₁, hpair⟩ := exists_pair (.inl rfl)
  obtain ⟨a, b, σ₂, σ₃, s, s', -, hb, -, -, hs', hbuilt', hconverter⟩ := built_pair hpair
  refine ⟨g, k, σ₁, b, hpair, hb, ?_⟩
  have hconverted : ((Value.object 1).convertedBy (σ₃.store.converter? σ₃.rules item.valueType)
      "value").perform runner
        (holding (crate (.int 1) (.int 0) true) (crate (.int 1) (.int 0) false) (rack none)) =
      (.ok (.object 1),
        holding (crate (.int 1) (.int 0) true) (crate (.int 1) (.int 0) true) (rack none)) := by
    have hsized : ∃ e, world.converter? [] item.valueType = some (.instance (.user 0) e) := by
      rw [Store.converter?_of_plain rfl rfl rfl]
      exact ⟨_, rfl⟩
    obtain ⟨e, hsized⟩ := hsized
    rw [hconverter, hsized]
    exact (perform_bind_ok look_second).trans rfl
  rw [hbuilt'.call_setter_of_passes rfl rfl hs' hthere look_first hconverted, hitem]
  rfl

/-- When the label of a crate is set to `None`, the crate is refused by the getter: it has no size any more. -/
theorem unset_label_is_not_got :
    ∃ g k σ₁ a b, (compilePair .field (.proper label) none none true none false).run.run (.start world) =
        (.ok ⟨some g, some k⟩, σ₁) ∧ σ₁.accessors[g]? = some a ∧ σ₁.accessors[k]? = some b ∧
      (b.call [.object 0, .nothing]).perform runner world =
        (.ok .nothing,
          holding (crate .nothing (.int 0) true) (crate (.int 1) (.int 0) false) (rack none)) ∧
      (a.call [.object 0]).perform runner
          (holding (crate .nothing (.int 0) true) (crate (.int 1) (.int 0) false) (rack none)) =
        (.error (.argumentMismatch "instance" "HasSize" "Crate"),
          holding (crate .nothing (.int 0) true) (crate (.int 1) (.int 0) false) (rack none)) := by
  have hlabel : label.attributeName = "label" := by decide
  have hthere : Value.object 0 ≠ .nothing := by simp
  obtain ⟨g, k, σ₁, hpair⟩ := exists_pair (.inr (.inl rfl))
  obtain ⟨a, b, σ₂, σ₃, s, s', ha, hb, hs, hbuilt, hs', hbuilt', hconverter⟩ := built_pair hpair
  refine ⟨g, k, σ₁, a, b, hpair, ha, hb, ?_, ?_⟩
  · have hconverted : (Value.nothing.convertedBy (σ₃.store.converter? σ₃.rules label.valueType)
        "value").perform runner
          (holding (crate (.int 1) (.int 0) true) (crate (.int 1) (.int 0) false) (rack none)) =
        (.ok .nothing,
          holding (crate (.int 1) (.int 0) true) (crate (.int 1) (.int 0) false) (rack none)) := by
      rw [hconverter, Store.converter?_of_isAny rfl]
      rfl
    rw [hbuilt'.call_setter_of_passes rfl rfl hs' hthere look_first hconverted, hlabel]
    rfl
  · have hr : a.plan.receiver = some ⟨label.declaring, label.lookedFor? none⟩ :=
      hbuilt.receiver_of_field rfl rfl hs rfl
    exact (Accessor.RejectedAt.otherReceiver hr rfl hthere look_unlabelled).perform_call hbuilt.orderly
      (hbuilt.length_of_getter rfl rfl hs)

/-- A crate keeps what it has slots for by itself. -/
theorem keepsPlainly_crate {name : String} (hname : name = "item" ∨ name = "label") :
    world.KeepsPlainly 0 name where
  known := by decide
  method {k n} hn _ := lookup_special (by
    simp only [List.mem_cons, List.not_mem_nil, or_false] at hn ⊢
    tauto) k
  slot hentry _ := by
    rcases hname with rfl | rfl <;> cases hentry <;> exact ⟨_, rfl⟩
  silent hentry hsilent := by
    rcases hname with rfl | rfl <;> cases hentry <;> cases hsilent

/-- **The tests move attributes**: when the item of a crate is set to another crate, both take note, although
the item alone was set.  And the label of a crate can be set to `None`, but then not be got. -/
theorem tests_move_attributes :
    (Member.resolve (.field "item") (.cls (.user 0))).perform runner world = (.ok item, world) ∧
    (Member.resolve (.field "label") (.cls (.user 0))).perform runner world = (.ok label, world) ∧
    world.KeepsPlainly 0 "item" ∧ world.KeepsPlainly 0 "label" ∧
    (∃ g k σ₁ b, (compilePair .field (.proper item) none none true none false).run.run (.start world) =
        (.ok ⟨some g, some k⟩, σ₁) ∧ σ₁.accessors[k]? = some b ∧
      (b.call [.object 0, .object 1]).perform runner world =
        (.ok .nothing,
          holding (crate (.int 1) (.object 1) true) (crate (.int 1) (.int 0) true) (rack none))) ∧
    ∃ g k σ₁ a b, (compilePair .field (.proper label) none none true none false).run.run (.start world) =
        (.ok ⟨some g, some k⟩, σ₁) ∧ σ₁.accessors[g]? = some a ∧ σ₁.accessors[k]? = some b ∧
      (b.call [.object 0, .nothing]).perform runner world =
        (.ok .nothing,
          holding (crate .nothing (.int 0) true) (crate (.int 1) (.int 0) false) (rack none)) ∧
      (a.call [.object 0]).perform runner
          (holding (crate .nothing (.int 0) true) (crate (.int 1) (.int 0) false) (rack none)) =
        (.error (.argumentMismatch "instance" "HasSize" "Crate"),
          holding (crate .nothing (.int 0) true) (crate (.int 1) (.int 0) false) (rack none)) :=
  ⟨resolve_item, resolve_label, keepsPlainly_crate (.inl rfl), keepsPlainly_crate (.inr rfl),
    setting_an_item_moves_seen, unset_label_is_not_got⟩

/-! ### A rack -/

/-- A rack keeps its weight by itself. -/
theorem keepsPlainly_rack : world.KeepsPlainly 2 "weight" where
  known := by decide
  method {k n} hn _ := lookup_special (by
    simp only [List.mem_cons, List.not_mem_nil, or_false] at hn ⊢
    tauto) k
  slot hentry _ := by
    cases hentry
    exact ⟨_, rfl⟩
  silent hentry hsilent := by
    cases hentry
    cases hsilent

theorem showsClass {v : Value} (hv : world.Knows v) : world.ShowsClass v where
  knows := hv
  answer hn := Store.overrides_of_entries fun i _ => lookup_special (by
    simp only [List.mem_cons, List.not_mem_nil, or_false] at hn ⊢
    tauto) i
  hook := lookup_special (by simp)

/-- No code comes with a rack and an integer. -/
theorem setsFreely_weight : world.SetsFreely (.object 2) (.int 3) (weight.lookedFor? none) (some .float) where
  receiver := by
    rintro k ⟨⟩
    exact { toShowsClass := showsClass (Store.knows_object (by decide)), member := nofun }
  value := by
    rintro c ⟨⟩
    exact {
      toShowsClass := showsClass nofun
      isBuiltIn := rfl
      method := fun _ => Store.overrides_of_builtin (b := .int) rfl _
      array := nofun
      tests := nofun }

/-- An integer is converted to its float. -/
theorem convertedBy_float {st : Store} : ((Value.int 3).convertedBy (some .float) "value").perform runner st =
    (.ok (.float ⟨0x4008000000000000⟩), st) := Value.convertFloat_int (by decide)

theorem converter?_weight : world.converter? [] weight.valueType = some .float := by
  rw [Store.converter?_of_plain rfl rfl rfl]
  rfl

/-- The world in which the rack has the float for its weight. -/
def weighed : Store :=
  holding (crate (.int 1) (.int 0) false) (crate (.int 1) (.int 0) false)
    (rack (some (.float ⟨0x4008000000000000⟩)))

/-- The setter of the weight sets a rack's to the float. -/
theorem call_setter_weight {g k : Nat} {σ₁ : Session} {b : Accessor}
    (hpair : (compilePair .field (.proper weight) none none true none false).run.run (.start world) =
      (.ok ⟨some g, some k⟩, σ₁)) (hb : σ₁.accessors[k]? = some b) :
    (b.call [.object 2, .int 3]).perform runner world = (.ok .nothing, weighed) := by
  have hname : weight.attributeName = "weight" := by decide
  obtain ⟨_, b', _, σ₃, _, s', -, hb', -, -, hs', hbuilt', hconverter⟩ := built_pair hpair
  obtain rfl : b' = b := Option.some.inj (hb'.symm.trans hb)
  have hconverted : ((Value.int 3).convertedBy (σ₃.store.converter? σ₃.rules weight.valueType)
      "value").perform runner world = (.ok (.float ⟨0x4008000000000000⟩), world) := by
    rw [hconverter, converter?_weight]
    exact convertedBy_float
  have hthere : Value.object 2 ≠ .nothing := by simp
  have hpass : Accessor.Passes (weight.lookedFor? none) runner world world (.object 2) := rfl
  rw [hbuilt'.call_setter_of_passes rfl rfl hs' hthere hpass hconverted, hname]
  rfl

/-- An integer is set for the weight of a rack, and its float is got; nothing else has moved. -/
theorem weight_is_set_and_got :
    ∃ g k σ₁ a b, (compilePair .field (.proper weight) none none true none false).run.run (.start world) =
        (.ok ⟨some g, some k⟩, σ₁) ∧ σ₁.accessors[g]? = some a ∧ σ₁.accessors[k]? = some b ∧
      (b.call [.object 2, .int 3]).perform runner world = (.ok .nothing, weighed) ∧
      world.MovesOnly weighed 2 "weight" ∧
      ∃ st, (a.call [.object 2]).perform runner weighed = (.ok (.float ⟨0x4008000000000000⟩), st) := by
  have hname : weight.attributeName = "weight" := by decide +kernel
  obtain ⟨g, k, σ₁, hpair⟩ := exists_pair (.inr (.inr rfl))
  obtain ⟨a, b, σ₂, ha, hb, halike, hpairs⟩ := set_then_get resolve_weight rfl hname (by decide)
    (keepsFor_start rfl) (keepsFor_start rfl) hpair
  obtain ⟨hstore, hrules⟩ := halike (by rintro ⟨⟨⟩, -⟩)
  have hconverter : σ₂.store.converter? σ₂.rules weight.valueType = some .float := by
    rw [hstore, hrules]
    exact converter?_weight
  have hcall := call_setter_weight hpair hb
  refine ⟨g, k, σ₁, a, b, hpair, ha, hb, hcall, ?_⟩
  obtain ⟨w, st₁, st₂, -, hconverted, -, hfree⟩ := hpairs.returns hcall
  rw [hconverter] at hconverted hfree
  rw [convertedBy_float] at hconverted
  cases hconverted
  obtain ⟨hmoves, hgets⟩ := hfree keepsPlainly_rack setsFreely_weight
  obtain ⟨st, -, hget⟩ := hgets fun _ _ => .inl (by simp)
  exact ⟨hmoves, st, hget⟩

end Depot
end MemberAccess
