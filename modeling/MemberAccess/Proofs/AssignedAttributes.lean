import MemberAccess.Proofs.RejectedCalls

/-!
# Assigned attributes

Setting an attribute of an object changes one thing: the object's own attribute of the name, or its slot.
That is so where the object keeps the attribute by itself, which it does unless its class has methods of its
own for attributes, or has under the name a property, a built-in field, the slot of another name, or an object
that wants to be asked (`Store.KeepsPlainly`).  Then setting it either
fails and changes nothing, or comes to `Store.assign`; nothing else moves (`Store.movesOnly_assign`), and the
attribute reads as the value (`Store.perform_getAttribute_assign`).

An object that passed an instance test passes it again after one of its attributes was assigned, unless
`None` was assigned and the test is that of a protocol which looks for methods
(`Store.Leads.isInstance_again`).
-/

namespace MemberAccess

open MemberAccess.Action

/-! ## §1  Slots -/

/-- What an object has in a slot. -/
def Object.slot? (o : Object) (owner : ClassRef) (name : String) : Option Value :=
  (o.slots.find? fun (c, n, _) => c == owner && n == name).map fun (_, _, x) => x

namespace Value

variable {owner c : ClassRef} {name n : String} {x : Value} {ss : List (ClassRef × String × Value)}

theorem find?_putSlot : (putSlot owner name x ss).find? (fun (c, n, _) => c == owner && n == name) =
    some (owner, name, x) := by
  induction ss with
  | nil => simp [putSlot]
  | cons s ss ih =>
    obtain ⟨c, n, y⟩ := s
    unfold putSlot
    by_cases h : c = owner ∧ n = name
    · rw [if_pos h, h.1, h.2]
      simp
    · have hne : (c == owner && n == name) = false := by simpa using h
      rw [if_neg h, List.find?_cons_of_neg (by simp [hne]), ih]

theorem find?_putSlot_ne (h : ¬ (c = owner ∧ n = name)) :
    (putSlot owner name x ss).find? (fun (c', n', _) => c' == c && n' == n) =
      ss.find? (fun (c', n', _) => c' == c && n' == n) := by
  have hput : (owner == c && name == n) = false := by
    simp only [Bool.and_eq_false_iff, beq_eq_false_iff_ne]
    by_contra hno
    simp only [not_or, not_not] at hno
    exact h ⟨hno.1.symm, hno.2.symm⟩
  induction ss with
  | nil => simp [putSlot, hput]
  | cons s ss ih =>
    obtain ⟨c', n', y⟩ := s
    unfold putSlot
    split
    case isTrue heq =>
      obtain ⟨rfl, rfl⟩ := heq
      rw [List.find?_cons_of_neg (by simp [hput]), List.find?_cons_of_neg (by simp [hput])]
    case isFalse => rw [List.find?_cons, List.find?_cons, ih]

end Value

/-! ## §2  Assigning -/

namespace Store

variable {st st₁ st₂ st' : Store} {i : Address} {name n : String} {w : Value} {run : Runner}

/-- An object keeps an attribute by itself: no class of its lineage says how attributes are read or set; what
its class says of the name with authority, if anything, is the slot of that very name; and what else stands
there has no say in what is read and set. -/
structure KeepsPlainly (st : Store) (i : Address) (name : String) : Prop where
  known : i < st.objects.size
  method {k : Nat} {n : String} : n ∈ ["__getattribute__", "__getattr__", "__setattr__"] →
    .user k ∈ st.lineage (st.object i).cls → (st.classInfo k).entries.lookup n = none
  slot {k : ClassRef} {e : Value} : st.lookup? (st.object i).cls name = some (k, e) →
    isAuthoritative e = true → ∃ owner, e = .atom (.slot owner name)
  silent {k : ClassRef} {e : Value} : st.lookup? (st.object i).cls name = some (k, e) →
    isAuthoritative e = false → st.Knows e ∧ st.overrides e "__get__" = false ∧
      st.overrides e "__set__" = false ∧ st.classHas e "__delete__" = false

theorem KeepsPlainly.readsPlainly (h : st.KeepsPlainly i name) : st.ReadsPlainly (.object i) where
  getAttribute := specialMethod?_of_entries fun _ hk => h.method (by simp) hk
  getMissing := specialMethod?_of_entries fun _ hk => h.method (by simp) hk

/-- No method of its class sets the attribute. -/
theorem KeepsPlainly.settingMethod? (h : st.KeepsPlainly i name) {n : String} :
    st.settingMethod? (st.object i).cls n = none := by
  unfold Store.settingMethod?
  cases hfind : (st.lineage (st.object i).cls).findSome? _ with
  | none => rfl
  | some found =>
    obtain ⟨c, hc, hfound⟩ := List.exists_of_findSome?_eq_some hfind
    cases c with
    | builtin b => cases hfound
    | user k =>
      have hnone : (st.classInfo k).entries.lookup "__setattr__" = none := h.method (by simp) hc
      simp only [hnone, Option.ite_none_right_eq_some] at hfound
      rw [← Option.some.inj hfound.2]
      rfl

/-- The slot that an object has for an attribute. -/
def slotOf? (st : Store) (i : Address) (name : String) : Option (ClassRef × String) :=
  match st.lookup? (st.object i).cls name with
  | some (_, .atom (.slot owner slot)) => some (owner, slot)
  | _ => none

theorem slotOf?_of_slot {k owner : ClassRef} {slot : String}
    (h : st.lookup? (st.object i).cls name = some (k, .atom (.slot owner slot))) :
    st.slotOf? i name = some (owner, slot) := by
  rw [slotOf?, h]

theorem slotOf?_eq_none (h : ∀ k owner slot,
    st.lookup? (st.object i).cls name ≠ some (k, .atom (.slot owner slot))) : st.slotOf? i name = none := by
  unfold slotOf?
  split
  case h_1 hentry => exact absurd hentry (h _ _ _)
  case h_2 => rfl

/-- An object in which an attribute is assigned: in its slot, or among its own attributes. -/
def assigned (slot? : Option (ClassRef × String)) (name : String) (w : Value) (o : Object) : Object :=
  match slot? with
  | some (owner, slot) => { o with slots := Value.putSlot owner slot w o.slots }
  | none => { o with fields := Value.putNamed name w o.fields }

/-- The store in which an attribute of an object is assigned. -/
def assign (st : Store) (i : Address) (name : String) (w : Value) : Store :=
  { st with objects := st.objects.modify i (assigned (st.slotOf? i name) name w) }

theorem object_assign_self (hi : i < st.objects.size) :
    (st.assign i name w).object i = assigned (st.slotOf? i name) name w (st.object i) := by
  simp [assign, object, hi, Array.getElem_modify]

theorem object_assign_ne {j : Address} (hj : j ≠ i) : (st.assign i name w).object j = st.object j := by
  simp [assign, object, Array.getElem?_modify, hj.symm]

theorem cls_assigned {slot? : Option (ClassRef × String)} {o : Object} :
    (assigned slot? name w o).cls = o.cls ∧ (assigned slot? name w o).payload = o.payload := by
  cases slot? <;> exact ⟨rfl, rfl⟩

/-- **Setting an attribute that an object keeps by itself** fails and changes nothing, or assigns it. -/
theorem perform_setAttribute (run : Runner) (w : Value) (h : st.KeepsPlainly i name) :
    (∃ k ∈ [ErrorKind.frozenInstance, .attributeError],
      ((Value.object i).setAttribute name w).perform run st = (.error (.fault k), st)) ∨
    ((Value.object i).setAttribute name w).perform run st = (.ok (), st.assign i name w) := by
  change (∃ k ∈ _, (Value.setInstance (.object i) i name w).perform run st = _) ∨
    (Value.setInstance (.object i) i name w).perform run st = _
  have hclass : st.classOf (.object i) = (st.object i).cls := rfl
  unfold Value.setInstance
  rw [perform_bind_get, hclass, h.settingMethod?]
  dsimp only
  split
  case isTrue => exact .inl ⟨_, by simp, rfl⟩
  have hkeep : (∃ k ∈ [ErrorKind.frozenInstance, .attributeError],
      (Value.keepField (.object i) i name w).perform run st = (.error (.fault k), st)) ∨
      (Value.keepField (.object i) i name w).perform run st =
        (.ok (), { st with objects := st.objects.modify i (assigned none name w) }) := by
    unfold Value.keepField
    rw [perform_bind_get]
    split
    · exact .inr rfl
    · exact .inl ⟨_, by simp, rfl⟩
  unfold Value.storeField
  rw [perform_bind_get, hclass]
  unfold assign
  cases hentry : st.lookup? (st.object i).cls name with
  | none =>
    rw [slotOf?_eq_none (by simp [hentry])]
    exact hkeep
  | some found =>
    obtain ⟨k, e⟩ := found
    have hslot := h.slot hentry
    split
    case h_1 heq =>
      cases heq
      obtain ⟨owner, he⟩ := hslot rfl
      cases he
    case h_2 heq =>
      cases heq
      rw [slotOf?_of_slot hentry]
      exact .inr rfl
    case h_3 heq =>
      cases heq
      obtain ⟨owner, he⟩ := hslot rfl
      cases he
    case h_4 hproperty hslot' hfield heq =>
      cases heq
      have hsilent : isAuthoritative e = false := by
        unfold isAuthoritative
        split
        case h_1 => exact (hproperty _ rfl).elim
        case h_2 => exact (hslot' _ _ rfl).elim
        case h_3 => exact (hfield _ _ rfl).elim
        case h_4 => rfl
      obtain ⟨-, -, hset, hdelete⟩ := h.silent hentry hsilent
      have hnone : st.slotOf? i name = none := by
        refine slotOf?_eq_none fun k' owner slot heq => ?_
        rw [hentry] at heq
        cases heq
        exact hslot' _ _ rfl
      rw [hnone, specialMethod?_of_overrides hset, hdelete]
      exact hkeep
    case h_5 heq => cases heq

/-- What was set was assigned. -/
theorem eq_assign_of_setAttribute (h : st.KeepsPlainly i name)
    (hset : ((Value.object i).setAttribute name w).perform run st = (.ok (), st')) :
    st' = st.assign i name w := by
  rcases perform_setAttribute run w h with ⟨k, -, hfails⟩ | hassigns
  · rw [hfails] at hset
    cases hset
  · rw [hassigns] at hset
    cases hset
    rfl

/-! ## §3  Nothing else moves -/

/-- Nothing moves but one attribute of one object, and there may be new objects: the classes, functions and
properties are what they were, and so is every other object, and every other attribute of this one. -/
structure MovesOnly (st st' : Store) (i : Address) (name : String) : Prop where
  rest : st' = { st with objects := st'.objects }
  size : st.objects.size ≤ st'.objects.size
  others {j : Address} : j < st.objects.size → j ≠ i → st'.object j = st.object j
  cls : (st'.object i).cls = (st.object i).cls
  payload : (st'.object i).payload = (st.object i).payload
  field {n : String} : n ≠ name → (st'.object i).fields.lookup n = (st.object i).fields.lookup n
  slot {owner : ClassRef} {n : String} : n ≠ name →
    (st'.object i).slot? owner n = (st.object i).slot? owner n

/-- **Assigning an attribute that an object keeps by itself moves nothing else.** -/
theorem movesOnly_assign (h : st.KeepsPlainly i name) : st.MovesOnly (st.assign i name w) i name where
  rest := rfl
  size := by simp [assign]
  others _ hj := object_assign_ne hj
  cls := by rw [object_assign_self h.known, cls_assigned.1]
  payload := by rw [object_assign_self h.known, cls_assigned.2]
  field hn := by
    rw [object_assign_self h.known]
    unfold assigned
    split
    · rfl
    · exact Value.lookup_putNamed_ne name _ w _ hn
  slot {owner n} hn := by
    rw [object_assign_self h.known]
    unfold assigned slotOf?
    split
    case h_2 => rfl
    case h_1 owner' slot hslot =>
      split at hslot
      case h_2 => cases hslot
      case h_1 hentry =>
        cases hslot
        obtain ⟨owner'', he⟩ := h.slot hentry rfl
        cases he
        exact congrArg (Option.map _) (Value.find?_putSlot_ne fun heq => hn heq.2)

/-- What grew before moves nothing more. -/
theorem MovesOnly.of_grows (h : st.Grows st₁) (hi : i < st.objects.size) (hmoves : st₁.MovesOnly st' i name) :
    st.MovesOnly st' i name := by
  have hobject := h.object hi
  obtain ⟨new, rfl⟩ := h
  refine ⟨hmoves.rest, ?_, ?_, ?_, ?_, ?_, ?_⟩
  · exact Nat.le_trans (by simp) hmoves.size
  · intro j hj hne
    rw [hmoves.others (Nat.lt_of_lt_of_le hj (by simp)) hne]
    exact Grows.object ⟨new, rfl⟩ hj
  · rw [hmoves.cls, hobject]
  · rw [hmoves.payload, hobject]
  · intro n hn
    rw [hmoves.field hn, hobject]
  · intro owner n hn
    rw [hmoves.slot hn, hobject]

theorem knows_object (hi : i < st.objects.size) : st.Knows (.object i) := by
  rintro j ⟨⟩
  exact hi

/-- Objects stay known. -/
theorem Grows.known (h : st.Grows st') (hi : i < st.objects.size) : i < st'.objects.size :=
  h.knows (knows_object hi) i rfl

/-- An object keeps an attribute by itself in a store that has grown. -/
theorem KeepsPlainly.of_keeps (h : st.KeepsPlainly i name) (hkeeps : st.KeepsClasses st') :
    st'.KeepsPlainly i name := by
  have hcls : (st'.object i).cls = (st.object i).cls := hkeeps.classOf (knows_object h.known)
  refine ⟨hkeeps.knows (knows_object h.known) i rfl, ?_, ?_, ?_⟩
  · intro k n hn hk
    rw [hcls, lineage_congr hkeeps.classes] at hk
    rw [classInfo_congr hkeeps.classes]
    exact h.method hn hk
  · intro k e hentry
    rw [hcls, lookup?_congr hkeeps.classes] at hentry
    exact h.slot hentry
  · intro k e hentry he
    rw [hcls, lookup?_congr hkeeps.classes] at hentry
    obtain ⟨hknows, hget, hset, hdelete⟩ := h.silent hentry he
    refine ⟨hkeeps.knows hknows, ?_, ?_, ?_⟩
    · rw [hkeeps.overrides hknows, hget]
    · rw [hkeeps.overrides hknows, hset]
    · rw [classHas, hkeeps.classOf hknows, lookup?_congr hkeeps.classes]
      exact hdelete

/-- Assigning an attribute keeps what each object is. -/
theorem keepsClasses_assign (hi : i < st.objects.size) : st.KeepsClasses (st.assign i name w) := by
  refine .of_objects rfl rfl (by simp [assign]) ?_
  intro a _
  by_cases ha : a = i
  · subst ha
    rw [object_assign_self hi, cls_assigned.1]
  · rw [object_assign_ne ha]

/-! ## §4  Reading what was assigned -/

/-- Gives what was found, if it was. -/
def found : Option Value → Action Value
  | some y => pure y
  | none => fault .attributeError

/-- Reading a slot. -/
theorem perform_readSlot {owner : ClassRef} {slot : String} :
    (Value.readAuthoritative (.object i) (.atom (.slot owner slot))).perform run st =
      (found ((st.object i).slot? owner slot)).perform run st := by
  unfold Value.readAuthoritative Object.slot?
  dsimp only
  rw [perform_bind_get]
  cases (st.object i).slots.find? _ <;> rfl

/-- **An attribute reads as what was assigned**, also after the store has grown. -/
theorem perform_getAttribute_assign (h : st.KeepsPlainly i name) (hg : (st.assign i name w).Grows st') :
    ((Value.object i).getAttribute name).perform run st' = (.ok w, st') := by
  have hknown : i < (st.assign i name w).objects.size := by simpa [assign] using h.known
  have hobject : st'.object i = assigned (st.slotOf? i name) name w (st.object i) := by
    rw [hg.object hknown, object_assign_self h.known]
  have hlookup : st'.lookup? (st'.classOf (.object i)) name = st.lookup? (st.object i).cls name := by
    change st'.lookup? (st'.object i).cls name = _
    rw [hobject, cls_assigned.1, lookup?_congr hg.classes]
    rfl
  have hkeeps : st.KeepsClasses st' := (keepsClasses_assign h.known).trans hg.keepsClasses
  rw [Value.perform_getAttribute (h.of_keeps hkeeps).readsPlainly]
  change (Value.readInstance (.object i) name).perform run st' = _
  have hfields : st.slotOf? i name = none → (st'.ownFields (.object i)).lookup name = some w := by
    intro hslot
    change (st'.object i).fields.lookup name = some w
    rw [hobject, hslot]
    exact Value.lookup_putNamed name w _
  cases hentry : st.lookup? (st.object i).cls name with
  | none =>
    unfold Value.readInstance
    rw [perform_bind_get]
    dsimp only
    rw [hlookup, hentry, hfields (slotOf?_eq_none (by simp [hentry]))]
    rfl
  | some found =>
    obtain ⟨k, e⟩ := found
    cases hauthoritative : isAuthoritative e with
    | true =>
      obtain ⟨owner, rfl⟩ := h.slot hentry hauthoritative
      have hslot := slotOf?_of_slot hentry
      have hfilled : (st'.object i).slot? owner name = some w := by
        rw [hobject, hslot, Object.slot?]
        exact congrArg (Option.map _) Value.find?_putSlot
      unfold Value.readInstance
      rw [perform_bind_get]
      dsimp only
      rw [hlookup, hentry]
      dsimp only
      rw [if_pos hauthoritative, perform_readSlot, hfilled]
      rfl
    | false =>
      have hslot : st.slotOf? i name = none := by
        refine slotOf?_eq_none fun k' owner slot heq => ?_
        rw [hentry] at heq
        cases heq
        cases hauthoritative
      obtain ⟨hknows, hget, -⟩ := h.silent hentry hauthoritative
      have hasks : st'.specialMethod? e "__get__" = none :=
        specialMethod?_of_overrides ((hkeeps.overrides hknows).trans hget)
      rw [Value.perform_readInstance_beside (hlookup.trans hentry) hauthoritative hasks, hfields hslot]
      rfl

/-! ## §5  Tests that are passed again -/

/-- A store leads to another in which each attribute of an object is what it was, or a value that was
assigned; the classes and properties are what they were, and so is all else of the object. -/
structure Leads (st st' : Store) (i : Address) (w : Value) : Prop where
  classes : st'.classes = st.classes
  properties : st'.properties = st.properties
  known : i < st'.objects.size
  cls : (st'.object i).cls = (st.object i).cls
  payload : (st'.object i).payload = (st.object i).payload
  field (n : String) : (st'.object i).fields.lookup n = (st.object i).fields.lookup n ∨
    (st'.object i).fields.lookup n = some w
  slot (owner : ClassRef) (n : String) : (st'.object i).slot? owner n = (st.object i).slot? owner n ∨
    (st'.object i).slot? owner n = some w

theorem leads_refl (hi : i < st.objects.size) : st.Leads st i w :=
  ⟨rfl, rfl, hi, rfl, rfl, fun _ => .inl rfl, fun _ _ => .inl rfl⟩

theorem leads_assign (hi : i < st.objects.size) : st.Leads (st.assign i name w) i w where
  classes := rfl
  properties := rfl
  known := by simpa [assign] using hi
  cls := by rw [object_assign_self hi, cls_assigned.1]
  payload := by rw [object_assign_self hi, cls_assigned.2]
  field n := by
    rw [object_assign_self hi]
    unfold assigned
    split
    · exact .inl rfl
    by_cases hn : n = name
    · subst hn
      exact .inr (Value.lookup_putNamed n w _)
    · exact .inl (Value.lookup_putNamed_ne name n w _ hn)
  slot owner n := by
    rw [object_assign_self hi]
    unfold assigned
    split
    case h_2 => exact .inl rfl
    case h_1 owner' slot _ =>
      by_cases hslot : owner = owner' ∧ n = slot
      · obtain ⟨rfl, rfl⟩ := hslot
        exact .inr (congrArg (Option.map _) Value.find?_putSlot)
      · exact .inl (congrArg (Option.map _) (Value.find?_putSlot_ne hslot))

/-- It matters of the first store only what the object is there, and what the classes are. -/
theorem Leads.of_same (h : st.Leads st' i w) (hclasses : st₁.classes = st.classes)
    (hproperties : st₁.properties = st.properties) (hobject : st₁.object i = st.object i) :
    st₁.Leads st' i w where
  classes := h.classes.trans hclasses.symm
  properties := h.properties.trans hproperties.symm
  known := h.known
  cls := by rw [hobject, h.cls]
  payload := by rw [hobject, h.payload]
  field n := by
    rw [hobject]
    exact h.field n
  slot owner n := by
    rw [hobject]
    exact h.slot owner n

/-- Growing afterwards does not matter. -/
theorem Leads.then_grows (h : st.Leads st' i w) (hg : st'.Grows st₂) : st.Leads st₂ i w := by
  have hobject := hg.object h.known
  refine ⟨?_, ?_, hg.known h.known, ?_, ?_, ?_, ?_⟩
  · rw [hg.classes, h.classes]
  · rw [hg.properties, h.properties]
  · rw [hobject, h.cls]
  · rw [hobject, h.payload]
  · intro n
    rw [hobject]
    exact h.field n
  · intro owner n
    rw [hobject]
    exact h.slot owner n

/-- Growing before does not matter. -/
theorem Leads.of_grows (hi : i < st.objects.size) (hg : st.Grows st₁) (h : st₁.Leads st' i w) :
    st.Leads st' i w :=
  h.of_same hg.classes.symm hg.properties.symm (hg.object hi).symm

/-- Growing on both sides does not matter. -/
theorem Leads.grown (hi : i < st.objects.size) (hg : st.Grows st₁) (h : st.Leads st' i w)
    (hg' : st'.Grows st₂) : st₁.Leads st₂ i w :=
  (h.of_same hg.classes hg.properties (hg.object hi)).then_grows hg'

/-- A reading that cannot fail but for want of the attribute, and goes through again in another store: it
gives what it gave, or what was assigned, or something that is there anyway. -/
def ReadsAgain (run : Runner) (st st' : Store) (w : Value) (x x' : Action Value) : Prop :=
  x.perform run st = (.error (.fault .attributeError), st) ∨
    ∃ y st₁ y' st₁', x.perform run st = (.ok y, st₁) ∧ st.Grows st₁ ∧
      x'.perform run st' = (.ok y', st₁') ∧ st'.Grows st₁' ∧ (y' = y ∨ y' = w ∨ y' ≠ .nothing)

theorem readsAgain_pure {y y' : Value} (h : y' = y ∨ y' = w) :
    ReadsAgain run st st' w (pure y) (pure y') :=
  .inr ⟨y, st, y', st', rfl, .refl st, rfl, .refl st', by rcases h with rfl | rfl <;> simp⟩

theorem readsAgain_missing {x' : Action Value} : ReadsAgain run st st' w (fault .attributeError) x' := .inl rfl

/-- What is found is found again. -/
theorem readsAgain_found {o o' : Option Value} (h : o' = o ∨ o' = some w) :
    ReadsAgain run st st' w (found o) (found o') := by
  cases o with
  | none => exact readsAgain_missing
  | some y =>
    rcases h with rfl | rfl
    · exact readsAgain_pure (.inl rfl)
    · exact readsAgain_pure (.inr rfl)

/-- The fields of built-in classes read again. -/
theorem Leads.readField_again (h : st.Leads st' i w) (n : String) :
    ReadsAgain run st st' w ((Value.object i).readField n) ((Value.object i).readField n) := by
  have hclass : st'.classOf (.object i) = st.classOf (.object i) := h.cls
  have hkeeps : st'.keepsFields (.object i) = st.keepsFields (.object i) := by
    unfold keepsFields
    dsimp only
    rw [h.cls, classInfo_congr h.classes]
  have hnumber : st'.numberField? (.object i) n = st.numberField? (.object i) n := by
    unfold numberField?
    dsimp only
    rw [h.payload]
  unfold Value.readField ReadsAgain
  rw [perform_bind_get, perform_bind_get, hclass, hkeeps, hnumber]
  split
  · exact readsAgain_pure (.inl rfl)
  split
  · split
    · exact .inr ⟨_, _, _, _, rfl, sparesNew_grows _ _ (.refl st), rfl, sparesNew_grows _ _ (.refl st'),
        .inr (.inr nofun)⟩
    · exact readsAgain_missing
  · exact readsAgain_found (.inl rfl)

/-- What the class of an object says without a getter reads again, in the built-in way. -/
theorem Leads.readInstance_again (run : Runner) (h : st.Leads st' i w) (hfree : st.ReadsFreely (.object i) n)
    (hfree' : st'.ReadsFreely (.object i) n) :
    ReadsAgain run st st' w (Value.readInstance (.object i) n) (Value.readInstance (.object i) n) := by
  have hclass : st'.classOf (.object i) = st.classOf (.object i) := h.cls
  have hown : (st'.ownFields (.object i)).lookup n = (st.ownFields (.object i)).lookup n ∨
      (st'.ownFields (.object i)).lookup n = some w := h.field n
  cases hentry : st.lookup? (st.classOf (.object i)) n with
  | none =>
    unfold Value.readInstance ReadsAgain
    rw [perform_bind_get, perform_bind_get]
    dsimp only
    rw [hclass, lookup?_congr h.classes, hentry]
    exact readsAgain_found hown
  | some found =>
    obtain ⟨k, e⟩ := found
    have hentry' : st'.lookup? (st'.classOf (.object i)) n = some (k, e) := by
      rw [hclass, lookup?_congr h.classes, hentry]
    cases hauthoritative : isAuthoritative e with
    | false =>
      -- an entry without authority stands behind the object's own attributes
      have hasks := specialMethod?_of_overrides (hfree.shown ⟨k, .inl hentry⟩).2
      have hasks' := specialMethod?_of_overrides (hfree'.shown ⟨k, .inl hentry'⟩).2
      unfold ReadsAgain
      rw [Value.perform_readInstance_beside hentry hauthoritative hasks,
        Value.perform_readInstance_beside hentry' hauthoritative hasks', hclass]
      rcases hown with hsame | hput
      · rw [hsame]
        exact @readsAgain_pure _ _ _ run _ _ (.inl rfl)
      · rw [hput]
        exact @readsAgain_pure _ _ _ run _ _ (.inr rfl)
    | true =>
      unfold Value.readInstance ReadsAgain
      rw [perform_bind_get, perform_bind_get]
      dsimp only
      rw [hentry, hentry']
      dsimp only
      rw [if_pos hauthoritative]
      unfold Value.readAuthoritative
      split
      case h_1 p =>
        have hnone : (st.properties[p]?.getD default).getter = none := by
          have hgetter := hfree.getter
          rw [getter?, hentry] at hgetter
          exact hgetter
        rw [perform_bind_get, hnone]
        exact readsAgain_missing
      case h_2 owner slot =>
        change ReadsAgain run st st' w (Value.readAuthoritative (.object i) (.atom (.slot owner slot)))
          (Value.readAuthoritative (.object i) (.atom (.slot owner slot)))
        have hslot : ReadsAgain run st st' w (found ((st.object i).slot? owner slot))
            (found ((st'.object i).slot? owner slot)) := readsAgain_found (h.slot owner slot)
        unfold ReadsAgain at hslot ⊢
        rw [perform_readSlot, perform_readSlot]
        exact hslot
      case h_3 b m => exact h.readField_again m
      case h_4 => exact readsAgain_missing

/-- **What no code comes with reads again.** -/
theorem Leads.reads_again (run : Runner) (h : st.Leads st' i w) (hfree : st.ReadsFreely (.object i) n)
    (hfree' : st'.ReadsFreely (.object i) n) :
    ReadsAgain run st st' w ((Value.object i).getAttribute n) ((Value.object i).getAttribute n) := by
  have hagain := h.readInstance_again run hfree hfree'
  unfold ReadsAgain at hagain ⊢
  rw [Value.perform_getAttribute hfree.readsPlainly, Value.perform_getAttribute hfree'.readsPlainly]
  exact hagain

/-- **Looking for an attribute that needs no getter comes to an end, and what is found is found again**,
unless what was assigned is `None` and has to be something else. -/
theorem Leads.hasMember_again (run : Runner) (h : st.Leads st' i w) (hi : i < st.objects.size)
    (hfree : st.ReadsFreely (.object i) n) (hfree' : st'.ReadsFreely (.object i) n) (mayBeAbsent : Bool) :
    ∃ b st₁, ((Value.object i).hasMember mayBeAbsent n).perform run st = (.ok b, st₁) ∧ st.Grows st₁ ∧
      (b = true → (mayBeAbsent = true ∨ w ≠ .nothing) → ∃ st₁',
        ((Value.object i).hasMember mayBeAbsent n).perform run st' = (.ok true, st₁') ∧ st'.Grows st₁') := by
  rw [Value.perform_hasMember, Value.perform_hasMember]
  rcases h.reads_again run hfree hfree' with hy | ⟨y, st₁, y', st₁', hy, hg, hy', hg', -⟩
  · rw [hy]
    exact ⟨false, st, rfl, .refl st, nofun⟩
  rw [hy, hy']
  cases mayBeAbsent with
  | true => exact ⟨true, st₁, rfl, hg, fun _ _ => ⟨st₁', rfl, hg'⟩⟩
  | false =>
    have hfree₁ : st₁.ReadsFreely (.object i) n := hfree.of_keeps hg.keepsClasses
    have hfree₁' : st₁'.ReadsFreely (.object i) n := hfree'.of_keeps hg'.keepsClasses
    -- the value is read once more, and cannot have gone meanwhile
    obtain ⟨z, st₂, z', st₂', hz, hg₂, hz', hg₂', hkept⟩ : ∃ z st₂ z' st₂',
        ((Value.object i).getAttribute n).perform run st₁ = (.ok z, st₂) ∧ st₁.Grows st₂ ∧
        ((Value.object i).getAttribute n).perform run st₁' = (.ok z', st₂') ∧ st₁'.Grows st₂' ∧
        (z' = z ∨ z' = w ∨ z' ≠ .nothing) := by
      rcases (h.grown hi hg hg').reads_again run hfree₁ hfree₁' with hmissing | hagain
      · rcases ((leads_refl (w := .nothing) hi).then_grows hg).reads_again run hfree hfree₁ with
          hy₁ | ⟨_, _, _, _, -, -, hy₁, -⟩
        · rw [hy₁] at hy
          cases hy
        · rw [hmissing] at hy₁
          cases hy₁
      · exact hagain
    simp only [Bool.false_eq_true, if_false, false_or]
    rw [perform_bind_ok hz, perform_bind_ok hz']
    refine ⟨z != .nothing, st₂, rfl, hg.trans hg₂, ?_⟩
    intro hpresent hw
    have hpresent' : z' ≠ .nothing := by
      rcases hkept with rfl | rfl | hne
      · simpa using hpresent
      · exact hw
      · exact hne
    exact ⟨st₂', by simp [hpresent'], hg'.trans hg₂'⟩

/-- Whether a protocol asks for a method under a name. -/
def asksMethod (st : Store) (c : ClassRef) (n : String) : Bool :=
  match st.lookup? c n with
  | some (_, e) => isCallableEntry e
  | none => false

theorem perform_hasMembers_cons {v : Value} {c : ClassRef} {ns : List String} :
    (v.hasMembers c (n :: ns)).perform run st =
      (v.hasMember (!st.asksMethod c n) n >>= fun b =>
        if b then v.hasMembers c ns else pure false).perform run st := rfl

/-- **Looking for all the attributes that a protocol asks for comes to an end**, if they need no getters, and
what has them all has them all again, unless what was assigned is `None`. -/
theorem Leads.hasMembers_again (run : Runner) {c : ClassRef} {ns : List String} (h : st.Leads st' i w)
    (hi : i < st.objects.size) (hfree : ∀ n ∈ ns, st.ReadsFreely (.object i) n)
    (hfree' : ∀ n ∈ ns, st'.ReadsFreely (.object i) n) :
    ∃ b st₁, ((Value.object i).hasMembers c ns).perform run st = (.ok b, st₁) ∧ st.Grows st₁ ∧
      (b = true → w ≠ .nothing → ∃ st₁',
        ((Value.object i).hasMembers c ns).perform run st' = (.ok true, st₁') ∧ st'.Grows st₁') := by
  induction ns generalizing st st' with
  | nil => exact ⟨true, st, rfl, .refl st, fun _ _ => ⟨st', rfl, .refl st'⟩⟩
  | cons n ns ih =>
    have hasks : st'.asksMethod c n = st.asksMethod c n := by
      rw [asksMethod, asksMethod, lookup?_congr h.classes]
    obtain ⟨b, st₁, hb, hg, hagain⟩ := h.hasMember_again run hi (hfree n (by simp))
      (hfree' n (by simp)) (!st.asksMethod c n)
    rw [perform_hasMembers_cons, perform_hasMembers_cons, hasks, perform_bind_ok hb]
    cases b with
    | false => exact ⟨false, st₁, rfl, hg, nofun⟩
    | true =>
      have hi₁ : i < st₁.objects.size := hg.known hi
      have hfree₁ : ∀ n' ∈ ns, st₁.ReadsFreely (.object i) n' :=
        fun n' hn' => (hfree n' (by simp [hn'])).of_keeps hg.keepsClasses
      obtain ⟨b', st₂, hb', hg₂, -⟩ := ih (leads_refl (w := w) hi₁) hi₁ hfree₁ hfree₁
      refine ⟨b', st₂, hb', hg.trans hg₂, ?_⟩
      rintro rfl hw
      obtain ⟨st₁', hthere, hg'⟩ := hagain rfl (.inr hw)
      rw [perform_bind_ok hthere]
      have hfree₁' : ∀ n' ∈ ns, st₁'.ReadsFreely (.object i) n' :=
        fun n' hn' => (hfree' n' (by simp [hn'])).of_keeps hg'.keepsClasses
      obtain ⟨b'', _, hb'', -, hrest⟩ := ih (h.grown hi hg hg') hi₁ hfree₁ hfree₁'
      rw [hb'] at hb''
      cases hb''
      obtain ⟨st₂', hthere', hg₂'⟩ := hrest rfl hw
      exact ⟨st₂', hthere', hg'.trans hg₂'⟩

/-- **An object passes an instance test again** after one of its attributes was assigned, if no code comes with
the test, and unless `None` was assigned to an object that only follows the protocol that is tested for. -/
theorem Leads.isInstance_again {c : ClassRef} (h : st.Leads st' i w) (hfree : st.TestsFreely (.object i) c)
    (hfree' : st'.TestsFreely (.object i) c) (hw : w ≠ .nothing ∨ st.descends (st.object i).cls c = true)
    (hpass : ((Value.object i).isInstance c).perform run st = (.ok true, st₁)) :
    ∃ st₁', ((Value.object i).isInstance c).perform run st' = (.ok true, st₁') ∧ st'.Grows st₁' := by
  have hi : i < st.objects.size := hfree.knows i rfl
  have hclass : st'.classOf (.object i) = (st.object i).cls := h.cls
  have hclass₀ : st.classOf (.object i) = (st.object i).cls := rfl
  unfold Value.isInstance at hpass ⊢
  rw [perform_bind_get] at hpass ⊢
  dsimp only at hpass ⊢
  rw [hclass, classInfo_congr h.classes, subclassTest_congr h.classes, descends_congr h.classes,
    isSubclass_congr h.classes, protocolMembers_congr h.classes, hasMethodsOnly_congr h.classes]
  rw [hclass₀] at hpass
  split at hpass
  case h_1 k =>
    cases hp : (st.classInfo k).isProtocol with
    | false =>
      rw [hp] at hpass
      exact ⟨st', congrArg (fun r => (r.1, st')) hpass, .refl st'⟩
    | true =>
      have hmembers : ∀ n ∈ st.protocolMembers (.user k), st.ReadsFreely (.object i) n :=
        fun _ => hfree.member hp
      have hmembers' : ∀ n ∈ st.protocolMembers (.user k), st'.ReadsFreely (.object i) n := by
        intro n hn
        rw [← protocolMembers_congr h.classes] at hn
        exact hfree'.member (by rw [isProtocol_congr h.classes]; exact hp) hn
      obtain ⟨b, s, hb, -, hagain⟩ := h.hasMembers_again run (c := .user k) hi hmembers hmembers'
      obtain ⟨b', s', hb', hg', -⟩ := (leads_refl (w := w) h.known).hasMembers_again run (c := .user k) h.known
        hmembers' hmembers'
      by_cases hsame : (st.object i).cls = .user k
      · simp only [hsame, Bool.not_true, Bool.false_eq_true, if_false, if_true]
        exact ⟨st', rfl, .refl st'⟩
      by_cases hr : (st.classInfo k).isRuntimeProtocol = true
      case neg =>
        simp only [hp, hsame, Bool.not_true, Bool.false_eq_true, if_false, hr, Bool.not_false,
          if_true] at hpass
        cases hpass
      by_cases hq : (st.hasMethodsOnly (.user k) && st.isSubclass (st.object i).cls (.user k)) = true
      · simp only [hsame, hr, hq, Bool.not_true, Bool.false_eq_true, if_false, if_true]
        exact ⟨st', rfl, .refl st'⟩
      simp only [hp, hsame, hr, hq, Bool.not_true, Bool.false_eq_true, if_false] at hpass ⊢
      rw [perform_bind_ok hb] at hpass
      rw [perform_bind_ok hb']
      cases b' with
      | true => exact ⟨s', rfl, hg'⟩
      | false =>
        -- what has the members no longer is an instance by its class
        have hdescends : st.descends (st.object i).cls (.user k) = true := by
          rcases hw with hw | hdescends
          · cases b with
            | true =>
              obtain ⟨_, hthere, -⟩ := hagain rfl hw
              rw [hb'] at hthere
              cases hthere
            | false => exact Except.ok.inj (congrArg Prod.fst hpass)
          · exact hdescends
        rw [hdescends]
        exact ⟨s', rfl, hg'⟩
  case h_2 => cases hpass
  case h_3 => cases hpass
  case h_4 =>
    rw [perform_ofOutcome] at hpass ⊢
    exact ⟨st', congrArg (fun r => (r.1, st')) hpass, .refl st'⟩

end Store
end MemberAccess
