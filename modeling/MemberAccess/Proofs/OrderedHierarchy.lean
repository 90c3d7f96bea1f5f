import MemberAccess.Declaration.Declare
import MemberAccess.Proofs.Runs

/-!
# Ordered hierarchies

What may flow where is decided from the ancestors of classes, and tested later on the ancestors of a
value's class.  The two agree only in a hierarchy in which the ancestors of an ancestor are ancestors:
`Store.Ordered`.  A hierarchy that grows by classes put in order over their bases stays ordered
(`ordered_push`), because merging the orders of the bases neither adds a class nor loses one.

Ancestry also has to be carried across registration: an instance of a number class is an instance of the
abstract classes that the number class is registered with, though it does not name them.  `Store.names` is
ancestry or registration, and is transitive in an ordered hierarchy.
-/

namespace MemberAccess

/-! ## §1  Merging orders -/

namespace Hierarchy

variable {α : Type} [DecidableEq α] {lists : List (List α)} {order : List α} {h x : α}

/-- The head that is taken next is the head of one of the lists. -/
theorem exists_of_nextHead? (hn : nextHead? lists = some h) : ∃ l ∈ lists, l.head? = some h := by
  unfold nextHead? at hn
  obtain ⟨l, hl, hhead⟩ := List.exists_of_findSome?_eq_some hn
  refine ⟨l, hl, ?_⟩
  cases l with
  | nil => cases hhead
  | cons g t =>
    simp only [Option.ite_none_left_eq_some] at hhead
    exact hhead.2

/-- What stands in the lists is the head that is taken or stands in what is left of them. -/
theorem mem_lists_iff (hn : nextHead? lists = some h) :
    (∃ l ∈ lists, x ∈ l) ↔
      x = h ∨ ∃ l ∈ lists.map fun l => if l.head? = some h then l.tail else l, x ∈ l := by
  constructor
  · rintro ⟨l, hl, hx⟩
    by_cases hhead : l.head? = some h
    · obtain ⟨t, rfl⟩ := List.head?_eq_some_iff.mp hhead
      rcases List.mem_cons.mp hx with rfl | hx
      · exact .inl rfl
      · exact .inr ⟨t, List.mem_map.mpr ⟨h :: t, hl, by simp⟩, hx⟩
    · exact .inr ⟨l, List.mem_map.mpr ⟨l, hl, if_neg hhead⟩, hx⟩
  · rintro (rfl | ⟨l', hl', hx⟩)
    · obtain ⟨l, hl, hhead⟩ := exists_of_nextHead? hn
      exact ⟨l, hl, List.mem_of_head? hhead⟩
    · obtain ⟨l, hl, rfl⟩ := List.mem_map.mp hl'
      refine ⟨l, hl, ?_⟩
      split at hx
      · exact List.mem_of_mem_tail hx
      · exact hx

/-- **Merging neither adds anything nor loses anything.** -/
theorem mem_merge? {fuel : Nat} (hm : merge? fuel lists = some order) :
    x ∈ order ↔ ∃ l ∈ lists, x ∈ l := by
  have hempty {lists : List (List α)} (hall : lists.all (·.isEmpty) = true) :
      ¬ ∃ l ∈ lists, x ∈ l := by
    rintro ⟨l, hl, hx⟩
    have hl' := List.all_eq_true.mp hall l hl
    rw [List.isEmpty_iff] at hl'
    simp [hl'] at hx
  induction fuel generalizing lists order with
  | zero =>
    unfold merge? at hm
    split at hm
    case isTrue hall =>
      cases hm
      simpa using hempty hall
    case isFalse => cases hm
  | succ fuel ih =>
    unfold merge? at hm
    split at hm
    case isTrue hall =>
      cases hm
      simpa using hempty hall
    case isFalse =>
      cases hn : nextHead? lists with
      | none =>
        rw [hn] at hm
        cases hm
      | some h =>
        rw [hn] at hm
        obtain ⟨rest, hrest, rfl⟩ := Option.map_eq_some_iff.mp hm
        have hmem : x ∈ rest ↔ _ := ih hrest
        rw [List.mem_cons, hmem, mem_lists_iff hn]

/-- The order of a class has the class, its bases, and what stands in the orders of its bases. -/
theorem mem_linearize? {c : α} {bases : List α} {orders : List (List α)}
    (hl : linearize? c bases orders = some order) :
    x ∈ order ↔ x = c ∨ x ∈ bases ∨ ∃ l ∈ orders, x ∈ l := by
  unfold linearize? at hl
  obtain ⟨rest, hrest, rfl⟩ := Option.map_eq_some_iff.mp hl
  rw [List.mem_cons, mem_merge? hrest]
  constructor
  · rintro (rfl | ⟨l, hl, hx⟩)
    · exact .inl rfl
    · rcases List.mem_append.mp hl with hl | hl
      · exact .inr (.inr ⟨l, hl, hx⟩)
      · rw [List.mem_singleton] at hl
        exact .inr (.inl (hl ▸ hx))
  · rintro (rfl | hx | ⟨l, hl, hx⟩)
    · exact .inl rfl
    · exact .inr ⟨bases, by simp, hx⟩
    · exact .inr ⟨l, by simp [hl], hx⟩

end Hierarchy

/-! ## §2  Built-in classes -/

namespace Builtin

theorem lineage_trans {a b c : Builtin} (h : b ∈ a.lineage) (h' : c ∈ b.lineage) : c ∈ a.lineage := by
  have hclosed : ∀ b ∈ a.lineage, ∀ c ∈ b.lineage, c ∈ a.lineage := by
    cases a <;> decide
  exact hclosed b h c h'

/-- Below a class that may be a base stand only classes that may. -/
theorem mayBeBase_of_lineage {a b : Builtin} (h : b ∈ a.lineage)
    (ha : Declaration.mayBeBase (.builtin a) = true) : Declaration.mayBeBase (.builtin b) = true := by
  have hclosed : Declaration.mayBeBase (.builtin a) = true →
      ∀ b ∈ a.lineage, Declaration.mayBeBase (.builtin b) = true := by
    cases a <;> decide
  exact hclosed ha b h

/-- A class is registered with the ancestors of what it is registered with; only the class of everything
is among its own ancestors instead. -/
theorem registered_closed {a b c : Builtin} (h : b ∈ a.registered) (h' : c ∈ b.lineage) :
    c ∈ a.registered ∨ c = .object := by
  have hclosed : ∀ b ∈ a.registered, ∀ c ∈ b.lineage, c ∈ a.registered ∨ c = .object := by
    cases a <;> decide
  exact hclosed b h c h'

/-- What classes are registered with is itself registered with nothing. -/
theorem registered_of_registered {a b c : Builtin} (h : b ∈ a.registered) (hc : c ∈ b.lineage) :
    c.registered = [] := by
  have hnone : ∀ b ∈ a.registered, ∀ c ∈ b.lineage, c.registered = [] := by
    cases a <;> decide
  exact hnone b h c hc

end Builtin
/-! ## §3  Ordered hierarchies -/

namespace Store

/-- A hierarchy is ordered. -/
structure Ordered (st : Store) : Prop where
  /-- The ancestors of an ancestor are ancestors. -/
  trans {k c d : ClassRef} : st.descends k c = true → st.descends c d = true → st.descends k d = true
  /-- The ancestors of a declared class that were declared were so before. -/
  known {i j : Nat} : st.descends (.user i) (.user j) = true → j < st.classes.size
  /-- Below a declared class stand only built-in classes that may be bases. -/
  mayBeBase {i : Nat} {b : Builtin} : st.descends (.user i) (.builtin b) = true →
    Declaration.mayBeBase (.builtin b) = true
  /-- What a class was declared over is among its ancestors. -/
  declared {i : Nat} {t : TypeForm} {d : ClassRef} : t ∈ (st.classInfo i).genericBases →
    t.runtimeClass? = some d → st.descends (.user i) d = true

variable {st st' : Store} {info : ClassInfo} {k c d : ClassRef}

theorem descends_iff : st.descends c d = true ↔ d ∈ st.lineage c := by
  rw [descends, List.contains_iff_mem]

theorem mem_lineage_builtin {a : Builtin} :
    c ∈ st.lineage (.builtin a) ↔ ∃ b ∈ a.lineage, c = .builtin b := by
  simp [lineage, eq_comm]

/-- Built-in classes stand below built-in classes alone. -/
theorem descends_builtin_iff {a : Builtin} :
    st.descends (.builtin a) c = true ↔ ∃ b ∈ a.lineage, c = .builtin b := by
  rw [descends_iff, mem_lineage_builtin]

/-- What a class stands below is known. -/
theorem Ordered.lt_of_descends (ho : st.Ordered) {j : Nat} (h : st.descends c (.user j) = true) :
    j < st.classes.size := by
  cases c with
  | builtin a =>
    obtain ⟨b, -, hb⟩ := descends_builtin_iff.mp h
    cases hb
  | user i => exact ho.known h

/-- A hierarchy with the same ancestors, declared over the same, is ordered, too. -/
theorem Ordered.of_agree (ho : st.Ordered) (hsize : st.classes.size ≤ st'.classes.size)
    (hlineage : ∀ i, (st'.classInfo i).lineage = (st.classInfo i).lineage)
    (hgeneric : ∀ i, (st'.classInfo i).genericBases = (st.classInfo i).genericBases) : st'.Ordered := by
  have hdescends : ∀ c d, st'.descends c d = st.descends c d := by
    intro c d
    cases c with
    | builtin b => rfl
    | user i => simp only [descends, lineage, hlineage]
  refine ⟨?_, ?_, ?_, ?_⟩
  · intro k c d h h'
    rw [hdescends] at h h' ⊢
    exact ho.trans h h'
  · intro i j h
    rw [hdescends] at h
    exact Nat.lt_of_lt_of_le (ho.known h) hsize
  · intro i b h
    rw [hdescends] at h
    exact ho.mayBeBase h
  · intro i t d ht hd
    rw [hgeneric] at ht
    rw [hdescends]
    exact ho.declared ht hd

theorem Ordered.of_classes (ho : st.Ordered) (h : st'.classes = st.classes) : st'.Ordered :=
  ho.of_agree (Nat.le_of_eq (by rw [h])) (fun i => by rw [classInfo, classInfo, h])
    (fun i => by rw [classInfo, classInfo, h])

/-! ## §4  Declaring classes -/

/-- Before anything is declared the hierarchy is ordered. -/
theorem ordered_empty : empty.Ordered := by
  have hnone : ∀ i d, empty.descends (.user i) d = false := fun _ _ => rfl
  refine ⟨?_, ?_, ?_, ?_⟩
  · intro k c d h h'
    cases k with
    | user i =>
      rw [hnone] at h
      cases h
    | builtin a =>
      obtain ⟨b, hb, rfl⟩ := descends_builtin_iff.mp h
      obtain ⟨b', hb', rfl⟩ := descends_builtin_iff.mp h'
      exact descends_builtin_iff.mpr ⟨b', Builtin.lineage_trans hb hb', rfl⟩
  · intro i j h
    rw [hnone] at h
    cases h
  · intro i b h
    rw [hnone] at h
    cases h
  · intro i t d ht
    exact absurd ht (List.not_mem_nil)

/-- The store with one more class. -/
def withClass (st : Store) (info : ClassInfo) : Store := { st with classes := st.classes.push info }

/-- The bases of a new class may be bases, and are there. -/
def CanBeBases (st : Store) (bases : List ClassRef) : Prop :=
  ∀ b ∈ bases, Declaration.mayBeBase b = true ∧ ∀ j, b = .user j → j < st.classes.size

theorem canBeBases_singleton {b : ClassRef} (hb : Declaration.mayBeBase b = true)
    (hj : ∀ j, b = .user j → j < st.classes.size) : st.CanBeBases [b] := by
  intro b' hb'
  obtain rfl := List.mem_singleton.mp hb'
  exact ⟨hb, hj⟩

theorem classInfo_withClass_new : (st.withClass info).classInfo st.classes.size = info := by
  simp [classInfo, withClass]

theorem classInfo_withClass_old {i : Nat} (hi : i ≠ st.classes.size) :
    (st.withClass info).classInfo i = st.classInfo i := by
  simp only [classInfo, withClass, Array.getElem?_push, hi, if_false]

theorem descends_withClass_old (hc : c ≠ .user st.classes.size) :
    (st.withClass info).descends c d = st.descends c d := by
  cases c with
  | builtin b => rfl
  | user i =>
    have hi : i ≠ st.classes.size := by
      rintro rfl
      exact hc rfl
    simp only [descends, lineage, classInfo_withClass_old hi]

/-- A new class stands below itself, its bases and what these stand below. -/
theorem descends_withClass_new
    (hl : Hierarchy.linearize? (.user st.classes.size) info.bases (info.bases.map st.lineage) =
      some info.lineage) :
    (st.withClass info).descends (.user st.classes.size) d = true ↔
      d = .user st.classes.size ∨ d ∈ info.bases ∨ ∃ b ∈ info.bases, st.descends b d = true := by
  rw [descends_iff, lineage, classInfo_withClass_new, Hierarchy.mem_linearize? hl]
  simp only [List.mem_map, descends_iff]
  constructor
  · rintro (h | h | ⟨l, ⟨b, hb, rfl⟩, h⟩)
    · exact .inl h
    · exact .inr (.inl h)
    · exact .inr (.inr ⟨b, hb, h⟩)
  · rintro (h | h | ⟨b, hb, h⟩)
    · exact .inl h
    · exact .inr (.inl h)
    · exact .inr (.inr ⟨_, ⟨b, hb, rfl⟩, h⟩)

/-- What a new class stands below, apart from itself, was declared before. -/
theorem Ordered.lt_of_bases (ho : st.Ordered) (hb : st.CanBeBases info.bases) {j : Nat}
    (hj : .user j ∈ info.bases ∨ ∃ b ∈ info.bases, st.descends b (.user j) = true) :
    j < st.classes.size := by
  rcases hj with hj | ⟨b, -, hj⟩
  · exact (hb _ hj).2 j rfl
  · exact ho.lt_of_descends hj

/-- A class that was declared before is not the new one. -/
theorem ne_new_of_lt (hc : ∀ j, c = .user j → j < st.classes.size) : c ≠ .user st.classes.size := by
  intro heq
  exact Nat.lt_irrefl _ (hc _ heq)

/-- **A hierarchy stays ordered when a class is put in order over its bases.** -/
theorem ordered_push (info : ClassInfo) (ho : st.Ordered)
    (hl : Hierarchy.linearize? (.user st.classes.size) info.bases (info.bases.map st.lineage) =
      some info.lineage)
    (hb : st.CanBeBases info.bases)
    (hg : ∀ t ∈ info.genericBases, ∀ d, t.runtimeClass? = some d → d ∈ info.lineage) :
    (st.withClass info).Ordered where
  trans {k c d} h h' := by
    by_cases hk : k = .user st.classes.size
    · subst hk
      rcases (descends_withClass_new hl).mp h with rfl | hc
      · exact h'
      · rw [descends_withClass_old (ne_new_of_lt (by rintro j rfl; exact ho.lt_of_bases hb hc))] at h'
        refine (descends_withClass_new hl).mpr (.inr (.inr ?_))
        rcases hc with hc | ⟨b, hb, hc⟩
        · exact ⟨c, hc, h'⟩
        · exact ⟨b, hb, ho.trans hc h'⟩
    · rw [descends_withClass_old hk] at h ⊢
      rw [descends_withClass_old (ne_new_of_lt (by rintro j rfl; exact ho.lt_of_descends h))] at h'
      exact ho.trans h h'
  known {i j} h := by
    have hsize : (st.withClass info).classes.size = st.classes.size + 1 := by simp [withClass]
    rw [hsize]
    by_cases hi : i = st.classes.size
    · subst hi
      rcases (descends_withClass_new hl).mp h with hj | hj
      · cases hj
        exact Nat.lt_succ_self _
      · exact Nat.lt_succ_of_lt (ho.lt_of_bases hb hj)
    · rw [descends_withClass_old (by simpa using hi)] at h
      exact Nat.lt_succ_of_lt (ho.known h)
  mayBeBase {i b} h := by
    by_cases hi : i = st.classes.size
    · subst hi
      rcases (descends_withClass_new hl).mp h with hb' | hb' | ⟨a, ha, hab⟩
      · cases hb'
      · exact (hb _ hb').1
      · cases a with
        | builtin a =>
          obtain ⟨b', hb', heq⟩ := descends_builtin_iff.mp hab
          cases heq
          exact Builtin.mayBeBase_of_lineage hb' (hb _ ha).1
        | user j => exact ho.mayBeBase hab
    · rw [descends_withClass_old (by simpa using hi)] at h
      exact ho.mayBeBase h
  declared {i t d} ht hd := by
    by_cases hi : i = st.classes.size
    · subst hi
      rw [classInfo_withClass_new] at ht
      rw [descends_iff, lineage, classInfo_withClass_new]
      exact hg t ht d hd
    · rw [classInfo_withClass_old hi] at ht
      rw [descends_withClass_old (by simpa using hi)]
      exact ho.declared ht hd

/-! ## §5  Ancestry and registration -/

/-- Whether a class names another among its ancestors, or is registered with it. -/
def names (st : Store) (c d : ClassRef) : Bool :=
  st.descends c d || match d with
    | .builtin b => st.isRegistered c b
    | .user _ => false

theorem isRegistered_iff {b : Builtin} :
    st.isRegistered c b = true ↔ ∃ a, st.descends c (.builtin a) = true ∧ b ∈ a.registered := by
  simp only [isRegistered, List.any_eq_true, descends_iff]
  constructor
  · rintro ⟨k, hk, hb⟩
    cases k with
    | builtin a => exact ⟨a, hk, List.contains_iff_mem.mp hb⟩
    | user i => cases hb
  · rintro ⟨a, ha, hb⟩
    exact ⟨.builtin a, ha, List.contains_iff_mem.mpr hb⟩

theorem names_iff :
    st.names c d = true ↔
      st.descends c d = true ∨
        ∃ a b, d = .builtin b ∧ st.descends c (.builtin a) = true ∧ b ∈ a.registered := by
  cases d with
  | user i => simp [names]
  | builtin b => simp [names, isRegistered_iff]

theorem names_of_descends (h : st.descends c d = true) : st.names c d = true :=
  names_iff.mpr (.inl h)

/-- **Ancestry or registration is transitive in an ordered hierarchy.** -/
theorem Ordered.names_trans (ho : st.Ordered) (h : st.names k c = true) (h' : st.names c d = true) :
    st.names k d = true := by
  rw [names_iff] at h h'
  rcases h with h | ⟨a, b, rfl, ha, hb⟩
  · rcases h' with h' | ⟨a, b, rfl, ha, hb⟩
    · exact names_of_descends (ho.trans h h')
    · exact names_iff.mpr (.inr ⟨a, b, rfl, ho.trans h ha, hb⟩)
  · rcases h' with h' | ⟨a', b', rfl, ha', hb'⟩
    · obtain ⟨b', hb', rfl⟩ := descends_builtin_iff.mp h'
      rcases Builtin.registered_closed hb hb' with hreg | rfl
      · exact names_iff.mpr (.inr ⟨a, b', rfl, ha, hreg⟩)
      · have hobject : st.descends (.builtin a) (.builtin .object) = true :=
          descends_builtin_iff.mpr ⟨.object, a.object_mem_lineage, rfl⟩
        exact names_of_descends (ho.trans ha hobject)
    · obtain ⟨a'', ha'', heq⟩ := descends_builtin_iff.mp ha'
      cases heq
      rw [Builtin.registered_of_registered hb ha''] at hb'
      cases hb'

end Store
end MemberAccess
