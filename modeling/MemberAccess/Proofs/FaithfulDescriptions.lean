import MemberAccess.Proofs.FoundMembers
import MemberAccess.Value.Run

/-!
# Which member a description speaks of

An object is described by looking it up again: a property by the first name under which a class of the
lineage keeps it, a function by the name it was given when it was written.  What the description speaks of
is whatever is found under that name, and finding starts anew from the class that is asked.  So it speaks of
the object exactly when the object is the first thing found there (`described_is_found_first`).

It is the first thing found exactly where nothing else stands before it (`described_denotes_iff`): a function
where no subclass on the way keeps anything under the function's own name (`function_denoted_iff`), and not at
all where it is kept under other names only (`function_not_denoted`); a property where no subclass on the way
keeps anything else under its name (`property_denoted_iff`).  Otherwise it is its override that is described
(`Kennel.inherited_property_is_described_by_its_override`).
-/

namespace MemberAccess.Member

open MemberAccess.Action

variable {run : Runner} {st st' : Store} {c k : ClassRef} {d : MemberDescriptor} {obj e : Value}
  {name kept : String} {owner : Option TypeForm}

/-! ## §1  The first entry of a name -/

/-- A class and its ancestors find an entry first: no class before keeps anything under a name that counts
there, and the class that keeps the entry keeps nothing under a name that counts before. -/
def FindsFirst (st : Store) (c : ClassRef) (name : String) (k : ClassRef) (kept : String) (e : Value) :
    Prop :=
  ∃ pre post before after,
    st.lineage c = pre ++ k :: post ∧
    (∀ j ∈ pre, ∀ n ∈ candidateNames st j name, st.entry? j n = none) ∧
    candidateNames st k name = before ++ kept :: after ∧
    (∀ n ∈ before, st.entry? k n = none) ∧
    st.entry? k kept = some e

/-- A class keeps an entry under the first of the names that count and are there. -/
theorem findSome?_candidates {names : List String} {r : ClassRef × String × Value} :
    (names.findSome? fun n => (st.entry? k n).map (k, n, ·)) = some r ↔
      ∃ before after, names = before ++ r.2.1 :: after ∧ (∀ n ∈ before, st.entry? k n = none) ∧
        st.entry? k r.2.1 = some r.2.2 ∧ r.1 = k := by
  rw [List.findSome?_eq_some_iff]
  constructor
  · rintro ⟨before, n, after, hnames, hn, hbefore⟩
    obtain ⟨e, he, rfl⟩ := Option.map_eq_some_iff.mp hn
    exact ⟨before, after, hnames, by simpa using hbefore, he, rfl⟩
  · rintro ⟨before, after, hnames, hbefore, he, hk⟩
    refine ⟨before, r.2.1, after, hnames, ?_, by simpa using hbefore⟩
    rw [he, Option.map_some, ← hk]

/-- **Finding finds the first entry.** -/
theorem find?_eq_some_iff : find? st c name = some (k, kept, e) ↔ FindsFirst st c name k kept e := by
  unfold find?
  rw [List.findSome?_eq_some_iff]
  constructor
  · rintro ⟨pre, j, post, hlineage, hj, hpre⟩
    obtain ⟨before, after, hnames, hbefore, he, rfl⟩ := findSome?_candidates.mp hj
    refine ⟨pre, post, before, after, hlineage, ?_, hnames, hbefore, he⟩
    intro j hj n hn
    have hnone := List.findSome?_eq_none_iff.mp (hpre j hj) n hn
    simpa using hnone
  · rintro ⟨pre, post, before, after, hlineage, hpre, hnames, hbefore, he⟩
    refine ⟨pre, k, post, hlineage, findSome?_candidates.mpr ⟨before, after, hnames, hbefore, he, rfl⟩, ?_⟩
    intro j hj
    rw [List.findSome?_eq_none_iff]
    intro n hn
    rw [hpre j hj n hn]
    rfl

/-! ## §2  What a descriptor denotes -/

/-- The object of a class entry: what is wrapped, or the entry itself. -/
def unwrapped : Value → Value
  | .atom (.static r) | .atom (.classMethod r) => .routine r
  | e => e

/-- The function of a bound method, and any other object itself. -/
def underlying : Value → Value
  | .bound r _ => .routine r
  | v => v

/-- A descriptor denotes an object: its class keeps that very object under its name. -/
def Denotes (st : Store) (d : MemberDescriptor) (obj : Value) : Prop :=
  ∃ k e, d.declaring = .cls k ∧ st.entry? k d.name = some e ∧ unwrapped e = underlying obj

/-! ## §3  Looking objects up again -/

/-- The first name under which a declared class of a lineage keeps a property. -/
def propertyName? (st : Store) (c : ClassRef) (p : Nat) : Option String :=
  (st.lineage c).findSome? fun
    | .user i => ((st.classInfo i).entries.find? fun e => e.2 == .atom (.property p)).map (·.1)
    | .builtin _ => none

/-- **The class and the name that an object is looked up by again**, and the object world in which it is: a
function without a given owner is looked up after its name has led to one. -/
inductive SoughtAs (run : Runner) (st : Store) :
    Value → Option TypeForm → Store → ClassRef → String → Prop
  | property {p : Nat} {c : ClassRef} {n : String} : propertyName? st c p = some n →
      SoughtAs run st (.atom (.property p)) (some (.cls c)) st c n
  | bound {i : Nat} {v : Value} {owner : Option TypeForm} :
      SoughtAs run st (.bound (.user i) v) owner st (receiverClass st v) (st.function i).name
  | owned {i : Nat} {c : ClassRef} :
      SoughtAs run st (.routine (.user i)) (some (.cls c)) st c (st.function i).name
  | alone {i : Nat} {c : ClassRef} {st₁ : Store} :
      (ownerFromName (st.function i)).perform run st = (.ok c, st₁) →
      SoughtAs run st (.routine (.user i)) none st₁ c (st.function i).name

/-- A method that is given is the one found first. -/
theorem finds_of_methodOf (h : (methodOf c name).perform run st = (.ok d, st')) :
    ∃ k e, FindsFirst st c name k d.name e ∧ d.declaring = .cls k := by
  obtain ⟨k, kept, e, m, s, hints, st₁, hfind, -, -, -, rfl⟩ := exists_of_methodOf h
  exact ⟨k, e, find?_eq_some_iff.mp hfind, rfl⟩

/-- So is a property. -/
theorem finds_of_propertyOf (h : (propertyOf c name).perform run st = (.ok d, st')) :
    ∃ k e, FindsFirst st c name k d.name e ∧ d.declaring = .cls k := by
  obtain ⟨k, kept, p, t, st₁, hfind, -, rfl⟩ := exists_of_propertyOf h
  exact ⟨k, _, find?_eq_some_iff.mp hfind, rfl⟩

/-- A property is described as what its name is in the class that it is described with. -/
theorem perform_describe_property {p : Nat} {n : String} (h : propertyName? st c p = some n) :
    (describe (.atom (.property p)) (some (.cls c))).perform run st = (propertyOf c n).perform run st := by
  unfold describe
  rw [perform_bind_get]
  dsimp only
  split
  case h_1 m hm =>
    cases hm.symm.trans h
    rfl
  case h_2 hm => cases hm.symm.trans h

/-- **What is described is what is found first** under the name that the object is looked up by. -/
theorem exists_sought (h : (describe obj owner).perform run st = (.ok d, st'))
    (hclass : ∀ c, obj ≠ .cls c) :
    ∃ st₁ c n k e, SoughtAs run st obj owner st₁ c n ∧ FindsFirst st₁ c n k d.name e ∧
      d.declaring = .cls k := by
  unfold describe at h
  rw [perform_bind_get] at h
  split at h
  case h_1 => cases h
  case h_2 c => exact absurd rfl (hclass c)
  case h_3 p =>
    split at h
    case h_1 => cases h
    case h_2 c =>
      dsimp only at h
      split at h
      case h_1 n hn =>
        obtain ⟨k, e, hfinds, hd⟩ := finds_of_propertyOf h
        exact ⟨st, c, n, k, e, .property hn, hfinds, hd⟩
      case h_2 => cases h
    case h_3 => cases h
  case h_4 i v =>
    obtain ⟨k, e, hfinds, hd⟩ := finds_of_methodOf h
    exact ⟨st, _, _, k, e, .bound, hfinds, hd⟩
  case h_5 i =>
    dsimp only at h
    split at h
    case h_1 c =>
      obtain ⟨k, e, hfinds, hd⟩ := finds_of_methodOf h
      exact ⟨st, c, _, k, e, .owned, hfinds, hd⟩
    case h_2 => cases h
    case h_3 =>
      obtain ⟨c, st₁, hc, h⟩ := exists_of_perform_bind h
      obtain ⟨k, e, hfinds, hd⟩ := finds_of_methodOf h
      exact ⟨st₁, c, _, k, e, .alone hc, hfinds, hd⟩
  case h_6 => cases h

/-- What is found first is one entry. -/
theorem FindsFirst.unique {k' : ClassRef} {kept' : String} {e' : Value}
    (h : FindsFirst st c name k kept e) (h' : FindsFirst st c name k' kept' e') :
    k = k' ∧ kept = kept' ∧ e = e' := by
  have hsame := (find?_eq_some_iff.mpr h).symm.trans (find?_eq_some_iff.mpr h')
  simpa using hsame

theorem FindsFirst.entry (h : FindsFirst st c name k kept e) : st.entry? k kept = some e := by
  obtain ⟨_, _, _, _, _, _, _, _, he⟩ := h
  exact he

/-- A descriptor of what is found first denotes an object exactly if the object is what is found. -/
theorem denotes_iff (hd : d.declaring = .cls k) (h : FindsFirst st c name k d.name e) :
    Denotes st d obj ↔ unwrapped e = underlying obj := by
  constructor
  · rintro ⟨k', e', hk', he', hobj⟩
    obtain rfl : k = k' := by simpa using hd.symm.trans hk'
    obtain rfl : e = e' := Option.some.inj (h.entry.symm.trans he')
    exact hobj
  · intro hobj
    exact ⟨k, e, hd, h.entry, hobj⟩

/-- **A description speaks of what is found first** under the name that the object is looked up by again, and
denotes the object exactly if the object is what is found. -/
theorem described_is_found_first (h : (describe obj owner).perform run st = (.ok d, st'))
    (hclass : ∀ c, obj ≠ .cls c) :
    ∃ st₁ c n k e, SoughtAs run st obj owner st₁ c n ∧ FindsFirst st₁ c n k d.name e ∧
      d.declaring = .cls k ∧ (Denotes st₁ d obj ↔ unwrapped e = underlying obj) := by
  obtain ⟨st₁, c, n, k, e, hsought, hfinds, hd⟩ := exists_sought h hclass
  exact ⟨st₁, c, n, k, e, hsought, hfinds, hd, denotes_iff hd hfinds⟩

/-! ## §4  Where the object stands -/

/-- Of two marked places of a list one stands before the other, or they are the same place. -/
theorem append_cons_cases {α : Type} {l l' r r' : List α} {x y : α} (h : l ++ x :: r = l' ++ y :: r') :
    x ∈ l' ∨ y ∈ l ∨ l = l' := by
  rcases List.append_eq_append_iff.mp h with ⟨between, rfl, hsplit⟩ | ⟨between, rfl, hsplit⟩
  all_goals
    cases between with
    | nil => simp
    | cons z between =>
      cases hsplit
      simp

/-- **Where an object is the first thing found**: the first place that keeps the object, among the classes of
the lineage and the names that count in them, is the first place that keeps anything. -/
theorem FindsFirst.unwrapped_eq_iff {obj e' : Value} {pre post : List ClassRef} {before after : List String}
    {k' : ClassRef} {kept' : String} (hfinds : FindsFirst st c name k' kept' e')
    (hlineage : st.lineage c = pre ++ k :: post) (hnames : candidateNames st k name = before ++ kept :: after)
    (he : st.entry? k kept = some e) (hobj : unwrapped e = obj)
    (hpre : ∀ j ∈ pre, ∀ n ∈ candidateNames st j name, ∀ e, st.entry? j n = some e → unwrapped e ≠ obj)
    (hbefore : ∀ n ∈ before, ∀ e, st.entry? k n = some e → unwrapped e ≠ obj) :
    unwrapped e' = obj ↔ (∀ j ∈ pre, ∀ n ∈ candidateNames st j name, st.entry? j n = none) ∧
      ∀ n ∈ before, st.entry? k n = none := by
  constructor
  · intro hsame
    obtain ⟨pre', post', before', after', hlineage', hnone, hnames', hnone', he'⟩ := hfinds
    have hcounts : kept ∈ candidateNames st k name := by simp [hnames]
    have hcounts' : kept' ∈ candidateNames st k' name := by simp [hnames']
    rcases append_cons_cases (hlineage.symm.trans hlineage') with hk | hk | rfl
    · exact absurd ((hnone k hk kept hcounts).symm.trans he) nofun
    · exact absurd hsame (hpre k' hk kept' hcounts' e' he')
    · obtain ⟨rfl, rfl⟩ : k = k' ∧ post = post' := by simpa [hlineage] using hlineage'
      rcases append_cons_cases (hnames.symm.trans hnames') with hn | hn | rfl
      · exact absurd ((hnone' kept hn).symm.trans he) nofun
      · exact absurd hsame (hbefore kept' hn e' he')
      · exact ⟨hnone, hnone'⟩
  · rintro ⟨hnone, hnone'⟩
    obtain ⟨-, -, rfl⟩ := hfinds.unique ⟨pre, post, before, after, hlineage, hnone, hnames, hnone', he⟩
    exact hobj

/-- An object is looked up by one class and one name. -/
theorem SoughtAs.unique {st₁ st₂ : Store} {c₁ c₂ : ClassRef} {n₁ n₂ : String}
    (h : SoughtAs run st obj owner st₁ c₁ n₁) (h' : SoughtAs run st obj owner st₂ c₂ n₂) :
    st₁ = st₂ ∧ c₁ = c₂ ∧ n₁ = n₂ := by
  cases h with
  | property hn =>
    cases h' with
    | property hn' => exact ⟨rfl, rfl, Option.some.inj (hn.symm.trans hn')⟩
  | bound => cases h'; exact ⟨rfl, rfl, rfl⟩
  | owned => cases h'; exact ⟨rfl, rfl, rfl⟩
  | alone hc =>
    cases h' with
    | alone hc' =>
      obtain ⟨hc, rfl⟩ := Prod.mk.inj (hc.symm.trans hc')
      exact ⟨rfl, Except.ok.inj hc, rfl⟩

/-- **An object is described as itself exactly where nothing else stands before it**: no subclass on the way
keeps anything under a name that counts for the one it is looked up by, and its own class nothing under such a
name that comes first. -/
theorem described_denotes_iff {c₁ : ClassRef} {st₁ : Store} {n : String} {pre post : List ClassRef}
    {before after : List String} (h : (describe obj owner).perform run st = (.ok d, st'))
    (hsought : SoughtAs run st obj owner st₁ c₁ n)
    (hlineage : st₁.lineage c₁ = pre ++ k :: post) (hnames : candidateNames st₁ k n = before ++ kept :: after)
    (he : st₁.entry? k kept = some e) (hobj : unwrapped e = underlying obj)
    (hpre : ∀ j ∈ pre, ∀ m ∈ candidateNames st₁ j n, ∀ e, st₁.entry? j m = some e →
      unwrapped e ≠ underlying obj)
    (hbefore : ∀ m ∈ before, ∀ e, st₁.entry? k m = some e → unwrapped e ≠ underlying obj) :
    Denotes st₁ d obj ↔ (∀ j ∈ pre, ∀ m ∈ candidateNames st₁ j n, st₁.entry? j m = none) ∧
      ∀ m ∈ before, st₁.entry? k m = none := by
  have hclass : ∀ c, obj ≠ .cls c := by
    rintro c rfl
    cases hsought
  obtain ⟨st₂, c₂, n₂, k₂, e₂, hsought₂, hfinds, hd⟩ := exists_sought h hclass
  obtain ⟨rfl, rfl, rfl⟩ := hsought.unique hsought₂
  rw [denotes_iff hd hfinds]
  exact hfinds.unwrapped_eq_iff hlineage hnames he hobj hpre hbefore

/-- **A function of a class is described as itself exactly where nothing is kept under its own name before
it**, whatever names it has besides. -/
theorem function_denoted_iff {f : Nat} {pre post : List ClassRef} {before after : List String}
    (h : (describe (.routine (.user f)) (some (.cls c))).perform run st = (.ok d, st'))
    (hlineage : st.lineage c = pre ++ k :: post)
    (hnames : candidateNames st k (st.function f).name = before ++ kept :: after)
    (he : st.entry? k kept = some e) (hobj : unwrapped e = .routine (.user f))
    (hpre : ∀ j ∈ pre, ∀ m ∈ candidateNames st j (st.function f).name, ∀ e, st.entry? j m = some e →
      unwrapped e ≠ .routine (.user f))
    (hbefore : ∀ m ∈ before, ∀ e, st.entry? k m = some e → unwrapped e ≠ .routine (.user f)) :
    Denotes st d (.routine (.user f)) ↔
      (∀ j ∈ pre, ∀ m ∈ candidateNames st j (st.function f).name, st.entry? j m = none) ∧
        ∀ m ∈ before, st.entry? k m = none :=
  described_denotes_iff h .owned hlineage hnames he hobj hpre hbefore

/-- **A function that no class of the lineage keeps under its own name is not described as itself**, whatever
names it has there. -/
theorem function_not_denoted {f : Nat}
    (h : (describe (.routine (.user f)) (some (.cls c))).perform run st = (.ok d, st'))
    (hnowhere : ∀ j ∈ st.lineage c, ∀ m ∈ candidateNames st j (st.function f).name, ∀ e,
      st.entry? j m = some e → unwrapped e ≠ .routine (.user f)) :
    ¬ Denotes st d (.routine (.user f)) := by
  obtain ⟨st₁, c₁, n, k, e, hsought, hfinds, hd⟩ := exists_sought h nofun
  obtain ⟨rfl, rfl, rfl⟩ := hsought.unique .owned
  rw [denotes_iff hd hfinds]
  obtain ⟨pre, post, before, after, hlineage, -, hnames, -, he⟩ := hfinds
  exact hnowhere k (by simp [hlineage]) d.name (by simp [hnames]) e he

/-! ## §5  Properties -/

theorem candidateNames_head (st : Store) (k : ClassRef) (name : String) :
    ∃ rest, candidateNames st k name = name :: rest := by
  unfold candidateNames
  split <;> exact ⟨_, rfl⟩

/-- Only declared classes keep properties. -/
theorem mem_entries_of_entry? {p : Nat} (h : st.entry? k name = some (.atom (.property p))) :
    ∃ i, k = .user i ∧ (name, .atom (.property p)) ∈ (st.classInfo i).entries := by
  cases k with
  | user i =>
    obtain ⟨before, after, hentries, -⟩ := List.lookup_eq_some_iff.mp h
    exact ⟨i, rfl, by simp [hentries]⟩
  | builtin b =>
    unfold Store.entry? at h
    dsimp only at h
    split at h <;> cases h

/-- A class whose names are all different keeps a property under the first name that has it. -/
theorem entry?_of_first_name {p i : Nat} {n : String}
    (hname : ((st.classInfo i).entries.find? fun e => e.2 == .atom (.property p)).map (·.1) = some n)
    (hkeys : ((st.classInfo i).entries.map (·.1)).Nodup) :
    st.entry? (.user i) n = some (.atom (.property p)) := by
  obtain ⟨⟨m, v⟩, hfound, hm⟩ := Option.map_eq_some_iff.mp hname
  cases hm
  obtain ⟨hv, before, after, hentries, -⟩ := List.find?_eq_some_iff_append.mp hfound
  rw [beq_iff_eq] at hv
  cases hv
  refine List.lookup_eq_some_iff.mpr ⟨before, after, hentries, ?_⟩
  rw [hentries, List.map_append, List.map_cons, List.nodup_append] at hkeys
  intro e he
  rw [bne_iff_ne]
  exact (hkeys.2.2 _ (List.mem_map_of_mem he) _ List.mem_cons_self).symm

/-- Properties are kept as they are. -/
theorem unwrapped_eq_property {p : Nat} : unwrapped e = .atom (.property p) ↔ e = .atom (.property p) := by
  constructor
  · intro h
    unfold unwrapped at h
    split at h <;> first | exact h | cases h
  · rintro rfl
    rfl

/-- **A property of a class is described as itself exactly where no subclass on the way keeps anything else
under its name.** -/
theorem property_denoted_iff {p i : Nat} {pre post : List ClassRef} {n : String}
    (h : (describe (.atom (.property p)) (some (.cls c))).perform run st = (.ok d, st'))
    (hlineage : st.lineage c = pre ++ .user i :: post)
    (hpre : ∀ j, .user j ∈ pre → ∀ e ∈ (st.classInfo j).entries, e.2 ≠ .atom (.property p))
    (hname : ((st.classInfo i).entries.find? fun e => e.2 == .atom (.property p)).map (·.1) = some n)
    (hkeys : ((st.classInfo i).entries.map (·.1)).Nodup) :
    Denotes st d (.atom (.property p)) ↔
      ∀ j ∈ pre, ∀ m ∈ candidateNames st j n, st.entry? j m = none := by
  have hsought : propertyName? st c p = some n := by
    refine List.findSome?_eq_some_iff.mpr ⟨pre, .user i, post, hlineage, hname, ?_⟩
    intro k hk
    cases k with
    | user j => simpa using hpre j hk
    | builtin b => rfl
  obtain ⟨rest, hrest⟩ : ∃ rest, candidateNames st (.user i) n = [] ++ n :: rest :=
    candidateNames_head st (.user i) n
  rw [described_denotes_iff h (.property hsought) hlineage hrest (entry?_of_first_name hname hkeys) rfl]
  · simp
  · -- what a class keeps under a name is among its entries
    rintro j hj m - e he hobj
    obtain rfl := unwrapped_eq_property.mp hobj
    obtain ⟨i', rfl, hmem⟩ := mem_entries_of_entry? he
    exact hpre i' hj _ hmem rfl
  · nofun

end MemberAccess.Member

namespace MemberAccess.Kennel

open MemberAccess.Action Member

/-- Animals and dogs, which are animals, each with a property for the size. -/
def world : Store :=
  { Store.empty with
    classes := #[
      { (default : ClassInfo) with
        name := "Animal"
        qualifiedName := "Animal"
        bases := [.builtin .object]
        lineage := [.user 0, .builtin .object]
        entries := [("size", .atom (.property 0))]
        hasFields := true },
      { (default : ClassInfo) with
        name := "Dog"
        qualifiedName := "Dog"
        bases := [.user 0]
        lineage := [.user 1, .user 0, .builtin .object]
        entries := [("size", .atom (.property 1))]
        hasFields := true }]
    functions := #[
      { (default : Function) with
        name := "size"
        qualifiedName := "Animal.size"
        parameters := [⟨"self", .positional, none, none⟩]
        body := .statements [.result (.constant (.int 1))] },
      { (default : Function) with
        name := "size"
        qualifiedName := "Dog.size"
        parameters := [⟨"self", .positional, none, none⟩]
        body := .statements [.result (.constant (.int 2))] }]
    properties := #[⟨some 0, none⟩, ⟨some 1, none⟩] }

/-- What the runner of a world is for a call. -/
abbrev runner : Runner := runFunction callDepth

/-- The property of a class, as it is described. -/
def sizeOf (i : Nat) : MemberDescriptor := propertyDescriptor world (.user i) "size" i (.builtin .any)

/-- A property of animals or dogs is described by what its name is in the class that it is described with. -/
theorem describe_size {i p : Nat}
    (hfind : find? world (.user i) "size" = some (.user i, "size", .atom (.property i)))
    (hname : propertyName? world (.user i) p = some "size")
    (htype : (propertyType (property world i)).perform runner world = (.ok (.builtin .any), world)) :
    (describe (.atom (.property p)) (some (.cls (.user i)))).perform runner world =
      (.ok (sizeOf i), world) := by
  have hfound : (find (.user i) "size").perform runner world =
      (.ok (.user i, "size", .atom (.property i)), world) := by
    unfold find
    rw [perform_bind_get, hfind]
    rfl
  rw [perform_describe_property hname]
  unfold propertyOf
  exact (perform_bind_ok hfound).trans (perform_bind_ok htype)

/-- The property of animals is described as itself with their class. -/
theorem own_property_is_described :
    (describe (.atom (.property 0)) (some (.cls (.user 0)))).perform runner world = (.ok (sizeOf 0), world) ∧
    Denotes world (sizeOf 0) (.atom (.property 0)) := by
  have h := describe_size (i := 0) (p := 0) (by decide +kernel) rfl rfl
  refine ⟨h, ?_⟩
  obtain ⟨st₁, c, n, k, e, hsought, hfinds, hd, hiff⟩ := described_is_found_first h nofun
  have hfirst : find? world (.user 0) "size" = some (.user 0, "size", .atom (.property 0)) := by
    decide +kernel
  cases hsought with
  | property hname =>
    cases hname
    obtain ⟨-, -, rfl⟩ := hfinds.unique (find?_eq_some_iff.mp hfirst)
    exact hiff.mpr rfl

/-- **An inherited property is described by its override**: the property of animals is found in the lineage
of dogs under the name that dogs keep a property of their own by, and what is described is the latter. -/
theorem inherited_property_is_described_by_its_override :
    (describe (.atom (.property 0)) (some (.cls (.user 1)))).perform runner world = (.ok (sizeOf 1), world) ∧
    ¬ Denotes world (sizeOf 1) (.atom (.property 0)) := by
  refine ⟨describe_size (i := 1) (by decide +kernel) rfl rfl, ?_⟩
  rintro ⟨k, e, hk, he, hobj⟩
  cases hk
  cases he
  cases hobj

end MemberAccess.Kennel
