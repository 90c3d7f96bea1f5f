import MemberAccess.Proofs.CacheRequests
import MemberAccess.Proofs.EqualAnnotations

/-!
# Keys of caches

Keys are looked up by equality, of the member and of the shape.  It is an equivalence, equal keys have a
hash together, and a cache finds the same entry for both.
-/

namespace MemberAccess

theorem MemberDescriptor.sameMember_iff {d e : MemberDescriptor} :
    d.sameMember e = true ↔
      d.kind = e.kind ∧ d.declaring.equal e.declaring = true ∧ d.name = e.name := by
  simp [sameMember, and_assoc]

namespace Receiver

theorem equal_refl (r : Receiver) : r.equal r = true := by
  cases r <;> simp [equal, TypeForm.equal_refl]

theorem equal_symm {r q : Receiver} (h : r.equal q = true) : q.equal r = true := by
  cases r <;> cases q <;> simp_all [equal, TypeForm.equal_symm]

theorem equal_trans {r q p : Receiver} (h : r.equal q = true) (h' : q.equal p = true) :
    r.equal p = true := by
  cases r <;> cases q <;> cases p <;> simp_all [equal]
  exact TypeForm.equal_trans h h'

end Receiver

namespace Shape

variable {s t u : Shape}

theorem equal_iff : s.equal t = true ↔
    s.family = t.family ∧ s.arity = t.arity ∧ s.receiver.equal t.receiver = true ∧
      equalPinned s.result? t.result? = true ∧ s.nonPublic = t.nonPublic := by
  simp [equal, and_assoc]

theorem equalPinned_refl (a : Option TypeForm) : equalPinned a a = true := by
  cases a <;> simp [equalPinned, TypeForm.equal_refl]

theorem equalPinned_symm {a b : Option TypeForm} (h : equalPinned a b = true) :
    equalPinned b a = true := by
  cases a <;> cases b <;> simp_all [equalPinned, TypeForm.equal_symm]

theorem equalPinned_trans {a b c : Option TypeForm} (h : equalPinned a b = true)
    (h' : equalPinned b c = true) : equalPinned a c = true := by
  cases a <;> cases b <;> cases c <;> simp_all [equalPinned]
  exact TypeForm.equal_trans h h'

theorem equal_refl (s : Shape) : s.equal s = true :=
  equal_iff.mpr ⟨rfl, rfl, Receiver.equal_refl _, equalPinned_refl _, rfl⟩

theorem equal_symm (h : s.equal t = true) : t.equal s = true := by
  obtain ⟨hf, ha, hr, hp, hn⟩ := equal_iff.mp h
  exact equal_iff.mpr ⟨hf.symm, ha.symm, Receiver.equal_symm hr, equalPinned_symm hp, hn.symm⟩

theorem equal_trans (h : s.equal t = true) (h' : t.equal u = true) : s.equal u = true := by
  obtain ⟨hf, ha, hr, hp, hn⟩ := equal_iff.mp h
  obtain ⟨hf', ha', hr', hp', hn'⟩ := equal_iff.mp h'
  exact equal_iff.mpr ⟨hf.trans hf', ha.trans ha', Receiver.equal_trans hr hr',
    equalPinned_trans hp hp', hn.trans hn'⟩

/-- What is asked of the types of a shape comes out alike for equal shapes, if it does for equal types. -/
theorem types_congr {q : TypeForm → Bool} (hq : ∀ {a b : TypeForm}, a.equal b = true → q a = q b)
    (h : s.equal t = true) :
    ((s.receiver.base?.map q).getD true && (s.result?.map q).getD true) =
      ((t.receiver.base?.map q).getD true && (t.result?.map q).getD true) := by
  obtain ⟨-, -, hr, hp, -⟩ := equal_iff.mp h
  have hbase : (s.receiver.base?.map q).getD true = (t.receiver.base?.map q).getD true := by
    cases hs : s.receiver <;> cases ht : t.receiver <;> rw [hs, ht] at hr <;>
      simp_all [Receiver.equal, Receiver.base?]
    exact hq hr
  have hpinned : (s.result?.map q).getD true = (t.result?.map q).getD true := by
    cases hs : s.result? <;> cases ht : t.result? <;> rw [hs, ht] at hp <;> simp_all [equalPinned]
    exact hq hp
  rw [hbase, hpinned]

/-- Equal shapes can be part of a key together. -/
theorem isHashable_congr (h : s.equal t = true) : s.isHashable = t.isHashable :=
  types_congr TypeForm.hashable_congr h

/-- Equal shapes can be described together. -/
theorem isPrintable_congr (h : s.equal t = true) : s.isPrintable = t.isPrintable :=
  types_congr TypeForm.isPrintable_congr h

end Shape

namespace CacheKey

variable {k l m : CacheKey}

theorem equal_iff : k.equal l = true ↔
    k.descriptor.sameMember l.descriptor = true ∧ k.shape.equal l.shape = true := by
  simp [equal]

theorem equal_refl (k : CacheKey) : k.equal k = true :=
  equal_iff.mpr ⟨MemberDescriptor.sameMember_iff.mpr ⟨rfl, TypeForm.equal_refl _, rfl⟩,
    Shape.equal_refl _⟩

theorem equal_symm (h : k.equal l = true) : l.equal k = true := by
  obtain ⟨hd, hs⟩ := equal_iff.mp h
  obtain ⟨hk, ht, hn⟩ := MemberDescriptor.sameMember_iff.mp hd
  exact equal_iff.mpr
    ⟨MemberDescriptor.sameMember_iff.mpr ⟨hk.symm, TypeForm.equal_symm ht, hn.symm⟩,
      Shape.equal_symm hs⟩

theorem equal_trans (h : k.equal l = true) (h' : l.equal m = true) : k.equal m = true := by
  obtain ⟨hd, hs⟩ := equal_iff.mp h
  obtain ⟨hd', hs'⟩ := equal_iff.mp h'
  obtain ⟨hk, ht, hn⟩ := MemberDescriptor.sameMember_iff.mp hd
  obtain ⟨hk', ht', hn'⟩ := MemberDescriptor.sameMember_iff.mp hd'
  exact equal_iff.mpr
    ⟨MemberDescriptor.sameMember_iff.mpr ⟨hk.trans hk', TypeForm.equal_trans ht ht', hn.trans hn'⟩,
      Shape.equal_trans hs hs'⟩

theorem equal_congr_right (h : k.equal l = true) (m : CacheKey) : m.equal k = m.equal l := by
  rw [Bool.eq_iff_iff]
  exact ⟨fun hk => equal_trans hk h, fun hl => equal_trans hl (equal_symm h)⟩

/-- **Equal keys can be looked up together.** -/
theorem isHashable_congr (h : k.equal l = true) : k.isHashable = l.isHashable := by
  obtain ⟨hd, hs⟩ := equal_iff.mp h
  obtain ⟨-, ht, -⟩ := MemberDescriptor.sameMember_iff.mp hd
  simp only [isHashable, MemberDescriptor.isHashable, TypeForm.hashable_congr ht,
    Shape.isHashable_congr hs]

end CacheKey

namespace AccessorCache

variable {α : Type} {c : AccessorCache α} {k l : CacheKey} {a : α}

/-- **A cache finds the same entry for equal keys.** -/
theorem find?_congr (h : k.equal l = true) : c.find? k = c.find? l := by
  simp only [find?, CacheKey.equal_congr_right h]

/-- What is kept for the first time for a key comes behind the other entries. -/
theorem entries_keep (hf : c.find? k = none) : (c.keep k a).entries = c.entries ++ [(k, a)] := by
  simp [keep, hf]

/-- Keeping something takes no entry away. -/
theorem entries_prefix_keep : c.entries <+: (c.keep k a).entries := by
  cases hf : c.find? k with
  | none => simp [entries_keep hf]
  | some b => simp [keep, hf]

/-- What was kept for a key is found, unless something had been kept for it before. -/
theorem find?_keep (hf : c.find? k = none) : (c.keep k a).find? k = some a := by
  have hnew : c.entries.find? (fun e => e.1.equal k) = none := Option.map_eq_none_iff.mp hf
  simp [find?, entries_keep hf, hnew, CacheKey.equal_refl]

/-- Keeping something for one key leaves what is kept for the others. -/
theorem find?_keep_of_some {b : α} (hf : c.find? l = some b) : (c.keep k a).find? l = some b := by
  obtain ⟨es, hes⟩ := entries_prefix_keep (c := c) (k := k) (a := a)
  obtain ⟨e, he, rfl⟩ := Option.map_eq_some_iff.mp hf
  simp [find?, ← hes, he]

/-- Keeping something for one key leaves nothing kept for a key that is not equal to it. -/
theorem find?_keep_of_ne (hf : c.find? l = none) (hk : k.equal l = false) :
    (c.keep k a).find? l = none := by
  have hnew : c.entries.find? (fun e => e.1.equal l) = none := Option.map_eq_none_iff.mp hf
  unfold find? keep
  split <;> simp [hnew, hk]

end AccessorCache
end MemberAccess
