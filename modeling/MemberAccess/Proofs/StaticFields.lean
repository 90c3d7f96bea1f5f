import MemberAccess.Proofs.FoundMembers
import MemberAccess.Proofs.KnownAnnotations
import MemberAccess.Proofs.ShownClassVariables
import MemberAccess.Proofs.SpecialMethods

/-!
# Static fields

A field is static when its annotation makes it a variable of its class.  The annotation is looked at in one
of two ways: looked up, where all annotations of the class and of its ancestors can be looked up, and as it
was written otherwise.  An annotation that is a class variable, given as an object or as a text, is one both
ways; the bare form, and a text that only begins like one, are not.
-/

namespace MemberAccess

open MemberAccess.Action

/-! ## §1  Stores that follow -/

namespace Store

/-- A store that may come after another: it is well declared, and names mean the same classes. -/
structure Follows (st st' : Store) : Prop where
  wellDeclared : st'.WellDeclared
  classNamed? (n : String) : st'.classNamed? n = st.classNamed? n

variable {st : Store}

theorem WellDeclared.follows (h : st.WellDeclared) : st.Follows st := ⟨h, fun _ => rfl⟩

theorem lasting_follows : Lasting st.Follows where
  objects h := ⟨lasting_wellDeclared.objects h.wellDeclared, h.classNamed?⟩
  nextMark h := ⟨lasting_wellDeclared.nextMark h.wellDeclared, h.classNamed?⟩
  shared h hgives := ⟨lasting_wellDeclared.shared h.wellDeclared hgives, h.classNamed?⟩
  entries {st' i es} h := by
    refine ⟨lasting_wellDeclared.entries h.wellDeclared, fun n => ?_⟩
    rw [← h.classNamed? n]
    have hname (j : Nat) :
        ({ st' with classes := st'.classes.modify i fun k => { k with entries := es k } }.classInfo j).name =
          (st'.classInfo j).name :=
            classInfo_modify st' i (fun k => { k with entries := es k }) (·.name) (fun _ => rfl) j
    simp only [Store.classNamed?, Array.size_modify, hname]

end Store

/-! ## §2  What may come to a class variable -/

namespace Hints

open TypeForm

variable {I : Store → Prop} {run : Runner} {scope : Scope} {t u : TypeForm} {ts us : List TypeForm}
  {st st' : Store}

/-- An annotation that may show a class variable when it is looked up in some store of an invariant. -/
inductive MayShow (I : Store → Prop) (run : Runner) (scope : Scope) : TypeForm → Prop
  | shows {t : TypeForm} : t.ShowsClassVar → MayShow I run scope t
  | annotated {m : Mark} {i : TypeForm} {ns : List String} :
      MayShow I run scope i → MayShow I run scope (.annotated m i ns)
  | union {m : Mark} {w : UnionSpelling} {ts : List TypeForm} {t : TypeForm} :
      t ∈ ts → MayShow I run scope t → MayShow I run scope (.union m w ts)
  | forward {s : String} {e : Expr} {v : Value} {t : TypeForm} {st st' : Store} :
      I st → Source.read? s = some e → (e.eval scope).perform run st = (.ok v, st') →
      checkOperand .operand (st'.typeFormOf v) = .ok t → MayShow I run scope t →
      MayShow I run scope (.forward s)

/-- A text whose meaning in some store of an invariant may show a class variable, at a place. -/
def TextMayShow (I : Store → Prop) (run : Runner) (scope : Scope) (place : Place) (s : String) : Prop :=
  ∃ e v t st st', I st ∧ Source.read? s = some e ∧ (e.eval scope).perform run st = (.ok v, st') ∧
    checkOperand place (st'.typeFormOf v) = .ok t ∧ MayShow I run scope t

/-- An annotation whose parts were looked up is the one that there was or a new one of its form. -/
theorem eq_or_eq_of_renewed {p : Prop} [Decidable p] {a : TypeForm} {form : Mark → TypeForm}
    (h : Action.perform (if p then return a else return form (← freshMark)) run st = (.ok u, st')) :
    u = a ∨ ∃ m, u = form m := by
  split at h
  · cases h
    exact .inl rfl
  · obtain ⟨m, st₁, -, h⟩ := exists_of_perform_bind h
    cases h
    exact .inr ⟨m, rfl⟩

/-- Where a new annotation of its form shows no class variable, the one that there was shows it. -/
theorem showsClassVar_of_renewed {p : Prop} [Decidable p] {a : TypeForm} {form : Mark → TypeForm}
    (h : Action.perform (if p then return a else return form (← freshMark)) run st = (.ok u, st'))
    (hshows : u.ShowsClassVar) (hform : ∀ m, ¬ (form m).ShowsClassVar) : a.ShowsClassVar := by
  rcases eq_or_eq_of_renewed h with rfl | ⟨m, rfl⟩
  · exact hshows
  · exact absurd hshows (hform m)

/-- What looking up says with so much fuel: an annotation, and each of several, may show a class variable if
what it comes to shows one, and so may a text. -/
structure EvaluatingMayShow (I : Store → Prop) (run : Runner) (scope : Scope) (fuel : Nat) : Prop where
  one {seen : List String} {t u : TypeForm} {st st' : Store} : I st →
    (evaluate scope fuel seen t).perform run st = (.ok u, st') → u.ShowsClassVar → MayShow I run scope t
  all {seen : List String} {ts us : List TypeForm} {st st' : Store} : I st →
    (evaluateAll scope fuel seen ts).perform run st = (.ok us, st') →
    List.Forall₂ (fun t u => u.ShowsClassVar → MayShow I run scope t) ts us
  text {seen : List String} {place : Place} {s : String} {u : TypeForm} {st st' : Store} : I st →
    (evaluateText scope fuel seen place s).perform run st = (.ok u, st') → u.ShowsClassVar →
    TextMayShow I run scope place s

/-- What stripping says with so much fuel: it brings no class variable to light. -/
structure StrippingShows (I : Store → Prop) (run : Runner) (fuel : Nat) : Prop where
  one {t u : TypeForm} {st st' : Store} : I st → (strip fuel t).perform run st = (.ok u, st') →
    u.ShowsClassVar → t.ShowsClassVar
  all {ts us : List TypeForm} {st st' : Store} : I st → (stripAll fuel ts).perform run st = (.ok us, st') →
    List.Forall₂ (fun t u => u.ShowsClassVar → t.ShowsClassVar) ts us

section
variable {fuel : Nat} {seen : List String} {place : Place} {s : String} (hI : run.Upholds I)
include hI

theorem forall₂_mayShow_of_evaluateAll (hmay : EvaluatingMayShow I run scope fuel) (hst : I st)
    (h : (evaluateAll scope (fuel + 1) seen ts).perform run st = (.ok us, st')) :
    List.Forall₂ (fun t u => u.ShowsClassVar → MayShow I run scope t) ts us := by
  unfold evaluateAll at h
  cases ts with
  | nil =>
    cases h
    exact .nil
  | cons t ts =>
    obtain ⟨u, st₁, hu, h⟩ := exists_of_perform_bind h
    obtain ⟨us, st₂, hus, h⟩ := exists_of_perform_bind h
    cases h
    have h₁ := ((keeps_evaluating hI scope _).1 _ t).of_perform hst hu
    exact .cons (hmay.one hst hu) (hmay.all h₁ hus)

theorem textMayShow_of_evaluateText (hmay : EvaluatingMayShow I run scope fuel) (hst : I st)
    (h : (evaluateText scope (fuel + 1) seen place s).perform run st = (.ok u, st'))
    (hshows : u.ShowsClassVar) : TextMayShow I run scope place s := by
  unfold evaluateText at h
  split at h
  · cases h
    cases hshows
  split at h
  case h_1 => cases h
  case h_2 e he =>
    obtain ⟨v, st₁, hv, h⟩ := exists_of_perform_bind h
    rw [perform_bind_get] at h
    obtain ⟨t, st₂, ht, h⟩ := exists_of_perform_bind h
    rw [perform_ofOutcome] at ht
    have hcheck := (Prod.mk.inj ht).1
    obtain rfl := (Prod.mk.inj ht).2
    have h₁ := (Expr.keeps_eval hI _ e).of_perform hst hv
    exact ⟨e, v, t, st, st₁, hst, he, hv, hcheck, hmay.one h₁ h hshows⟩

variable (hshare : ∀ {st}, I st → st.WellDeclared)
include hshare

theorem mayShow_of_evaluate (hmay : EvaluatingMayShow I run scope fuel) (hst : I st)
    (h : (evaluate scope (fuel + 1) seen t).perform run st = (.ok u, st')) (hshows : u.ShowsClassVar) :
    MayShow I run scope t := by
  -- a union that was formed anew shows one in a member that was looked up
  have hunion {m w ts us st₁} (h₁ : (evaluateAll scope fuel seen ts).perform run st = (.ok us, st₁))
      (hus : ∃ u ∈ us, u.ShowsClassVar) : MayShow I run scope (.union m w ts) := by
    obtain ⟨u, hu, hshows⟩ := hus
    obtain ⟨v, hv, hv'⟩ := exists_of_forall₂ (hmay.all hst h₁) hu
    exact .union hv (hv' hshows)
  have hkeeps ts := (keeps_evaluating hI scope fuel).2.1 seen ts
  unfold evaluate at h
  split at h
  case h_1 =>
    obtain ⟨e, v, t, st₁, st₂, h₁, he, hv, ht, hmay⟩ := hmay.text hst h hshows
    exact .forward h₁ he hv ht hmay
  case h_2 m ts =>
    obtain ⟨us, st₁, hus, h⟩ := exists_of_perform_bind h
    split at h
    · cases h
      exact .shows hshows
    · exact hunion hus (exists_showsClassVar_of_unionOf
        (hshare ((hkeeps ts).of_perform hst hus)) h hshows)
  case h_3 m ts =>
    obtain ⟨us, st₁, hus, h⟩ := exists_of_perform_bind h
    split at h
    · cases h
      exact .shows hshows
    · exact hunion hus (exists_showsClassVar_of_barsOf hI hshare
        ((hkeeps ts).of_perform hst hus) h hshows)
  case h_4 =>
    obtain ⟨ts, st₁, -, h⟩ := exists_of_perform_bind h
    obtain ⟨us, st₂, -, h⟩ := exists_of_perform_bind h
    obtain ⟨m, st₃, -, h⟩ := exists_of_perform_bind h
    cases h
    cases hshows
  case h_5 =>
    obtain ⟨us, st₁, -, h⟩ := exists_of_perform_bind h
    exact .shows (showsClassVar_of_renewed h hshows nofun)
  case h_6 =>
    obtain ⟨us, st₁, -, h⟩ := exists_of_perform_bind h
    obtain ⟨r, st₂, -, h⟩ := exists_of_perform_bind h
    exact .shows (showsClassVar_of_renewed h hshows nofun)
  case h_7 i ns =>
    obtain ⟨v, st₁, hv, h⟩ := exists_of_perform_bind h
    rcases eq_or_eq_of_renewed h with rfl | ⟨m, rfl⟩
    · exact .shows hshows
    · cases hshows with
      | annotated hshows => exact .annotated (hmay.one hst hv hshows)
  case h_8 => exact .shows .classVar
  case h_9 =>
    obtain ⟨v, st₁, -, h⟩ := exists_of_perform_bind h
    exact .shows (showsClassVar_of_renewed h hshows nofun)
  case h_10 =>
    cases h
    exact .shows hshows

/-- **Looking up shows no class variable that may not be shown.** -/
theorem mayShow_of_evaluating (scope : Scope) (fuel : Nat) : EvaluatingMayShow I run scope fuel := by
  induction fuel with
  | zero => exact ⟨nofun, nofun, nofun⟩
  | succ fuel ih =>
    exact ⟨mayShow_of_evaluate hI hshare ih, forall₂_mayShow_of_evaluateAll hI ih,
      textMayShow_of_evaluateText hI ih⟩

omit hshare in
theorem forall₂_showsClassVar_of_stripAll (hstrip : StrippingShows I run fuel) (hst : I st)
    (h : (stripAll (fuel + 1) ts).perform run st = (.ok us, st')) :
    List.Forall₂ (fun t u => u.ShowsClassVar → t.ShowsClassVar) ts us := by
  unfold stripAll at h
  cases ts with
  | nil =>
    cases h
    exact .nil
  | cons t ts =>
    obtain ⟨u, st₁, hu, h⟩ := exists_of_perform_bind h
    obtain ⟨us, st₂, hus, h⟩ := exists_of_perform_bind h
    cases h
    have h₁ := ((keeps_stripping hI _).1 t).of_perform hst hu
    exact .cons (hstrip.one hst hu) (hstrip.all h₁ hus)

theorem showsClassVar_of_strip (hstrip : StrippingShows I run fuel) (hst : I st)
    (h : (strip (fuel + 1) t).perform run st = (.ok u, st')) (hshows : u.ShowsClassVar) :
    t.ShowsClassVar := by
  unfold strip at h
  split at h
  case h_1 => exact .annotated (hstrip.one hst h hshows)
  case h_2 m w ts =>
    obtain ⟨us, st₁, hus, h⟩ := exists_of_perform_bind h
    have h₁ := ((keeps_stripping hI fuel).2 ts).of_perform hst hus
    split at h
    · cases h
      exact hshows
    · obtain ⟨u, hu, hshows⟩ : ∃ u ∈ us, u.ShowsClassVar := by
        split at h
        · exact exists_showsClassVar_of_barsOf hI hshare h₁ h hshows
        · exact exists_showsClassVar_of_unionOf (hshare h₁) h hshows
      obtain ⟨v, hv, hv'⟩ := exists_of_forall₂ (hstrip.all hst hus) hu
      exact .union hv (hv' hshows)
  case h_3 =>
    obtain ⟨us, st₁, -, h⟩ := exists_of_perform_bind h
    exact showsClassVar_of_renewed h hshows nofun
  case h_4 =>
    obtain ⟨us, st₁, -, h⟩ := exists_of_perform_bind h
    obtain ⟨r, st₂, -, h⟩ := exists_of_perform_bind h
    exact showsClassVar_of_renewed h hshows nofun
  case h_5 => exact .classVar
  case h_6 =>
    obtain ⟨v, st₁, -, h⟩ := exists_of_perform_bind h
    exact showsClassVar_of_renewed h hshows nofun
  case h_7 =>
    cases h
    exact hshows

/-- **Stripping brings no class variable to light.** -/
theorem showsClassVar_of_stripping (fuel : Nat) : StrippingShows I run fuel := by
  induction fuel with
  | zero =>
    refine ⟨fun _ h hshows => ?_, fun _ h => ?_⟩
    · cases h
      exact hshows
    · cases h
      exact List.forall₂_same.mpr fun _ _ => id
  | succ fuel ih => exact ⟨showsClassVar_of_strip hI hshare ih, forall₂_showsClassVar_of_stripAll hI ih⟩

end

/-! ## §3  Annotations of class variables -/

/-- An annotation that is the form of class variables applied to a type: as an object, or as a text that
names the form alone or in the module that it is of. -/
inductive IsClassVar (st : Store) : TypeForm → Prop
  | object {m : Mark} {i : TypeForm} : IsClassVar st (.classVar m i)
  | text {s : String} {e : Expr} : st.classNamed? "ClassVar" = Option.none →
      Source.read? s = some (.form .subscript [.named "ClassVar", e]) → IsClassVar st (.text s)
  | dotted {s : String} {e : Expr} : st.classNamed? "typing" = Option.none →
      Source.read? s = some (.form .subscript [.member (.named "typing") "ClassVar", e]) →
      IsClassVar st (.text s)

/-- An annotation of a class that may show a class variable when it is looked up. -/
def MayBeClassVar (I : Store → Prop) (run : Runner) (scope : Scope) : TypeForm → Prop
  | .text s => TextMayShow I run scope ⟨false, true⟩ s
  | t => MayShow I run scope t

theorem evaluate_classVar {fuel : Nat} {seen : List String} {m : Mark} {i : TypeForm}
    (h : (evaluate scope fuel seen (.classVar m i)).perform run st = (.ok u, st')) :
    ∃ m' i', u = .classVar m' i' := by
  cases fuel with
  | zero => cases h
  | succ fuel =>
    unfold evaluate at h
    obtain ⟨j, st₁, -, h⟩ := exists_of_perform_bind h
    rcases eq_or_eq_of_renewed h with rfl | ⟨m', rfl⟩ <;> exact ⟨_, _, rfl⟩

theorem strip_classVar {fuel : Nat} {m : Mark} {i : TypeForm}
    (h : (strip fuel (.classVar m i)).perform run st = (.ok u, st')) : ∃ m' i', u = .classVar m' i' := by
  cases fuel with
  | zero =>
    cases h
    exact ⟨_, _, rfl⟩
  | succ fuel =>
    unfold strip at h
    obtain ⟨j, st₁, -, h⟩ := exists_of_perform_bind h
    rcases eq_or_eq_of_renewed h with rfl | ⟨m', rfl⟩ <;> exact ⟨_, _, rfl⟩

theorem classVarOf_ok (hst : st.WellDeclared)
    (h : (classVarOf t).perform run st = (.ok u, st')) : ∃ m i, u = .classVar m i := by
  rcases exists_of_shared h with ⟨st₁, st₂, hmake⟩ | ⟨us, hmem, -⟩
  · have hgives : Former.classVar.Gives [] u := classVar_gives hmake
    exact hgives
  · exact hst.shares hmem

/-- The form of class variables applied to a type is a class variable. -/
theorem eval_classVar {head e : Expr} {v : Value} {I : Store → Prop} (hI : run.Upholds I)
    (hshare : ∀ {st}, I st → st.WellDeclared) (hst : I st)
    (hhead : ∀ st₁ v, (head.eval scope).perform run st = (.ok v, st₁) →
      v = .typeForm (.bare .classVar))
    (h : ((Expr.form .subscript [head, e]).eval scope).perform run st = (.ok v, st')) :
    ∃ m i, v = .typeForm (.classVar m i) := by
  unfold Expr.eval at h
  obtain ⟨vs, st₁, hvs, h⟩ := exists_of_perform_bind h
  have h₁ := (Expr.keeps_evalAll hI _ _).of_perform hst hvs
  obtain ⟨w, rfl⟩ : ∃ w, vs = [.typeForm (.bare .classVar), w] := by
    unfold Expr.evalAll at hvs
    obtain ⟨f, st₂, hf, hvs⟩ := exists_of_perform_bind hvs
    obtain rfl := hhead _ _ hf
    obtain ⟨ws, st₃, hws, hvs⟩ := exists_of_perform_bind hvs
    cases hvs
    unfold Expr.evalAll at hws
    obtain ⟨w, st₄, -, hws⟩ := exists_of_perform_bind hws
    obtain ⟨none, st₅, hnone, hws⟩ := exists_of_perform_bind hws
    cases hnone
    cases hws
    exact ⟨w, rfl⟩
  unfold Former.apply at h
  rw [perform_bind_get] at h
  obtain ⟨t, st₂, ht, h⟩ := exists_of_perform_bind h
  obtain ⟨m, i, rfl⟩ := classVarOf_ok (hshare h₁) ht
  cases h
  exact ⟨m, i, rfl⟩

/-- What a name of a module means in the annotations of a class, unless a class has that name. -/
theorem eval_named {k : ClassRef} {n : String} {v w : Value} (hnamed : st.classNamed? n = Option.none)
    (hn : moduleNamed? .empty n = some w)
    (h : ((Expr.named n).eval (classScope k)).perform run st = (.ok v, st')) : v = w ∧ st' = st := by
  have hmodule : (classScope k).named st n = some w := by
    change (moduleNamed? st n <|> _) = some w
    have hmodule : moduleNamed? st n = moduleNamed? .empty n := by
      unfold moduleNamed?
      rw [hnamed]
      rfl
    rw [hmodule, hn]
    rfl
  unfold Expr.eval at h
  rw [perform_bind_get, hmodule] at h
  cases h
  exact ⟨rfl, rfl⟩

section
variable {st₀ : Store} {k : ClassRef} (hI : run.Upholds st₀.Follows)
include hI

/-- What is read as the form of class variables applied to a type is looked up to a class variable. -/
theorem evaluateText_classVar {fuel : Nat} {s : String} {head e : Expr} (hst : st₀.Follows st)
    (hread : Source.read? s = some (.form .subscript [head, e]))
    (hhead : ∀ st₁ v, (head.eval scope).perform run st = (.ok v, st₁) → v = .typeForm (.bare .classVar))
    (h : (evaluateText scope fuel [] ⟨false, true⟩ s).perform run st = (.ok u, st')) :
    ∃ m i, u = .classVar m i := by
  cases fuel with
  | zero => cases h
  | succ fuel =>
    unfold evaluateText at h
    rw [if_neg (by simp), hread] at h
    obtain ⟨v, st₁, hv, h⟩ := exists_of_perform_bind h
    obtain ⟨m, i, rfl⟩ := eval_classVar hI Store.Follows.wellDeclared hst hhead hv
    exact evaluate_classVar h

theorem lookUp_classVar (ht : IsClassVar st₀ t) (hst : st₀.Follows st)
    (h : (lookUp (classScope k) ⟨false, true⟩ t).perform run st = (.ok u, st')) :
    ∃ m i, u = .classVar m i := by
  cases ht with
  | object => exact evaluate_classVar h
  | text hnamed hread =>
    unfold lookUp at h
    dsimp only at h
    rw [hread] at h
    refine evaluateText_classVar hI hst hread (fun st₁ v hv => ?_) h
    exact (eval_named ((hst.classNamed? _).trans hnamed) rfl hv).1
  | dotted hnamed hread =>
    unfold lookUp at h
    dsimp only at h
    rw [hread] at h
    refine evaluateText_classVar hI hst hread (fun st₁ v hv => ?_) h
    change (Expr.eval _ (.named "typing") >>= fun w => w.getAttribute "ClassVar").perform run st = _ at hv
    obtain ⟨w, st₂, hw, hmember⟩ := exists_of_perform_bind hv
    obtain ⟨rfl, rfl⟩ := eval_named ((hst.classNamed? _).trans hnamed) rfl hw
    rw [Value.perform_getAttribute (Store.readsPlainly_of_builtin rfl)] at hmember
    cases hmember
    rfl

/-- What shows a class variable once it is looked up may be one. -/
theorem mayBeClassVar_of_lookUp (hst : st₀.Follows st)
    (h : (lookUp (classScope k) ⟨false, true⟩ t).perform run st = (.ok u, st'))
    (hshows : u.ShowsClassVar) : MayBeClassVar st₀.Follows run (classScope k) t := by
  have hmay := mayShow_of_evaluating hI Store.Follows.wellDeclared (classScope k) depth
  unfold lookUp at h
  split at h
  case h_1 =>
    cases h
    cases hshows
  case h_2 s =>
    split at h
    case h_1 => cases h
    case h_2 => exact hmay.text hst h hshows
  case h_3 hnone htext =>
    unfold MayBeClassVar
    split
    case h_1 s => exact absurd rfl (htext s)
    case h_2 => exact hmay.one hst h hshows

end

/-! ## §4  The annotations of the class itself -/

variable {raw hints : List (String × TypeForm)} {name : String}

theorem lookup_put (n : String) (t : TypeForm) (ts : List (String × TypeForm)) :
    (put n t ts).lookup n = some t := by
  induction ts with
  | nil => simp [put]
  | cons p ts ih =>
    unfold put
    split
    · simp
    · rename_i hne
      rw [List.lookup_cons, beq_false_of_ne (Ne.symm hne)]
      exact ih

theorem lookup_put_ne {n m : String} (h : m ≠ n) (t : TypeForm) (ts : List (String × TypeForm)) :
    (put n t ts).lookup m = ts.lookup m := by
  induction ts with
  | nil => rw [put, List.lookup_cons, beq_false_of_ne h]
  | cons p ts ih =>
    unfold put
    split
    case isTrue heq =>
      subst heq
      rw [List.lookup_cons, List.lookup_cons, beq_false_of_ne h]
    case isFalse => rw [List.lookup_cons, List.lookup_cons, ih]

/-- Looking up the annotations of one class keeps what is known of other names. -/
theorem lookup_foldlM_of_not_mem {found : List (String × TypeForm)} {place : Place}
    (hraw : name ∉ raw.map (·.1))
    (h : (raw.foldlM (fun ts (n, t) => do return put n (← lookUp scope place t) ts) found).perform run st =
      (.ok hints, st')) : hints.lookup name = found.lookup name := by
  induction raw generalizing found st with
  | nil =>
    cases h
    rfl
  | cons p raw ih =>
    rw [List.map_cons, List.mem_cons, not_or] at hraw
    rw [List.foldlM_cons] at h
    obtain ⟨ts, st₁, hp, hrest⟩ := exists_of_perform_bind h
    obtain ⟨u, st₂, -, hp⟩ := exists_of_perform_bind hp
    cases hp
    rw [ih hraw.2 hrest, lookup_put_ne hraw.1]

variable {I : Store → Prop} (hI : run.Upholds I)
include hI

/-- An annotation of a class is known as what it is looked up to. -/
theorem exists_lookUp_of_foldlM {found : List (String × TypeForm)} {place : Place} (hst : I st)
    (hraw : (raw.map (·.1)).Nodup) (ht : raw.lookup name = some t)
    (h : (raw.foldlM (fun ts (n, t) => do return put n (← lookUp scope place t) ts) found).perform run st =
      (.ok hints, st')) :
    ∃ u st₁ st₂, I st₁ ∧ (lookUp scope place t).perform run st₁ = (.ok u, st₂) ∧
      hints.lookup name = some u := by
  induction raw generalizing found st with
  | nil => cases ht
  | cons p raw ih =>
    obtain ⟨n, t'⟩ := p
    obtain ⟨hn, hraw⟩ := List.nodup_cons.mp hraw
    rw [List.foldlM_cons] at h
    obtain ⟨ts, st₁, hp, hrest⟩ := exists_of_perform_bind h
    obtain ⟨u, st₂, hu, hp⟩ := exists_of_perform_bind hp
    cases hp
    rw [List.lookup_cons] at ht
    split at ht
    case h_1 heq =>
      cases ht
      obtain rfl := eq_of_beq heq
      refine ⟨u, st, _, hst, hu, ?_⟩
      rw [lookup_foldlM_of_not_mem hn hrest, lookup_put]
    case h_2 => exact ih ((keeps_lookUp hI).of_perform hst hu) hraw ht hrest

/-- Dropping notes keeps an annotation under its name. -/
theorem exists_strip_of_stripNamed {found : List (String × TypeForm)} (hst : I st)
    (ht : found.lookup name = some t) (h : (stripNamed found).perform run st = (.ok hints, st')) :
    ∃ u st₁ st₂, I st₁ ∧ (strip depth t).perform run st₁ = (.ok u, st₂) ∧ hints.lookup name = some u := by
  unfold stripNamed at h
  induction found generalizing st hints with
  | nil => cases ht
  | cons p found ih =>
    obtain ⟨n, t'⟩ := p
    rw [List.mapM_cons] at h
    obtain ⟨q, st₁, hq, h⟩ := exists_of_perform_bind h
    obtain ⟨u, st₂, hu, hq⟩ := exists_of_perform_bind hq
    cases hq
    obtain ⟨rest, st₃, hrest, h⟩ := exists_of_perform_bind h
    cases h
    rw [List.lookup_cons] at ht ⊢
    split at ht
    case h_1 heq =>
      cases ht
      exact ⟨u, st, _, hst, hu, rfl⟩
    case h_2 heq =>
      obtain ⟨v, st₄, st₅, h₄, hv, hlookup⟩ := ih ((keeps_strip hI).of_perform hst hu) ht hrest
      exact ⟨v, st₄, st₅, h₄, hv, hlookup⟩

/-- **The annotation of a class itself is looked up and rid of its notes**, in stores that may come after
the one before, where all annotations of the class and of its ancestors can be looked up. -/
theorem exists_of_ofClass {i : Nat} (hst : I st) (hself : (st.lineage (.user i)).head? = some (.user i))
    (hnames : ((st.classInfo i).annotations.map (·.1)).Nodup)
    (ht : (st.classInfo i).annotations.lookup name = some t)
    (h : (ofClass (.user i)).perform run st = (.ok hints, st')) :
    ∃ u v st₁ st₂ st₃ st₄, I st₁ ∧ I st₃ ∧
      (lookUp (classScope (.user i)) ⟨false, true⟩ t).perform run st₁ = (.ok u, st₂) ∧
      (strip depth u).perform run st₃ = (.ok v, st₄) ∧ hints.lookup name = some v := by
  unfold ofClass at h
  rw [perform_bind_get] at h
  obtain ⟨found, st₁, hfound, hstrip⟩ := exists_of_perform_bind h
  obtain ⟨rest, hrest⟩ : ∃ rest, st.lineage (.user i) = .user i :: rest := by
    cases hl : st.lineage (.user i) with
    | nil =>
      rw [hl] at hself
      cases hself
    | cons k rest =>
      rw [hl] at hself
      cases hself
      exact ⟨rest, rfl⟩
  rw [hrest, List.reverse_cons, List.foldlM_append] at hfound
  obtain ⟨before, st₂, hbefore, hown⟩ := exists_of_perform_bind hfound
  obtain ⟨after, st₃, hafter, hown⟩ := exists_of_perform_bind hown
  cases hown
  have h₂ : I st₂ := by
    refine Keeps.of_perform (keeps_foldlM fun ts k _ => ?_) hst hbefore
    split
    · exact keeps_pure
    · exact keeps_foldlM fun ts p _ => keeps_bind (keeps_lookUp hI) fun _ => keeps_pure
  obtain ⟨u, st₄, st₅, h₄, hu, hlookup⟩ := exists_lookUp_of_foldlM hI h₂ hnames ht hafter
  have h₁ : I st₁ := by
    refine Keeps.of_perform (keeps_foldlM fun ts p _ => ?_) h₂ hafter
    exact keeps_bind (keeps_lookUp hI) fun _ => keeps_pure
  obtain ⟨v, st₆, st₇, h₆, hv, hlookup⟩ := exists_strip_of_stripNamed hI h₁ hlookup hstrip
  exact ⟨u, v, st₄, st₅, st₆, st₇, h₄, h₆, hu, hv, hlookup⟩

end Hints

/-! ## §5  Static fields -/

namespace Member

open Hints

variable {run : Runner} {st st' : Store} {c : ClassRef} {d : MemberDescriptor} {name : String} {i : Nat}
  {t : TypeForm}

/-- All annotations of a declared class and of its ancestors can be looked up. -/
def CanBeLookedUp (run : Runner) (st : Store) (i : Nat) : Prop :=
  ∃ hints st', (ofClass (.user i)).perform run st = (.ok hints, st')

/-- The annotation that a field of a declared class goes by: what its own is looked up to, or its own as it
was written. -/
theorem exists_of_field (h : (resolve (.field name) (.cls c)).perform run st = (.ok d, st'))
    (hdeclaring : d.declaring = .cls (.user i))
    (ht : (st.classInfo i).annotations.lookup name = some t) :
    ∃ hints, (∃ st₁, (ofClass (.user i)).perform run st = (.ok hints, st₁) ∨
        ∃ f, (ofClass (.user i)).perform run st = (.error f, st₁) ∧
          hints = (st.classInfo i).annotations) ∧
      d.isStatic = isStaticField ((hints.lookup name).getD t) := by
  unfold resolve at h
  obtain ⟨c', st₁, hc, hfield⟩ := exists_of_perform_bind h
  cases hc
  obtain ⟨k, hints, st₂, -, hknown, rfl⟩ := exists_of_fieldOf hfield
  cases hdeclaring
  unfold knownOfClass at hknown
  rw [perform_bind_get] at hknown
  refine ⟨hints, ⟨st₂, ?_⟩, ?_⟩
  · rcases orWritten_ok hknown with hlooked | ⟨f, hf, -, hraw⟩
    · exact .inl hlooked
    · exact .inr ⟨f, hf, hraw⟩
  · change isStaticField ((hints.lookup name).getD
      (((st.classInfo i).annotations.lookup name).getD (.builtin .any))) = _
    rw [ht]
    rfl

end Member
end MemberAccess

namespace MemberAccess.Tallies

open MemberAccess.Action Hints Member

/-- Tallies: a count of the class and one of each instance, annotated as such, the bare form, and a kind
that is an instance of a class whose name begins like the form, beside an annotation that names nothing. -/
def world : Store :=
  { Store.empty with
    classes := #[
      { (default : ClassInfo) with
        name := "Tally"
        qualifiedName := "Tally"
        bases := [.builtin .object]
        lineage := [.user 0, .builtin .object]
        annotations := [("made", .text "ClassVar[int]"), ("count", .builtin .int), ("limit", .bare .classVar)]
        hasFields := true },
      { (default : ClassInfo) with
        name := "ClassVarious"
        qualifiedName := "ClassVarious"
        bases := [.builtin .object]
        lineage := [.user 1, .builtin .object]
        hasFields := true },
      { (default : ClassInfo) with
        name := "Entry"
        qualifiedName := "Entry"
        bases := [.builtin .object]
        lineage := [.user 2, .builtin .object]
        annotations := [("kind", .text "ClassVarious"), ("owner", .text "Missing")]
        hasFields := true }] }

/-- What the runner of a world is for a call. -/
abbrev runner : Runner := runFunction callDepth

theorem wellDeclared_world : world.WellDeclared where
  shares h := by cases h
  head {i} hi := by
    match i, hi with
    | 0, _ | 1, _ | 2, _ => rfl
  nodup i := by
    match i with
    | 0 | 1 | 2 => decide
    | _ + 3 => exact List.nodup_nil

/-- The class that declares a field, and whether the field is static, if it is found. -/
def found (c : ClassRef) (name : String) : Option (TypeForm × Bool) :=
  match (resolve (.field name) (.cls c)).perform runner world with
  | (.ok d, _) => some (d.declaring, d.isStatic)
  | (.error _, _) => none

theorem exists_of_found {c : ClassRef} {name : String} {t : TypeForm} {b : Bool}
    (h : found c name = some (t, b)) :
    ∃ d st', (resolve (.field name) (.cls c)).perform runner world = (.ok d, st') ∧
      d.declaring = t ∧ d.isStatic = b := by
  unfold found at h
  split at h
  case h_1 d st' hresolve =>
    cases h
    exact ⟨d, st', hresolve, rfl, rfl⟩
  case h_2 => cases h

/-- Whether a text reads as something applied to one operand, and as what. -/
def appliedName? : Option Expr → Option String
  | some (.form .subscript [.named n, _]) => some n
  | _ => none

theorem exists_of_appliedName? {o : Option Expr} {n : String} (h : appliedName? o = some n) :
    ∃ e, o = some (.form .subscript [.named n, e]) := by
  unfold appliedName? at h
  split at h
  case h_1 m e =>
    obtain rfl : m = n := Option.some.inj h
    exact ⟨e, rfl⟩
  case h_2 => cases h

theorem isClassVar_made : IsClassVar world (.text "ClassVar[int]") := by
  obtain ⟨e, hread⟩ := exists_of_appliedName? (o := Source.read? "ClassVar[int]") (n := "ClassVar")
    (by decide +kernel)
  exact .text (by decide +kernel) hread

end MemberAccess.Tallies
