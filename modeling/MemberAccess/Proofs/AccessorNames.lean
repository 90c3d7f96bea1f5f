import MemberAccess.Proofs.Building

/-!
# The names of accessors

The function of an accessor is named after its class, its member and its shape.  The shape's part of the
name is plain text, and plain text stands beside other text unharmed: it is kept by the normal form and
goes on any identifier.  So whether the name keeps the function from being made is decided by what stands
before that part, the *stem*, which says the class and the member and nothing of the shape
(`Plan.defect?_eq`).  Where class and member have plain names, nothing does.
-/

namespace MemberAccess

namespace Text

/-! ## §1  Plain characters in the tables -/

/-- The characters that can stand for themselves only. -/
def IsPlain (c : Char) : Prop := c.toNat < 0x80

instance (c : Char) : Decidable (IsPlain c) := inferInstanceAs (Decidable (c.toNat < 0x80))

/-- What the marks of a row of composites make of the letters. -/
def outcomes : List Char → List Char
  | _ :: c :: r => c :: outcomes r
  | _ => []

/-- No table says anything of a plain character. -/
theorem not_plain_of_tables :
    (∀ e ∈ equivalents, 0x80 ≤ e.1) ∧ (∀ e ∈ composites, 0x80 ≤ e.1) ∧ ∀ e ∈ markRanks, 0x80 ≤ e.1 := by
  simp only [← List.forall_iff_forall_mem]
  decide +kernel

theorem not_plain_of_row {l : List Char} (h : ((outcomes l).all fun c => decide (0x80 ≤ c.toNat)) = true) :
    ∀ c ∈ outcomes (String.ofList l).toList, 0x80 ≤ c.toNat := by
  rw [String.toList_ofList]
  simpa using h

set_option maxRecDepth 4000 in
/-- No mark makes a plain character of a letter. -/
theorem not_plain_of_outcomes : ∀ e ∈ composites, ∀ c ∈ outcomes e.2.toList, 0x80 ≤ c.toNat := by
  -- Row by row: evaluating the whole table at once takes the elaborator a minute.
  simp only [composites, List.forall_mem_cons]
  and_intros
  all_goals first | exact not_plain_of_row (by decide +kernel) | exact nofun

/-! ## §2  Plain characters beside others -/

variable {c : Char}

theorem letterOf?_eq_none : ∀ {l : List Char}, c ∉ outcomes l → letterOf? c l = none
  | [], _ | [_], _ => rfl
  | _ :: b :: r, h => by
      rw [outcomes, List.mem_cons, not_or] at h
      rw [letterOf?, if_neg (Ne.symm h.1)]
      exact letterOf?_eq_none h.2

theorem equivalent?_of_plain (hc : IsPlain c) : equivalent? c = none := by
  rw [equivalent?, List.findSome?_eq_none_iff]
  intro e he
  exact if_pos (Nat.lt_of_lt_of_le hc (not_plain_of_tables.1 e he))

theorem parts?_of_plain (hc : IsPlain c) : parts? c = none := by
  have hc' : c.toNat < 0x80 := hc
  have hsyllable : syllableParts? c = none := by
    rw [syllableParts?]
    simp [firstSyllable, show c.toNat < 0xac00 by omega]
  rw [parts?, hsyllable]
  refine List.findSome?_eq_none_iff.mpr ?_
  intro e he
  have hnone : letterOf? c e.2.toList = none := by
    refine letterOf?_eq_none fun hmem => ?_
    have := not_plain_of_outcomes e he c hmem
    omega
  simp [hnone]

theorem takeApart_of_plain (hc : IsPlain c) : ∀ fuel, takeApart fuel c = [c]
  | 0 => rfl
  | fuel + 1 => by rw [takeApart, equivalent?_of_plain hc, parts?_of_plain hc]

theorem markRank_of_plain (hc : IsPlain c) : markRank c = 0 := by
  rw [markRank, List.find?_eq_none.mpr]
  · rfl
  intro e he
  have hc' : c.toNat < 0x80 := hc
  have := not_plain_of_tables.2.2 e he
  simp only [Bool.and_eq_true, decide_eq_true_eq]
  omega

/-- A plain character is no mark of any letter. -/
theorem composite?_of_plain (hc : IsPlain c) (letter : Char) : composite? letter c = none := by
  have hc' : c.toNat < 0x80 := hc
  have hsyllable : syllable? letter c = none := by
    rw [syllable?]
    simp [firstVowel, firstFinal, show ¬ 0x1161 ≤ c.toNat by omega, show ¬ 0x11a7 < c.toNat by omega]
  have hrows : (composites.filter fun e => e.1 == c.toNat) = [] := by
    rw [List.filter_eq_nil_iff]
    intro e he
    have := not_plain_of_tables.2.1 e he
    rw [beq_iff_eq]
    omega
  rw [composite?, hsyllable, hrows]
  rfl

/-! ## §3  The normal form beside plain text -/

variable {s : List Char}

theorem flatMap_takeApart (hs : ∀ c ∈ s, IsPlain c) (fuel : Nat) : s.flatMap (takeApart fuel) = s := by
  induction s with
  | nil => rfl
  | cons c s ih =>
    rw [List.flatMap_cons, takeApart_of_plain (hs c (by simp)), ih fun d hd => hs d (by simp [hd])]
    rfl

/-- Plain characters stay where they are when marks are put in order. -/
theorem orderMarks_append (hs : ∀ c ∈ s, IsPlain c) (cs : List Char) :
    orderMarks (cs ++ s) = orderMarks cs ++ s := by
  have hfold (done : List Char) : (s.foldl (fun done c =>
      let k := markRank c
      if k = 0 then c :: done else insertMark c k done) done).reverse = done.reverse ++ s := by
    induction s generalizing done with
    | nil => simp
    | cons c s ih =>
      rw [List.foldl_cons]
      simp only [markRank_of_plain (hs c (by simp)), if_true]
      rw [ih fun d hd => hs d (by simp [hd])]
      simp
  rw [orderMarks, List.foldl_append]
  exact hfold _

/-- Plain characters are put together with nothing. -/
theorem compose_of_plain (hs : ∀ c ∈ s, IsPlain c) (done : List Char) (letter : Char)
    (marks : List Char) : compose done letter marks s = (marks ++ letter :: done).reverse ++ s := by
  induction s generalizing done letter marks with
  | nil => simp [compose]
  | cons c s ih =>
    have hc : IsPlain c := hs c (by simp)
    have hnone (isFree : Bool) : (if isFree then composite? letter c else none) = none := by
      rw [composite?_of_plain hc]
      exact ite_self _
    rw [compose.eq_def]
    simp only [markRank_of_plain hc, if_true, hnone]
    rw [ih fun d hd => hs d (by simp [hd])]
    simp

theorem compose_append (hs : ∀ c ∈ s, IsPlain c) (cs done : List Char) (letter : Char)
    (marks : List Char) :
    compose done letter marks (cs ++ s) = compose done letter marks cs ++ s := by
  induction cs generalizing done letter marks with
  | nil => simpa [compose] using compose_of_plain hs done letter marks
  | cons c cs ih =>
    rw [List.cons_append, compose.eq_def, compose.eq_def done letter marks (c :: cs)]
    simp only
    split
    · exact ih ..
    · split
      · exact ih ..
      · exact ih ..

/-- **Plain text goes on any text without changing its normal form.** -/
theorem normalForm_append {p s : String} (hs : ∀ c ∈ s.toList, IsPlain c) :
    normalForm (p ++ s) = normalForm p ++ s := by
  have hs' : (s.toList.all fun c => decide (c.toNat < 0x80)) = true := by
    simpa [IsPlain] using hs
  unfold normalForm
  rw [String.toList_append, List.all_append, hs', Bool.and_true]
  split
  · rfl
  rw [List.flatMap_append, flatMap_takeApart hs, orderMarks_append hs]
  cases orderMarks (p.toList.flatMap (takeApart 8)) with
  | nil =>
    cases hl : s.toList with
    | nil => simpa using hl
    | cons c r =>
      rw [hl] at hs
      rw [List.nil_append]
      simp only
      rw [compose_of_plain fun d hd => hs d (by simp [hd])]
      simp [← hl]
  | cons c r =>
    simp only [List.cons_append]
    rw [compose_append hs, String.ofList_append, String.ofList_toList]

/-! ## §4  Identifiers beside plain text -/

/-- What may stand in identifiers goes on an identifier, and makes no identifier of anything else. -/
theorem isIdentifier_append {p s : String} (hp : p ≠ "") (hs : ∀ c ∈ s.toList, isIdentifierPart c = true) :
    isIdentifier (p ++ s) = isIdentifier p := by
  unfold isIdentifier
  rw [String.toList_append]
  cases hl : p.toList with
  | nil => exact absurd (String.toList_eq_nil_iff.mp hl) hp
  | cons c r =>
    have hall : s.toList.all isIdentifierPart = true := List.all_eq_true.mpr hs
    simp only [List.cons_append, List.all_append, hall, Bool.and_true]

theorem isIdentifier_dash_append (s : String) :
    isIdentifier ("_" ++ s) = s.toList.all isIdentifierPart := by
  have hdash : isIdentifierStart '_' = true := rfl
  unfold isIdentifier
  rw [String.toList_append]
  change (isIdentifierStart '_' && s.toList.all isIdentifierPart) = _
  rw [hdash, Bool.true_and]

theorem isIdentifierPart_of_isIdentifier {s : String} (h : isIdentifier s = true) :
    ∀ c ∈ s.toList, isIdentifierPart c = true := by
  unfold isIdentifier at h
  cases hl : s.toList with
  | nil => exact nofun
  | cons c r =>
    rw [hl, Bool.and_eq_true, List.all_eq_true] at h
    intro d hd
    rcases List.mem_cons.mp hd with rfl | hd
    · rw [isIdentifierPart, h.1, Bool.true_or]
    · exact h.2 d hd

/-- Only ranges that begin among the plain characters have any. -/
theorem inRanges_of_plain (hc : IsPlain c) (ranges : List (Nat × Nat)) :
    inRanges ranges c = inRanges (ranges.filter fun r => decide (r.1 < 0x80)) c := by
  have hc' : c.toNat < 0x80 := hc
  rw [inRanges, inRanges, List.any_filter]
  congr 1
  funext r
  by_cases hr : r.1 < 0x80
  · simp [hr]
  · simp only [hr, decide_false, Bool.false_and, Bool.and_eq_false_iff, decide_eq_false_iff_not]
    omega

/-- The ranges of the tables that begin among the plain characters: letters and the dash below, and digits. -/
theorem plain_ranges :
    identifierStart.filter (fun r => decide (r.1 < 0x80)) = [(0x41, 0x5a), (0x5f, 0x5f), (0x61, 0x7a)] ∧
    identifierMark.filter (fun r => decide (r.1 < 0x80)) = [(0x30, 0x39)] ∧
    otherNumber.filter (fun r => decide (r.1 < 0x80)) = [(0x30, 0x39)] ∧
    notWord.filter (fun r => decide (r.1 < 0x80)) = [] := by
  decide +kernel

theorem isIdentifierStart_of_plain (hc : IsPlain c) :
    isIdentifierStart c = inRanges [(0x41, 0x5a), (0x5f, 0x5f), (0x61, 0x7a)] c := by
  rw [isIdentifierStart, inRanges_of_plain hc, plain_ranges.1]

/-- The plain characters that may stand in identifiers: letters, digits and the dash below. -/
theorem isIdentifierPart_of_plain (hc : IsPlain c) : isIdentifierPart c =
    (inRanges [(0x41, 0x5a), (0x5f, 0x5f), (0x61, 0x7a)] c || inRanges [(0x30, 0x39)] c) := by
  rw [isIdentifierPart, isIdentifierStart_of_plain hc, inRanges_of_plain hc identifierMark, plain_ranges.2.1]

/-- Numbers are written in plain digits. -/
theorem plain_of_mem_toString {n : Nat} (h : c ∈ (toString n).toList) :
    IsPlain c ∧ inRanges [(0x30, 0x39)] c = true := by
  have hmem : c ∈ Nat.toDigits 10 n := by
    rw [← Nat.toList_repr]
    exact h
  have hdigit := Nat.isDigit_of_mem_toDigits (by decide) (by decide) hmem
  simp only [Char.isDigit, Bool.and_eq_true, decide_eq_true_eq, UInt32.le_iff_toNat_le] at hdigit
  have hlow : 0x30 ≤ c.toNat := hdigit.1
  have hhigh : c.toNat ≤ 0x39 := hdigit.2
  refine ⟨Nat.lt_of_le_of_lt hhigh (by decide), ?_⟩
  simp [inRanges, hlow, hhigh]

/-- A plain character is a word character if it may stand in identifiers. -/
theorem isWord_of_plain (hc : IsPlain c) : isWord c = isIdentifierPart c := by
  obtain ⟨-, -, hnumber, hnot⟩ := plain_ranges
  have hword : inRanges notWord c = false := by rw [inRanges_of_plain hc, hnot]; rfl
  rw [isIdentifierPart_of_plain hc, isWord, isIdentifierStart_of_plain hc,
    inRanges_of_plain hc otherNumber, hnumber, hword, Bool.not_false, Bool.and_true, Bool.or_comm]

end Text

/-! ## §5  Stems -/

namespace Plan

variable {st : Store} {p : Plan} {d : MemberDescriptor}

/-- What stands for a character in the name of a function. -/
def wordOrDash (c : Char) : Char := if Text.isWord c then c else '_'

/-- The class and the member in the name of a function. -/
def memberWord (st : Store) (d : MemberDescriptor) : String :=
  (ownerName st d.declaring ++ "_" ++ d.name).map wordOrDash

/-- The part of the name of a function before the kind of access. -/
def functionStem (st : Store) (d : MemberDescriptor) : String :=
  if Text.isIdentifier (memberWord st d) then memberWord st d else "_" ++ memberWord st d

/-- What keeps a function that is named after a member from being made: a name that is no identifier, or
one that is not its own normal form. -/
def nameDefect? (st : Store) (d : MemberDescriptor) : Option ErrorKind :=
  if !Text.isIdentifier (functionStem st d) then some .syntaxError
  else if Text.normalForm (functionStem st d) != functionStem st d then some .keyError
  else none

/-- The characters of the class and the member, each as a word character or a dash, and a dash between. -/
theorem forall_mem_memberWord {P : Char → Prop} : (∀ c ∈ (memberWord st d).toList, P c) ↔
    P '_' ∧ ∀ c ∈ (ownerName st d.declaring).toList ++ d.name.toList, P (wordOrDash c) := by
  have hdash : wordOrDash '_' = '_' := ite_self _
  have hbetween : "_".toList = ['_'] := rfl
  rw [memberWord, String.toList_map, String.toList_append, String.toList_append, hbetween,
    List.forall_mem_map]
  simp only [List.forall_mem_append, List.forall_mem_singleton, hdash]
  constructor
  · rintro ⟨⟨hclass, h⟩, hname⟩
    exact ⟨h, hclass, hname⟩
  · rintro ⟨h, hclass, hname⟩
    exact ⟨⟨hclass, h⟩, hname⟩

theorem memberWord_ne_empty : memberWord st d ≠ "" := by
  intro h
  have hlength := congrArg String.length h
  simp [memberWord, ← String.length_toList] at hlength

theorem functionStem_ne_empty : functionStem st d ≠ "" := by
  rw [functionStem]
  split
  · exact memberWord_ne_empty
  · intro h
    have hlength := congrArg String.length h
    simp [← String.length_toList] at hlength

/-- The kind of access is said in plain characters that may stand in identifiers. -/
theorem plain_accessWord (s : Shape) : ∀ c ∈ ("_" ++ accessWord s).toList,
    Text.IsPlain c ∧ Text.isIdentifierPart c = true := by
  have hfamily : (("_" ++ s.family.name).toList.all fun c => decide (Text.IsPlain c) &&
      Text.inRanges [(0x41, 0x5a), (0x5f, 0x5f), (0x61, 0x7a)] c) = true := by
    cases s.family <;> decide +kernel
  have hpart {c : Char} (hplain : Text.IsPlain c)
      (h : Text.inRanges [(0x41, 0x5a), (0x5f, 0x5f), (0x61, 0x7a)] c = true ∨
        Text.inRanges [(0x30, 0x39)] c = true) : Text.isIdentifierPart c = true :=
    (Text.isIdentifierPart_of_plain hplain).trans ((Bool.or_eq_true ..).mpr h)
  intro c hc
  rw [accessWord, ← String.append_assoc, String.toList_append, List.mem_append] at hc
  rcases hc with hc | hc
  · have hletter := List.all_eq_true.mp hfamily c hc
    rw [Bool.and_eq_true, decide_eq_true_eq] at hletter
    exact ⟨hletter.1, hpart hletter.1 (.inl hletter.2)⟩
  · have ⟨hplain, hdigit⟩ := Text.plain_of_mem_toString hc
    exact ⟨hplain, hpart hplain (.inr hdigit)⟩

/-- **The name of a function is its stem with the kind of access behind.** -/
theorem functionName_eq (st : Store) (p : Plan) :
    p.functionName st = functionStem st p.descriptor ++ ("_" ++ accessWord p.shape) := by
  have hplain := plain_accessWord p.shape
  let name := (ownerName st p.descriptor.declaring ++ "_" ++ p.descriptor.name ++ "_" ++
    accessWord p.shape).map wordOrDash
  have hname : name = memberWord st p.descriptor ++ ("_" ++ accessWord p.shape) := by
    have hword : ("_" ++ accessWord p.shape).toList.map wordOrDash = ("_" ++ accessWord p.shape).toList :=
      (List.map_congr_left fun c hc => by
        rw [wordOrDash, Text.isWord_of_plain (hplain c hc).1, if_pos (hplain c hc).2]; rfl).trans
        (List.map_id _)
    rw [← String.toList_inj]
    simp only [name, memberWord, String.toList_map, String.toList_append, List.map_append,
      List.append_assoc] at hword ⊢
    rw [hword]
  have hid : Text.isIdentifier name = Text.isIdentifier (memberWord st p.descriptor) := by
    rw [hname]
    exact Text.isIdentifier_append memberWord_ne_empty fun c hc => (hplain c hc).2
  have hfunction : p.functionName st = if Text.isIdentifier name then name else "_" ++ name := rfl
  rw [hfunction, hid, hname, functionStem]
  split
  · rfl
  · exact (String.append_assoc ..).symm

/-- **What keeps the function of a plan from being made**: the name of its file, an assignment to the one name
that nothing is assigned to, its stem, or a shape that cannot be described. -/
theorem defect?_eq (st : Store) (p : Plan) :
    p.defect? st =
      if !p.descriptor.namesFile st then some .valueError
      else if p.operation == .set && p.descriptor.attributeName == "__debug__" &&
          !((p.subject st) matches .target _) then some .syntaxError
      else (nameDefect? st p.descriptor).or (if p.shape.isPrintable then none else some .valueError) := by
  have hplain := plain_accessWord p.shape
  have hid : Text.isIdentifier (p.functionName st) = Text.isIdentifier (functionStem st p.descriptor) := by
    rw [functionName_eq]
    exact Text.isIdentifier_append functionStem_ne_empty fun c hc => (hplain c hc).2
  have hform : (Text.normalForm (p.functionName st) != p.functionName st) =
      (Text.normalForm (functionStem st p.descriptor) != functionStem st p.descriptor) := by
    rw [functionName_eq, Text.normalForm_append fun c hc => (hplain c hc).1]
    rw [Bool.eq_iff_iff, bne_iff_ne, bne_iff_ne, Ne, Ne, String.append_left_inj]
  unfold defect? isWellFormed nameDefect?
  rw [hid, hform]
  cases p.descriptor.namesFile st
  case false => rfl
  cases Text.isIdentifier (functionStem st p.descriptor) <;>
    cases (p.operation == .set && p.descriptor.attributeName == "__debug__" &&
      !((p.subject st) matches .target _)) <;>
    cases (Text.normalForm (functionStem st p.descriptor) != functionStem st p.descriptor) <;>
    cases p.shape.isPrintable <;> rfl

/-- The stem is an identifier exactly when the word characters of the class and the member are characters
of identifiers. -/
theorem isIdentifier_functionStem : Text.isIdentifier (functionStem st d) = true ↔
    ∀ c ∈ (ownerName st d.declaring).toList ++ d.name.toList, Text.isWord c = true →
      Text.isIdentifierPart c = true := by
  have hdash : Text.isIdentifierPart '_' = true := by
    rw [Text.isIdentifierPart_of_plain (by decide)]
    decide
  have hparts : Text.isIdentifier (functionStem st d) = true ↔
      ∀ c ∈ (memberWord st d).toList, Text.isIdentifierPart c = true := by
    rw [functionStem]
    split
    · simp only [*, true_iff]
      exact Text.isIdentifierPart_of_isIdentifier ‹_›
    · rw [Text.isIdentifier_dash_append, List.all_eq_true]
  rw [hparts, forall_mem_memberWord, and_iff_right hdash]
  refine forall₂_congr fun c _ => ?_
  rw [wordOrDash]
  split <;> simp [*]

/-- **Plain names make no defect.** -/
theorem nameDefect?_of_plain
    (h : ∀ c ∈ (ownerName st d.declaring).toList ++ d.name.toList, Text.IsPlain c) :
    nameDefect? st d = none := by
  have hid : Text.isIdentifier (functionStem st d) = true :=
    isIdentifier_functionStem.mpr fun c hc hword => (Text.isWord_of_plain (h c hc)).symm.trans hword
  have hdash : Text.IsPlain '_' := by decide
  have hword : ∀ c ∈ (memberWord st d).toList, Text.IsPlain c := by
    refine forall_mem_memberWord.mpr ⟨hdash, fun c hc => ?_⟩
    rw [wordOrDash]
    split
    · exact h c hc
    · exact hdash
  have hstem : ∀ c ∈ (functionStem st d).toList, Text.IsPlain c := by
    rw [functionStem]
    split
    · exact hword
    · rw [String.toList_append]
      exact List.forall_mem_cons.mpr ⟨hdash, hword⟩
  have hform : Text.normalForm (functionStem st d) = functionStem st d :=
    Text.normalForm_of_plain (List.all_eq_true.mpr fun c hc => decide_eq_true (hstem c hc))
  rw [nameDefect?, hid, hform]
  simp

end Plan
end MemberAccess
