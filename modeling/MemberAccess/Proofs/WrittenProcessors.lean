import Mathlib.Algebra.Group.Nat.Defs
import Mathlib.Data.List.Sort
import Mathlib.Data.List.TakeDrop
import Mathlib.Data.Set.Defs
import MemberAccess.Benchmark.Affinity

/-!
# Processors as they are written

A list of processors is written as parts between commas, and a part is a number, a range between two numbers
in either order, or blank.  Reading gives back the set that the parts name, in ascending order and each number
once, so that nothing else of the writing shows: neither the order of the parts, nor repetitions and overlaps,
nor blanks.

Numbers are read up to a count of digits.  One longer number, and nothing of the list is read.
-/

namespace MemberAccess

/-! ## §1  Digits -/

namespace Text

variable {c : Char} {d : Nat} {ds : List Char}

/-- What digits stand for when they follow a number. -/
def valueAfter (n : Nat) (ds : List Char) : Nat :=
  ds.foldl (fun n c => 10 * n + (digitValue? c).getD 0) n

/-- A digit is one of the ten code points that begin with a zero. -/
theorem exists_zero_of_digit (h : (digitValue? c).isSome) :
    ∃ z ∈ digitZeros, z ≤ c.toNat ∧ c.toNat < z + 10 := by
  obtain ⟨d, hd⟩ := Option.isSome_iff_exists.mp h
  obtain ⟨z, hz, -⟩ := Option.map_eq_some_iff.mp hd
  have hplace := List.find?_some hz
  rw [Bool.and_eq_true, decide_eq_true_eq, decide_eq_true_eq] at hplace
  exact ⟨z, List.mem_of_find?_eq_some hz, hplace⟩

/-- No digit is blank. -/
theorem isBlank_of_digit (h : (digitValue? c).isSome) : isBlank c = false := by
  have hapart : ∀ z ∈ digitZeros, ∀ r ∈ blanks, z + 10 ≤ r.1 ∨ r.2 < z := by decide
  obtain ⟨z, hz, hle, hlt⟩ := exists_zero_of_digit h
  refine Bool.eq_false_iff.mpr fun hblank => ?_
  obtain ⟨r, hr, hin⟩ := List.any_eq_true.mp hblank
  rw [Bool.and_eq_true, decide_eq_true_eq, decide_eq_true_eq] at hin
  have hz := hapart z hz r hr
  omega

/-- A character without value is no digit. -/
theorem ne_of_digit {mark : Char} (hmark : digitValue? mark = none) (h : (digitValue? c).isSome) :
    c ≠ mark := by
  rintro rfl
  rw [hmark] at h
  cases h

/-- The usual digits stand for what they stand for. -/
theorem digitValue?_of_isDigit (h : c.isDigit = true) : digitValue? c = some (c.toNat - 48) := by
  have hplace : (48 ≤ c.toNat && c.toNat < 48 + 10) = true := by
    have hrange : 48 ≤ c.toNat ∧ c.toNat ≤ 57 := by simpa [Char.isDigit, UInt32.le_iff_toNat_le] using h
    simp only [Bool.and_eq_true, decide_eq_true_eq]
    omega
  have hzeros : digitZeros = 48 :: digitZeros.tail := rfl
  have hfind : (digitZeros.find? fun z => z ≤ c.toNat && c.toNat < z + 10) = some 48 := by
    rw [hzeros]
    exact List.find?_cons_of_pos hplace
  rw [digitValue?, hfind, Option.map_some]

theorem valueAfter_of_isDigit {n : Nat} (h : ∀ c ∈ ds, c.isDigit = true) :
    valueAfter n ds = Nat.ofDigitChars 10 ds n := by
  induction ds generalizing n with
  | nil => rfl
  | cons c ds ih =>
    rw [valueAfter, List.foldl_cons, digitValue?_of_isDigit (h c List.mem_cons_self), Nat.ofDigitChars_cons]
    exact ih fun c hc => h c (List.mem_cons_of_mem _ hc)

theorem digitValue?_underscore : digitValue? '_' = none := by decide

theorem digitValue?_dash : digitValue? '-' = none := by decide

theorem digitValue?_plus : digitValue? '+' = none := by decide

theorem digitValue?_comma : digitValue? ',' = none := by decide

theorem readDigits_of_digits {n : Nat} (h : ∀ c ∈ ds, (digitValue? c).isSome) :
    readDigits n ds = some (valueAfter n ds) := by
  induction ds generalizing n with
  | nil => rfl
  | cons c ds ih =>
    have hc : (digitValue? c).isSome := h c List.mem_cons_self
    obtain ⟨d, hd⟩ := Option.isSome_iff_exists.mp hc
    have hrest := @ih (10 * n + d) fun c hc => h c (List.mem_cons_of_mem _ hc)
    unfold readDigits
    split
    case h_1 => contradiction
    case h_2 heq => exact absurd (List.cons.inj heq).1 (ne_of_digit digitValue?_underscore hc)
    case h_3 heq =>
      obtain ⟨rfl, rfl⟩ := List.cons.inj heq
      rw [hd, Option.bind_some, hrest, valueAfter, valueAfter, List.foldl_cons, hd, Option.getD_some]

theorem countDigits?_of_digits {afterDigit : Bool} {count : Nat} (h : ∀ c ∈ ds, (digitValue? c).isSome)
    (hne : afterDigit = true ∨ ds ≠ []) : countDigits? afterDigit count ds = some (count + ds.length) := by
  induction ds generalizing afterDigit count with
  | nil =>
    rw [hne.resolve_right fun hne => hne rfl]
    rfl
  | cons c ds ih =>
    have hc : (digitValue? c).isSome := h c List.mem_cons_self
    have hrest := @ih true (count + 1) (fun c hc => h c (List.mem_cons_of_mem _ hc)) (.inl rfl)
    rw [countDigits?, if_neg (ne_of_digit digitValue?_underscore hc), if_pos hc, hrest, List.length_cons]
    congr 1
    omega

section
variable (h : ∀ c ∈ ds, (digitValue? c).isSome) (hne : ds ≠ [])
include h hne

theorem tooManyDigits?_of_digits :
    tooManyDigits? ds = if ds.length ≤ maxDigits then none else some ds.length := by
  rw [tooManyDigits?, countDigits?_of_digits h (.inr hne), Nat.zero_add, Option.filter_some]
  by_cases hlength : ds.length ≤ maxDigits
  · rw [if_pos hlength, if_neg]
    simpa using hlength
  · rw [if_neg hlength, if_pos]
    simpa using hlength

theorem natural?_of_digits :
    natural? ds = if ds.length ≤ maxDigits then some (valueAfter 0 ds) else none := by
  unfold natural?
  rw [tooManyDigits?_of_digits h hne]
  by_cases hlength : ds.length ≤ maxDigits
  · rw [if_pos hlength, if_pos hlength]
    cases ds with
    | nil => exact absurd rfl hne
    | cons c ds =>
      obtain ⟨d, hd⟩ := Option.isSome_iff_exists.mp (h c List.mem_cons_self)
      have hrest := @readDigits_of_digits ds d fun c hc => h c (List.mem_cons_of_mem _ hc)
      simp [hd, hrest, valueAfter]
  · rw [if_neg hlength, if_neg hlength, Option.isSome_some, if_pos rfl]

omit hne in
theorem unsigned_of_digits : unsigned ds = (false, ds) := by
  unfold unsigned
  split
  case h_1 => exact absurd rfl (ne_of_digit digitValue?_dash (h _ List.mem_cons_self))
  case h_2 => exact absurd rfl (ne_of_digit digitValue?_plus (h _ List.mem_cons_self))
  case h_3 => rfl

omit hne in
/-- Between digits on both ends nothing is trimmed. -/
theorem trimBy_digits {p : Char → Bool} (hp : ∀ c, p c = true → isBlank c = true) :
    trimBy p ds = ds := by
  have hdigit {c : Char} (hc : c ∈ ds) : p c = false :=
    Bool.eq_false_iff.mpr fun hpc => Bool.false_ne_true ((isBlank_of_digit (h c hc)).symm.trans (hp c hpc))
  exact trimBy_of_ends (fun c hc => hdigit (List.mem_of_mem_head? hc))
    fun c hc => hdigit (List.mem_of_mem_getLast? hc)

theorem integer?_of_digits :
    integer? (String.ofList ds) = if ds.length ≤ maxDigits then some (valueAfter 0 ds : Int) else none := by
  have htrim : trimBy isNumberBlank ds = ds :=
    trimBy_digits h fun c hc => (Bool.and_eq_true _ _ ▸ hc).1
  rw [integer?, String.toList_ofList, htrim, unsigned_of_digits h]
  simp only [natural?_of_digits h hne, Bool.false_eq_true, if_false]
  split <;> rfl

end

end Text

namespace Benchmark

/-! ## §2  Numbers -/

/-- A natural number as it may be written: decimal digits of any script, with blanks around them. -/
structure Numeral where
  before : List Char
  digits : List Char
  after : List Char
  blank_before : ∀ c ∈ before, Text.isBlank c = true
  blank_after : ∀ c ∈ after, Text.isBlank c = true
  decimal : ∀ c ∈ digits, (Text.digitValue? c).isSome
  ne_nil : digits ≠ []

namespace Numeral

variable (n : Numeral)

def text : List Char := n.before ++ n.digits ++ n.after

def value : Nat := Text.valueAfter 0 n.digits

/-- A number with no more digits than are read. -/
def IsReadable : Prop := n.digits.length ≤ Text.maxDigits

instance : Decidable n.IsReadable := Nat.decLe _ _

/-- What comes of reading a number: its value, unless it is too long. -/
def read : Checked Int := if n.IsReadable then .ok n.value else .error (.tooManyDigits n.digits.length)

variable {n} in
theorem read_of_readable (h : n.IsReadable) : n.read = .ok (n.value : Int) := if_pos h

variable {n} in
theorem read_of_long (h : ¬ n.IsReadable) : n.read = .error (.tooManyDigits n.digits.length) := if_neg h

/-- A number in the usual digits, without blanks. -/
def ofNat (n : Nat) : Numeral where
  before := []
  digits := Nat.toDigits 10 n
  after := []
  blank_before := List.forall_mem_nil _
  blank_after := List.forall_mem_nil _
  decimal c hc := by
    rw [Text.digitValue?_of_isDigit (Nat.isDigit_of_mem_toDigits (by decide) le_rfl hc), Option.isSome_some]
  ne_nil := Nat.toDigits_ne_nil

theorem value_ofNat (n : Nat) : (ofNat n).value = n := by
  rw [value, ofNat, Text.valueAfter_of_isDigit fun c hc => Nat.isDigit_of_mem_toDigits (by decide) le_rfl hc]
  exact Nat.ofDigitChars_ten_toDigits

/-- In the usual digits all numbers below a power of ten can be read, and no others. -/
theorem isReadable_ofNat_iff (n : Nat) : (ofNat n).IsReadable ↔ n < 10 ^ Text.maxDigits :=
  Nat.length_toDigits_le_iff (by decide) (by decide)

/-- A mark that is neither a digit nor blank stands in no number. -/
theorem not_mem_text {mark : Char} (hdigit : Text.digitValue? mark = none)
    (hblank : Text.isBlank mark = false) : mark ∉ n.text := by
  intro hmem
  rcases List.mem_append.mp hmem with hmem | hmem
  · rcases List.mem_append.mp hmem with hmem | hmem
    · exact Bool.false_ne_true (hblank.symm.trans (n.blank_before mark hmem))
    · exact Text.ne_of_digit hdigit (n.decimal mark hmem) rfl
  · exact Bool.false_ne_true (hblank.symm.trans (n.blank_after mark hmem))

/-- The text of a number without the blanks on one side, or on both, is trimmed to its digits. -/
theorem trimChars_digits {before after : List Char} (hbefore : ∀ c ∈ before, Text.isBlank c = true)
    (hafter : ∀ c ∈ after, Text.isBlank c = true) :
    Text.trimChars (before ++ n.digits ++ after) = n.digits := by
  unfold Text.trimChars
  rw [Text.trimBy_append_right hafter, Text.trimBy_append_left hbefore,
    Text.trimBy_digits n.decimal fun _ hc => hc]

/-- A text is read as the number that it is trimmed to. -/
theorem wholeOf_eq_read {cs : List Char} (h : Text.trimChars cs = n.digits) : wholeOf cs = n.read := by
  simp only [wholeOf, h, Text.unsigned_of_digits n.decimal, Text.integer?_of_digits n.decimal n.ne_nil,
    Text.tooManyDigits?_of_digits n.decimal n.ne_nil]
  by_cases hread : n.IsReadable
  · have hlength : n.digits.length ≤ Text.maxDigits := hread
    rw [if_pos hlength, read_of_readable hread]
    rfl
  · have hlength : ¬ n.digits.length ≤ Text.maxDigits := hread
    rw [if_neg hlength, if_neg hlength, read_of_long hread]

end Numeral

/-! ## §3  Parts -/

/-- A part of a list of processors: a number, a range between two numbers in either order, or blank. -/
inductive Part
  | blank (cs : List Char) (h : ∀ c ∈ cs, Text.isBlank c = true)
  | number (n : Numeral)
  | range (a b : Numeral)

namespace Part

/-- A part as it is written. -/
def text : Part → List Char
  | blank cs _ => cs
  | number n => n.text
  | range a b => a.text ++ '-' :: b.text

/-- The processors that a part names. -/
def named : Part → Set Int
  | blank _ _ => ∅
  | number n => {(n.value : Int)}
  | range a b => {k | min (a.value : Int) b.value ≤ k ∧ k ≤ max (a.value : Int) b.value}

def isBlank : Part → Bool
  | blank _ _ => true
  | _ => false

/-- Every number of the part can be read. -/
def IsReadable : Part → Prop
  | blank _ _ => True
  | number n => n.IsReadable
  | range a b => a.IsReadable ∧ b.IsReadable

/-- What comes of reading a part. -/
def read : Part → Checked (List Int)
  | blank _ _ => .ok []
  | number n => do return [← n.read]
  | range a b => do
      let low ← a.read
      let high ← b.read
      return wholesBetween low high

variable {p : Part}

theorem comma_not_mem_text : (p : Part) → ',' ∉ p.text
  | blank cs h => fun hmem => absurd (h ',' hmem) (by decide)
  | number n => n.not_mem_text Text.digitValue?_comma (by decide)
  | range a b => by
    intro hmem
    rcases List.mem_append.mp hmem with hmem | hmem
    · exact a.not_mem_text Text.digitValue?_comma (by decide) hmem
    · rcases List.mem_cons.mp hmem with heq | hmem
      · exact absurd heq (by decide)
      · exact b.not_mem_text Text.digitValue?_comma (by decide) hmem

theorem trimChars_blank {cs : List Char} (h : ∀ c ∈ cs, Text.isBlank c = true) :
    Text.trimChars (blank cs h).text = [] := by
  rw [text, Text.trimChars, ← List.append_nil cs, Text.trimBy_append_left h]
  rfl

theorem trimChars_number (n : Numeral) : Text.trimChars (number n).text = n.digits :=
  n.trimChars_digits n.blank_before n.blank_after

/-- Of a range the outer blanks are dropped, and those around the dash are left. -/
theorem trimChars_range (a b : Numeral) :
    Text.trimChars (range a b).text = (a.digits ++ a.after) ++ '-' :: (b.before ++ b.digits) := by
  have hends : (range a b).text =
      a.before ++ ((a.digits ++ a.after) ++ '-' :: (b.before ++ b.digits)) ++ b.after := by
    simp [text, Numeral.text]
  have hdigit {n : Numeral} {c : Char} (hc : c ∈ n.digits) : Text.isBlank c = false :=
    Text.isBlank_of_digit (n.decimal c hc)
  rw [hends, Text.trimChars, Text.trimBy_append_right b.blank_after, Text.trimBy_append_left a.blank_before]
  refine Text.trimBy_of_ends (fun c hc => ?_) fun c hc => ?_
  · rw [List.append_assoc, List.head?_append_of_ne_nil _ a.ne_nil] at hc
    exact hdigit (List.mem_of_mem_head? hc)
  · rw [List.getLast?_append_of_ne_nil _ (List.cons_ne_nil _ _), ← List.cons_append,
      List.getLast?_append_of_ne_nil _ b.ne_nil] at hc
    exact hdigit (List.mem_of_mem_getLast? hc)

/-- A text is cut at its first dash. -/
theorem span_dash {low rest : List Char} (h : '-' ∉ low) (hrest : ∀ c ∈ rest.head?, c = '-') :
    (low ++ rest).span (· ≠ '-') = (low, rest) := by
  have hlow : ∀ c ∈ low, decide (c ≠ '-') = true := fun c hc =>
    decide_eq_true fun heq => h (heq ▸ hc)
  rw [List.span_eq_takeWhile_dropWhile, List.takeWhile_append_of_pos hlow,
    List.dropWhile_append_of_pos hlow]
  cases rest with
  | nil => simp
  | cons c rest => simp [hrest c rfl]

/-- **A part is read as what it says**, and only what is blank vanishes. -/
theorem processorsOfPart_eq_read (h : p.isBlank = false) :
    processorsOfPart (Text.trimChars p.text) = p.read := by
  cases p with
  | blank => cases h
  | number n =>
    have hdash : '-' ∉ n.digits := fun hmem =>
      Text.ne_of_digit Text.digitValue?_dash (n.decimal _ hmem) rfl
    have hspan := @span_dash n.digits [] hdash nofun
    have hread : wholeOf n.digits = n.read :=
      n.wholeOf_eq_read (Text.trimBy_digits n.decimal fun _ hc => hc)
    rw [List.append_nil] at hspan
    simp only [trimChars_number, processorsOfPart, hspan, hread, read]
  | range a b =>
    have hdash : '-' ∉ a.digits ++ a.after := by
      intro hmem
      refine a.not_mem_text Text.digitValue?_dash (by decide) ?_
      rw [Numeral.text, List.append_assoc]
      exact List.mem_append_right _ hmem
    have hspan := @span_dash (a.digits ++ a.after) ('-' :: (b.before ++ b.digits)) hdash
      fun c hc => (Option.some.inj hc).symm
    have hlow : wholeOf (a.digits ++ a.after) = a.read :=
      a.wholeOf_eq_read (@Numeral.trimChars_digits a [] _ (fun _ hc => nomatch hc) a.blank_after)
    have hhigh : wholeOf (b.before ++ b.digits) = b.read := by
      refine b.wholeOf_eq_read ?_
      rw [← List.append_nil (b.before ++ b.digits)]
      exact b.trimChars_digits b.blank_before fun _ hc => nomatch hc
    simp only [trimChars_range, processorsOfPart, hspan, hlow, hhigh, read]

theorem trimChars_eq_nil_iff : Text.trimChars p.text = [] ↔ p.isBlank = true := by
  cases p with
  | blank cs h => simp [trimChars_blank h, isBlank]
  | number n => simp [trimChars_number, isBlank, n.ne_nil]
  | range a b => simp [trimChars_range, isBlank]

variable {k : Int}

theorem mem_wholesBetween {a b : Int} : k ∈ wholesBetween a b ↔ min a b ≤ k ∧ k ≤ max a b := by
  unfold wholesBetween
  rw [List.mem_map]
  constructor
  · rintro ⟨i, hi, rfl⟩
    rw [List.mem_range] at hi
    omega
  · rintro ⟨hleast, hmost⟩
    exact ⟨(k - min a b).toNat, List.mem_range.mpr (by omega), by omega⟩

/-- A part whose numbers can be read gives the processors that it names. -/
theorem exists_read (h : p.IsReadable) : ∃ found, p.read = .ok found ∧ ∀ k, k ∈ found ↔ k ∈ p.named := by
  cases p with
  | blank => exact ⟨[], rfl, fun k => iff_of_false List.not_mem_nil id⟩
  | number n =>
    refine ⟨[(n.value : Int)], ?_, fun k => List.mem_singleton⟩
    rw [read, Numeral.read_of_readable h]
    rfl
  | range a b =>
    refine ⟨wholesBetween a.value b.value, ?_, fun k => mem_wholesBetween⟩
    rw [read, Numeral.read_of_readable h.1, Numeral.read_of_readable h.2]
    rfl

/-- A part with a longer number fails, and says how long the number is. -/
theorem exists_read_of_long (h : ¬ p.IsReadable) :
    ∃ count, Text.maxDigits < count ∧ p.read = .error (.tooManyDigits count) := by
  cases p with
  | blank => exact absurd trivial h
  | number n =>
    refine ⟨_, not_le.mp h, ?_⟩
    rw [read, Numeral.read_of_long h]
    rfl
  | range a b =>
    by_cases ha : a.IsReadable
    · have hb : ¬ b.IsReadable := fun hb => h ⟨ha, hb⟩
      refine ⟨_, not_le.mp hb, ?_⟩
      rw [read, Numeral.read_of_readable ha, Numeral.read_of_long hb]
      rfl
    · refine ⟨_, not_le.mp ha, ?_⟩
      rw [read, Numeral.read_of_long ha]
      rfl

/-- A part that is not blank names a processor. -/
theorem exists_named (h : p.isBlank = false) : ∃ k, k ∈ p.named := by
  cases p with
  | blank => cases h
  | number n => exact ⟨n.value, rfl⟩
  | range a b => exact ⟨a.value, min_le_left _ _, le_max_left _ _⟩

end Part

/-! ## §4  Lists of parts -/

/-- Parts as they are written, with commas between them. -/
def written (parts : List Part) : String := String.ofList ([','].intercalate (parts.map Part.text))

/-- The processors that some part names. -/
def namedBy (parts : List Part) : Set Int := {k | ∃ p ∈ parts, k ∈ p.named}

variable {parts others : List Part} {k : Int}

theorem listed_written : Text.listed (written parts) =
    (parts.filter fun p => !p.isBlank).map fun p => Text.trimChars p.text := by
  have hsplit (hne : parts ≠ []) : Text.split ',' (written parts).toList = parts.map Part.text := by
    rw [written, String.toList_ofList]
    refine Text.split_intercalate (by simpa using hne) fun text htext => ?_
    obtain ⟨p, -, rfl⟩ := List.mem_map.mp htext
    exact p.comma_not_mem_text
  have hblank : ((fun cs => decide (cs ≠ [])) ∘ fun p : Part => Text.trimChars p.text) =
      fun p => !p.isBlank := by
    funext p
    rw [Function.comp_apply, Bool.eq_iff_iff, decide_eq_true_eq, ne_eq, Part.trimChars_eq_nil_iff]
    simp
  unfold Text.listed
  cases parts with
  | nil => rfl
  | cons p parts =>
    rw [hsplit (List.cons_ne_nil p parts), List.map_map, List.filter_map]
    exact congrArg _ (congrArg (List.filter · _) hblank)

theorem mapM_processorsOfPart (h : ∀ p ∈ parts, p.isBlank = false) :
    (parts.map fun p => Text.trimChars p.text).mapM processorsOfPart = parts.mapM Part.read := by
  induction parts with
  | nil => rfl
  | cons p parts ih =>
    rw [List.map_cons, List.mapM_cons, List.mapM_cons, Part.processorsOfPart_eq_read (h p List.mem_cons_self),
      ih fun q hq => h q (List.mem_cons_of_mem p hq)]

/-- Parts whose numbers can be read give the processors that they name. -/
theorem exists_mapM_read (h : ∀ p ∈ parts, p.IsReadable) :
    ∃ found, parts.mapM Part.read = .ok found ∧ ∀ k, k ∈ found.flatten ↔ k ∈ namedBy parts := by
  induction parts with
  | nil => exact ⟨[], rfl, fun k => by simp [namedBy]⟩
  | cons p parts ih =>
    obtain ⟨ks, hp, hks⟩ := Part.exists_read (h p List.mem_cons_self)
    obtain ⟨found, hparts, hfound⟩ := ih fun q hq => h q (List.mem_cons_of_mem p hq)
    refine ⟨ks :: found, ?_, fun k => ?_⟩
    · rw [List.mapM_cons, hp, hparts]
      rfl
    · rw [List.flatten_cons, List.mem_append, hks, hfound]
      simp [namedBy]

/-- The first number that is too long decides. -/
theorem exists_mapM_read_of_long (h : ∃ p ∈ parts, ¬ p.IsReadable) :
    ∃ count, Text.maxDigits < count ∧ parts.mapM Part.read = .error (.tooManyDigits count) := by
  induction parts with
  | nil =>
    obtain ⟨p, hp, -⟩ := h
    cases hp
  | cons p parts ih =>
    by_cases hp : p.IsReadable
    · obtain ⟨q, hq, hlong⟩ := h
      have hq : q ∈ parts := (List.mem_cons.mp hq).resolve_left fun heq => hlong (heq ▸ hp)
      obtain ⟨ks, hks, -⟩ := Part.exists_read hp
      obtain ⟨count, hcount, hparts⟩ := ih ⟨q, hq, hlong⟩
      refine ⟨count, hcount, ?_⟩
      rw [List.mapM_cons, hks, hparts]
      rfl
    · obtain ⟨count, hcount, hlong⟩ := Part.exists_read_of_long hp
      refine ⟨count, hcount, ?_⟩
      rw [List.mapM_cons, hlong]
      rfl

/-- The parts that are not blank are read. -/
theorem processors_written_eq : processors (written parts) =
    (parts.filter fun p => !p.isBlank).mapM Part.read >>= fun found => .ok (ascendingSet found.flatten) := by
  have hblank : ∀ p ∈ parts.filter fun p => !p.isBlank, p.isBlank = false := by
    intro p hp
    simpa using (List.mem_filter.mp hp).2
  rw [processors, listed_written, mapM_processorsOfPart hblank]
  rfl

theorem namedBy_filter : namedBy (parts.filter fun p => !p.isBlank) = namedBy parts := by
  ext k
  constructor
  · rintro ⟨p, hp, hk⟩
    exact ⟨p, (List.mem_filter.mp hp).1, hk⟩
  · rintro ⟨p, hp, hk⟩
    refine ⟨p, List.mem_filter.mpr ⟨hp, ?_⟩, hk⟩
    cases p with
    | blank => cases hk
    | number | range => rfl

/-! ## §5  Ascending sets -/

theorem mem_dropRepeated {ks : List Int} : k ∈ dropRepeated ks ↔ k ∈ ks := by
  fun_induction dropRepeated ks with
  | case1 a r ih => simp [ih]
  | case2 a b r hne ih => simp [ih]
  | case3 => rfl

/-- Of an ascending list each number is left once. -/
theorem pairwise_dropRepeated {ks : List Int} (h : ks.Pairwise (· ≤ ·)) :
    (dropRepeated ks).Pairwise (· < ·) := by
  fun_induction dropRepeated ks with
  | case1 a r ih => exact ih (List.pairwise_cons.mp h).2
  | case2 a b r hne ih =>
    obtain ⟨hhead, htail⟩ := List.pairwise_cons.mp h
    refine List.pairwise_cons.mpr ⟨fun k hk => ?_, ih htail⟩
    have hab : a ≤ b := hhead b List.mem_cons_self
    have hbk : b ≤ k := by
      rcases List.mem_cons.mp (mem_dropRepeated.mp hk) with rfl | hk
      · exact le_rfl
      · exact (List.pairwise_cons.mp htail).1 k hk
    omega
  | case3 r hr =>
    match r, hr with
    | [], _ => exact .nil
    | [a], _ => exact List.pairwise_singleton _ a
    | a :: b :: r, hr => exact absurd rfl (hr a b r)

theorem mem_ascendingSet {ks : List Int} : k ∈ ascendingSet ks ↔ k ∈ ks := by
  rw [ascendingSet, mem_dropRepeated, List.mem_mergeSort]

theorem pairwise_ascendingSet (ks : List Int) : (ascendingSet ks).Pairwise (· < ·) :=
  pairwise_dropRepeated (List.pairwise_mergeSort' _ ks)

/-! ## §6  Reading what was written -/

/-- What is read of a list whose numbers can be read. -/
theorem exists_processors (h : ∀ p ∈ parts, p.IsReadable) :
    ∃ found, processors (written parts) = .ok found ∧ found.Pairwise (· < ·) ∧
      ∀ k, k ∈ found ↔ k ∈ namedBy parts := by
  have hleft : ∀ p ∈ parts.filter fun p => !p.isBlank, p.IsReadable := fun p hp =>
    h p (List.mem_filter.mp hp).1
  obtain ⟨found, hread, hfound⟩ := exists_mapM_read hleft
  refine ⟨ascendingSet found.flatten, ?_, pairwise_ascendingSet _, fun k => ?_⟩
  · rw [processors_written_eq, hread]
    rfl
  · rw [mem_ascendingSet, hfound, namedBy_filter]

/-- Nothing is read of a list with a number that is too long. -/
theorem exists_processors_of_long (h : ∃ p ∈ parts, ¬ p.IsReadable) :
    ∃ count, Text.maxDigits < count ∧ processors (written parts) = .error (.tooManyDigits count) := by
  obtain ⟨p, hp, hlong⟩ := h
  have hleft : p ∈ parts.filter fun p => !p.isBlank := by
    refine List.mem_filter.mpr ⟨hp, ?_⟩
    cases p with
    | blank => exact absurd trivial hlong
    | number | range => rfl
  obtain ⟨count, hcount, hread⟩ := exists_mapM_read_of_long ⟨p, hleft, hlong⟩
  refine ⟨count, hcount, ?_⟩
  rw [processors_written_eq, hread]
  rfl

/-- Some processor is named unless all parts are blank. -/
theorem exists_mem_namedBy_iff : (∃ k, k ∈ namedBy parts) ↔ ¬ ∀ p ∈ parts, p.isBlank = true := by
  constructor
  · rintro ⟨k, p, hp, hk⟩ hblank
    cases p with
    | blank => cases hk
    | number | range => cases hblank _ hp
  · intro hblank
    push Not at hblank
    obtain ⟨p, hp, hne⟩ := hblank
    obtain ⟨k, hk⟩ := Part.exists_named (Bool.eq_false_iff.mpr hne)
    exact ⟨k, p, hp, hk⟩

/-- **A list of processors is read as the set that its parts name**, in ascending order and each once, so that
lists that name the same are read alike; and it is empty only if all parts are blank.  If a number has more
digits than are read, nothing of the list is read. -/
theorem processors_written (parts : List Part) :
    ((∀ p ∈ parts, p.IsReadable) →
      ∃ found, processors (written parts) = .ok found ∧ found.Pairwise (· < ·) ∧
        (∀ k, k ∈ found ↔ k ∈ namedBy parts) ∧ (found = [] ↔ ∀ p ∈ parts, p.isBlank = true) ∧
        ∀ others : List Part, (∀ p ∈ others, p.IsReadable) → namedBy others = namedBy parts →
          processors (written others) = .ok found) ∧
    ((∃ p ∈ parts, ¬ p.IsReadable) →
      ∃ count, Text.maxDigits < count ∧ processors (written parts) = .error (.tooManyDigits count)) := by
  refine ⟨fun h => ?_, exists_processors_of_long⟩
  obtain ⟨found, hread, hascending, hfound⟩ := exists_processors h
  refine ⟨found, hread, hascending, hfound, ?_, fun others hothers hnamed => ?_⟩
  · rw [List.eq_nil_iff_forall_not_mem, ← not_iff_not, ← exists_mem_namedBy_iff]
    push Not
    exact exists_congr hfound
  · obtain ⟨found', hread', hascending', hfound'⟩ := exists_processors hothers
    have hsame : found' = found := by
      refine hascending'.eq_of_mem_iff hascending fun k => ?_
      rw [hfound', hfound, hnamed]
    rw [hread', hsame]

namespace Written

/-- A number between two blanks. -/
def spaced (n : Nat) : Numeral :=
  { Numeral.ofNat n with
    before := [' ']
    after := [' ']
    blank_before := List.forall_mem_singleton.mpr rfl
    blank_after := List.forall_mem_singleton.mpr rfl }

theorem value_spaced (n : Nat) : (spaced n).value = n := Numeral.value_ofNat n

/-- A range with its bounds the wrong way round, a blank part, and a number of the range once more. -/
def reversed : List Part :=
  [.range (spaced 3) (spaced 1), .blank ['\t'] (List.forall_mem_singleton.mpr rfl), .number (.ofNat 2)]

/-- The same processors, written in another way. -/
def plain : List Part := [.number (.ofNat 3), .range (.ofNat 1) (.ofNat 2)]

/-- A number with one digit more than are read, after one that is short. -/
def long : List Part := [.number (.ofNat 5), .number (.ofNat (10 ^ Text.maxDigits))]

theorem isReadable_reversed : ∀ p ∈ reversed, p.IsReadable := by
  simp only [reversed, List.forall_mem_cons]
  exact ⟨⟨by decide, by decide⟩, trivial, (by decide : (Numeral.ofNat 2).IsReadable), nofun⟩

theorem isReadable_plain : ∀ p ∈ plain, p.IsReadable := by
  simp only [plain, List.forall_mem_cons]
  exact ⟨(by decide : (Numeral.ofNat 3).IsReadable), ⟨by decide, by decide⟩, nofun⟩

theorem exists_long : ∃ p ∈ long, ¬ p.IsReadable := by
  refine ⟨_, List.mem_cons_of_mem _ List.mem_cons_self, fun h => ?_⟩
  exact lt_irrefl _ ((Numeral.isReadable_ofNat_iff _).mp h)

theorem mem_namedBy_reversed (k : Int) : k ∈ namedBy reversed ↔ k ∈ [1, 2, 3] := by
  simp [namedBy, reversed, Part.named, value_spaced, Numeral.value_ofNat]
  omega

theorem mem_namedBy_plain (k : Int) : k ∈ namedBy plain ↔ k ∈ [1, 2, 3] := by
  simp [namedBy, plain, Part.named, Numeral.value_ofNat]
  omega

/-- One set of processors is read from two lists, and none from a third. -/
theorem processors_written_reversed :
    written reversed = " 3 - 1 ,\t,2" ∧ written plain = "3,1-2" ∧
      (∀ p ∈ reversed, p.IsReadable) ∧ (∀ p ∈ plain, p.IsReadable) ∧ (∃ p ∈ long, ¬ p.IsReadable) ∧
      processors (written reversed) = .ok [1, 2, 3] ∧ processors (written plain) = .ok [1, 2, 3] ∧
      ∃ count, Text.maxDigits < count ∧ processors (written long) = .error (.tooManyDigits count) := by
  obtain ⟨found, hread, hascending, hfound, -, hothers⟩ :=
    (processors_written reversed).1 isReadable_reversed
  have hset : found = [1, 2, 3] := by
    refine hascending.eq_of_mem_iff (by decide) fun k => ?_
    rw [hfound, mem_namedBy_reversed]
  have hsame : namedBy plain = namedBy reversed :=
    Set.ext fun k => (mem_namedBy_plain k).trans (mem_namedBy_reversed k).symm
  subst hset
  exact ⟨by cbv, by cbv, isReadable_reversed, isReadable_plain, exists_long, hread,
    hothers plain isReadable_plain hsame, (processors_written long).2 exists_long⟩

/-- **One number that is too long, and nothing is read**: of a list of two numbers no set comes, although
the first of them is short. -/
theorem long_number_is_not_read :
    (5 : Int) ∈ namedBy long ∧ (∃ f, processors (written long) = .error f ∧ f.kind = .valueError) ∧
      ¬ ∃ found, processors (written long) = .ok found ∧ ∀ k, k ∈ found ↔ k ∈ namedBy long := by
  obtain ⟨count, -, hlong⟩ := exists_processors_of_long exists_long
  refine ⟨⟨_, List.mem_cons_self, ?_⟩, ⟨_, hlong, rfl⟩, ?_⟩
  · rw [Part.named, Numeral.value_ofNat]
    rfl
  · rintro ⟨found, hread, -⟩
    cases hlong.symm.trans hread

end Written

end Benchmark
end MemberAccess
