import MemberAccess.Text.Ranges

/-!
# Blanks

The characters that trimming removes and that separate words: the whitespace of Unicode together with
the four information separators.
-/

namespace MemberAccess.Text

/-- The blank characters. -/
def blanks : List (Nat × Nat) := [
  (0x9, 0xd), (0x1c, 0x20), (0x85, 0x85), (0xa0, 0xa0), (0x1680, 0x1680), (0x2000, 0x200a),
  (0x2028, 0x2029), (0x202f, 0x202f), (0x205f, 0x205f), (0x3000, 0x3000)]

def isBlank (c : Char) : Bool := inRanges blanks c

/-- Drops the characters of a kind on both sides. -/
def trimBy (p : Char → Bool) (cs : List Char) : List Char :=
  ((cs.dropWhile p).reverse.dropWhile p).reverse

/-- Drops the blanks on both sides. -/
def trimChars (cs : List Char) : List Char := trimBy isBlank cs

/-- Drops the blanks on both sides of a text. -/
def trim (s : String) : String := String.ofList (trimChars s.toList)

section
variable {p : Char → Bool} {cs ds : List Char}

/-- What is dropped may stand in front. -/
theorem trimBy_append_left (h : ∀ c ∈ ds, p c = true) : trimBy p (ds ++ cs) = trimBy p cs := by
  unfold trimBy
  rw [List.dropWhile_append_of_pos h]

/-- What is dropped may stand behind. -/
theorem trimBy_append_right (h : ∀ c ∈ ds, p c = true) : trimBy p (cs ++ ds) = trimBy p cs := by
  have hreverse : ∀ c ∈ ds.reverse, p c = true := fun c hc => h c (List.mem_reverse.mp hc)
  have hnothing : ds.dropWhile p = [] := by
    rw [← List.append_nil ds, List.dropWhile_append_of_pos h, List.dropWhile_nil]
  unfold trimBy
  rw [List.dropWhile_append]
  split
  case isTrue hnone => rw [List.isEmpty_iff.mp hnone, hnothing]
  case isFalse =>
    rw [List.reverse_append, List.dropWhile_append_of_pos hreverse]

/-- A text that begins and ends with something else is left as it is. -/
theorem trimBy_of_ends (hhead : ∀ c ∈ cs.head?, p c = false) (hlast : ∀ c ∈ cs.getLast?, p c = false) :
    trimBy p cs = cs := by
  have hdrop {es : List Char} (hes : ∀ c ∈ es.head?, p c = false) : es.dropWhile p = es := by
    cases es with
    | nil => rfl
    | cons e es => exact List.dropWhile_cons_of_neg (by simp [hes e rfl])
  unfold trimBy
  rw [hdrop hhead, hdrop (by rwa [List.head?_reverse]), List.reverse_reverse]

end

end MemberAccess.Text
