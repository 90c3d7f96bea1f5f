import MemberAccess.Text.Blank

/-!
# Splitting and padding

A text is split at every occurrence of a separator, so the pieces are one more than the separators and may
be empty.  A text is padded with spaces to a width; a longer one is left as it is.
-/

namespace MemberAccess.Text

/-- The pieces of a text between the separators. -/
def split (separator : Char) : List Char → List (List Char)
  | [] => [[]]
  | c :: r =>
      if c = separator then [] :: split separator r
      else
        match split separator r with
        | [] => [[c]]
        | piece :: pieces => (c :: piece) :: pieces

/-- A text without separators is one piece. -/
theorem split_of_not_mem {separator : Char} {cs : List Char} (h : separator ∉ cs) :
    split separator cs = [cs] := by
  induction cs with
  | nil => rfl
  | cons c r ih =>
    have hc : c ≠ separator := fun e => h (by simp [e])
    have hr : separator ∉ r := fun m => h (List.mem_cons_of_mem c m)
    simp [split, hc, ih hr]

/-- A piece in front of a separator is split off as it is. -/
theorem split_append {separator : Char} {cs : List Char} (h : separator ∉ cs) (rest : List Char) :
    split separator (cs ++ separator :: rest) = cs :: split separator rest := by
  induction cs with
  | nil => simp [split]
  | cons c r ih =>
    have hc : c ≠ separator := fun e => h (by simp [e])
    have hr : separator ∉ r := fun m => h (List.mem_cons_of_mem c m)
    simp [split, hc, ih hr]

/-- Pieces without separators come back from what they are joined to. -/
theorem split_intercalate {separator : Char} {pieces : List (List Char)} (hne : pieces ≠ [])
    (h : ∀ piece ∈ pieces, separator ∉ piece) :
    split separator ([separator].intercalate pieces) = pieces := by
  induction pieces with
  | nil => exact absurd rfl hne
  | cons piece pieces ih =>
    have hpiece : separator ∉ piece := h piece List.mem_cons_self
    cases pieces with
    | nil => rw [List.intercalate_singleton, split_of_not_mem hpiece]
    | cons next pieces =>
      have hrest := ih (List.cons_ne_nil next pieces) fun p hp => h p (List.mem_cons_of_mem piece hp)
      rw [List.intercalate_cons_cons, List.append_assoc, List.singleton_append, split_append hpiece, hrest]

/-- The pieces of a text between commas, trimmed and without the empty ones. -/
def listed (s : String) : List (List Char) := ((split ',' s.toList).map trimChars).filter (· ≠ [])

/-- Spaces behind a text up to a width. -/
def padRight (width : Nat) (s : String) : String :=
  s ++ String.ofList (List.replicate (width - s.length) ' ')

/-- Spaces in front of a text up to a width. -/
def padLeft (width : Nat) (s : String) : String :=
  String.ofList (List.replicate (width - s.length) ' ') ++ s

end MemberAccess.Text
