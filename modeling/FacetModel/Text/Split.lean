/-!
# Texts with separators

`Text.split` cuts a text at every separator, so that there is one more part than separators. Parts
may be empty.
-/

namespace FacetModel

namespace Text

/-- The parts between separators, the first one of which continues some characters. -/
def splitAfter (separator : Char) (part : List Char) : List Char → List (List Char)
  | [] => [part.reverse]
  | c :: rest =>
    if c = separator then part.reverse :: splitAfter separator [] rest
    else splitAfter separator (c :: part) rest

/-- The parts of a text between separators. -/
def split (separator : Char) (s : String) : List String :=
  (splitAfter separator [] s.toList).map String.ofList

/-- The parts with a separator after each but the last. -/
def joinParts (separator : Char) : List (List Char) → List Char
  | [] => []
  | [part] => part
  | part :: rest => part ++ separator :: joinParts separator rest

theorem splitAfter_ne_nil (separator : Char) (part s : List Char) :
    splitAfter separator part s ≠ [] := by
  induction s generalizing part with
  | nil => simp [splitAfter]
  | cons c rest ih => simp only [splitAfter]; split <;> simp [ih]

/-- The first part ends at the first separator. -/
theorem splitAfter_eq_cons (separator : Char) (part s : List Char) :
    ∃ rest, splitAfter separator part s =
      (part.reverse ++ s.takeWhile (· ≠ separator)) :: rest := by
  induction s generalizing part with
  | nil => exact ⟨[], by simp [splitAfter]⟩
  | cons c s ih =>
    rw [splitAfter]
    split
    case isTrue hc => exact ⟨splitAfter separator [] s, by simp [hc]⟩
    case isFalse hc =>
      obtain ⟨rest, h⟩ := ih (c :: part)
      exact ⟨rest, by simpa [hc] using h⟩

/-- Where there is no separator, there is one part. -/
theorem splitAfter_of_notMem {separator : Char} {s : List Char} (h : separator ∉ s)
    (part : List Char) : splitAfter separator part s = [part.reverse ++ s] := by
  induction s generalizing part with
  | nil => simp [splitAfter]
  | cons c s ih =>
    obtain ⟨hc, hs⟩ := not_or.1 (mt List.mem_cons.2 h)
    rw [splitAfter, if_neg (Ne.symm hc), ih hs]
    simp

/-- Nothing but the separators is lost. -/
theorem joinParts_splitAfter (separator : Char) (part s : List Char) :
    joinParts separator (splitAfter separator part s) = part.reverse ++ s := by
  induction s generalizing part with
  | nil => simp [splitAfter, joinParts]
  | cons c rest ih =>
    simp only [splitAfter]
    split
    case isTrue hc =>
      subst hc
      obtain ⟨first, others, h⟩ := List.exists_cons_of_ne_nil (splitAfter_ne_nil c [] rest)
      have := ih []
      rw [h] at this ⊢
      simp [joinParts, this]
    case isFalse => simp [ih]

end Text

end FacetModel
