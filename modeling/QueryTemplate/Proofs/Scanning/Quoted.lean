import Mathlib
import QueryTemplate.Proofs.Scanning

/-!
Quoted texts. Behind its first quote a quoted text goes on until a quote that does not follow a
backslash, so every other quote of it does follow one, and of two texts that start alike at most one
is what a quoted text goes on with.
-/

namespace QueryTemplate

namespace Lexeme

variable {before c : Char} {b content : List Char}

theorem closing_singleton : Closing before ['"'] ↔ before ≠ '\\' := by
  constructor
  · intro h
    cases h with
    | last free => exact free
    | cons _ others => cases others
  · exact .last

theorem Closing.of_cons (h : Closing before (c :: b)) (more : b ≠ []) :
    (c = '"' → before = '\\') ∧ Closing c b := by
  cases h with
  | last _ => exact absurd rfl more
  | cons inside others => exact ⟨inside, others⟩

theorem Closing.of_append {front : List Char} (h : Closing before (front ++ c :: b))
    (more : b ≠ []) : Closing c b := by
  induction front generalizing before with
  | nil => exact (h.of_cons more).2
  | cons d front ih => exact ih (h.of_cons (by simp)).2

theorem closing_cons : Closing before (c :: content ++ ['"']) ↔
    (c = '"' → before = '\\') ∧ Closing c (content ++ ['"']) :=
  ⟨fun h => h.of_cons (by simp), fun h => .cons h.1 h.2⟩

instance decidableClosing : (before : Char) → (b : List Char) → Decidable (Closing before b)
  | _, [] => isFalse fun h => by cases h
  | before, [c] => decidable_of_iff (c = '"' ∧ before ≠ '\\') <| by
    constructor
    · rintro ⟨rfl, free⟩
      exact .last free
    · intro h
      cases h with
      | last free => exact ⟨rfl, free⟩
      | cons _ others => cases others
  | before, c :: d :: b =>
    have := decidableClosing c (d :: b)
    decidable_of_iff ((c = '"' → before = '\\') ∧ Closing c (d :: b))
      ⟨fun h => .cons h.1 h.2, fun h => h.of_cons (by simp)⟩

/-- A quoted text ends with its quote. -/
theorem Closing.exists_content (h : Closing before b) : ∃ content, b = content ++ ['"'] := by
  induction h with
  | last => exact ⟨[], rfl⟩
  | @cons before c b _ _ ih =>
    obtain ⟨content, rfl⟩ := ih
    exact ⟨c :: content, rfl⟩

theorem Closing.unique {b' rest rest' : List Char} (h : Closing before b) (h' : Closing before b')
    (same : b ++ rest = b' ++ rest') : b = b' ∧ rest = rest' := by
  have scanned := h.scanQuoted [] rest
  rw [same, h'.scanQuoted] at scanned
  have text : before :: b' = before :: b := Lexeme.quoted.inj (List.cons.inj scanned).1
  obtain rfl := (List.cons.inj text).2
  exact ⟨rfl, List.append_cancel_left same⟩

theorem Closes.closing (h : Closes b) : Closing '"' b := by
  have closed := h [] []
  rcases scanQuoted_cases '"' b with unclosed | ⟨front, rest, rfl, closing⟩
  · rw [List.append_nil, unclosed] at closed
    cases closed
  · rw [List.append_assoc, closing.scanQuoted] at closed
    have same : '"' :: front = '"' :: (front ++ rest) := Lexeme.quoted.inj (List.cons.inj closed).1
    rwa [← List.cons.inj same |>.2]

end Lexeme

end QueryTemplate
