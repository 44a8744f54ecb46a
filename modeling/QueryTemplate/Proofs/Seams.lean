import Mathlib
import QueryTemplate.Payload
import QueryTemplate.Proofs.Scanning.Quoted

/-!
Seams. A quoted text has seams at its ends only, since a quote inside of it stands behind a
backslash, and what stands behind an operand starts with a plus sign.
-/

namespace QueryTemplate.Text

theorem dropSeams_cons {c : Char} {cs : List Char} (apart : ∀ v, c :: cs ≠ '"' :: '+' :: '"' :: v) :
    dropSeams (c :: cs) = c :: dropSeams cs := by
  rw [dropSeams.eq_def]
  split
  · next v spelled => exact absurd spelled (apart v)
  · next spelled =>
    cases spelled
    rfl
  · next spelled => cases spelled

theorem dropSeams_cons_of_ne {c : Char} (other : c ≠ '"') (cs : List Char) :
    dropSeams (c :: cs) = c :: dropSeams cs :=
  dropSeams_cons fun _ spelled => other (List.cons.inj spelled).1

theorem dropSeams_append_of_notMem {w : List Char} (quotes : '"' ∉ w) (cs : List Char) :
    dropSeams (w ++ cs) = w ++ dropSeams cs := by
  induction w with
  | nil => rfl
  | cons c w ih =>
    rw [List.mem_cons, not_or] at quotes
    rw [List.cons_append, dropSeams_cons_of_ne (Ne.symm quotes.1), ih quotes.2, List.cons_append]

/-- What can stand behind a piece: nothing, or a plus sign and more. -/
def Follows (t : List Char) : Prop :=
  t = [] ∨ ∃ u, t = '+' :: u

theorem Follows.append {t u : List Char} (front : Follows t) (back : Follows u) :
    Follows (t ++ u) := by
  rcases front with rfl | ⟨v, rfl⟩
  · exact back
  · exact .inr ⟨v ++ u, rfl⟩

theorem Follows.dropSeams {t : List Char} (h : Follows t) : Follows (Text.dropSeams t) := by
  rcases h with rfl | ⟨u, rfl⟩
  · exact .inl rfl
  · exact .inr ⟨Text.dropSeams u, dropSeams_cons_of_ne (by decide) u⟩

theorem Follows.ne_quote {t : List Char} (h : Follows t) (u : List Char) : t ≠ '"' :: u := by
  rcases h with rfl | ⟨v, rfl⟩ <;> simp

/-- No seam starts inside a quoted text. The quote of its end, or what is behind it, can be part of
one only if it ends that way. -/
theorem dropSeams_append {before : Char} {content b u : List Char}
    (closing : Lexeme.Closing before (content ++ b)) (nonempty : b ≠ [])
    (quote : ['"'] <:+ content → ∀ v, u ≠ '+' :: '"' :: v)
    (plus : ['"', '+'] <:+ content → ∀ v, u ≠ '"' :: v) :
    dropSeams (content ++ u) = content ++ dropSeams u := by
  induction content generalizing before with
  | nil => rfl
  | cons c content ih =>
    have others : Lexeme.Closing c (content ++ b) := (closing.of_cons (by simp [nonempty])).2
    have apart : ∀ v, c :: (content ++ u) ≠ '"' :: '+' :: '"' :: v := by
      intro v whole
      obtain ⟨rfl, rest⟩ := List.cons.inj whole
      cases content with
      | nil => exact quote (List.suffix_refl _) v rest
      | cons d content =>
        obtain ⟨rfl, last⟩ := List.cons.inj rest
        cases content with
        | nil => exact plus (List.suffix_refl _) v last
        | cons e content =>
          -- A quote behind a plus sign would end the quoted text.
          obtain ⟨rfl, -⟩ := List.cons.inj last
          have further := (others.of_cons (by simp)).2
          exact absurd ((further.of_cons (by simp [nonempty])).1 rfl) (by decide)
    rw [List.cons_append, dropSeams_cons apart, List.cons_append,
      ih others (fun h => quote (h.trans (List.suffix_cons c content)))
        (fun h => plus (h.trans (List.suffix_cons c content)))]

/-- What stands in front of a quote inside a quoted text has no part in a seam: if it is anything
at all, it ends with a backslash. -/
theorem dropSeams_append_of_escaped {before : Char} {content b : List Char}
    (closing : Lexeme.Closing before (content ++ '"' :: b)) (inside : b ≠ []) (u : List Char) :
    dropSeams (content ++ u) = content ++ dropSeams u := by
  have escaped : ∀ c, [c] <:+ content → c = '\\' := by
    rintro c ⟨front, rfl⟩
    rw [List.append_assoc] at closing
    exact ((closing.of_append (by simp)).of_cons inside).1 rfl
  refine dropSeams_append closing (by simp) (fun h => ?_) (fun h => ?_)
  · exact absurd (escaped _ h) (by decide)
  · exact absurd (escaped '+' ((List.suffix_cons '"' ['+']).trans h)) (by decide)

/-- An expression, with a plus sign in front, drops the seams of its operands. -/
theorem toList_concatenation {operands : List String} (nonempty : operands ≠ []) :
    '+' :: (concatenation operands).toList =
      dropSeams (operands.flatMap fun s => '+' :: s.toList) := by
  have joined : '+' :: ("+".intercalate operands).toList =
      operands.flatMap fun s => '+' :: s.toList := by
    induction operands with
    | nil => exact absurd rfl nonempty
    | cons s ss ih =>
      cases ss with
      | nil => simp
      | cons t ss =>
        rw [List.flatMap_cons, ← ih (by simp), String.intercalate_cons_cons]
        simp
  rw [← joined, concatenation, String.toList_ofList]
  exact (dropSeams_cons_of_ne (by decide) _).symm

end QueryTemplate.Text
