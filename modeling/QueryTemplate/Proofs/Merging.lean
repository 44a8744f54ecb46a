import Mathlib
import QueryTemplate.Proofs.Pieces
import QueryTemplate.Proofs.Seams

/-!
Merging adjacent literals. Where pieces are joined, a quote, a plus and a quote are a seam, and
dropping the seams merges neighbouring literals. A literal that ends in a quote and a plus has a
seam of its own with its last quote, though, where its first quote counts unless it has gone with
the seam in front. So merged pieces come out just if there is no such literal.
-/

namespace QueryTemplate

namespace Piece

/-! ## Merged pieces -/

/-- Puts a piece in front of others. A literal in front of a literal becomes one with it. -/
def attach : Piece → List Piece → List Piece
  | .literal a, .literal b :: ps => .literal (a ++ b) :: ps
  | p, ps => p :: ps

def merge (ps : List Piece) : List Piece :=
  ps.foldr attach []

/-- The last piece is a literal. What is given holds if there is none. -/
def endsQuoted : Bool → List Piece → Bool
  | quoted, [] => quoted
  | _, .literal _ :: ps => endsQuoted true ps
  | _, .word _ :: ps => endsQuoted false ps

/-- The quote that is still to come behind a literal. -/
def pending : Bool → List Char
  | true => ['"']
  | false => []

/-- The plus sign in front of a literal, which there is behind a word only. -/
def separator : Bool → List Char
  | true => []
  | false => ['+']

/-- A literal without its last quote. Behind a literal it has no first one either. -/
def opened : Bool → List Char → List Char
  | true, content => content
  | false, content => '"' :: content

/-- The expression of merged pieces behind a literal or a word, up to the quote of the last one. -/
def run : Bool → List Piece → List Char
  | _, [] => []
  | quoted, .literal content :: ps => separator quoted ++ opened quoted content ++ run true ps
  | quoted, .word spelling :: ps => pending quoted ++ '+' :: spelling ++ run false ps

/-- No literal ends in a quote and a plus. Its first quote counts, unless a literal is in front. -/
def Kept : Bool → List Piece → Prop
  | _, [] => True
  | quoted, .literal content :: ps => ¬ ['"', '+'] <:+ opened quoted content ∧ Kept true ps
  | _, .word _ :: ps => Kept false ps

instance decidableKept : (quoted : Bool) → (ps : List Piece) → Decidable (Kept quoted ps)
  | _, [] => inferInstanceAs (Decidable True)
  | quoted, .literal content :: ps =>
    have := decidableKept true ps
    inferInstanceAs (Decidable (¬ ['"', '+'] <:+ opened quoted content ∧ Kept true ps))
  | _, .word _ :: ps => decidableKept false ps

theorem attach_attach (a b : List Char) (ps : List Piece) :
    attach (.literal a) (attach (.literal b) ps) = attach (.literal (a ++ b)) ps := by
  cases ps with
  | nil => rfl
  | cons p ps =>
    cases p with
    | literal content => simp [attach]
    | word spelling => rfl

theorem run_attach (quoted : Bool) (p : Piece) (ps : List Piece) :
    run quoted (attach p ps) = run quoted (p :: ps) := by
  cases p with
  | word spelling => rfl
  | literal a =>
    cases ps with
    | nil => rfl
    | cons p ps =>
      cases p with
      | word spelling => rfl
      | literal b => cases quoted <;> simp [attach, run, opened, separator]

theorem endsQuoted_attach (quoted : Bool) (p : Piece) (ps : List Piece) :
    endsQuoted quoted (attach p ps) = endsQuoted quoted (p :: ps) := by
  cases p with
  | word spelling => rfl
  | literal a =>
    cases ps with
    | nil => rfl
    | cons p ps => cases p <;> rfl

/-- Merging changes no character of the literals, and no word. -/
theorem run_merge (quoted : Bool) (ps : List Piece) :
    run quoted (merge ps) = run quoted ps ∧
      endsQuoted quoted (merge ps) = endsQuoted quoted ps := by
  induction ps generalizing quoted with
  | nil => exact ⟨rfl, rfl⟩
  | cons p ps ih =>
    have first : merge (p :: ps) = attach p (merge ps) := rfl
    rw [first, run_attach, endsQuoted_attach]
    cases p with
    | literal content => exact ⟨by rw [run, run, (ih true).1], (ih true).2⟩
    | word spelling => exact ⟨by rw [run, run, (ih false).1], (ih false).2⟩

theorem endsQuoted_append (quoted : Bool) (ps qs : List Piece) :
    endsQuoted quoted (ps ++ qs) = endsQuoted (endsQuoted quoted ps) qs := by
  induction ps generalizing quoted with
  | nil => rfl
  | cons p ps ih => cases p <;> exact ih _

theorem run_append (quoted : Bool) (ps qs : List Piece) :
    run quoted (ps ++ qs) = run quoted ps ++ run (endsQuoted quoted ps) qs := by
  induction ps generalizing quoted with
  | nil => rfl
  | cons p ps ih => cases p <;> simp [run, endsQuoted, ih]

theorem run_append_literal (quoted : Bool) (ps : List Piece) (content : List Char)
    (qs : List Piece) : run quoted (ps ++ literal content :: qs) =
      run quoted (ps ++ [literal content]) ++ run true qs := by
  rw [List.append_cons, run_append, endsQuoted_append]
  rfl

/-- What merged pieces are written as, on their own and behind a literal. -/
theorem behind_merge_cases (ps : List Piece) :
    behind (merge ps) = run false ps ++ pending (endsQuoted false ps) ∧
      ∀ content, behind (attach (.literal content) (merge ps)) =
        '+' :: '"' :: (content ++ (run true ps ++ pending (endsQuoted true ps))) := by
  induction ps with
  | nil =>
    refine ⟨rfl, fun content => ?_⟩
    simp [merge, attach, behind, text, run, pending, endsQuoted]
  | cons p ps ih =>
    obtain ⟨unquoted, quoted⟩ := ih
    cases p with
    | literal b =>
      refine ⟨(quoted b).trans ?_, fun a => ?_⟩
      · simp [run, separator, opened, endsQuoted]
      · have joined : attach (.literal a) (merge (.literal b :: ps)) =
            attach (.literal (a ++ b)) (merge ps) := attach_attach a b (merge ps)
        rw [joined, quoted]
        simp [run, separator, opened, endsQuoted]
    | word spelling =>
      have first : behind (merge (.word spelling :: ps)) =
          '+' :: (spelling ++ behind (merge ps)) := rfl
      refine ⟨?_, fun a => ?_⟩
      · rw [first, unquoted]
        simp [run, pending, endsQuoted]
      · have apart : behind (attach (.literal a) (merge (.word spelling :: ps))) =
            '+' :: '"' :: (a ++ ['"'] ++ behind (merge (.word spelling :: ps))) := rfl
        rw [apart, first, unquoted]
        simp [run, pending, endsQuoted]

/-- Merged pieces end with the quote of their last literal. -/
theorem behind_merge (ps : List Piece) :
    behind (merge ps) = run false ps ++ pending (endsQuoted false ps) :=
  (behind_merge_cases ps).1

/-! ## One pass -/

variable {quoted : Bool} {content : List Char}

open Text

theorem closing_opened (formed : (literal content).WellFormed) (quoted : Bool) :
    ∃ before, Lexeme.Closing before (opened quoted content ++ ['"']) := by
  cases quoted with
  | true => exact ⟨'"', formed⟩
  | false => exact ⟨'\\', Lexeme.closing_cons.2 ⟨fun _ => rfl, formed⟩⟩

/-- The seam in front of a literal behind a literal is dropped. -/
theorem dropSeams_literal (quoted : Bool) (content u : List Char) :
    dropSeams (pending quoted ++ '+' :: '"' :: (content ++ u)) =
      separator quoted ++ dropSeams (opened quoted content ++ u) := by
  cases quoted with
  | true => rfl
  | false => exact dropSeams_cons_of_ne (by decide) _

theorem dropSeams_opened (formed : (literal content).WellFormed)
    (kept : ¬ ['"', '+'] <:+ opened quoted content) (u : List Char) :
    dropSeams (opened quoted content ++ '"' :: u) =
      opened quoted content ++ dropSeams ('"' :: u) := by
  obtain ⟨before, closing⟩ := closing_opened formed quoted
  exact dropSeams_append closing (by simp) (fun _ _ h => by simp at h) (fun h => absurd h kept)

/-- A literal that ends in a quote and a plus loses them with its last quote. -/
theorem dropSeams_broken (formed : (literal content).WellFormed) {stump : List Char}
    (broken : stump ++ ['"', '+'] = opened quoted content) (u : List Char) :
    dropSeams (opened quoted content ++ '"' :: u) = stump ++ dropSeams u := by
  obtain ⟨before, closing⟩ := closing_opened formed quoted
  rw [← broken, List.append_assoc] at closing
  rw [← broken, List.append_assoc, dropSeams_append_of_escaped closing (by simp)]
  rfl

theorem dropSeams_word {spelling : List Char} (formed : (word spelling).WellFormed) (quoted : Bool)
    (u : List Char) : dropSeams (pending quoted ++ '+' :: (spelling ++ u)) =
      pending quoted ++ '+' :: (spelling ++ dropSeams u) := by
  obtain ⟨nonempty, quotes, -⟩ := formed
  have unquoted : dropSeams ('+' :: (spelling ++ u)) = '+' :: (spelling ++ dropSeams u) := by
    rw [dropSeams_cons_of_ne (by decide), dropSeams_append_of_notMem quotes]
  cases quoted with
  | false => exact unquoted
  | true =>
    obtain ⟨c, cs, rfl⟩ := List.exists_cons_of_ne_nil nonempty
    have apart : ∀ v, '"' :: '+' :: (c :: cs ++ u) ≠ '"' :: '+' :: '"' :: v := by
      intro v whole
      simp only [List.cons_append, List.cons.injEq, true_and] at whole
      exact quotes (whole.1 ▸ .head _)
    exact (dropSeams_cons apart).trans (congrArg ('"' :: ·) unquoted)

theorem follows_behind (ps : List Piece) : Follows (behind ps) := by
  cases ps with
  | nil => exact .inl rfl
  | cons p ps => exact .inr ⟨_, behind_cons p ps⟩

/-- What is behind a literal or a word comes out as merged pieces, up to what follows, just if all
literals are kept. -/
theorem dropSeams_behind_eq_iff {ps : List Piece} (formed : ∀ p ∈ ps, p.WellFormed) {t : List Char}
    (follows : Follows t) (quoted : Bool) (e : List Char) :
    dropSeams (pending quoted ++ (behind ps ++ t)) = run quoted ps ++ e ↔
      Kept quoted ps ∧ dropSeams (pending (endsQuoted quoted ps) ++ t) = e := by
  induction ps generalizing quoted with
  | nil => simp [behind, run, Kept, endsQuoted]
  | cons p ps ih =>
    rw [List.forall_mem_cons] at formed
    obtain ⟨first, others⟩ := formed
    cases p with
    | literal content =>
      have written : behind (literal content :: ps) ++ t =
          '+' :: '"' :: (content ++ '"' :: (behind ps ++ t)) := by
        simp [behind_cons, join, text]
      rw [written, dropSeams_literal, run, List.append_assoc, List.append_assoc,
        List.append_cancel_left_eq, endsQuoted, Kept]
      by_cases kept : ['"', '+'] <:+ opened quoted content
      · obtain ⟨stump, broken⟩ := kept
        have next : Follows (dropSeams (behind ps ++ t)) :=
          ((follows_behind ps).append follows).dropSeams
        rw [dropSeams_broken first broken, ← broken, List.append_assoc, List.append_cancel_left_eq]
        refine iff_of_false (next.ne_quote _) fun h => h.1.1 ⟨stump, rfl⟩
      · rw [dropSeams_opened first kept, List.append_cancel_left_eq, and_assoc, and_iff_right kept]
        exact ih others true
    | word spelling =>
      have written : behind (word spelling :: ps) ++ t =
          '+' :: (spelling ++ (behind ps ++ t)) := by
        simp [behind_cons, join, text]
      rw [written, dropSeams_word first, run, List.append_assoc, List.append_assoc,
        List.append_cancel_left_eq, List.cons_append, List.cons_inj_right,
        List.append_cancel_left_eq]
      exact ih others false

theorem closing_join {before : Char} {a b : List Char}
    (front : Lexeme.Closing before (a ++ ['"'])) (back : (literal b).WellFormed) :
    Lexeme.Closing before (a ++ b ++ ['"']) := by
  induction a generalizing before with
  | nil =>
    cases b with
    | nil => exact front
    | cons c b =>
      obtain ⟨inside, others⟩ := Lexeme.closing_cons.1 back
      exact Lexeme.closing_cons.2 ⟨fun quote => absurd (inside quote) (by decide), others⟩
  | cons c a ih =>
    obtain ⟨inside, others⟩ := Lexeme.closing_cons.1 front
    exact Lexeme.closing_cons.2 ⟨inside, ih others⟩

theorem wellFormed_merge {ps : List Piece} (formed : ∀ p ∈ ps, p.WellFormed) :
    ∀ p ∈ merge ps, p.WellFormed := by
  induction ps with
  | nil => exact formed
  | cons p ps ih =>
    rw [List.forall_mem_cons] at formed
    have others := ih formed.2
    have first : merge (p :: ps) = attach p (merge ps) := rfl
    rw [first]
    generalize merge ps = qs at others
    cases p with
    | word spelling => exact List.forall_mem_cons.2 ⟨formed.1, others⟩
    | literal a =>
      cases qs with
      | nil => exact List.forall_mem_cons.2 ⟨formed.1, others⟩
      | cons q qs =>
        cases q with
        | word spelling => exact List.forall_mem_cons.2 ⟨formed.1, others⟩
        | literal b =>
          rw [List.forall_mem_cons] at others
          exact List.forall_mem_cons.2 ⟨closing_join formed.1 others.1, others.2⟩

/-- Pieces come out merged just if all literals are kept. -/
theorem dropSeams_behind_eq_merge_iff {ps : List Piece} (formed : ∀ p ∈ ps, p.WellFormed) :
    dropSeams (behind ps) = behind (merge ps) ↔ Kept false ps := by
  have once := dropSeams_behind_eq_iff formed (.inl rfl) false (pending (endsQuoted false ps))
  rw [List.append_nil, List.append_nil, ← behind_merge] at once
  refine once.trans (and_iff_left ?_)
  cases endsQuoted false ps <;> rfl

end Piece

end QueryTemplate
