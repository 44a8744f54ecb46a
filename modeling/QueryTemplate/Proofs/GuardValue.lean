import QueryTemplate.Guard
import QueryTemplate.Proofs.ConditionValue

/-!
What a guard says: none of the prior conditions holds, and its own one does. Its symbols read as
that, whatever mix of conjunctions and disjunctions the conditions are.
-/

namespace QueryTemplate

namespace Symbol

variable {v : Atom → Bool} {s t : List Symbol} {a b : Bool}

def joined (parts : List (List Symbol)) : List Symbol :=
  [Symbol.disjunction].intercalate parts

theorem joined_cons (s : List Symbol) {parts : List (List Symbol)} (others : parts ≠ []) :
    joined (s :: parts) = s ++ .disjunction :: joined parts := by
  obtain ⟨t, parts, rfl⟩ := List.exists_cons_of_ne_nil others
  simp [joined, List.intercalate]

def excluded (s : List Symbol) : List Symbol :=
  .negation :: .opening :: (s ++ [.closing])

theorem Reads.excluded (h : Reads v .disjunction s a) : Reads v .unary (excluded s) (!a) :=
  .not (.group h)

end Symbol

namespace Condition

def symbols (c : Condition) : List Symbol :=
  c.body.map Token.symbol

theorem Chained.reads {c : Condition} (h : c.Chained) (v : Atom → Bool) :
    Symbol.Reads v .disjunction c.symbols (c.holds v) :=
  (h.chained.reads v).1

theorem reads_joined {v : Atom → Bool} {prior : List Condition} (nonempty : prior ≠ [])
    (chained : ∀ c ∈ prior, c.Chained) :
    Symbol.Reads v .disjunction (Symbol.joined (prior.map symbols)) (prior.any (holds v)) := by
  induction prior with
  | nil => exact absurd rfl nonempty
  | cons c prior ih =>
    rw [List.forall_mem_cons] at chained
    rw [List.any_cons]
    rcases prior with _ | ⟨d, prior⟩
    · simpa [Symbol.joined, List.intercalate] using chained.1.reads v
    · rw [List.map_cons, Symbol.joined_cons _ (by simp)]
      exact .or_append (chained.1.reads v) (ih (List.cons_ne_nil _ _) chained.2)

end Condition

namespace Guard

def own : Guard → Option Condition
  | first own | elseIf _ own => some own
  | otherwise _ => none

def conditions : Guard → List Condition
  | first own => [own]
  | elseIf prior own => prior ++ [own]
  | otherwise prior => prior

def symbols (f : Condition → List Symbol) : Guard → List Symbol
  | first own => f own
  | elseIf prior own =>
    Symbol.excluded (Symbol.joined (prior.map f)) ++ .conjunction ::
      if own.tokens.any Token.isDisjunction then .opening :: (f own ++ [.closing]) else f own
  | otherwise prior => Symbol.excluded (Symbol.joined (prior.map f))

def holds (v : Atom → Bool) : Guard → Bool
  | first own => own.holds v
  | elseIf prior own => !prior.any (Condition.holds v) && own.holds v
  | otherwise prior => !prior.any (Condition.holds v)

/-- The conditions of a guard are chained, and a later branch has earlier ones. -/
def Chained : Guard → Prop
  | first own => own.Chained
  | elseIf prior own => prior ≠ [] ∧ (∀ c ∈ prior, c.Chained) ∧ own.Chained
  | otherwise prior => prior ≠ [] ∧ ∀ c ∈ prior, c.Chained

/-- The own condition is one side of a conjunction, so its disjunctions need the parentheses. -/
theorem Chained.reads {g : Guard} (h : g.Chained) (v : Atom → Bool) :
    Symbol.Reads v .disjunction (g.symbols Condition.symbols) (g.holds v) := by
  cases g with
  | first own => exact Condition.Chained.reads h v
  | otherwise prior =>
    exact .ofConjunction (.ofComparison (.ofUnary (Condition.reads_joined h.1 h.2).excluded))
  | elseIf prior own =>
    obtain ⟨nonempty, priors, owns⟩ := h
    have front : Symbol.Reads v .conjunction
        (Symbol.excluded (Symbol.joined (prior.map Condition.symbols)))
        (!prior.any (Condition.holds v)) :=
      .ofComparison (.ofUnary (Condition.reads_joined nonempty priors).excluded)
    rw [symbols, holds]
    split
    · exact .ofConjunction (.and front (.ofUnary (.group (owns.reads v))))
    · next plain =>
      rw [Condition.any_isDisjunction, Bool.not_eq_true] at plain
      rw [Condition.holds, ← Token.holdsAfter_eq_and plain]
      exact (owns.chained.reads v).2 _ _ front

end Guard

end QueryTemplate
