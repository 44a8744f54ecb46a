import QueryTemplate.Proofs.Typing
import QueryTemplate.Token.OfText

/-!
Comparisons with their sides exchanged. The types of two operands fit or not whichever comes first,
with one exception. A boolean operand stands for itself, so no comparison may start with one, not
even with an array of booleans that is compared with nil. Behind the nil the same array is accepted.
-/

namespace QueryTemplate

namespace Token

/-- One of the two is nil and the other one boolean, and one of them is an array. -/
def OneSided (x y : Token) : Prop :=
  (x.IsBoolean ∧ y.kind = .nil ∨ x.kind = .nil ∧ y.IsBoolean) ∧
    (x.isArray = true ∨ y.isArray = true)

variable {x y : Token}

theorem matches_comm : x.Matches y ↔ y.Matches x :=
  ⟨Matches.symm, Matches.symm⟩

theorem matches_nil (nil : x.kind = .nil) :
    x.Matches y ↔ x.isArray = true ∨ y.isArray = true := by
  simp [Matches, nil]

/-- A boolean operand matches no operand of another type but nil. -/
theorem IsBoolean.matches_iff (boolean : x.IsBoolean) (other : ¬ y.IsBoolean) :
    x.Matches y ↔ y.kind = .nil ∧ (x.isArray = true ∨ y.isArray = true) := by
  have typed : x.type? ≠ y.type? := fun same => other (same.symm.trans boolean)
  simp [Matches, boolean.kind_ne_nil, typed]

/-- The operands of a comparison fit on one side and on the other. -/
theorem fit_comm_iff :
    ((¬ x.IsBoolean ∧ x.Matches y) ↔ (¬ y.IsBoolean ∧ y.Matches x)) ↔ ¬ x.OneSided y := by
  by_cases left : x.IsBoolean <;> by_cases right : y.IsBoolean
  · have neither : ¬ x.OneSided y := by simp [OneSided, left.kind_ne_nil, right.kind_ne_nil]
    tauto
  · have oneSided : x.OneSided y ↔ x.Matches y := by
      rw [left.matches_iff right]
      simp [OneSided, left, right]
    rw [oneSided, matches_comm (x := y)]
    tauto
  · have oneSided : x.OneSided y ↔ x.Matches y := by
      rw [matches_comm, right.matches_iff left]
      simp [OneSided, left, right, or_comm]
    rw [oneSided, matches_comm (x := y)]
    tauto
  · have neither : ¬ x.OneSided y := by simp [OneSided, left, right]
    rw [matches_comm (x := y)]
    tauto

end Token

namespace Condition

open Token Term

/-- The condition is accepted with a boolean operand between the tokens. -/
def AcceptedAround (words front back : List Token) : Prop :=
  ∀ t : Token, t.IsBoolean → checkTypes (words ++ (front ++ t :: back)) = .ok ()

theorem checkTypes_middle {words front back : List Token} {before after : List Term}
    (opening : Statement.Announcing words)
    (place : ∀ c : Term, Divided (before ++ c :: after) (front ++ (c.tokens ++ back))) (c : Term)
    (decides : c.Decides) :
    checkTypes (words ++ (front ++ (c.tokens ++ back))) = .ok () ↔
      c.Fits ∧ AcceptedAround words front back := by
  have others (c : Term) (decides : c.Decides) :
      checkTypes (words ++ (front ++ (c.tokens ++ back))) = .ok () ↔
        c.Fits ∧ (∀ b ∈ before, b.Fits ∧ b.Decides) ∧ Accepted after := by
    rw [Statement.checkTypes_announcing opening, checkTokens_eq_ok_iff (place c), accepted_append,
      accepted_cons]
    have undecided : ¬ (after ≠ [] ∧ ¬ c.Decides) := fun h => h.2 decides
    simp only [Offends]
    tauto
  have alone (t : Token) (boolean : t.IsBoolean) :
      checkTypes (words ++ (front ++ t :: back)) = .ok () ↔
        (∀ b ∈ before, b.Fits ∧ b.Decides) ∧ Accepted after :=
    (others (.bare t boolean.isOperand) boolean).trans (and_iff_right trivial)
  have around : AcceptedAround words front back ↔
      (∀ b ∈ before, b.Fits ∧ b.Decides) ∧ Accepted after := by
    refine ⟨fun h => (alone ⟨.boolean, "true", false⟩ rfl).1 (h _ rfl), fun h t boolean => ?_⟩
    exact (alone t boolean).2 h
  rw [around]
  exact others c decides

/-- The verdict on a condition does not depend on the order of two operands that are compared,
unless they are one-sided and nothing else is wrong with the condition. A comparison of nil with an
array is accepted, with the array in front only if it is not boolean. -/
theorem checkTypes_exchange_iff {words front back : List Token} {x o y : Token}
    (opening : Statement.Announcing words) (chained : Token.Chained (front ++ x :: o :: y :: back))
    (compares : o.kind = .comparison) :
    ((checkTypes (words ++ (front ++ x :: o :: y :: back)) = .ok () ↔
        checkTypes (words ++ (front ++ y :: o :: x :: back)) = .ok ()) ↔
      ¬ (x.OneSided y ∧ AcceptedAround words front back)) ∧
    (x.kind = .nil → y.isArray = true →
      (checkTypes (words ++ (front ++ x :: o :: y :: back)) = .ok () ↔
        AcceptedAround words front back) ∧
      (checkTypes (words ++ (front ++ y :: o :: x :: back)) = .ok () ↔
        ¬ y.IsBoolean ∧ AcceptedAround words front back)) := by
  obtain ⟨a, as, divided⟩ := chained_iff.1 chained
  obtain ⟨before, after, left, right, -, place⟩ := divided.exists_comparison compares
  have forth : checkTypes (words ++ (front ++ x :: o :: y :: back)) = .ok () ↔
      (¬ x.IsBoolean ∧ x.Matches y) ∧ AcceptedAround words front back :=
    checkTypes_middle opening place (.comparison x o y left compares right) trivial
  have back' : checkTypes (words ++ (front ++ y :: o :: x :: back)) = .ok () ↔
      (¬ y.IsBoolean ∧ y.Matches x) ∧ AcceptedAround words front back :=
    checkTypes_middle opening place (.comparison y o x right compares left) trivial
  rw [forth, back']
  refine ⟨?_, fun nil array => ?_⟩
  · by_cases around : AcceptedAround words front back
    · simp only [around, and_true]
      exact fit_comm_iff
    · simp [around]
  · have plain : ¬ x.IsBoolean := fun boolean => boolean.kind_ne_nil nil
    have fits : x.Matches y := (matches_nil nil).2 (.inr array)
    simp [plain, fits, fits.symm]

/-- An array of numbers is compared with nil between two boolean operands. -/
theorem checkTypes_exchange_arrays :
    let word : Token := ⟨.keyword .ifOpen, "if", false⟩
    let flag : Token := ⟨.param .bool, "Flag", false⟩
    let numbers : Token := ⟨.param .int, "IDs", true⟩
    let operator : Token := ⟨.comparison, "!=", false⟩
    let front : List Token := [flag, ⟨.logical, "&&", false⟩]
    let back : List Token := [⟨.logical, "||", false⟩, flag]
    Statement.Announcing [word] ∧
      Token.Chained (front ++ ⟨.nil, "nil", false⟩ :: operator :: numbers :: back) ∧
      checkTypes ([word] ++ (front ++ ⟨.nil, "nil", false⟩ :: operator :: numbers :: back)) =
        .ok () ∧
      checkTypes ([word] ++ (front ++ numbers :: operator :: ⟨.nil, "nil", false⟩ :: back)) =
        .ok () := by
  intro word flag numbers operator front back
  have opening : Statement.Announcing [word] := Statement.announcing_one rfl
  have chained : Token.Chained (front ++ ⟨.nil, "nil", false⟩ :: operator :: numbers :: back) :=
    chained_iff.2 ⟨.bare flag rfl, [.comparison _ _ _ rfl rfl rfl, .bare flag rfl],
      .cons _ rfl (.cons _ rfl (.last _))⟩
  have accepted : checkTypes
      ([word] ++ (front ++ ⟨.nil, "nil", false⟩ :: operator :: numbers :: back)) = .ok () := rfl
  have sides : ¬ (⟨.nil, "nil", false⟩ : Token).OneSided numbers := by
    simp [OneSided, IsBoolean, type?, numbers]
  have same := (checkTypes_exchange_iff opening chained rfl).1.2 fun h => sides h.1
  exact ⟨opening, chained, accepted, same.1 accepted⟩

/-- Nil may be compared with an array of booleans, but the array not with nil. -/
theorem not_exchange_booleanArray :
    let word : Token := ⟨.keyword .ifOpen, "if", false⟩
    let flags : Token := ⟨.param .bool, "Flags", true⟩
    let operator : Token := ⟨.comparison, "!=", false⟩
    let none : Token := ⟨.nil, "nil", false⟩
    ofText [⟨"Flags", .bool, true⟩] "if nil != Flags" = .ok [word, none, operator, flags] ∧
      ofText [⟨"Flags", .bool, true⟩] "if Flags != nil" = .ok [word, flags, operator, none] ∧
      checkTypes [word, none, operator, flags] = .ok () ∧
      checkTypes [word, flags, operator, none] =
        .error (.unexpectedComparison "!=" "if Flags != nil") := by
  refine ⟨by cbv, by cbv, rfl, rfl⟩

end Condition

end QueryTemplate
