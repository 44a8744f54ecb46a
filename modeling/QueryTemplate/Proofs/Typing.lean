import Mathlib
import QueryTemplate.Proofs.Respelling
import QueryTemplate.Proofs.Terms

/-!
Which conditions have fitting types. The check goes over the tokens and looks at three of them at a
time, or at one. It stays in step with the terms: it accepts a condition just if the operands of
every comparison fit and every operand on its own is boolean, where the last one may be of any type.
Otherwise it reports the first term that is at fault.
-/

namespace QueryTemplate

namespace Token

def IsBoolean (t : Token) : Prop :=
  t.type? = some .bool

instance (t : Token) : Decidable t.IsBoolean :=
  inferInstanceAs (Decidable (_ = _))

/-- One of the two is nil and one is an array, or neither is nil and they are of one type. -/
def Matches (x y : Token) : Prop :=
  (x.kind = .nil ∨ y.kind = .nil) ∧ (x.isArray = true ∨ y.isArray = true) ∨
    x.kind ≠ .nil ∧ y.kind ≠ .nil ∧ x.type? = y.type?

variable {x y t : Token}

theorem IsBoolean.kind_ne_nil (h : t.IsBoolean) : t.kind ≠ .nil := by
  intro kind
  simp [IsBoolean, type?, kind] at h

theorem IsBoolean.isOperand (h : t.IsBoolean) : t.isOperand = true := by
  unfold IsBoolean type? at h
  unfold Token.isOperand
  cases kind : t.kind <;> simp_all

theorem Matches.symm (h : x.Matches y) : y.Matches x := by
  rcases h with ⟨nil, array⟩ | ⟨left, right, type⟩
  · exact .inl ⟨nil.symm, array.symm⟩
  · exact .inr ⟨right, left, type.symm⟩

end Token

namespace Term

open Token

/-- The operands of a comparison fit. The left one is not boolean. -/
def Fits : Term → Prop
  | bare .. => True
  | comparison x _ y _ _ _ => ¬ x.IsBoolean ∧ x.Matches y

/-- An operand on its own is boolean. -/
def Decides : Term → Prop
  | bare x _ => x.IsBoolean
  | comparison .. => True

/-- The term is at fault in front of the others. -/
def Offends (after : List Term) (a : Term) : Prop :=
  ¬ a.Fits ∨ after ≠ [] ∧ ¬ a.Decides

/-- What is reported of a term at fault: the comparison behind a boolean operand, or the three
tokens from the first one of the term on. -/
def complaint (whole rest : List Token) : Term → Fault
  | bare .. => .mismatch (join (rest.take 3)) (join whole)
  | comparison x o _ _ _ _ =>
    if x.IsBoolean then .unexpectedComparison o.text (join whole)
    else .mismatch (join (rest.take 3)) (join whole)

def Accepted (as : List Term) : Prop :=
  (∀ a ∈ as, a.Fits) ∧ ∀ a ∈ as.dropLast, a.Decides

theorem accepted_cons {a : Term} {as : List Term} :
    Accepted (a :: as) ↔ ¬ a.Offends as ∧ Accepted as := by
  cases as with
  | nil => simp [Accepted, Offends]
  | cons b as =>
    have further : b :: as ≠ [] := List.cons_ne_nil b as
    simp only [Accepted, Offends, List.forall_mem_cons, List.dropLast_cons_cons]
    tauto

theorem accepted_append {a : Term} {before after : List Term} :
    Accepted (before ++ a :: after) ↔
      (∀ b ∈ before, b.Fits ∧ b.Decides) ∧ Accepted (a :: after) := by
  induction before with
  | nil => simp
  | cons b before ih =>
    rw [List.cons_append, accepted_cons, ih, List.forall_mem_cons]
    simp [Offends, and_assoc]

theorem accepted_or_offends (as : List Term) :
    Accepted as ∨ ∃ before a after, as = before ++ a :: after ∧
      (∀ b ∈ before, b.Fits ∧ b.Decides) ∧ a.Offends after := by
  induction as with
  | nil => exact .inl ⟨by simp, by simp⟩
  | cons a as ih =>
    by_cases offends : a.Offends as
    · exact .inr ⟨[], a, as, rfl, by simp, offends⟩
    rcases ih with accepted | ⟨before, b, after, rfl, passed, later⟩
    · exact .inl (accepted_cons.2 ⟨offends, accepted⟩)
    · refine .inr ⟨a :: before, b, after, rfl, List.forall_mem_cons.2 ⟨?_, passed⟩, later⟩
      simpa [Offends] using offends

end Term

namespace Condition

open Token Term

theorem passes_iff {t : Token} : Passes t.kind ∧ t.isOperand = true ↔ t.IsBoolean := by
  unfold Passes Token.isOperand IsBoolean type?
  cases kind : t.kind with
  | param type => cases type <;> simp
  | _ => simp

theorem passes_logical {o : Token} (logical : o.kind = .logical) : Passes o.kind := by
  rw [logical]
  trivial

theorem comparable_iff {x o y : Token} (compares : o.kind = .comparison) :
    comparable x o y = true ↔ x.Matches y := by
  unfold comparable Matches
  by_cases nil : x.kind = .nil ∨ y.kind = .nil
  · simp [compares, nil]
    grind
  · simp [compares, nil]
    grind

/-! ## One term -/

variable {whole rest : List Token} {a : Term}

theorem not_passes {x : Token} (operand : x.isOperand = true) (plain : ¬ x.IsBoolean) :
    ¬ Passes x.kind :=
  fun passes => plain (passes_iff.1 ⟨passes, operand⟩)

/-- The check goes on behind a comparison that fits. -/
theorem checkTokens_fitting {x o y : Token} (operand : x.isOperand = true)
    (compares : o.kind = .comparison) (plain : ¬ x.IsBoolean) (fit : x.Matches y) :
    checkTokens whole (x :: o :: y :: rest) = checkTokens whole rest := by
  rw [checkTokens_three (not_passes operand plain) (kind_ne_comparison operand),
    if_pos ((comparable_iff compares).2 fit)]

theorem checkTokens_last (fits : a.Fits) : checkTokens whole a.tokens = .ok () := by
  cases a with
  | bare x operand =>
    by_cases boolean : x.IsBoolean
    · rw [Term.tokens, checkTokens_passes (passes_iff.2 boolean).1, checkTokens]
    · exact checkTokens_one (not_passes operand boolean) (kind_ne_comparison operand)
  | comparison x o y left compares right =>
    rw [Term.tokens, checkTokens_fitting left compares fits.1 fits.2, checkTokens]

/-- The check goes on behind a term that is not at fault, and the operator after it. -/
theorem checkTokens_term (fits : a.Fits) (decides : a.Decides) {o : Token}
    (logical : o.kind = .logical) :
    checkTokens whole (a.tokens ++ o :: rest) = checkTokens whole rest := by
  have behind : checkTokens whole (o :: rest) = checkTokens whole rest :=
    checkTokens_passes (passes_logical logical)
  cases a with
  | bare x operand =>
    rw [Term.tokens, List.singleton_append, checkTokens_passes (passes_iff.2 decides).1, behind]
  | comparison x o' y left compares right =>
    rw [← behind]
    exact checkTokens_fitting left compares fits.1 fits.2

theorem checkTokens_offends {after : List Term} (h : Divided (a :: after) rest)
    (offends : a.Offends after) : checkTokens whole rest = .error (a.complaint whole rest) := by
  cases a with
  | bare x operand =>
    obtain ⟨further, plain⟩ := offends.resolve_left (not_not.2 trivial)
    cases h with
    | last => exact absurd rfl further
    | @cons _ o logical b as ts others =>
      -- the window takes the operator and the first operand behind it
      obtain ⟨y, more, rfl, -⟩ := others.exists_cons
      have other : comparable x o y = false := by simp [comparable, logical]
      rw [Term.tokens, List.singleton_append, checkTokens_three (not_passes operand plain)
        (kind_ne_comparison operand), other]
      rfl
  | comparison x o y left compares right =>
    have unfit : ¬ (¬ x.IsBoolean ∧ x.Matches y) :=
      offends.resolve_right fun undecided => undecided.2 trivial
    obtain ⟨more, rfl⟩ : ∃ more, rest = x :: o :: y :: more := by
      cases h with
      | last => exact ⟨[], rfl⟩
      | cons => exact ⟨_, rfl⟩
    by_cases boolean : x.IsBoolean
    · rw [checkTokens_passes (passes_iff.2 boolean).1, checkTokens_comparison compares, complaint,
        if_pos boolean]
    · have mismatch : ¬ comparable x o y = true := fun fit =>
        unfit ⟨boolean, (comparable_iff compares).1 fit⟩
      rw [checkTokens_three (not_passes left boolean) (kind_ne_comparison left), if_neg mismatch,
        complaint, if_neg boolean]
      rfl

/-! ## All terms -/

variable {as before : List Term} {front ts : List Token}

theorem checkTokens_led (led : Led before front) (passed : ∀ b ∈ before, b.Fits ∧ b.Decides)
    (rest : List Token) : checkTokens whole (front ++ rest) = checkTokens whole rest := by
  induction led with
  | nil => rfl
  | cons b logical _ ih =>
    rw [List.forall_mem_cons] at passed
    rw [List.append_assoc, List.cons_append, checkTokens_term passed.1.1 passed.1.2 logical,
      ih passed.2]

theorem checkTokens_accepted (h : Divided as ts) (accepted : Accepted as) :
    checkTokens whole ts = .ok () := by
  obtain ⟨fits, decide⟩ := accepted
  rcases List.eq_nil_or_concat' as with rfl | ⟨before, a, rfl⟩
  · cases h
    rw [checkTokens]
  · rw [List.forall_mem_append, List.forall_mem_singleton] at fits
    rw [List.dropLast_concat] at decide
    obtain ⟨front, rest, rfl, led, last⟩ := h.split
    rw [checkTokens_led led fun b hb => ⟨fits.1 b hb, decide b hb⟩, last.eq_tokens,
      checkTokens_last fits.2]

theorem checkTokens_eq_ok_iff (h : Divided as ts) :
    checkTokens whole ts = .ok () ↔ Accepted as := by
  refine ⟨fun ok => ?_, checkTokens_accepted h⟩
  rcases accepted_or_offends as with accepted | ⟨before, a, after, rfl, passed, offends⟩
  · exact accepted
  · obtain ⟨front, rest, rfl, led, divided⟩ := h.split
    rw [checkTokens_led led passed, checkTokens_offends divided offends] at ok
    cases ok

theorem checkTokens_eq_error_iff (h : Divided as ts) {fault : Fault} :
    checkTokens whole ts = .error fault ↔
      ∃ before a after front rest, as = before ++ a :: after ∧ ts = front ++ rest ∧
        Led before front ∧ Divided (a :: after) rest ∧ (∀ b ∈ before, b.Fits ∧ b.Decides) ∧
        a.Offends after ∧ fault = a.complaint whole rest := by
  constructor
  · intro failed
    rcases accepted_or_offends as with accepted | ⟨before, a, after, rfl, passed, offends⟩
    · rw [checkTokens_accepted h accepted] at failed
      cases failed
    · obtain ⟨front, rest, rfl, led, divided⟩ := h.split
      rw [checkTokens_led led passed, checkTokens_offends divided offends] at failed
      cases failed
      exact ⟨before, a, after, front, rest, rfl, rfl, led, divided, passed, offends, rfl⟩
  · rintro ⟨before, a, after, front, rest, rfl, rfl, led, divided, passed, offends, rfl⟩
    rw [checkTokens_led led passed, checkTokens_offends divided offends]

/-- A condition is accepted just if the operands of its comparisons fit and its other operands are
boolean, but for the last one. Otherwise the first term at fault is reported. -/
theorem checkTypes_terms {words : List Token} (opening : Statement.Announcing words)
    (h : Divided as ts) :
    (checkTypes (words ++ ts) = .ok () ↔ (∀ a ∈ as, a.Fits) ∧ ∀ a ∈ as.dropLast, a.Decides) ∧
      ∀ fault, checkTypes (words ++ ts) = .error fault ↔
        ∃ before a after front rest, as = before ++ a :: after ∧ ts = front ++ rest ∧
          Led before front ∧ Divided (a :: after) rest ∧ (∀ b ∈ before, b.Fits ∧ b.Decides) ∧
          a.Offends after ∧ fault = a.complaint (words ++ ts) rest := by
  rw [Statement.checkTypes_announcing opening ts]
  exact ⟨checkTokens_eq_ok_iff h, fun _ => checkTokens_eq_error_iff h⟩

def mixedTerms : List Term :=
  [bare ⟨.param .bool, "Flag", false⟩ rfl,
    comparison ⟨.param .int, "Age", false⟩ ⟨.comparison, "==", false⟩
      ⟨.param .string, "Name", false⟩ rfl rfl rfl,
    comparison ⟨.param .int, "IDs", true⟩ ⟨.comparison, "!=", false⟩ ⟨.nil, "nil", false⟩
      rfl rfl rfl]

theorem checkTypes_mixedTerms :
    ∃ ts, Statement.Announcing [⟨.keyword .ifOpen, "if", false⟩] ∧ Divided mixedTerms ts ∧
      checkTypes (⟨.keyword .ifOpen, "if", false⟩ :: ts) =
        .error (.mismatch "Age == Name" "if Flag && Age == Name || IDs != nil") := by
  have opening : Statement.Announcing [⟨.keyword .ifOpen, "if", false⟩] :=
    Statement.announcing_one rfl
  let ands : Token := ⟨.logical, "&&", false⟩
  let ors : Token := ⟨.logical, "||", false⟩
  have behind := Divided.cons mixedTerms[1] (o := ors) rfl (.last mixedTerms[2])
  have divided : Divided mixedTerms _ := .cons mixedTerms[0] (o := ands) rfl behind
  refine ⟨_, opening, divided, ((checkTypes_terms opening divided).2 _).2 ?_⟩
  refine ⟨[mixedTerms[0]], mixedTerms[1], [mixedTerms[2]], mixedTerms[0].tokens ++ [ands], _, rfl,
    rfl, .cons _ rfl .nil, behind, ?_, .inl ?_, ?_⟩
  · simp [mixedTerms, Fits, Decides, IsBoolean, type?]
  · simp [mixedTerms, Fits, Matches, type?]
  · decide

end Condition

end QueryTemplate
