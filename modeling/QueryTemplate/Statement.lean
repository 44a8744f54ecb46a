import QueryTemplate.Fault
import QueryTemplate.Token

/-!
Statements: the tokens of a template in groups. A keyword that announces a condition takes the
longest condition that follows it; every other token is a statement of its own. A condition is
`operand (comparison operand)? (logical operand (comparison operand)?)*`.

Grouping is lossless: `Statement.read_eq_ok` says that the tokens of a statement and the tokens
left after it are the tokens that were given.
-/

namespace QueryTemplate

inductive StatementKind where
  | literal
  | ifOpen
  | elseIf
  | otherwise
  | whereOpen
  | setOpen
  | close
  deriving DecidableEq, Repr

/-- The content is the text of a literal or of a condition, and empty for a bare keyword. The text
is that of all tokens. -/
structure Statement where
  kind : StatementKind
  content : String := ""
  text : String := ""
  tokens : List Token := []
  deriving DecidableEq, Repr

namespace Statement

def literal (t : Token) : Statement :=
  ⟨.literal, t.text, t.text, [t]⟩

def bare (kind : StatementKind) (t : Token) : Statement :=
  ⟨kind, "", t.text, [t]⟩

/-- The keywords that announce a condition, with the condition. -/
def guarded (kind : StatementKind) (opening condition : List Token) : Statement :=
  ⟨kind, Token.join condition, Token.join (opening ++ condition), opening ++ condition⟩

/-- How far a condition reaches: to a point from which other tokens are left, or to an operator
that no operand follows. -/
inductive Reach where
  | complete (taken left : List Token)
  | dangling (taken : List Token)
  deriving DecidableEq, Repr

/-- The same reach, seen from two tokens earlier. -/
def Reach.after (operator operand : Token) : Reach → Reach
  | complete taken left => complete (operator :: operand :: taken) left
  | dangling taken => dangling (operator :: operand :: taken)

/-- How far a condition reaches after an operand. An operand that has been compared is not
compared again. -/
def reachAfter (compared : Bool) : List Token → Reach
  | [] => .complete [] []
  | operator :: rest =>
    if operator.kind = .logical ∨ (operator.kind = .comparison ∧ compared = false) then
      match rest with
      | [] => .dangling [operator]
      | operand :: rest =>
        if operand.isOperand then
          (reachAfter (operator.kind = .comparison) rest).after operator operand
        else .dangling [operator]
    else .complete [] (operator :: rest)

theorem reachAfter_eq_complete {compared : Bool} {ts taken left : List Token}
    (h : reachAfter compared ts = .complete taken left) : taken ++ left = ts := by
  fun_induction reachAfter compared ts generalizing taken left with
  | case1 => cases h; rfl
  | case2 => cases h
  | case3 compared operator _ operand rest _ ih =>
    cases hr : reachAfter (operator.kind = .comparison) rest with
    | complete taken' left' =>
      rw [hr] at h
      cases h
      simp [ih hr]
    | dangling taken' =>
      rw [hr] at h
      cases h
  | case4 => cases h
  | case5 => cases h; rfl

/-- The statement of the given kind whose keywords are `opening` and whose condition starts the
given tokens, and the tokens left after it. -/
def readGuarded (kind : StatementKind) (opening : List Token) :
    List Token → Except Fault (Statement × List Token)
  | [] => .error (.noCondition (Token.join opening))
  | operand :: rest =>
    if operand.isOperand then
      match reachAfter false rest with
      | .complete taken left => .ok (guarded kind opening (operand :: taken), left)
      | .dangling taken => .error (.dangling (Token.join (opening ++ operand :: taken)))
    else .error (.noCondition (Token.join opening))

theorem readGuarded_eq_ok {kind : StatementKind} {opening ts left : List Token} {s : Statement}
    (h : readGuarded kind opening ts = .ok (s, left)) : s.tokens ++ left = opening ++ ts := by
  unfold readGuarded at h
  split at h
  · cases h
  · split at h
    · split at h
      · next hr =>
        cases h
        simp [guarded, reachAfter_eq_complete hr]
      · cases h
    · cases h

/-- The statement that starts with the given token, and the tokens left after it. The words "else
if" announce a condition only where a further token follows them. -/
def read (t : Token) (rest : List Token) : Except Fault (Statement × List Token) :=
  match t.keyword? with
  | none => .ok (literal t, rest)
  | some .ifOpen => readGuarded .ifOpen [t] rest
  | some .elseIf => readGuarded .elseIf [t] rest
  | some .otherwise =>
    match rest with
    | u :: v :: more =>
      if u.keyword? = some .ifOpen then readGuarded .elseIf [t, u] (v :: more)
      else .ok (bare .otherwise t, rest)
    | _ => .ok (bare .otherwise t, rest)
  | some .whereOpen => .ok (bare .whereOpen t, rest)
  | some .setOpen => .ok (bare .setOpen t, rest)
  | some .close => .ok (bare .close t, rest)

theorem read_eq_ok {t : Token} {rest left : List Token} {s : Statement}
    (h : read t rest = .ok (s, left)) : s.tokens ++ left = t :: rest := by
  unfold read at h
  split at h
  · cases h; rfl
  · simpa using readGuarded_eq_ok h
  · simpa using readGuarded_eq_ok h
  · split at h
    · split at h
      · simpa using readGuarded_eq_ok h
      · cases h; rfl
    · cases h; rfl
  all_goals cases h; rfl

theorem readGuarded_tokens_ne_nil {kind : StatementKind} {opening ts left : List Token}
    {s : Statement} (h : readGuarded kind opening ts = .ok (s, left)) : s.tokens ≠ [] := by
  unfold readGuarded at h
  split at h
  · cases h
  · split at h
    · split at h
      · cases h; simp [guarded]
      · cases h
    · cases h

theorem read_tokens_ne_nil {t : Token} {rest left : List Token} {s : Statement}
    (h : read t rest = .ok (s, left)) : s.tokens ≠ [] := by
  unfold read at h
  split at h
  · cases h; simp [literal]
  · exact readGuarded_tokens_ne_nil h
  · exact readGuarded_tokens_ne_nil h
  · split at h
    · split at h
      · exact readGuarded_tokens_ne_nil h
      · cases h; simp [bare]
    · cases h; simp [bare]
  all_goals cases h; simp [bare]

theorem length_le_of_read {t : Token} {rest left : List Token} {s : Statement}
    (h : read t rest = .ok (s, left)) : left.length ≤ rest.length := by
  have tokens := congrArg List.length (read_eq_ok h)
  have taken := List.length_pos_iff.2 (read_tokens_ne_nil h)
  simp only [List.length_append, List.length_cons] at tokens
  omega

def ofTokens : List Token → Except Fault (List Statement)
  | [] => .ok []
  | t :: rest =>
    match h : read t rest with
    | .error fault => .error fault
    | .ok (s, left) =>
      have : left.length ≤ rest.length := length_le_of_read h
      (ofTokens left).map (s :: ·)
termination_by ts => ts.length

end Statement

end QueryTemplate
