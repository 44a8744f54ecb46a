import QueryTemplate.Statement

/-!
Tokens in front of further ones. Grouping takes as much as it can for a condition, so what follows
may change how the last statement ends, but only where it starts with an operator or with the "if"
of an "else if".
-/

namespace QueryTemplate

namespace Token

variable {t : Token}

theorem kind_of_keyword? {word : Keyword} (keyword : t.keyword? = some word) :
    t.kind = .keyword word := by
  unfold keyword? at keyword
  cases kind : t.kind <;> simp_all

theorem keyword?_of_isOperand (operand : t.isOperand = true) : t.keyword? = none := by
  unfold keyword?
  cases kind : t.kind <;> simp_all [isOperand]

end Token

namespace Statement

/-- Tokens that continue no statement in front of them. -/
def Detached (us : List Token) : Prop :=
  ∀ u ∈ us.head?, u.kind ≠ .logical ∧ u.kind ≠ .comparison ∧ u.keyword? ≠ some .ifOpen

theorem detached_keyword {t : Token} {word : Keyword} (kind : t.kind = .keyword word)
    (other : word ≠ .ifOpen) (us : List Token) : Detached (t :: us) := by
  intro u hu
  cases hu
  simp [Token.keyword?, kind, other]

theorem reachAfter_detached {us : List Token} (detached : Detached us) (compared : Bool) :
    reachAfter compared us = .complete [] us := by
  cases us with
  | nil => rw [reachAfter]
  | cons u us =>
    obtain ⟨logical, comparison, -⟩ := detached u rfl
    rw [reachAfter.eq_def]
    simp [logical, comparison]

theorem reachAfter_append {compared : Bool} {ts taken left us : List Token}
    (h : reachAfter compared ts = .complete taken left) (detached : Detached us) :
    reachAfter compared (ts ++ us) = .complete taken (left ++ us) := by
  fun_induction reachAfter compared ts generalizing taken left with
  | case1 compared =>
    cases h
    exact reachAfter_detached detached compared
  | case2 => cases h
  | case3 compared operator continues operand rest isOperand ih =>
    cases further : reachAfter (operator.kind = .comparison) rest with
    | complete taken' left' =>
      rw [further] at h
      cases h
      rw [List.cons_append, List.cons_append, reachAfter.eq_def]
      simp only [if_pos continues, if_pos isOperand]
      rw [ih further]
      rfl
    | dangling =>
      rw [further] at h
      cases h
  | case4 => cases h
  | case5 compared operator rest stops =>
    cases h
    rw [List.cons_append, reachAfter.eq_def]
    simp only [if_neg stops]

theorem readGuarded_append {kind : StatementKind} {opening ts left us : List Token} {s : Statement}
    (h : readGuarded kind opening ts = .ok (s, left)) (detached : Detached us) :
    readGuarded kind opening (ts ++ us) = .ok (s, left ++ us) := by
  cases ts with
  | nil => cases h
  | cons operand rest =>
    rw [readGuarded] at h
    rw [List.cons_append, readGuarded]
    split at h
    · next isOperand =>
      split at h
      · next reaches =>
        cases h
        rw [if_pos isOperand, reachAfter_append reaches detached]
      · cases h
    · cases h

/-- The words "else if" at the end of the tokens are the exception: with a token behind them they
announce a condition. -/
theorem read_append {t : Token} {rest left us : List Token} {s : Statement}
    (h : read t rest = .ok (s, left)) (finished : ∀ u, left = [u] → u.keyword? ≠ some .ifOpen)
    (detached : Detached us) : read t (rest ++ us) = .ok (s, left ++ us) := by
  unfold read at h ⊢
  cases word : t.keyword? with
  | none =>
    rw [word] at h
    cases h
    rfl
  | some word' =>
    rw [word] at h
    cases word' with
    | ifOpen | elseIf => exact readGuarded_append h detached
    | whereOpen | setOpen | close =>
      cases h
      rfl
    | otherwise =>
      simp only at h ⊢
      match rest with
      | [] =>
        cases h
        match us with
        | [] | [u] => rfl
        | u :: v :: us => simp [(detached u rfl).2.2]
      | [u] =>
        cases h
        match us with
        | [] => rfl
        | v :: us => simp [finished u rfl]
      | u :: v :: more =>
        simp only [List.cons_append] at h ⊢
        split at h
        · next second =>
          rw [if_pos second]
          exact readGuarded_append h detached
        · next second =>
          cases h
          rw [if_neg second]
          rfl

theorem ofTokens_cons {t : Token} {rest left : List Token} {s : Statement}
    (h : read t rest = .ok (s, left)) : ofTokens (t :: rest) = (ofTokens left).map (s :: ·) := by
  rw [ofTokens]
  split
  · next failed =>
    rw [h] at failed
    cases failed
  · next found =>
    rw [h] at found
    cases found
    rfl

/-- Grouping is lossless. -/
theorem flatMap_tokens {ts : List Token} {ss : List Statement} (h : ofTokens ts = .ok ss) :
    ss.flatMap tokens = ts := by
  fun_induction ofTokens ts generalizing ss with
  | case1 =>
    cases h
    rfl
  | case2 => cases h
  | case3 t rest s left found _ ih =>
    obtain ⟨more, others, rfl⟩ := except_map_eq_ok.1 h
    rw [List.flatMap_cons, ih others, read_eq_ok found]

/-- An "if" cannot be the last token. -/
theorem ofTokens_ifOpen {u : Token} (word : u.keyword? = some .ifOpen) {ss : List Statement} :
    ofTokens [u] ≠ .ok ss := by
  rw [ofTokens]
  split
  · simp
  · next found =>
    simp [read, word, readGuarded] at found

/-- Tokens that continue no statement are grouped on their own. -/
theorem ofTokens_append {ts us : List Token} {ss : List Statement} (h : ofTokens ts = .ok ss)
    (detached : Detached us) : ofTokens (ts ++ us) = (ofTokens us).map (ss ++ ·) := by
  fun_induction ofTokens ts generalizing ss with
  | case1 =>
    cases h
    cases grouped : ofTokens us <;> simp [grouped, Except.map]
  | case2 => cases h
  | case3 t rest s left found _ ih =>
    obtain ⟨more, others, rfl⟩ := except_map_eq_ok.1 h
    have finished : ∀ u, left = [u] → u.keyword? ≠ some .ifOpen := by
      rintro u rfl word
      exact ofTokens_ifOpen word others
    rw [List.cons_append, ofTokens_cons (read_append found finished detached), ih others]
    cases ofTokens us <;> rfl

end Statement

end QueryTemplate
