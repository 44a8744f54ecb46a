import QueryTemplate.Proofs.Grouping
import QueryTemplate.Proofs.Terms

/-!
What the tokens of a template are grouped into. No token is lost, taken twice or moved: the
statements have the tokens of the template one after the other. Each of them is a word of the query,
a keyword, or the keywords in front of a condition together with the condition.
-/

namespace QueryTemplate

/-- The statement that a keyword is by itself. -/
def Keyword.alone? : Keyword → Option StatementKind
  | otherwise => some .otherwise
  | whereOpen => some .whereOpen
  | setOpen => some .setOpen
  | close => some .close
  | ifOpen | elseIf => none

namespace Statement

/-- The words announce the condition of a statement in front of the tokens. An "else" in front of an
"if" does so only where a token follows the two, and is a statement of its own otherwise. -/
inductive Heads : StatementKind → List Token → List Token → Prop
  | ifOpen {t : Token} (word : t.keyword? = some .ifOpen) (ts : List Token) : Heads .ifOpen [t] ts
  | elseIf {t : Token} (word : t.keyword? = some .elseIf) (ts : List Token) : Heads .elseIf [t] ts
  | divided {t u : Token} (first : t.keyword? = some .otherwise)
      (second : u.keyword? = some .ifOpen) {ts : List Token} (further : ts ≠ []) :
      Heads .elseIf [t, u] ts

variable {kind : StatementKind} {t : Token} {words rest ts us left : List Token} {s : Statement}

theorem Heads.congr (h : Heads kind words ts) (nonempty : us ≠ []) : Heads kind words us := by
  cases h with
  | ifOpen word => exact .ifOpen word us
  | elseIf word => exact .elseIf word us
  | divided first second => exact .divided first second nonempty

theorem Heads.announces (h : Heads kind words ts) : kind = .ifOpen ∨ kind = .elseIf := by
  cases h with
  | ifOpen => exact .inl rfl
  | elseIf | divided => exact .inr rfl

/-- What reading a statement comes to: a word that is no keyword, a keyword alone, or the words in
front of a condition with the condition. -/
inductive Opened (t : Token) (rest : List Token) : Statement × List Token → Prop
  | literal (free : t.keyword? = none) : Opened t rest (literal t, rest)
  | bare {kind : StatementKind} {word : Keyword} (keyword : t.keyword? = some word)
      (alone : word.alone? = some kind) : Opened t rest (bare kind t, rest)
  | guarded {kind : StatementKind} {words ts : List Token} {r : Statement × List Token}
      (heads : Heads kind words ts) (tokens : words ++ ts = t :: rest)
      (reads : readGuarded kind words ts = .ok r) : Opened t rest r

theorem opened_of_read {r : Statement × List Token} (h : read t rest = .ok r) :
    Opened t rest r := by
  unfold read at h
  split at h
  · next free =>
    cases h
    exact .literal free
  · next word => exact .guarded (.ifOpen word rest) rfl h
  · next word => exact .guarded (.elseIf word rest) rfl h
  · next word =>
    split at h
    · next u v more =>
      split at h
      · next second => exact .guarded (.divided word second (List.cons_ne_nil v more)) rfl h
      · cases h
        exact .bare word rfl
    · cases h
      exact .bare word rfl
  all_goals
    next word =>
    cases h
    exact .bare word rfl

/-- What holds of every statement that can be read holds of all statements of a template. -/
theorem forall_of_ofTokens {P : Statement → Prop} {ss : List Statement} (h : ofTokens ts = .ok ss)
    (step : ∀ t rest r, Opened t rest r → P r.1) : ∀ s ∈ ss, P s := by
  fun_induction ofTokens ts generalizing ss with
  | case1 =>
    cases h
    simp
  | case2 => cases h
  | case3 t rest s left found _ ih =>
    obtain ⟨more, others, rfl⟩ := except_map_eq_ok.1 h
    exact List.forall_mem_cons.2 ⟨step t rest _ (opened_of_read found), ih others⟩

/-- What a statement is made of. -/
inductive Composed (s : Statement) : Prop
  | literal {t : Token} (kind : s.kind = .literal) (tokens : s.tokens = [t])
      (free : t.keyword? = none) (content : s.content = t.text)
  | bare {t : Token} {word : Keyword} (alone : word.alone? = some s.kind) (tokens : s.tokens = [t])
      (keyword : t.keyword? = some word) (content : s.content = "")
  | guarded {words condition more : List Token} {x : Token} (heads : Heads s.kind words condition)
      (tokens : s.tokens = words ++ condition) (starts : condition = x :: more)
      (operand : x.isOperand = true) (free : ∀ t ∈ condition, t.keyword? = none)
      (content : s.content = Token.join condition)

theorem composed_of_opened {r : Statement × List Token} (h : Opened t rest r) : r.1.Composed := by
  obtain ⟨s, left⟩ := r
  cases h with
  | literal free => exact .literal rfl rfl free rfl
  | bare keyword alone => exact .bare alone rfl keyword rfl
  | guarded heads _ reads =>
    obtain ⟨condition, chained, rfl⟩ := chained_of_readGuarded reads
    obtain ⟨x, more, starts, operand⟩ := Term.exists_cons_of_chained chained
    exact .guarded (heads.congr chained.ne_nil) rfl starts operand chained.keyword? rfl

theorem tokens_ne_nil_of_opened {r : Statement × List Token} (h : Opened t rest r) :
    r.1.tokens ≠ [] := by
  obtain ⟨s, left⟩ := r
  cases h with
  | literal | bare => exact List.cons_ne_nil t []
  | guarded _ _ reads => exact readGuarded_tokens_ne_nil reads

theorem text_of_opened {r : Statement × List Token} (h : Opened t rest r) :
    r.1.text = Token.join r.1.tokens := by
  have single : t.text = Token.join [t] := by simp [Token.join]
  obtain ⟨s, left⟩ := r
  cases h with
  | literal | bare => exact single
  | guarded _ _ reads =>
    obtain ⟨condition, -, rfl⟩ := chained_of_readGuarded reads
    rfl

/-- The statements of a template part its tokens. -/
theorem ofTokens_partition {ts : List Token} {ss : List Statement} (h : ofTokens ts = .ok ss) :
    ss.flatMap tokens = ts ∧
      ∀ s ∈ ss, s.tokens ≠ [] ∧ s.text = Token.join s.tokens ∧ s.Composed := by
  refine ⟨flatMap_tokens h, forall_of_ofTokens h fun _ _ _ opened => ?_⟩
  exact ⟨tokens_ne_nil_of_opened opened, text_of_opened opened, composed_of_opened opened⟩

/-- A word of the query, and an if with a comparison, a branch that is spelled with two words, and
one with none. -/
theorem partition_branches :
    let text (kind : TokenKind) (text : String) : Token := ⟨kind, text, false⟩
    let word (keyword : Keyword) : Token := ⟨.keyword keyword, keyword.name, false⟩
    let ts : List Token := [text (.param .int) "Age", word .ifOpen, text (.param .int) "Age",
      text .comparison ">", text .integer "1", text .quoted "\"a\"", word .otherwise, word .ifOpen,
      text (.param .bool) "Flag", word .otherwise, word .close]
    ∃ ss, ofTokens ts = .ok ss ∧
      ss.map (fun s => (s.kind, s.content)) = [(.literal, "Age"), (.ifOpen, "Age > 1"),
        (.literal, "\"a\""), (.elseIf, "Flag"), (.otherwise, ""), (.close, "")] ∧
      ss.flatMap tokens = ts ∧
      ∀ s ∈ ss, s.tokens ≠ [] ∧ s.text = Token.join s.tokens ∧ s.Composed := by
  intro text word ts
  have grouped : (ofTokens ts).map (fun ss => ss.map fun s => (s.kind, s.content)) =
      .ok [(.literal, "Age"), (.ifOpen, "Age > 1"), (.literal, "\"a\""), (.elseIf, "Flag"),
        (.otherwise, ""), (.close, "")] := by cbv
  obtain ⟨ss, h, contents⟩ := except_map_eq_ok.1 grouped
  exact ⟨ss, h, contents, ofTokens_partition h⟩

end Statement

end QueryTemplate
