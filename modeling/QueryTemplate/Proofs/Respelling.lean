import Mathlib
import QueryTemplate.Proofs.Grouping
import QueryTemplate.Proofs.Likeness

/-!
Tokens that are spelled in another way. Grouping and checking look at the kinds of tokens, at which
of them are arrays and at disjunctions, but at no other text. So tokens can be exchanged for others
that agree in these, and the keyword "elseif" for the two keywords "else if": every statement stays
what it was, only its keywords may be others.
-/

namespace QueryTemplate

namespace Token

/-- One token stands for the other wherever tokens are grouped and types are checked. -/
structure Alike (t u : Token) : Prop where
  kind : t.kind = u.kind
  isArray : t.isArray = u.isArray
  isDisjunction : t.isDisjunction = u.isDisjunction

theorem Alike.refl (t : Token) : t.Alike t :=
  ⟨rfl, rfl, rfl⟩

/-- Token for token the second list is related to the first one, but for an "elseif" of the first
there may be the two words "else if" in the second. -/
inductive Respelled (R : Token → Token → Prop) : List Token → List Token → Prop
  | nil : Respelled R [] []
  | keep {t u : Token} {ts us : List Token} (same : R t u) (others : Respelled R ts us) :
      Respelled R (t :: ts) (u :: us)
  | divide {t u v : Token} {ts us : List Token} (whole : t.keyword? = some .elseIf)
      (first : u.keyword? = some .otherwise) (second : v.keyword? = some .ifOpen)
      (others : Respelled R ts us) : Respelled R (t :: ts) (u :: v :: us)

variable {R : Token → Token → Prop} {t u : Token} {ts us : List Token}

theorem respelled_of_forall₂ (h : List.Forall₂ R ts us) : Respelled R ts us := by
  induction h with
  | nil => exact .nil
  | cons same _ ih => exact .keep same ih

theorem Respelled.ne_nil (h : Respelled R ts us) (nonempty : ts ≠ []) : us ≠ [] := by
  cases h with
  | nil => exact nonempty
  | keep | divide => simp

theorem keyword?_congr (kind : t.kind = u.kind) : t.keyword? = u.keyword? := by
  rw [keyword?, keyword?, kind]

theorem isOperand_congr (kind : t.kind = u.kind) : t.isOperand = u.isOperand := by
  rw [isOperand, isOperand, kind]

theorem type?_congr (kind : t.kind = u.kind) : t.type? = u.type? := by
  rw [type?, type?, kind]

end Token

namespace Statement

open Token

/-- What an operator goes on with after an operand. -/
def Continues (compared : Bool) (operator : Token) : Prop :=
  operator.kind = .logical ∨ (operator.kind = .comparison ∧ compared = false)

theorem Continues.keyword? {compared : Bool} {operator : Token}
    (h : Continues compared operator) : operator.keyword? = none := by
  rcases h with kind | ⟨kind, -⟩ <;> rw [Token.keyword?, kind]

theorem continues_congr {compared : Bool} {t u : Token} (kind : t.kind = u.kind) :
    Continues compared t ↔ Continues compared u := by
  rw [Continues, Continues, kind]

section Equations

variable {compared : Bool} {operator operand : Token} {rest : List Token}

theorem reachAfter_of_not_continues (stops : ¬ Continues compared operator) :
    reachAfter compared (operator :: rest) = .complete [] (operator :: rest) := by
  rw [reachAfter.eq_def]
  exact if_neg stops

theorem reachAfter_last (continues : Continues compared operator) :
    reachAfter compared [operator] = .dangling [operator] := by
  rw [reachAfter.eq_def]
  exact if_pos continues

theorem reachAfter_stuck (continues : Continues compared operator)
    (other : operand.isOperand = false) :
    reachAfter compared (operator :: operand :: rest) = .dangling [operator] := by
  rw [reachAfter.eq_def]
  refine (if_pos continues).trans (if_neg ?_)
  simp [other]

theorem reachAfter_operand (continues : Continues compared operator)
    (isOperand : operand.isOperand = true) :
    reachAfter compared (operator :: operand :: rest) =
      (reachAfter (operator.kind = .comparison) rest).after operator operand := by
  rw [reachAfter.eq_def]
  exact (if_pos continues).trans (if_pos isOperand)

end Equations

/-! ## Conditions -/

/-- Two conditions reach equally far, over related tokens. None of these are keywords. -/
inductive Reach.Like (R : Token → Token → Prop) : Reach → Reach → Prop
  | complete {taken taken' left left' : List Token} (free : ∀ t ∈ taken, t.keyword? = none)
      (same : List.Forall₂ R taken taken') (others : Respelled R left left') :
      Like R (.complete taken left) (.complete taken' left')
  | dangling (taken taken' : List Token) : Like R (.dangling taken) (.dangling taken')

variable {R : Token → Token → Prop}

theorem Reach.Like.after {r r' : Reach} (h : r.Like R r')
    {operator operator' operand operand' : Token}
    (free : operator.keyword? = none) (operators : R operator operator')
    (isOperand : operand.isOperand = true) (operands : R operand operand') :
    (r.after operator operand).Like R (r'.after operator' operand') := by
  cases h with
  | complete others same left =>
    refine .complete ?_ (.cons operators (.cons operands same)) left
    exact List.forall_mem_cons.2
      ⟨free, List.forall_mem_cons.2 ⟨keyword?_of_isOperand isOperand, others⟩⟩
  | dangling => exact .dangling _ _

section Grouping

variable (alike : ∀ t u, R t u → t.Alike u)
include alike

theorem reachAfter_respelled {compared : Bool} {ts us : List Token} (h : Respelled R ts us) :
    (reachAfter compared ts).Like R (reachAfter compared us) := by
  cases h with
  | nil =>
    rw [reachAfter]
    exact .complete (by simp) .nil .nil
  | divide whole first second others =>
    have stops {t : Token} {word : Keyword} (keyword : t.keyword? = some word) :
        ¬ Continues compared t := by
      intro continues
      rw [continues.keyword?] at keyword
      cases keyword
    rw [reachAfter_of_not_continues (stops whole), reachAfter_of_not_continues (stops first)]
    exact .complete (by simp) .nil (.divide whole first second others)
  | @keep t u _ _ same others =>
    by_cases continues : Continues compared t
    · have continues' : Continues compared u := (continues_congr (alike _ _ same).kind).1 continues
      cases others with
      | nil =>
        rw [reachAfter_last continues, reachAfter_last continues']
        exact .dangling _ _
      | divide whole first second more =>
        rw [reachAfter_stuck continues (by rw [isOperand, kind_of_keyword? whole]),
          reachAfter_stuck continues' (by rw [isOperand, kind_of_keyword? first])]
        exact .dangling _ _
      | @keep operand _ _ _ same' more =>
        have operands := isOperand_congr (alike _ _ same').kind
        cases isOperand : operand.isOperand with
        | false =>
          rw [reachAfter_stuck continues isOperand,
            reachAfter_stuck continues' (operands ▸ isOperand)]
          exact .dangling _ _
        | true =>
          rw [reachAfter_operand continues isOperand,
            reachAfter_operand continues' (operands ▸ isOperand), ← (alike _ _ same).kind]
          exact (reachAfter_respelled more).after continues.keyword? same isOperand same'
    · have stops : ¬ Continues compared u := by
        rwa [← continues_congr (alike _ _ same).kind]
      rw [reachAfter_of_not_continues continues, reachAfter_of_not_continues stops]
      exact .complete (by simp) .nil (.keep same others)

end Grouping

/-! ## Statements -/

structure Announcing (opening : List Token) : Prop where
  nonempty : opening ≠ []
  keywords : ∀ t ∈ opening, t.keyword?.isSome

theorem announcing_one {t : Token} {word : Keyword} (keyword : t.keyword? = some word) :
    Announcing [t] :=
  ⟨by simp, by simp [keyword]⟩

theorem announcing_two {t u : Token} {word word' : Keyword} (keyword : t.keyword? = some word)
    (keyword' : u.keyword? = some word') : Announcing [t, u] :=
  ⟨by simp, by simp [keyword, keyword']⟩

/-- Statements of one shape over related tokens. Their keywords may be any. -/
inductive Over (R : Token → Token → Prop) : Statement → Statement → Prop
  | literal {t u : Token} (other : t.keyword? = none) (same : R t u) :
      Over R (literal t) (literal u)
  | bare {kind : StatementKind} {t u : Token}
      (alone : kind ≠ .literal ∧ kind ≠ .ifOpen ∧ kind ≠ .elseIf)
      (keyword : t.keyword?.isSome) (keyword' : u.keyword?.isSome) :
      Over R (bare kind t) (bare kind u)
  | guarded {kind : StatementKind} {opening opening' body body' : List Token}
      (announces : kind = .ifOpen ∨ kind = .elseIf) (words : Announcing opening)
      (words' : Announcing opening') (free : ∀ t ∈ body, t.keyword? = none)
      (same : List.Forall₂ R body body') :
      Over R (guarded kind opening body) (guarded kind opening' body')

/-- Statements over related tokens, in front of tokens of which some may be respelled. -/
def OverThen (R : Token → Token → Prop) (r r' : Statement × List Token) : Prop :=
  Over R r.1 r'.1 ∧ Respelled R r.2 r'.2

theorem read_elseIf {t u : Token} {rest : List Token} (first : t.keyword? = some .otherwise)
    (second : u.keyword? = some .ifOpen) (nonempty : rest ≠ []) :
    read t (u :: rest) = readGuarded .elseIf [t, u] rest := by
  cases rest with
  | nil => exact absurd rfl nonempty
  | cons v more =>
    unfold read
    simp only [first]
    exact if_pos second

theorem read_otherwise {t : Token} {rest : List Token} (first : t.keyword? = some .otherwise)
    (other : ∀ u v more, rest = u :: v :: more → u.keyword? ≠ some .ifOpen) :
    read t rest = .ok (bare .otherwise t, rest) := by
  unfold read
  simp only [first]
  match rest with
  | [] | [_] => rfl
  | u :: v :: more => exact if_neg (other u v more rfl)

theorem ofTokens_eq_bind (t : Token) (rest : List Token) :
    ofTokens (t :: rest) =
      read t rest >>= fun (s, left) => (ofTokens left).map (s :: ·) := by
  cases found : read t rest with
  | ok r => exact ofTokens_cons found
  | error f =>
    rw [ofTokens]
    split
    · next failed =>
      rw [found] at failed
      cases failed
      rfl
    · next succeeded =>
      rw [found] at succeeded
      cases succeeded

/-- A word that announces a condition cannot be the last one. -/
theorem ofTokens_last {t : Token}
    (word : t.keyword? = some .ifOpen ∨ t.keyword? = some .elseIf) :
    ∃ f, ofTokens [t] = .error f := by
  rw [ofTokens_eq_bind]
  rcases word with word | word <;> simp only [read, word, readGuarded] <;> exact ⟨_, rfl⟩

/-- With nothing behind them the words are read one by one, the second without a condition. -/
theorem ofTokens_last_two {t u : Token} (first : t.keyword? = some .otherwise)
    (second : u.keyword? = some .ifOpen) : ∃ f, ofTokens [t, u] = .error f := by
  obtain ⟨f, failed⟩ := ofTokens_last (.inl second)
  rw [ofTokens_cons (read_otherwise first (by rintro _ _ _ ⟨⟩)), failed]
  exact ⟨f, rfl⟩

section Grouping

variable (alike : ∀ t u, R t u → t.Alike u)
include alike

theorem readGuarded_respelled {kind : StatementKind} (announces : kind = .ifOpen ∨ kind = .elseIf)
    {opening opening' ts us : List Token} (words : Announcing opening)
    (words' : Announcing opening') (h : Respelled R ts us) :
    Agree (OverThen R) (readGuarded kind opening ts) (readGuarded kind opening' us) := by
  match h with
  | .nil => exact .error _ _
  | .divide whole first second others =>
    rw [readGuarded, readGuarded, if_neg (by simp [isOperand, kind_of_keyword? whole]),
      if_neg (by simp [isOperand, kind_of_keyword? first])]
    exact .error _ _
  | @Respelled.keep _ t _ ts us same others =>
    rw [readGuarded, readGuarded, ← isOperand_congr (alike _ _ same).kind]
    by_cases operand : t.isOperand = true
    · rw [if_pos operand, if_pos operand]
      have reaches : (reachAfter false ts).Like R (reachAfter false us) :=
        reachAfter_respelled alike others
      generalize reachAfter false ts = r, reachAfter false us = r' at reaches ⊢
      cases reaches with
      | complete free taken left =>
        refine .ok ⟨.guarded announces words words' ?_ (.cons same taken), left⟩
        exact List.forall_mem_cons.2 ⟨keyword?_of_isOperand operand, free⟩
      | dangling => exact .error _ _
    · rw [if_neg operand, if_neg operand]
      exact .error _ _

/-- The word "else" looks at the two tokens behind it. -/
theorem read_otherwise_respelled {t u : Token} {ts us : List Token}
    (keyword : t.keyword? = some .otherwise) (keyword' : u.keyword? = some .otherwise)
    (h : Respelled R ts us) : Agree (OverThen R) (read t ts) (read u us) := by
  have alone : Over R (bare .otherwise t) (bare .otherwise u) :=
    .bare (by decide) (by simp [keyword]) (by simp [keyword'])
  match h with
  | .nil =>
    rw [read_otherwise keyword (by simp), read_otherwise keyword' (by simp)]
    exact .ok ⟨alone, .nil⟩
  | .divide whole first second others =>
    rw [read_otherwise keyword (by rintro _ _ _ ⟨⟩; simp [whole]),
      read_otherwise keyword' (by rintro _ _ _ ⟨⟩; simp [first])]
    exact .ok ⟨alone, .divide whole first second others⟩
  | @Respelled.keep _ v w ts us same others =>
    have words := keyword?_congr (alike _ _ same).kind
    by_cases goesOn : v.keyword? = some .ifOpen ∧ ts ≠ []
    · obtain ⟨second, nonempty⟩ := goesOn
      have second' : w.keyword? = some .ifOpen := words ▸ second
      rw [read_elseIf keyword second nonempty,
        read_elseIf keyword' second' (others.ne_nil nonempty)]
      exact readGuarded_respelled alike (.inr rfl) (announcing_two keyword second)
        (announcing_two keyword' second') others
    · have ends : ∀ x y more, v :: ts = x :: y :: more → x.keyword? ≠ some .ifOpen := by
        rintro x y more ⟨⟩ second
        exact goesOn ⟨second, by simp⟩
      have ends' : ∀ x y more, w :: us = x :: y :: more → x.keyword? ≠ some .ifOpen := by
        rintro x y more ⟨⟩ second
        refine goesOn ⟨words.trans second, ?_⟩
        rintro rfl
        cases others
      rw [read_otherwise keyword ends, read_otherwise keyword' ends']
      exact .ok ⟨alone, .keep same others⟩

theorem read_respelled {t u : Token} {ts us : List Token} (same : R t u) (h : Respelled R ts us) :
    Agree (OverThen R) (read t ts) (read u us) := by
  have words := keyword?_congr (alike _ _ same).kind
  cases word : t.keyword? with
  | none =>
    have word' : u.keyword? = none := words ▸ word
    simp only [read, word, word']
    exact .ok ⟨.literal word same, h⟩
  | some keyword =>
    have word' : u.keyword? = some keyword := words ▸ word
    cases keyword with
    | otherwise => exact read_otherwise_respelled alike word word' h
    | ifOpen =>
      simp only [read, word, word']
      exact readGuarded_respelled alike (.inl rfl) (announcing_one word) (announcing_one word') h
    | elseIf =>
      simp only [read, word, word']
      exact readGuarded_respelled alike (.inr rfl) (announcing_one word) (announcing_one word') h
    | whereOpen | setOpen | close =>
      simp only [read, word, word']
      exact .ok ⟨.bare (by decide) (by simp [word]) (by simp [word']), h⟩

/-- A condition has to follow the word "elseif", and the words "else if" as well. -/
theorem read_divided {t u v : Token} (whole : t.keyword? = some .elseIf)
    (first : u.keyword? = some .otherwise) (second : v.keyword? = some .ifOpen)
    {ts us : List Token} (nonempty : ts ≠ []) (h : Respelled R ts us) :
    Agree (OverThen R) (read t ts) (read u (v :: us)) := by
  rw [read_elseIf first second (h.ne_nil nonempty)]
  simp only [read, whole]
  exact readGuarded_respelled alike (.inr rfl) (announcing_one whole)
    (announcing_two first second) h

/-- Respelled tokens form the same statements, over related tokens. -/
theorem ofTokens_respelled {ts us : List Token} (h : Respelled R ts us) :
    Agree (List.Forall₂ (Over R)) (ofTokens ts) (ofTokens us) := by
  -- One statement is read on both sides, and what is left of the first tokens is shorter.
  cases h with
  | nil =>
    rw [ofTokens]
    exact .ok .nil
  | @keep _ _ ts _ same others =>
    rw [ofTokens_eq_bind, ofTokens_eq_bind]
    refine (read_respelled alike same others).bind fun r r' found both => ?_
    obtain ⟨alike', more⟩ := both
    have : r.2.length ≤ ts.length := length_le_of_read found
    exact (ofTokens_respelled more).map fun _ _ => .cons alike'
  | @divide _ _ _ ts _ whole first second others =>
    by_cases last : ts = []
    · subst last
      cases others
      obtain ⟨f, failed⟩ := ofTokens_last (.inr whole)
      obtain ⟨g, failed'⟩ := ofTokens_last_two first second
      rw [failed, failed']
      exact .error f g
    · rw [ofTokens_eq_bind, ofTokens_eq_bind]
      refine (read_divided alike whole first second last others).bind fun r r' found both => ?_
      obtain ⟨alike', more⟩ := both
      have : r.2.length ≤ ts.length := length_le_of_read found
      exact (ofTokens_respelled more).map fun _ _ => .cons alike'
termination_by ts.length

end Grouping

end Statement

/-! ## Types -/

namespace Condition

open Token

theorem comparable_congr {t t' u u' v v' : Token} (left : t.Alike t') (operator : u.Alike u')
    (right : v.Alike v') : comparable t u v = comparable t' u' v' := by
  rw [comparable, comparable, left.kind, operator.kind, right.kind, left.isArray, right.isArray,
    type?_congr left.kind, type?_congr right.kind]

/-- Tokens of these kinds are right wherever they stand. -/
def Passes : TokenKind → Prop
  | .keyword _ | .boolean | .logical | .param .bool => True
  | .comparison | .integer | .quoted | .nil | .param _ => False

theorem checkTokens_passes {whole rest : List Token} {t : Token} (passes : Passes t.kind) :
    checkTokens whole (t :: rest) = checkTokens whole rest := by
  rw [checkTokens.eq_def]
  unfold Passes at passes
  split at passes <;> simp_all

theorem checkTokens_comparison {whole rest : List Token} {t : Token} (kind : t.kind = .comparison) :
    checkTokens whole (t :: rest) = .error (.unexpectedComparison t.text (join whole)) := by
  rw [checkTokens.eq_def]
  simp only [kind]

section Operand

variable {whole : List Token} {t : Token} (other : ¬ Passes t.kind) (operand : t.kind ≠ .comparison)
include other operand

theorem checkTokens_one : checkTokens whole [t] = .ok () := by
  rw [checkTokens.eq_def]
  unfold Passes at other
  split at other <;> simp_all

theorem checkTokens_two (last : Token) :
    checkTokens whole [t, last] = checkTokens whole [last] := by
  rw [checkTokens.eq_def]
  unfold Passes at other
  split at other <;> simp_all

theorem checkTokens_three (operator right : Token) (more : List Token) :
    checkTokens whole (t :: operator :: right :: more) =
      if comparable t operator right then checkTokens whole more
      else .error (.mismatch (join [t, operator, right]) (join whole)) := by
  rw [checkTokens.eq_def]
  unfold Passes at other
  split at other <;> simp_all

end Operand

/-- Whether the types fit is a matter of the kinds of the tokens and of which ones are arrays. -/
theorem checkTokens_alike (whole whole' : List Token) {ts us : List Token}
    (h : List.Forall₂ Token.Alike ts us) :
    Agree Eq (checkTokens whole ts) (checkTokens whole' us) := by
  match h with
  | .nil =>
    rw [checkTokens, checkTokens]
    exact .ok rfl
  | .cons (a := t) (b := u) first others =>
    by_cases passes : Passes t.kind
    · rw [checkTokens_passes passes, checkTokens_passes (first.kind ▸ passes)]
      exact checkTokens_alike whole whole' others
    by_cases comparison : t.kind = .comparison
    · rw [checkTokens_comparison comparison, checkTokens_comparison (first.kind ▸ comparison)]
      exact .error _ _
    have passes' : ¬ Passes u.kind := first.kind ▸ passes
    have comparison' : u.kind ≠ .comparison := first.kind ▸ comparison
    match others with
    | .nil =>
      rw [checkTokens_one passes comparison, checkTokens_one passes' comparison']
      exact .ok rfl
    | .cons last .nil =>
      rw [checkTokens_two passes comparison, checkTokens_two passes' comparison']
      exact checkTokens_alike whole whole' (.cons last .nil)
    | .cons operator (.cons right more) =>
      rw [checkTokens_three passes comparison, checkTokens_three passes' comparison',
        ← comparable_congr first operator right]
      split
      · exact checkTokens_alike whole whole' more
      · exact .error _ _

theorem checkTokens_keywords {whole words : List Token} (keywords : ∀ t ∈ words, t.keyword?.isSome)
    (rest : List Token) : checkTokens whole (words ++ rest) = checkTokens whole rest := by
  induction words with
  | nil => rfl
  | cons t words ih =>
    rw [List.forall_mem_cons] at keywords
    obtain ⟨word, keyword⟩ := Option.isSome_iff_exists.1 keywords.1
    rw [List.cons_append, checkTokens_passes (by simp [Passes, kind_of_keyword? keyword]),
      ih keywords.2]

end Condition

/-! ## Templates -/

namespace Statement

open Token

/-- The check starts behind the first keyword, and passes over a second one. -/
theorem checkTypes_announcing {opening : List Token} (words : Announcing opening)
    (body : List Token) :
    Condition.checkTypes (opening ++ body) = Condition.checkTokens (opening ++ body) body := by
  obtain ⟨nonempty, keywords⟩ := words
  cases opening with
  | nil => exact absurd rfl nonempty
  | cons t opening =>
    rw [List.forall_mem_cons] at keywords
    exact Condition.checkTokens_keywords keywords.2 body

theorem Over.like {R : Token → Token → Prop} (alike : ∀ t u, R t u → t.Alike u)
    {P : String → String → Prop} {Q : Condition → Condition → Prop}
    (pieces : ∀ t u, t.keyword? = none → R t u → P t.text u.text)
    (conditions : ∀ opening opening' body body', Announcing opening → Announcing opening' →
      (∀ t ∈ body, t.keyword? = none) → List.Forall₂ R body body' →
      Q ⟨join body, opening ++ body⟩ ⟨join body', opening' ++ body'⟩)
    {s s' : Statement} (h : Over R s s') : s.Like P Q s' := by
  cases h with
  | literal other same =>
    exact ⟨rfl, fun _ => pieces _ _ other same, by simp [Statement.literal],
      by simp [Statement.literal]⟩
  | bare alone =>
    obtain ⟨notLiteral, notIf, notElseIf⟩ := alone
    exact ⟨rfl, fun literal => absurd literal notLiteral,
      fun announces => (announces.elim notIf notElseIf).elim,
      fun announces => (announces.elim notIf notElseIf).elim⟩
  | guarded announces words words' free same =>
    refine ⟨rfl, fun literal => ?_, fun _ => conditions _ _ _ _ words words' free same, fun _ => ?_⟩
    · rcases announces with rfl | rfl <;> cases literal
    · show Condition.checkTypes (_ ++ _) = .ok () ↔ Condition.checkTypes (_ ++ _) = .ok ()
      rw [checkTypes_announcing words, checkTypes_announcing words']
      exact (Condition.checkTokens_alike _ _ (same.imp alike)).eq_ok_iff

end Statement

namespace Condition

open Token

theorem isDisjunction_keyword {t : Token} (keyword : t.keyword?.isSome) :
    t.isDisjunction = false := by
  obtain ⟨word, keyword⟩ := Option.isSome_iff_exists.1 keyword
  rw [isDisjunction, kind_of_keyword? keyword]
  rfl

theorem any_isDisjunction_opening {opening : List Token} (words : Statement.Announcing opening)
    (body : List Token) : (opening ++ body).any isDisjunction = body.any isDisjunction := by
  have none : opening.any isDisjunction = false :=
    List.any_eq_false.2 fun t ht => by simp [isDisjunction_keyword (words.keywords t ht)]
  rw [List.any_append, none, Bool.false_or]

theorem any_isDisjunction_alike {ts us : List Token} (h : List.Forall₂ Token.Alike ts us) :
    ts.any isDisjunction = us.any isDisjunction := by
  induction h with
  | nil => rfl
  | cons first _ ih => rw [List.any_cons, List.any_cons, first.isDisjunction, ih]

theorem join_eq_of_texts {R : Token → Token → Prop}
    (texts : ∀ t u, t.keyword? = none → R t u → t.text = u.text) {ts us : List Token}
    (free : ∀ t ∈ ts, t.keyword? = none) (same : List.Forall₂ R ts us) : join ts = join us := by
  have each : ts.map Token.text = us.map Token.text := by
    induction same with
    | nil => rfl
    | cons first _ ih =>
      rw [List.forall_mem_cons] at free
      rw [List.map_cons, List.map_cons, texts _ _ free.1 first, ih free.2]
  rw [join, join, each]

/-- Neither keyword of a condition gets into a guard. -/
theorem same_of_texts {R : Token → Token → Prop} (alike : ∀ t u, R t u → t.Alike u)
    (texts : ∀ t u, t.keyword? = none → R t u → t.text = u.text)
    {opening opening' body body' : List Token} (words : Statement.Announcing opening)
    (words' : Statement.Announcing opening') (free : ∀ t ∈ body, t.keyword? = none)
    (same : List.Forall₂ R body body') :
    Same ⟨join body, opening ++ body⟩ ⟨join body', opening' ++ body'⟩ := by
  have joined : join body = join body' := join_eq_of_texts texts free same
  refine ⟨joined, ?_⟩
  rw [conjunct, conjunct, any_isDisjunction_opening words, any_isDisjunction_opening words',
    any_isDisjunction_alike (same.imp alike), joined]

end Condition

namespace Compiled

open Token

/-- What a template with the given tokens comes to. -/
def ofTokens (ts : List Token) : Except Fault Compiled := do
  ofStatements (← Statement.ofTokens ts)

theorem compile_eq_bind (params : List Param) (template : String) :
    compile params template = (Token.ofText params template >>= ofTokens) :=
  rfl

section Respelled

variable {R : Token → Token → Prop} (alike : ∀ t u, R t u → t.Alike u) {ts us : List Token}
include alike

/-- Respelled tokens are accepted together. -/
theorem agree_respelled (h : Respelled R ts us) :
    Agree (fun _ _ => True) (ofTokens ts) (ofTokens us) := by
  refine (Statement.ofTokens_respelled alike h).bind fun ss tt _ statements => ?_
  have likes := statements.imp fun _ _ like =>
    like.like alike (P := fun _ _ => True) (Q := fun _ _ => True) (by simp) (by simp)
  rw [ofStatements_eq, ofStatements_eq]
  exact (Node.agree_ofStatements likes).map fun _ _ _ => trivial

/-- If no text differs but those of keywords, the templates come to the same. -/
theorem same_respelled (texts : ∀ t u, t.keyword? = none → R t u → t.text = u.text)
    (h : Respelled R ts us) : Agree Same (ofTokens ts) (ofTokens us) :=
  (Statement.ofTokens_respelled alike h).bind fun _ _ _ statements =>
    agree_ofStatements (statements.imp fun _ _ like =>
      like.like alike texts fun _ _ _ _ => Condition.same_of_texts alike texts)

end Respelled

/-- Tokens in which words "elseif" are divided into the words "else if", as many and wherever they
are, form a template just when the others do. Then their clauses and lines are the same. -/
theorem same_divided {fs gs : List Token} (divided : Respelled Eq fs gs) :
    Agree Same (ofTokens fs) (ofTokens gs) :=
  same_respelled (R := Eq) (fun _ _ same => same ▸ Alike.refl _) (fun _ _ _ => congrArg text)
    divided

/-- The tokens of `if true "a" … false "b" … true "c" end`, with keywords for the dots. -/
def threeArms (second third : List Keyword) : List Token :=
  let word (k : Keyword) : Token := { kind := .keyword k, text := k.name }
  [word .ifOpen, { kind := .boolean, text := "true" }, { kind := .quoted, text := "\"a\"" }] ++
    second.map word ++
    [{ kind := .boolean, text := "false" }, { kind := .quoted, text := "\"b\"" }] ++
    third.map word ++
    [{ kind := .boolean, text := "true" }, { kind := .quoted, text := "\"c\"" }, word .close]

/-- Both arms are divided, and both templates compile. -/
theorem same_threeArms : ∃ c d, ofTokens (threeArms [.elseIf] [.elseIf]) = .ok c ∧
    ofTokens (threeArms [.otherwise, .ifOpen] [.otherwise, .ifOpen]) = .ok d ∧ c.Same d := by
  have compiles : (ofTokens (threeArms [.otherwise, .ifOpen] [.otherwise, .ifOpen])).map
      (fun _ => ()) = .ok () := by cbv
  obtain ⟨d, h, -⟩ := except_map_eq_ok.1 compiles
  have divided : Respelled Eq (threeArms [.elseIf] [.elseIf])
      (threeArms [.otherwise, .ifOpen] [.otherwise, .ifOpen]) :=
    .keep rfl <| .keep rfl <| .keep rfl <| .divide rfl rfl rfl <| .keep rfl <| .keep rfl <|
      .divide rfl rfl rfl <| .keep rfl <| .keep rfl <| .keep rfl .nil
  obtain ⟨c, h', same⟩ := (h ▸ same_divided divided).of_ok
  exact ⟨c, d, h', h, same⟩

end Compiled

end QueryTemplate
