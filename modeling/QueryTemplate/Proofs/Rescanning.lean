import Mathlib
import QueryTemplate.Proofs.Announced
import QueryTemplate.Proofs.GuardText
import QueryTemplate.Proofs.Scanning.Texts

/-!
Tokens that are written with blanks between them. They are read as the tokens they were, whatever
stood between them in the template and whatever the parameters are called. The one exception is a
mark at the very end, which the template had something behind: read again, it is half an operator.
-/

namespace QueryTemplate

namespace Token

variable {params : List Param} {t : Token} {l : Lexeme}

def marks : List String :=
  [">", "<", "=", "!"]

/-- The last token, if there is one, is no single mark. -/
def isFinished (ts : List Token) : Bool :=
  ts.getLast?.all fun t => t.text ∉ marks

/-- The token is what a lexeme with its text is classified as. -/
def Scanned (params : List Param) (t : Token) : Prop :=
  ∃ l : Lexeme, l.Formed ∧ l.text = t.text.toList ∧ ofLexeme params l = .ok [t]

theorem scanned_ofText {template : String} {ts : List Token}
    (h : ofText params template = .ok ts) : ∀ t ∈ ts, t.Scanned params := by
  have formed : ∀ l ∈ Lexeme.ofText template, l.Formed := Lexeme.formed_scan (by simp) _
  refine forall_mem_ofLexemes ?_ h
  intro l hl us classified t ht
  rcases ofLexeme_eq_ok classified with ⟨-, rfl⟩ | ⟨u, rfl, text⟩
  · simp at ht
  · cases List.mem_singleton.1 ht
    exact ⟨l, formed l hl, text.symm, classified⟩

theorem mem_marks {text : String} :
    text ∈ marks ↔ ∃ c, text = String.ofList [c] ∧ Lexeme.isOperatorMark c = true := by
  constructor
  · intro single
    simp only [marks, List.mem_cons, List.not_mem_nil, or_false] at single
    rcases single with rfl | rfl | rfl | rfl <;> exact ⟨_, rfl, rfl⟩
  · rintro ⟨c, rfl, mark⟩
    simp only [Lexeme.isOperatorMark, Bool.or_eq_true, decide_eq_true_eq] at mark
    rcases mark with ((rfl | rfl) | rfl) | rfl <;> decide

theorem text_ne_nil (formed : l.Formed) (h : ofLexeme params l = .ok [t]) : l.text ≠ [] := by
  cases formed with
  | word nonempty => exact nonempty
  | quoted | mark | markEqual | logical => simp [Lexeme.text]
  | stray | truncated => cases h

/-- A token is read again, if no word goes on behind it and no equals sign follows a mark. -/
theorem Scanned.read (h : t.Scanned params) {rest : List Char} (ends : Lexeme.EndsWord rest)
    (further : t.text ∈ marks → ∃ d ds, rest = d :: ds ∧ d ≠ '=') :
    ofLexemes params (Lexeme.scan [] (t.text.toList ++ rest)) =
      (ofLexemes params (Lexeme.scan [] rest)).map (t :: ·) := by
  obtain ⟨l, formed, text, classified⟩ := h
  have behind : ∀ c, l = .operator [c] → ∃ d ds, rest = d :: ds ∧ d ≠ '=' := by
    rintro c rfl
    cases formed with
    | mark mark =>
      have spelled : t.text.toList = [c] := text.symm
      apply further
      apply mem_marks.2
      exact ⟨c, by rw [← spelled, String.ofList_toList], mark⟩
  have kept : l.text ≠ [] := text_ne_nil formed classified
  rw [← text, Lexeme.scan_text formed kept ends behind, ofLexemes, classified]
  cases ofLexemes params (Lexeme.scan [] rest) <;> rfl

theorem Scanned.ofText (h : t.Scanned params) (other : t.text ∉ marks) :
    ofText params t.text = .ok [t] := by
  have ends : Lexeme.EndsWord [] := fun _ => rfl
  have alone := h.read ends fun mark => absurd mark other
  rw [List.append_nil] at alone
  exact alone

theorem Scanned.ofText_blank (h : t.Scanned params) (text : String) :
    Token.ofText params (t.text ++ " " ++ text) = (Token.ofText params text).map (t :: ·) := by
  have spelled : (t.text ++ " " ++ text).toList = t.text.toList ++ ' ' :: text.toList := by simp
  have first := h.read (Lexeme.endsWord_blank rfl text.toList) fun _ => ⟨' ', _, rfl, by decide⟩
  rw [Token.ofText, Lexeme.ofText, spelled, first, Lexeme.scan_blank rfl]
  rfl

theorem ofText_mark {text : String} (mark : text ∈ marks) :
    ofText params text = .error .truncated := by
  simp only [marks, List.mem_cons, List.not_mem_nil, or_false] at mark
  rcases mark with rfl | rfl | rfl | rfl <;> rfl

/-- Tokens with blanks between them are read one by one. Whether a mark can go on is decided by the
character behind it, so the last one only can be refused. -/
theorem ofText_join_of_scanned {ts : List Token} (scanned : ∀ t ∈ ts, t.Scanned params) :
    ofText params (join ts) = if isFinished ts then .ok ts else .error .truncated := by
  induction ts with
  | nil => rfl
  | cons t ts ih =>
    rw [List.forall_mem_cons] at scanned
    obtain ⟨first, others⟩ := scanned
    rcases ts with _ | ⟨u, us⟩
    · have alone : join [t] = t.text := by simp [join]
      rw [alone]
      by_cases mark : t.text ∈ marks
      · rw [ofText_mark mark, if_neg (by simpa [isFinished] using mark)]
      · rw [first.ofText mark, if_pos (by simpa [isFinished] using mark)]
    · have spaced : join (t :: u :: us) = t.text ++ " " ++ join (u :: us) := by
        rw [← List.singleton_append, join_append (by simp) (by simp)]
        simp [join]
      have last : isFinished (t :: u :: us) = isFinished (u :: us) := by
        rw [isFinished, isFinished, List.getLast?_cons_cons]
      rw [spaced, first.ofText_blank, ih others, last]
      split <;> rfl

/-! ## Conditions -/

/-- An operand that is a mark is the name of a parameter. -/
theorem Scanned.not_mem_marks (h : t.Scanned params) (operand : t.isOperand = true)
    (unnamed : ∀ p ∈ params, p.name ∉ marks) : t.text ∉ marks := by
  intro single
  obtain ⟨c, spelled, mark⟩ := mem_marks.1 single
  obtain ⟨l, formed, text, classified⟩ := h
  rw [spelled, String.toList_ofList] at text
  cases formed with
  | word nonempty plain =>
    cases text
    have other := (plain c (.head _)).2.1
    rw [mark] at other
    cases other
  | @quoted p b plain closes =>
    have quote : '"' ∈ p ++ '"' :: b := List.mem_append_right _ (.head _)
    rw [show p ++ '"' :: b = [c] from text, List.mem_singleton] at quote
    exact (Lexeme.of_isOperatorMark mark).1 quote.symm
  | mark formed =>
    simp only [ofLexeme] at classified
    split at classified
    · cases classified
      cases operand
    · obtain ⟨p, declared, name, -⟩ := reference_eq_ok classified
      exact unnamed p declared (mem_marks.2 ⟨_, name, formed⟩)
  | markEqual | logical | stray | truncated => simp [Lexeme.text] at text

theorem Chained.isOperand_getLast {ts : List Token} (h : Chained ts) :
    ∀ t ∈ ts.getLast?, t.isOperand = true := by
  induction h with
  | atom atomic =>
    cases atomic with
    | bare operand => simpa using operand
    | comparison left compares right => simpa using right
  | @cons ts rest o _ _ others ih =>
    rw [List.append_cons, List.getLast?_append_of_ne_nil _ others.ne_nil]
    exact ih

theorem Chained.isFinished {ts : List Token} (h : Chained ts)
    (scanned : ∀ t ∈ ts, t.Scanned params) (unnamed : ∀ p ∈ params, p.name ∉ marks) :
    isFinished ts = true := by
  unfold Token.isFinished
  cases last : ts.getLast? with
  | none => rfl
  | some t =>
    have operand : t.isOperand = true := h.isOperand_getLast t last
    have mem : t ∈ ts := List.mem_of_getLast? last
    simpa using (scanned t mem).not_mem_marks operand unnamed

/-- The tokens of a template, written with blanks between them, are the tokens that are read again,
unless the last one is a single mark, which nothing follows then. The same holds of the condition
of a statement: its text is read as the tokens behind the keywords, whose types are checked. Only a
parameter that is named by a mark can end a condition with one. -/
theorem ofText_join {template : String} {ts : List Token}
    (h : Token.ofText params template = .ok ts) :
    Token.ofText params (join ts) = (if isFinished ts then .ok ts else .error .truncated) ∧
      ∀ ss, Statement.ofTokens ts = .ok ss → ∀ s ∈ ss, s.Announces →
        Token.ofText params s.content =
            (if isFinished s.condition.body then .ok s.condition.body else .error .truncated) ∧
          ((∀ p ∈ params, p.name ∉ marks) → isFinished s.condition.body = true) := by
  have scanned := scanned_ofText h
  refine ⟨ofText_join_of_scanned scanned, ?_⟩
  intro ss grouped s hs announces
  obtain ⟨chained, text⟩ := Statement.chained_of_ofTokens grouped s hs announces
  have inside : ∀ t ∈ s.condition.body, t.Scanned params := by
    intro t ht
    have mem : t ∈ s.tokens := (List.dropWhile_sublist _).subset ht
    exact scanned t (Statement.mem_of_ofTokens grouped s hs t mem)
  have content : s.content = join s.condition.body := text
  rw [content]
  exact ⟨ofText_join_of_scanned inside, chained.isFinished inside⟩

/-- A template without blanks around its operators, with a stray mark in a word and a word in front
of a quoted text. -/
theorem join_unspaced :
    ∃ ts ss, Token.ofText [⟨"A", .int, false⟩, ⟨"Name", .string, false⟩]
        "if A>=1&&Na&me!=\"a  \\\" b\" Name\"c\"end" = .ok ts ∧
      Statement.ofTokens ts = .ok ss ∧
      Token.ofText [⟨"A", .int, false⟩, ⟨"Name", .string, false⟩]
        "if A >= 1 && Name != \"a  \\\" b\" Name\"c\" end" = .ok ts ∧
      ∃ s ∈ ss, s.content = "A >= 1 && Name != \"a  \\\" b\"" ∧
        Token.ofText [⟨"A", .int, false⟩, ⟨"Name", .string, false⟩] s.content =
          .ok s.condition.body := by
  have computed : (Token.ofText [⟨"A", .int, false⟩, ⟨"Name", .string, false⟩]
      "if A>=1&&Na&me!=\"a  \\\" b\" Name\"c\"end").map (fun ts => (join ts, isFinished ts,
        (Statement.ofTokens ts).map (List.map fun s => (s.kind, s.content)))) =
      .ok ("if A >= 1 && Name != \"a  \\\" b\" Name\"c\" end", true,
        .ok [(.ifOpen, "A >= 1 && Name != \"a  \\\" b\""), (.literal, "Name\"c\""),
          (.close, "")]) := by cbv
  obtain ⟨ts, tokens, values⟩ := except_map_eq_ok.1 computed
  obtain ⟨spaced, closed, statements⟩ : join ts = _ ∧ isFinished ts = _ ∧ _ := by
    simpa only [Prod.mk.injEq] using values
  obtain ⟨ss, grouped, contents⟩ := except_map_eq_ok.1 statements
  obtain ⟨s, others, rfl, first, -⟩ := List.map_eq_cons_iff.1 contents
  obtain ⟨kind, content⟩ := Prod.mk.inj first
  obtain ⟨joined, conditions⟩ := ofText_join tokens
  obtain ⟨again, finished⟩ := conditions _ grouped s (.head _) (.inl kind)
  rw [spaced, closed, if_pos rfl] at joined
  refine ⟨ts, _, tokens, grouped, joined, s, .head _, content, ?_⟩
  rw [again, if_pos (finished (by decide))]

end Token

end QueryTemplate
