import QueryTemplate.Proofs.Scanning
import QueryTemplate.Text.Unicode
import QueryTemplate.Token.OfText

/-!
The texts of tokens. Where all parameters are named by identifiers, a token is a word without
parentheses, an operator, or a quoted text with anything that continues a word in front of it. A
parenthesis in front of the quotes is the only one that the text of a token can have outside of
them.
-/

namespace QueryTemplate

namespace Param

def IsForeign (c : Char) : Prop :=
  0x80 ≤ c.toNat ∧ Text.isAlphanumeric c

/-- The name is an identifier: letters, numerals and underscores, of which the first one is no
ASCII digit. -/
def IsIdentifier (p : Param) : Prop :=
  ∃ c cs, p.name.toList = c :: cs ∧ (c.isAlpha ∨ c = '_' ∨ IsForeign c) ∧
    ∀ d ∈ cs, d.isAlphanum ∨ d = '_' ∨ IsForeign d

/-- What stands for itself in an expression, and in no identifier. -/
def isMark (c : Char) : Bool :=
  c = '(' || c = ')' || Lexeme.isOperatorMark c

theorem isAlphanum_of_isMark {c : Char} (mark : isMark c = true) :
    c.isAlphanum = false ∧ c ≠ '_' ∧ ¬ IsForeign c := by
  have marks : c ∈ ['(', ')', '>', '<', '=', '!'] := by
    simpa [isMark, Lexeme.isOperatorMark, or_assoc] using mark
  have ascii : c.isAlphanum = false ∧ c ≠ '_' ∧ c.toNat < 0x80 := by
    simp only [List.mem_cons, List.not_mem_nil, or_false] at marks
    rcases marks with rfl | rfl | rfl | rfl | rfl | rfl <;> exact ⟨rfl, by decide, by decide⟩
  exact ⟨ascii.1, ascii.2.1, fun foreign => Nat.not_le_of_lt ascii.2.2 foreign.1⟩

theorem IsIdentifier.not_mem_of_isMark {p : Param} (h : p.IsIdentifier) {c : Char}
    (mark : isMark c = true) : c ∉ p.name.toList := by
  obtain ⟨d, cs, name, first, others⟩ := h
  obtain ⟨ascii, underscore, foreign⟩ := isAlphanum_of_isMark mark
  have other (letter : c.isAlphanum ∨ c = '_' ∨ IsForeign c) : False := by
    simp [ascii, underscore, foreign] at letter
  rw [name, List.mem_cons, not_or]
  constructor
  · rintro rfl
    exact other (first.imp_left fun alpha => by simp [Char.isAlphanum, alpha])
  · exact fun hc => other (others c hc)

end Param

namespace Token

/-- What tokens are written as. -/
inductive Formed (t : Token) : Prop
  | word (comparison : t.kind ≠ .comparison) (logical : t.kind ≠ .logical)
      (quoted : t.kind ≠ .quoted) (nonempty : t.text.toList ≠ [])
      (plain : ∀ c ∈ t.text.toList, Lexeme.Plain c) (opening : '(' ∉ t.text.toList)
      (closing : ')' ∉ t.text.toList) : Formed t
  | quoted {p b : List Char} (kind : t.kind = .quoted) (text : t.text.toList = p ++ '"' :: b)
      (plain : ∀ c ∈ p, Lexeme.Plain c) (closes : Lexeme.Closes b) : Formed t
  | comparison (kind : t.kind = .comparison) (compares : TokenKind.isComparison t.text.toList) :
      Formed t
  | logical (kind : t.kind = .logical) (text : t.text = "&&" ∨ t.text = "||") : Formed t

theorem name_of_ofName? {name : String} {word : Keyword} (h : Keyword.ofName? name = some word) :
    name = word.name := by
  unfold Keyword.ofName? at h
  repeat' split at h
  all_goals cases h
  all_goals assumption

/-- A word that no parameter can take is made of digits, or of letters. -/
theorem of_mem_reserved {w : List Char} {kind : TokenKind} {c : Char}
    (h : TokenKind.ofReserved? w = some kind) (hc : c ∈ w) :
    c.isDigit = true ∨ c.toLower.isAlpha = true := by
  have spelled (name : String) (letters : name.toList.all Char.isAlpha = true)
      (same : String.ofList (w.map Char.toLower) = name) : c.toLower.isAlpha = true := by
    apply List.all_eq_true.1 letters
    rw [← same, String.toList_ofList]
    exact List.mem_map_of_mem hc
  unfold TokenKind.ofReserved? at h
  split at h
  · next digits => exact .inl (List.all_eq_true.1 digits.2 c hc)
  simp only at h
  split at h
  · next same => exact .inr (same.elim (spelled _ (by decide)) (spelled _ (by decide)))
  split at h
  · next same => exact .inr (spelled _ (by decide) same)
  · obtain ⟨word, found, -⟩ := Option.map_eq_some_iff.1 h
    exact .inr (spelled word.name (by cases word <;> decide) (name_of_ofName? found))

theorem kind_of_ofReserved? {w : List Char} {kind : TokenKind}
    (h : TokenKind.ofReserved? w = some kind) :
    kind ≠ .comparison ∧ kind ≠ .logical ∧ kind ≠ .quoted := by
  unfold TokenKind.ofReserved? at h
  split at h
  · cases h
    exact ⟨nofun, nofun, nofun⟩
  simp only at h
  split at h
  · cases h
    exact ⟨nofun, nofun, nofun⟩
  split at h
  · cases h
    exact ⟨nofun, nofun, nofun⟩
  · obtain ⟨word, -, rfl⟩ := Option.map_eq_some_iff.1 h
    exact ⟨nofun, nofun, nofun⟩

/-- A word that is the token of a parameter is its name. -/
theorem reference_eq_ok {params : List Param} {text : String} {ts : List Token}
    (h : (reference params text).map ([·]) = .ok ts) :
    ∃ p ∈ params, p.name = text ∧ ts = [⟨.param p.type, text, p.isArray⟩] := by
  obtain ⟨t, referred, rfl⟩ := except_map_eq_ok.1 h
  unfold reference at referred
  split at referred
  · next p found =>
    cases referred
    exact ⟨p, List.mem_of_find?_eq_some found, by simpa using List.find?_some found, rfl⟩
  · cases referred

/-- What the tokens of a lexeme can be. -/
inductive Classified (params : List Param) : Lexeme → List Token → Prop
  | reserved {cs : List Char} {kind : TokenKind} (reserved : TokenKind.ofReserved? cs = some kind) :
      Classified params (.word cs) [⟨kind, String.ofList cs, false⟩]
  | named {cs : List Char} {p : Param} (declared : p ∈ params) (name : p.name = String.ofList cs) :
      Classified params (.word cs) [⟨.param p.type, String.ofList cs, p.isArray⟩]
  | quoted (cs : List Char) :
      Classified params (.quoted cs) [⟨.quoted, String.ofList cs, false⟩]
  | comparison {cs : List Char} (compares : TokenKind.isComparison cs = true) :
      Classified params (.operator cs) [⟨.comparison, String.ofList cs, false⟩]
  | namedOperator {cs : List Char} {p : Param} (declared : p ∈ params)
      (name : p.name = String.ofList cs) :
      Classified params (.operator cs) [⟨.param p.type, String.ofList cs, p.isArray⟩]
  | logical (c : Char) :
      Classified params (.logical c) [⟨.logical, String.ofList [c, c], false⟩]
  | stray (c : Char) : Classified params (.stray c) []

theorem classified {params : List Param} {l : Lexeme} {ts : List Token}
    (h : ofLexeme params l = .ok ts) : Classified params l ts := by
  cases l with
  | word cs =>
    simp only [ofLexeme] at h
    split at h
    · next kind reserved =>
      cases h
      exact .reserved reserved
    · obtain ⟨p, declared, name, rfl⟩ := reference_eq_ok h
      exact .named declared name
  | quoted cs =>
    cases h
    exact .quoted cs
  | operator cs =>
    simp only [ofLexeme] at h
    split at h
    · next compares =>
      cases h
      exact .comparison compares
    · obtain ⟨p, declared, name, rfl⟩ := reference_eq_ok h
      exact .namedOperator declared name
  | logical c =>
    cases h
    exact .logical c
  | stray c =>
    cases h
    exact .stray c
  | truncated => cases h

theorem formed_reference {p : Param} (identifier : p.IsIdentifier)
    (plain : ∀ c ∈ p.name.toList, Lexeme.Plain c) :
    (⟨.param p.type, p.name, p.isArray⟩ : Token).Formed := by
  have opening : '(' ∉ p.name.toList := identifier.not_mem_of_isMark rfl
  have closing : ')' ∉ p.name.toList := identifier.not_mem_of_isMark rfl
  obtain ⟨c, cs, spelled, -⟩ := identifier
  exact .word nofun nofun nofun (by simp [spelled]) plain opening closing

/-- No parameter is named by an operator. -/
theorem formed_operator {params : List Param} (identifiers : ∀ p ∈ params, p.IsIdentifier)
    {cs : List Char} {c : Char} (hc : c ∈ cs) (mark : Lexeme.isOperatorMark c = true)
    {ts : List Token} (h : ofLexeme params (.operator cs) = .ok ts) : ∀ t ∈ ts, t.Formed := by
  simp only [ofLexeme] at h
  split at h
  · next compares =>
    cases h
    rw [List.forall_mem_singleton]
    exact .comparison rfl (by rwa [String.toList_ofList])
  · obtain ⟨p, declared, name, -⟩ := reference_eq_ok h
    have marked : Param.isMark c = true := by simp [Param.isMark, mark]
    have free := (identifiers p declared).not_mem_of_isMark marked
    rw [name, String.toList_ofList] at free
    exact absurd hc free

/-- A reserved word has no parenthesis. -/
theorem formed_reserved {cs : List Char} {kind : TokenKind} (nonempty : cs ≠ [])
    (plain : ∀ c ∈ cs, Lexeme.Plain c) (reserved : TokenKind.ofReserved? cs = some kind) :
    (⟨kind, String.ofList cs, false⟩ : Token).Formed := by
  have free (c : Char) (digit : c.isDigit = false) (letter : c.toLower.isAlpha = false) :
      c ∉ cs := by
    intro hc
    rcases of_mem_reserved reserved hc with is | is
    · simp [digit] at is
    · simp [letter] at is
  obtain ⟨comparison, logical, quoted⟩ := kind_of_ofReserved? reserved
  refine .word comparison logical quoted ?_ ?_ ?_ ?_ <;> rw [String.toList_ofList]
  · exact nonempty
  · exact plain
  · exact free '(' (by decide) (by decide)
  · exact free ')' (by decide) (by decide)

theorem formed_ofLexeme {params : List Param} (identifiers : ∀ p ∈ params, p.IsIdentifier)
    {l : Lexeme} (formed : l.Formed) {ts : List Token} (h : ofLexeme params l = .ok ts) :
    ∀ t ∈ ts, t.Formed := by
  cases formed with
  | @word cs nonempty plain =>
    simp only [ofLexeme] at h
    split at h
    · next kind reserved =>
      cases h
      rw [List.forall_mem_singleton]
      exact formed_reserved nonempty plain reserved
    · obtain ⟨p, declared, name, rfl⟩ := reference_eq_ok h
      rw [List.forall_mem_singleton, ← name]
      apply formed_reference (identifiers p declared)
      rwa [name, String.toList_ofList]
  | quoted plain closes =>
    cases h
    rw [List.forall_mem_singleton]
    exact .quoted rfl String.toList_ofList plain closes
  | mark mark => exact formed_operator identifiers (.head _) mark h
  | markEqual mark => exact formed_operator identifiers (.head _) mark h
  | @logical c mark =>
    cases h
    rw [List.forall_mem_singleton]
    simp only [Lexeme.isLogicalMark, Bool.or_eq_true, decide_eq_true_eq] at mark
    rcases mark with rfl | rfl
    · exact .logical rfl (.inl rfl)
    · exact .logical rfl (.inr rfl)
  | stray c =>
    cases h
    simp
  | truncated => cases h

/-- What holds of the tokens of every lexeme holds of all. -/
theorem forall_mem_ofLexemes {params : List Param} {P : Token → Prop} {ls : List Lexeme}
    (each : ∀ l ∈ ls, ∀ ts, ofLexeme params l = .ok ts → ∀ t ∈ ts, P t) {ts : List Token}
    (h : ofLexemes params ls = .ok ts) : ∀ t ∈ ts, P t := by
  induction ls generalizing ts with
  | nil =>
    cases h
    simp
  | cons l ls ih =>
    rw [List.forall_mem_cons] at each
    obtain ⟨front, back, first, others, rfl⟩ := ofLexemes_cons_eq_ok h
    exact List.forall_mem_append.2 ⟨each.1 front first, ih each.2 others⟩

/-- The tokens of a template are formed. -/
theorem formed_ofText {params : List Param} (identifiers : ∀ p ∈ params, p.IsIdentifier)
    {template : String} {ts : List Token} (h : ofText params template = .ok ts) :
    ∀ t ∈ ts, t.Formed := by
  have formed : ∀ l ∈ Lexeme.ofText template, l.Formed := Lexeme.formed_scan (by simp) _
  exact forall_mem_ofLexemes (fun l hl _ => formed_ofLexeme identifiers (formed l hl)) h

/-- A logical operator is written in one of two ways. -/
def Worded (t : Token) : Prop :=
  t.kind = .logical → t.text = "&&" ∨ t.text = "||"

theorem Formed.worded {t : Token} (h : t.Formed) : t.Worded := by
  intro kind
  cases h with
  | word _ logical => exact absurd kind logical
  | quoted other | comparison other => simp [other] at kind
  | logical _ text => exact text

theorem worded_ofLexeme {params : List Param} {l : Lexeme} (formed : l.Formed) {ts : List Token}
    (h : ofLexeme params l = .ok ts) : ∀ t ∈ ts, t.Worded := by
  cases classified h with
  | reserved reserved => simp [Worded, (kind_of_ofReserved? reserved).2.1]
  | named | quoted | comparison | namedOperator => simp [Worded]
  | logical c =>
    cases formed with
    | logical mark =>
      simp only [Lexeme.isLogicalMark, Bool.or_eq_true, decide_eq_true_eq] at mark
      rcases mark with rfl | rfl <;> simp [Worded]
  | stray => simp

/-- Whatever the parameters are named, the logical operators of a template are those two. -/
theorem worded_ofText {params : List Param} {template : String} {ts : List Token}
    (h : ofText params template = .ok ts) : ∀ t ∈ ts, t.Worded := by
  have formed : ∀ l ∈ Lexeme.ofText template, l.Formed := Lexeme.formed_scan (by simp) _
  exact forall_mem_ofLexemes (fun l hl _ => worded_ofLexeme (formed l hl)) h

end Token

end QueryTemplate
