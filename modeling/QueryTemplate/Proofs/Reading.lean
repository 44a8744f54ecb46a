import QueryTemplate.Proofs.Formula
import QueryTemplate.Proofs.Scanning
import QueryTemplate.Token.OfText

/-!
Reading texts as symbols. A text is divided into lexemes as a template is, so that a quoted text is
one operand whatever is written in it. Outside of quotes a parenthesis is a symbol of its own, and
so is an exclamation mark that no equals sign follows. A text with anything else in it that is no
part of an expression has no symbols.
-/

namespace QueryTemplate

namespace Symbol

/-- Closes the operand whose characters, last first, are pending, in front of further symbols. -/
def endOperand (pending : List Char) (rest : List Symbol) : List Symbol :=
  match pending with
  | [] => rest
  | _ :: _ => .operand (String.ofList pending.reverse) :: rest

def split (pending : List Char) : List Char → List Symbol
  | [] => endOperand pending []
  | c :: cs =>
    if c = '"' then [.operand (String.ofList (pending.reverse ++ c :: cs))]
    else if c = '(' then endOperand pending (.opening :: split [] cs)
    else if c = ')' then endOperand pending (.closing :: split [] cs)
    else split (c :: pending) cs

def ofLexeme : Lexeme → Option (List Symbol)
  | .word cs | .quoted cs => some (split [] cs)
  | .operator cs =>
    if TokenKind.isComparison cs then some [.comparison (String.ofList cs)]
    else if cs = ['!'] then some [.negation]
    else none
  | .logical c => some [if c = '&' then .conjunction else .disjunction]
  | .stray _ | .truncated => none

def ofLexemes : List Lexeme → Option (List Symbol)
  | [] => some []
  | l :: ls => (ofLexeme l).bind fun s => (ofLexemes ls).map (s ++ ·)

/-- The symbols of a text that continues a word. The characters of the word are pending, last
first. -/
def reading (pending cs : List Char) : Option (List Symbol) :=
  ofLexemes (Lexeme.scan pending cs)

def ofText (text : String) : Option (List Symbol) :=
  ofLexemes (Lexeme.ofText text)

def IsParenthesis (c : Char) (x : Symbol) : Prop :=
  (c = '(' ∧ x = .opening) ∨ (c = ')' ∧ x = .closing)

theorem endOperand_append (pending : List Char) (s t : List Symbol) :
    endOperand pending (s ++ t) = endOperand pending s ++ t := by
  cases pending <;> rfl

theorem split_parenthesis {c : Char} {x : Symbol} (parenthesis : IsParenthesis c x)
    {w : List Char} (unquoted : '"' ∉ w) (pending cs : List Char) :
    split pending (w ++ c :: cs) = split pending w ++ x :: split [] cs := by
  induction w generalizing pending with
  | nil =>
    rcases parenthesis with ⟨rfl, rfl⟩ | ⟨rfl, rfl⟩
    all_goals simp [split, ← endOperand_append]
  | cons d w ih =>
    rw [List.mem_cons, not_or] at unquoted
    simp only [List.cons_append, split, Ne.symm unquoted.1, if_false, ih unquoted.2]
    split
    · rw [← List.cons_append, endOperand_append]
    split
    · rw [← List.cons_append, endOperand_append]
    · rfl

theorem ofLexemes_endWord (pending : List Char) (rest : List Lexeme) :
    ofLexemes (Lexeme.endWord pending rest) =
      (ofLexemes rest).map (split [] pending.reverse ++ ·) := by
  cases pending with
  | nil => simp [Lexeme.endWord, split, endOperand]
  | cons c pending => rfl

section Parenthesis

variable {c : Char} {x : Symbol} {w : List Char}

theorem ofLexemes_scanQuoted (parenthesis : IsParenthesis c x) (unquoted : '"' ∉ w)
    {q : List Char} (open' : q ≠ []) (cs : List Char) :
    ofLexemes (Lexeme.scanQuoted (q ++ c :: w.reverse) cs) =
      (ofLexemes (Lexeme.scanQuoted q cs)).map (split [] w ++ x :: ·) := by
  obtain ⟨d, q, rfl⟩ := List.exists_cons_of_ne_nil open'
  rcases Lexeme.scanQuoted_cases d cs with unclosed | ⟨b, rest, rfl, closing⟩
  · rw [List.cons_append, unclosed, unclosed]
    rfl
  · rw [List.cons_append, closing.scanQuoted, closing.scanQuoted]
    simp [ofLexemes, ofLexeme, split_parenthesis parenthesis unquoted, Function.comp_def]

/-- A parenthesis inside a word divides the symbols of the word. -/
theorem reading_parenthesis (parenthesis : IsParenthesis c x) (unquoted : '"' ∉ w)
    (q cs : List Char) :
    reading (q ++ c :: w.reverse) cs = (reading q cs).map (split [] w ++ x :: ·) := by
  have word (q : List Char) (rest : List Lexeme) :
      ofLexemes (Lexeme.endWord (q ++ c :: w.reverse) rest) =
        (ofLexemes (Lexeme.endWord q rest)).map (split [] w ++ x :: ·) := by
    have text : (q ++ c :: w.reverse).reverse = w ++ c :: q.reverse := by simp
    simp [ofLexemes_endWord, text, split_parenthesis parenthesis unquoted, Function.comp_def]
  induction cs generalizing q with
  | nil => exact word q []
  | cons d cs ih =>
    unfold reading at ih ⊢
    rw [Lexeme.scan.eq_def, Lexeme.scan.eq_def q]
    simp only
    split
    · exact ofLexemes_scanQuoted parenthesis unquoted (List.cons_ne_nil _ q) cs
    split
    · cases cs with
      | nil => exact word q _
      | cons e es =>
        simp only
        split
        · exact word q _
        · exact word q _
    split
    · cases cs with
      | nil => rfl
      | cons e es =>
        simp only
        split
        · exact word q _
        · rfl
    split
    · exact word q _
    · exact ih (d :: q)

end Parenthesis

theorem reading_nil (pending : List Char) :
    reading pending [] = some (split [] pending.reverse) := by
  rw [reading, Lexeme.scan, ofLexemes_endWord]
  simp [ofLexemes]

theorem reading_blank (pending cs : List Char) :
    reading pending (' ' :: cs) = (reading [] cs).map (split [] pending.reverse ++ ·) := by
  have scanned : Lexeme.scan pending (' ' :: cs) = Lexeme.endWord pending (Lexeme.scan [] cs) := by
    rw [Lexeme.scan.eq_def]
    rfl
  rw [reading, scanned, ofLexemes_endWord]
  rfl

theorem reading_cons_parenthesis {c : Char} {x : Symbol} (parenthesis : IsParenthesis c x)
    {pending : List Char} (unquoted : '"' ∉ pending) (cs : List Char) :
    reading pending (c :: cs) = (reading [] cs).map (split [] pending.reverse ++ x :: ·) := by
  have scanned : Lexeme.scan pending (c :: cs) = Lexeme.scan (c :: pending) cs := by
    rcases parenthesis with ⟨rfl, -⟩ | ⟨rfl, -⟩
    all_goals
      rw [Lexeme.scan.eq_def]
      rfl
  have unquoted' : '"' ∉ pending.reverse := by simpa using unquoted
  rw [reading, scanned]
  simpa [reading] using reading_parenthesis parenthesis unquoted' [] cs

/-! ## Texts in front of other texts -/

/-- The text ends a word that it follows. -/
def Delimits (rest : List Char) : Prop :=
  ∀ c ∈ rest.head?, c = ' ' ∨ c = ')'

/-- The text has the symbols wherever no word goes on behind it. -/
def Spells (text : String) (s : List Symbol) : Prop :=
  ∀ rest, Delimits rest → reading [] (text.toList ++ rest) = (reading [] rest).map (s ++ ·)

theorem delimits_blank (rest : List Char) : Delimits (' ' :: rest) := by
  simp [Delimits]

theorem delimits_closing (rest : List Char) : Delimits (')' :: rest) := by
  simp [Delimits]

variable {a b : String} {s t : List Symbol}

theorem Spells.ofText (h : Spells a s) : ofText a = some s := by
  have alone := h [] (by simp [Delimits])
  rw [List.append_nil, reading_nil] at alone
  simpa [Symbol.ofText, Lexeme.ofText, reading, split, endOperand] using alone

theorem Spells.blank (left : Spells a s) (right : Spells b t) :
    Spells (a ++ " " ++ b) (s ++ t) := by
  intro rest delimits
  have text : (a ++ " " ++ b).toList ++ rest = a.toList ++ ' ' :: (b.toList ++ rest) := by simp
  rw [text, left _ (delimits_blank _), reading_blank, right rest delimits]
  simp [split, endOperand, Function.comp_def]

theorem Spells.parentheses (h : Spells a s) :
    Spells ("(" ++ a ++ ")") (.opening :: (s ++ [.closing])) := by
  intro rest delimits
  have text : ("(" ++ a ++ ")").toList ++ rest = '(' :: (a.toList ++ ')' :: rest) := by simp
  rw [text, reading_cons_parenthesis (.inl ⟨rfl, rfl⟩) (by simp), h _ (delimits_closing rest),
    reading_cons_parenthesis (.inr ⟨rfl, rfl⟩) (by simp)]
  simp [split, endOperand, Function.comp_def]

theorem Spells.negation (h : Spells a s) :
    Spells ("!(" ++ a ++ ")") (.negation :: .opening :: (s ++ [.closing])) := by
  intro rest delimits
  have scanned (cs : List Char) :
      reading [] ('!' :: '(' :: cs) = (reading [] ('(' :: cs)).map (.negation :: ·) := by
    rw [reading, Lexeme.scan.eq_def]
    rfl
  have text : ("!(" ++ a ++ ")").toList ++ rest = '!' :: '(' :: (a.toList ++ ')' :: rest) := by simp
  have group : ("(" ++ a ++ ")").toList ++ rest = '(' :: (a.toList ++ ')' :: rest) := by simp
  rw [text, scanned, ← group, h.parentheses rest delimits]
  simp [Function.comp_def]

/-- What compares has to be followed by something, so the operator alone spells nothing. -/
theorem Spells.comparison {operator : String} (compares : TokenKind.isComparison operator.toList)
    (left : Spells a s) (right : Spells b t) :
    Spells (a ++ " " ++ operator ++ " " ++ b) (s ++ .comparison operator :: t) := by
  intro rest delimits
  have scanned (cs : List Char) : reading [] (operator.toList ++ ' ' :: cs) =
      (reading [] (' ' :: cs)).map (.comparison operator :: ·) := by
    have back : operator = String.ofList operator.toList := String.ofList_toList.symm
    generalize operator.toList = o at compares back
    subst back
    simp only [TokenKind.isComparison, List.mem_cons, List.not_mem_nil, or_false,
      decide_eq_true_eq] at compares
    rcases compares with rfl | rfl | rfl | rfl | rfl | rfl
    all_goals
      rw [reading, List.cons_append, Lexeme.scan.eq_def]
      rfl
  have text : (a ++ " " ++ operator ++ " " ++ b).toList ++ rest =
      a.toList ++ ' ' :: (operator.toList ++ ' ' :: (b.toList ++ rest)) := by simp
  rw [text, left _ (delimits_blank _), reading_blank, scanned, reading_blank, right rest delimits]
  simp [split, endOperand, Function.comp_def]

theorem spells_conjunction : Spells "&&" [.conjunction] := by
  intro rest delimits
  rw [reading, show "&&".toList ++ rest = '&' :: '&' :: rest from rfl, Lexeme.scan.eq_def]
  rfl

theorem spells_disjunction : Spells "||" [.disjunction] := by
  intro rest delimits
  rw [reading, show "||".toList ++ rest = '|' :: '|' :: rest from rfl, Lexeme.scan.eq_def]
  rfl

end Symbol

end QueryTemplate
