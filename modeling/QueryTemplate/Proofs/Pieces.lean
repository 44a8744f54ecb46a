import Mathlib
import QueryTemplate.Proofs.Scanning.Quoted
import QueryTemplate.Proofs.TokenText

/-!
Pieces of an expression. A plus sign stands between operands, and a quoted literal among them ends
where the lexer would end it: at the next quote that does not follow a backslash. Reading an
expression that way gives back the pieces that it was joined from.
-/

namespace QueryTemplate

/-- An operand of a text: a quoted literal, by what stands between its quotes, or a word. -/
inductive Piece where
  | literal (content : List Char)
  | word (spelling : List Char)
  deriving DecidableEq, Repr

namespace Piece

def text : Piece → List Char
  | literal content => '"' :: (content ++ ['"'])
  | word spelling => spelling

/-- A literal ends at its last quote and not before. A word has no quotes and no plus signs. -/
def WellFormed : Piece → Prop
  | literal content => Lexeme.Closing '"' (content ++ ['"'])
  | word spelling => spelling ≠ [] ∧ '"' ∉ spelling ∧ '+' ∉ spelling

instance : DecidablePred WellFormed
  | literal content => inferInstanceAs (Decidable (Lexeme.Closing '"' (content ++ ['"'])))
  | word spelling =>
    inferInstanceAs (Decidable (spelling ≠ [] ∧ '"' ∉ spelling ∧ '+' ∉ spelling))

def behind (ps : List Piece) : List Char :=
  ps.flatMap fun p => '+' :: p.text

def join : List Piece → List Char
  | [] => []
  | p :: ps => p.text ++ behind ps

theorem behind_cons (p : Piece) (ps : List Piece) : behind (p :: ps) = '+' :: join (p :: ps) :=
  rfl

theorem behind_append (ps qs : List Piece) : behind (ps ++ qs) = behind ps ++ behind qs :=
  List.flatMap_append

theorem behind_eq {ps : List Piece} (nonempty : ps ≠ []) : behind ps = '+' :: join ps := by
  cases ps with
  | nil => exact absurd rfl nonempty
  | cons p ps => exact behind_cons p ps

/-! ## Reading -/

mutual

def readOperand : List Char → Option (List Piece)
  | [] => none
  | c :: cs =>
    if c = '"' then readLiteral '"' [] cs
    else if c = '+' then none
    else readWord [c] cs

/-- The operands of a text that continues a literal, given the character in front and those between
the quotes, last first. -/
def readLiteral (before : Char) (pending : List Char) : List Char → Option (List Piece)
  | [] => none
  | c :: cs =>
    if c = '"' ∧ before ≠ '\\' then readNext (.literal pending.reverse) cs
    else readLiteral c (c :: pending) cs

def readWord (pending : List Char) : List Char → Option (List Piece)
  | [] => some [.word pending.reverse]
  | c :: cs =>
    if c = '+' then (readOperand cs).map (.word pending.reverse :: ·)
    else if c = '"' then none
    else readWord (c :: pending) cs

def readNext (p : Piece) : List Char → Option (List Piece)
  | [] => some [p]
  | c :: cs => if c = '+' then (readOperand cs).map (p :: ·) else none

end

def read : List Char → Option (List Piece)
  | [] => some []
  | c :: cs => readOperand (c :: cs)

variable {before : Char} {content : List Char}

theorem readLiteral_content (closing : Lexeme.Closing before (content ++ ['"']))
    (pending cs : List Char) : readLiteral before pending (content ++ '"' :: cs) =
      readNext (.literal (pending.reverse ++ content)) cs := by
  induction content generalizing before pending with
  | nil =>
    rw [List.nil_append, readLiteral, if_pos ⟨rfl, Lexeme.closing_singleton.1 closing⟩,
      List.append_nil]
  | cons c content ih =>
    obtain ⟨inside, others⟩ := Lexeme.closing_cons.1 closing
    have goesOn : ¬ (c = '"' ∧ before ≠ '\\') := fun h => h.2 (inside h.1)
    rw [List.cons_append, readLiteral, if_neg goesOn, ih others]
    simp

theorem readWord_append {spelling : List Char} (quotes : '"' ∉ spelling) (pluses : '+' ∉ spelling)
    (pending cs : List Char) :
    readWord pending (spelling ++ cs) = readWord (spelling.reverse ++ pending) cs := by
  induction spelling generalizing pending with
  | nil => rfl
  | cons c spelling ih =>
    rw [List.mem_cons, not_or] at quotes pluses
    rw [List.cons_append, readWord, if_neg (Ne.symm pluses.1), if_neg (Ne.symm quotes.1),
      ih quotes.2 pluses.2]
    simp

/-- A piece is read as itself, whatever pieces are behind it. -/
theorem readOperand_join {p : Piece} {ps : List Piece} (formed : ∀ q ∈ p :: ps, q.WellFormed) :
    readOperand (join (p :: ps)) = some (p :: ps) := by
  induction ps generalizing p with
  | nil =>
    rw [List.forall_mem_singleton] at formed
    cases p with
    | literal content =>
      have only : join [.literal content] = '"' :: (content ++ '"' :: []) := List.append_nil _
      rw [only, readOperand, if_pos rfl, readLiteral_content formed]
      rfl
    | word spelling =>
      obtain ⟨nonempty, quotes, pluses⟩ := formed
      obtain ⟨c, cs, rfl⟩ := List.exists_cons_of_ne_nil nonempty
      rw [List.mem_cons, not_or] at quotes pluses
      have only : join [.word (c :: cs)] = c :: (cs ++ []) := rfl
      rw [only, readOperand, if_neg (Ne.symm quotes.1), if_neg (Ne.symm pluses.1),
        readWord_append quotes.2 pluses.2, readWord]
      simp
  | cons q ps ih =>
    rw [List.forall_mem_cons] at formed
    obtain ⟨first, others⟩ := formed
    cases p with
    | literal content =>
      have more : join (.literal content :: q :: ps) =
          '"' :: (content ++ '"' :: ('+' :: join (q :: ps))) := by
        simp [join, text, behind_cons]
      rw [more, readOperand, if_pos rfl, readLiteral_content first, readNext, if_pos rfl, ih others]
      rfl
    | word spelling =>
      obtain ⟨nonempty, quotes, pluses⟩ := first
      obtain ⟨c, cs, rfl⟩ := List.exists_cons_of_ne_nil nonempty
      rw [List.mem_cons, not_or] at quotes pluses
      have more : join (.word (c :: cs) :: q :: ps) = c :: (cs ++ '+' :: join (q :: ps)) := rfl
      rw [more, readOperand, if_neg (Ne.symm quotes.1), if_neg (Ne.symm pluses.1),
        readWord_append quotes.2 pluses.2, readWord, if_pos rfl, ih others]
      simp

/-- What is read of a text is written there, in every state of the reader. -/
structure Sound (cs : List Char) : Prop where
  operand : ∀ ps, readOperand cs = some ps →
    ps ≠ [] ∧ cs = join ps ∧ ∀ p ∈ ps, p.WellFormed
  literal : ∀ before pending ps, readLiteral before pending cs = some ps → ∃ content qs,
    ps = .literal (pending.reverse ++ content) :: qs ∧ cs = content ++ '"' :: behind qs ∧
      Lexeme.Closing before (content ++ ['"']) ∧ ∀ q ∈ qs, q.WellFormed
  word : ∀ pending ps, readWord pending cs = some ps → ∃ spelling qs,
    ps = .word (pending.reverse ++ spelling) :: qs ∧ cs = spelling ++ behind qs ∧
      '"' ∉ spelling ∧ '+' ∉ spelling ∧ ∀ q ∈ qs, q.WellFormed
  next : ∀ p ps, readNext p cs = some ps → ∃ qs,
    ps = p :: qs ∧ cs = behind qs ∧ ∀ q ∈ qs, q.WellFormed

namespace Sound

theorem nil : Sound [] where
  operand := by
    intro ps h
    cases h
  literal := by
    intro before pending ps h
    cases h
  word := by
    intro pending ps h
    cases h
    exact ⟨[], [], by simp, rfl, by simp, by simp, by simp⟩
  next := by
    intro p ps h
    cases h
    exact ⟨[], rfl, rfl, by simp⟩

variable {c : Char} {cs : List Char} {ps : List Piece}

theorem behind (sound : Sound cs) (h : readOperand cs = some ps) :
    '+' :: cs = Piece.behind ps ∧ ∀ p ∈ ps, p.WellFormed := by
  obtain ⟨nonempty, written, formed⟩ := sound.operand ps h
  exact ⟨written ▸ (behind_eq nonempty).symm, formed⟩

theorem operand_cons (sound : Sound cs) (h : readOperand (c :: cs) = some ps) :
    ps ≠ [] ∧ c :: cs = join ps ∧ ∀ p ∈ ps, p.WellFormed := by
  rw [readOperand] at h
  split at h
  · next quote =>
    obtain ⟨content, qs, rfl, rfl, closing, formed⟩ := sound.literal _ _ ps h
    exact ⟨by simp, by simp [quote, join, text], List.forall_mem_cons.2 ⟨closing, formed⟩⟩
  next quote =>
  split at h
  · cases h
  · next plus =>
    obtain ⟨spelling, qs, rfl, rfl, quotes, pluses, formed⟩ := sound.word _ ps h
    refine ⟨by simp, by simp [join, text], List.forall_mem_cons.2 ⟨⟨by simp, ?_, ?_⟩, formed⟩⟩
    · simpa using ⟨Ne.symm quote, quotes⟩
    · simpa using ⟨Ne.symm plus, pluses⟩

theorem literal_cons (sound : Sound cs) {before : Char} {pending : List Char}
    (h : readLiteral before pending (c :: cs) = some ps) : ∃ content qs,
      ps = .literal (pending.reverse ++ content) :: qs ∧
        c :: cs = content ++ '"' :: Piece.behind qs ∧
        Lexeme.Closing before (content ++ ['"']) ∧ ∀ q ∈ qs, q.WellFormed := by
  rw [readLiteral] at h
  split at h
  · next closes =>
    obtain ⟨rfl, free⟩ := closes
    obtain ⟨qs, rfl, rfl, formed⟩ := sound.next _ ps h
    exact ⟨[], qs, by simp, rfl, .last free, formed⟩
  · next inside =>
    obtain ⟨content, qs, rfl, rfl, closing, formed⟩ := sound.literal _ _ ps h
    refine ⟨c :: content, qs, by simp, rfl, Lexeme.closing_cons.2 ⟨?_, closing⟩, formed⟩
    simpa using inside

theorem word_cons (sound : Sound cs) {pending : List Char}
    (h : readWord pending (c :: cs) = some ps) : ∃ spelling qs,
      ps = .word (pending.reverse ++ spelling) :: qs ∧ c :: cs = spelling ++ Piece.behind qs ∧
        '"' ∉ spelling ∧ '+' ∉ spelling ∧ ∀ q ∈ qs, q.WellFormed := by
  rw [readWord] at h
  split at h
  · next plus =>
    obtain ⟨qs, further, rfl⟩ := Option.map_eq_some_iff.1 h
    obtain ⟨written, formed⟩ := sound.behind further
    exact ⟨[], qs, by simp, plus ▸ written, by simp, by simp, formed⟩
  next plus =>
  split at h
  · cases h
  · next quote =>
    obtain ⟨spelling, qs, rfl, rfl, quotes, pluses, formed⟩ := sound.word _ ps h
    refine ⟨c :: spelling, qs, by simp, rfl, ?_, ?_, formed⟩
    · simpa using ⟨Ne.symm quote, quotes⟩
    · simpa using ⟨Ne.symm plus, pluses⟩

theorem next_cons (sound : Sound cs) {p : Piece} (h : readNext p (c :: cs) = some ps) :
    ∃ qs, ps = p :: qs ∧ c :: cs = Piece.behind qs ∧ ∀ q ∈ qs, q.WellFormed := by
  rw [readNext] at h
  split at h
  · next plus =>
    obtain ⟨qs, further, rfl⟩ := Option.map_eq_some_iff.1 h
    obtain ⟨written, formed⟩ := sound.behind further
    exact ⟨qs, rfl, plus ▸ written, formed⟩
  · cases h

end Sound

theorem sound (cs : List Char) : Sound cs := by
  induction cs with
  | nil => exact .nil
  | cons c cs ih =>
    exact ⟨fun _ => ih.operand_cons, fun _ _ _ => ih.literal_cons, fun _ _ => ih.word_cons,
      fun _ _ => ih.next_cons⟩

/-- An expression is read as some pieces just if it joins them and they are well formed. -/
theorem read_eq_some_iff {cs : List Char} {ps : List Piece} :
    read cs = some ps ↔ cs = join ps ∧ ∀ p ∈ ps, p.WellFormed := by
  constructor
  · intro h
    cases cs with
    | nil =>
      cases h
      exact ⟨rfl, by simp⟩
    | cons c cs => exact ((sound (c :: cs)).operand ps h).2
  · rintro ⟨rfl, formed⟩
    cases ps with
    | nil => rfl
    | cons p ps =>
      have first := readOperand_join formed
      cases joined : join (p :: ps) with
      | nil =>
        rw [joined] at first
        cases first
      | cons c cs => rwa [read, ← joined]

/-! ## The pieces of a template -/

theorem not_mem_identifier {p : Param} (h : p.IsIdentifier) : '+' ∉ p.name.toList := by
  obtain ⟨c, cs, name, first, others⟩ := h
  have foreign : ¬ Param.IsForeign '+' := fun is => absurd is.1 (by decide)
  rw [name, List.mem_cons, not_or]
  constructor
  · rintro rfl
    simp [foreign] at first
  · exact fun hc => by simpa [foreign] using others _ hc

/-- Only a quoted text or an operator can have a plus sign. -/
theorem not_mem_ofLexeme {params : List Param} (identifiers : ∀ p ∈ params, p.IsIdentifier)
    {l : Lexeme} {ts : List Token} (h : Token.ofLexeme params l = .ok ts) :
    ∀ t ∈ ts, t.isOperand = true → t.kind ≠ .quoted → '+' ∉ t.text.toList := by
  cases Token.classified h with
  | reserved reserved =>
    rw [List.forall_mem_singleton, String.toList_ofList]
    exact fun _ _ hc => absurd (Token.of_mem_reserved reserved hc) (by decide)
  | named declared name | namedOperator declared name =>
    rw [List.forall_mem_singleton, ← name]
    exact fun _ _ => not_mem_identifier (identifiers _ declared)
  | quoted => exact List.forall_mem_singleton.2 fun _ other => absurd rfl other
  | comparison | logical =>
    rw [List.forall_mem_singleton]
    intro operand
    cases operand
  | stray => simp

/-- Literals and parameters are pieces where names are identifiers, unless a quoted text has
something in front of its quote. -/
theorem exists_of_ofText {params : List Param} (identifiers : ∀ p ∈ params, p.IsIdentifier)
    {template : String} {ts : List Token} (h : Token.ofText params template = .ok ts) {t : Token}
    (ht : t ∈ ts) (operand : t.isOperand = true)
    (quoted : t.kind = .quoted → t.text.toList.head? = some '"') :
    ∃ p : Piece, p.WellFormed ∧ p.text = t.text.toList := by
  have pluses := Token.forall_mem_ofLexemes (fun l _ _ => not_mem_ofLexeme identifiers) h t ht
    operand
  cases Token.formed_ofText identifiers h t ht with
  | word _ _ other nonempty plain =>
    exact ⟨.word t.text.toList, ⟨nonempty, fun quote => (plain _ quote).1 rfl, pluses other⟩, rfl⟩
  | @quoted p b kind written plain closes =>
    cases p with
    | nil =>
      obtain ⟨content, rfl⟩ := closes.closing.exists_content
      exact ⟨.literal content, closes.closing, written.symm⟩
    | cons c p =>
      have starts := quoted kind
      rw [written] at starts
      exact absurd (Option.some.inj starts) (plain c (.head _)).1
  | comparison kind => simp [Token.isOperand, kind] at operand
  | logical kind => simp [Token.isOperand, kind] at operand

end Piece

end QueryTemplate
