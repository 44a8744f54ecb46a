import QueryTemplate.Proofs.Reading
import QueryTemplate.Proofs.TokenText

/-!
The symbols that the text of a token has: one, unless there is a parenthesis in front of its
quotes. A closing one there stands in no expression.
-/

namespace QueryTemplate

namespace Token

def spelling (t : Token) : List Symbol :=
  match t.kind with
  | .comparison => [.comparison t.text]
  | .logical => [if t.isDisjunction then .disjunction else .conjunction]
  | .integer | .quoted | .boolean | .nil | .keyword _ | .param _ => Symbol.split [] t.text.toList

/-- There is no parenthesis in front of the first quote. -/
def Clear (t : Token) : Prop :=
  ∀ c ∈ t.text.toList.takeWhile (· ≠ '"'), c ≠ '(' ∧ c ≠ ')'

instance : DecidablePred Clear :=
  fun t => inferInstanceAs (Decidable (∀ c ∈ t.text.toList.takeWhile (· ≠ '"'), c ≠ '(' ∧ c ≠ ')'))

end Token

namespace Symbol

/-- Only a parenthesis divides a word. -/
theorem split_of_clear {cs : List Char} (pending : List Char)
    (clear : ∀ c ∈ cs.takeWhile (· ≠ '"'), c ≠ '(' ∧ c ≠ ')')
    (nonempty : pending.reverse ++ cs ≠ []) :
    split pending cs = [.operand (String.ofList (pending.reverse ++ cs))] := by
  induction cs generalizing pending with
  | nil =>
    obtain ⟨c, rest, rfl⟩ := List.exists_cons_of_ne_nil (l := pending) (by simpa using nonempty)
    simp [split, endOperand]
  | cons c cs ih =>
    rw [split]
    split
    · rfl
    next quote =>
    rw [List.takeWhile_cons_of_pos (by simpa using quote), List.forall_mem_cons] at clear
    rw [if_neg clear.1.1, if_neg clear.1.2, ih (c :: pending) clear.2 (by simp)]
    simp

theorem mem_endOperand {x : Symbol} {pending : List Char} {s : List Symbol} (h : x ∈ s) :
    x ∈ endOperand pending s := by
  cases pending with
  | nil => exact h
  | cons c pending => exact .tail _ h

theorem clear_of_split {pending cs : List Char} (opening : .opening ∉ split pending cs)
    (closing : .closing ∉ split pending cs) :
    ∀ c ∈ cs.takeWhile (· ≠ '"'), c ≠ '(' ∧ c ≠ ')' := by
  induction cs generalizing pending with
  | nil => simp
  | cons c cs ih =>
    rw [split] at opening closing
    split at opening
    · next quote => simp [quote]
    next quote =>
    rw [if_neg quote] at closing
    split at opening
    · exact absurd (mem_endOperand (.head _)) opening
    next left =>
    rw [if_neg left] at closing
    split at opening
    · next right =>
      rw [if_pos right] at closing
      exact absurd (mem_endOperand (.head _)) closing
    next right =>
    rw [if_neg right] at closing
    rw [List.takeWhile_cons_of_pos (by simpa using quote), List.forall_mem_cons]
    exact ⟨⟨left, right⟩, ih opening closing⟩

theorem expects_endOperand {s : List Symbol} (h : ∀ before, expects before s = none)
    (pending : List Char) (before : Bool) : expects before (endOperand pending s) = none := by
  cases pending with
  | nil => exact h before
  | cons c pending =>
    rw [endOperand, expects]
    split
    · exact h _
    · rfl

/-- Where no operand is expected, no quoted text is. -/
theorem expects_false_split {cs : List Char} (quote : '"' ∈ cs) (pending : List Char) :
    expects false (split pending cs) = none := by
  induction cs generalizing pending with
  | nil => simp at quote
  | cons c cs ih =>
    rw [split]
    split
    · rfl
    next other =>
    have quote : '"' ∈ cs := (List.mem_cons.1 quote).resolve_left (Ne.symm other)
    split
    · cases pending <;> rfl
    split
    · cases pending with
      | nil => exact ih quote []
      | cons d pending => rfl
    · exact ih quote (c :: pending)

/-- A closing parenthesis in front of a quoted text has an operand behind it. -/
theorem expects_split {pending cs : List Char} (quote : '"' ∈ cs)
    (closing : .closing ∈ split pending cs) (before : Bool) :
    expects before (split pending cs) = none := by
  induction cs generalizing pending before with
  | nil => simp at quote
  | cons c cs ih =>
    rw [split] at closing ⊢
    split at closing
    · simp at closing
    next other =>
    have quote : '"' ∈ cs := (List.mem_cons.1 quote).resolve_left (Ne.symm other)
    rw [if_neg other]
    split at closing
    · next left =>
      have closing : .closing ∈ split [] cs := by
        cases pending with
        | nil => simpa [endOperand] using closing
        | cons d pending => simpa [endOperand] using closing
      rw [if_pos left]
      refine expects_endOperand (fun before => ?_) pending before
      rw [expects]
      split
      · exact ih quote closing _
      · rfl
    next left =>
    rw [if_neg left]
    split at closing
    · next right =>
      rw [if_pos right]
      refine expects_endOperand (fun before => ?_) pending before
      rw [expects]
      split
      · exact expects_false_split quote []
      · rfl
    next right =>
    rw [if_neg right]
    exact ih quote closing before

end Symbol

namespace Token

variable {t : Token}

theorem spelling_eq_split (comparison : t.kind ≠ .comparison) (logical : t.kind ≠ .logical) :
    t.spelling = Symbol.split [] t.text.toList := by
  unfold spelling
  cases kind : t.kind <;> simp_all

theorem spelling_of_isOperand (operand : t.isOperand = true) :
    t.spelling = Symbol.split [] t.text.toList := by
  refine spelling_eq_split ?_ ?_ <;> intro kind <;> simp [isOperand, kind] at operand

theorem Formed.nonempty (h : t.Formed) : t.text.toList ≠ [] := by
  cases h with
  | word _ _ _ nonempty => exact nonempty
  | quoted _ text => simp [text]
  | comparison _ compares =>
    intro empty
    simp [empty, TokenKind.isComparison] at compares
  | logical _ text => rcases text with text | text <;> simp [text]

theorem Formed.spells (h : t.Formed) (operand : t.isOperand = true) :
    Symbol.Spells t.text t.spelling := by
  rw [spelling_of_isOperand operand]
  intro rest delimits
  cases h with
  | word _ _ _ _ plain =>
    have unquoted : '"' ∉ t.text.toList.reverse := fun mem =>
      (plain '"' (List.mem_reverse.1 mem)).1 rfl
    have scanned : Symbol.reading [] (t.text.toList ++ rest) =
        Symbol.reading t.text.toList.reverse rest := by
      rw [Symbol.reading, Lexeme.scan_plain plain, List.append_nil]
      rfl
    rw [scanned]
    cases rest with
    | nil => simp [Symbol.reading_nil, Symbol.split, Symbol.endOperand]
    | cons c rest =>
      rcases delimits c rfl with rfl | rfl
      · simp [Symbol.reading_blank, Symbol.split, Symbol.endOperand]
      · have closing : Symbol.IsParenthesis ')' .closing := .inr ⟨rfl, rfl⟩
        simp [Symbol.reading_cons_parenthesis closing unquoted,
          Symbol.reading_cons_parenthesis closing, Symbol.split, Symbol.endOperand,
          Function.comp_def]
  | @quoted p b _ text plain closes =>
    have quote (cs : List Char) : Lexeme.scan p.reverse ('"' :: cs) =
        Lexeme.scanQuoted ('"' :: p.reverse) cs := by
      rw [Lexeme.scan.eq_def]
      rfl
    have scanned : Lexeme.scan [] (t.text.toList ++ rest) =
        .quoted (p ++ '"' :: b) :: Lexeme.scan [] rest := by
      rw [text, List.append_assoc, Lexeme.scan_plain plain, List.append_nil, List.cons_append,
        quote, closes, List.reverse_reverse]
    rw [Symbol.reading, scanned, text]
    rfl
  | comparison kind => simp [isOperand, kind] at operand
  | logical kind => simp [isOperand, kind] at operand

theorem Formed.spells_logical (h : t.Formed) (logical : t.kind = .logical) :
    Symbol.Spells t.text t.spelling := by
  cases h with
  | word _ other => exact absurd logical other
  | quoted kind => simp [logical] at kind
  | comparison kind => simp [logical] at kind
  | logical _ text =>
    rcases text with text | text
    · simpa [spelling, logical, isDisjunction, text] using Symbol.spells_conjunction
    · simpa [spelling, logical, isDisjunction, text] using Symbol.spells_disjunction

/-- Outside of quotes no token has a parenthesis. -/
theorem Formed.clear_of_kind (h : t.Formed) (kind : t.kind ≠ .quoted) : t.Clear := by
  cases h with
  | word _ _ _ _ _ opening closing =>
    intro c hc
    have mem := (List.takeWhile_sublist _).subset hc
    exact ⟨fun left => opening (left ▸ mem), fun right => closing (right ▸ mem)⟩
  | quoted is => exact absurd is kind
  | comparison _ compares =>
    simp only [TokenKind.isComparison, List.mem_cons, List.not_mem_nil, or_false,
      decide_eq_true_eq] at compares
    rcases compares with text | text | text | text | text | text <;> simp [Clear, text]
  | logical _ text =>
    rcases text with text | text <;> simp [Clear, text]

theorem Formed.clear_iff (h : t.Formed) :
    t.Clear ↔ .opening ∉ t.spelling ∧ .closing ∉ t.spelling := by
  have nonempty := h.nonempty
  have divided (same : t.spelling = Symbol.split [] t.text.toList) :
      t.Clear ↔ .opening ∉ t.spelling ∧ .closing ∉ t.spelling := by
    rw [same]
    constructor
    · intro clear
      rw [Symbol.split_of_clear [] clear (by simpa using nonempty)]
      simp
    · exact fun free => Symbol.clear_of_split free.1 free.2
  cases h with
  | word comparison logical => exact divided (spelling_eq_split comparison logical)
  | quoted kind => exact divided (spelling_eq_split (by simp [kind]) (by simp [kind]))
  | comparison kind compares =>
    have clear := (Formed.comparison kind compares).clear_of_kind (by simp [kind])
    simp [clear, spelling, kind]
  | logical kind text =>
    have clear := (Formed.logical kind text).clear_of_kind (by simp [kind])
    simp only [clear, spelling, kind, true_iff, List.mem_singleton]
    split <;> exact ⟨nofun, nofun⟩

/-- A token with a closing parenthesis in front of its quotes stands nowhere in an expression. -/
theorem Formed.expects_spelling (h : t.Formed) (closing : .closing ∈ t.spelling) (before : Bool) :
    Symbol.expects before t.spelling = none := by
  have unclear : ¬ t.Clear := fun clear => (h.clear_iff.1 clear).2 closing
  cases h with
  | @quoted p b kind text plain closes =>
    have quote : '"' ∈ t.text.toList := by simp [text]
    rw [spelling_of_isOperand (by simp [isOperand, kind])] at closing ⊢
    exact Symbol.expects_split quote closing before
  | word comparison logical quoted nonempty plain left right =>
    have formed : t.Formed := .word comparison logical quoted nonempty plain left right
    exact absurd (formed.clear_of_kind quoted) unclear
  | comparison kind compares =>
    exact absurd ((Formed.comparison kind compares).clear_of_kind (by simp [kind])) unclear
  | logical kind text =>
    exact absurd ((Formed.logical kind text).clear_of_kind (by simp [kind])) unclear

end Token

end QueryTemplate
