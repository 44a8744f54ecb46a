import QueryTemplate.Proofs.GuardValue
import QueryTemplate.Proofs.TokenText

/-!
Guards as text. The symbols of a guard are written with blanks between them, though not inside of
parentheses, and that is the text of the guard whatever its operands look like.
-/

namespace QueryTemplate

namespace Symbol

def text : Symbol → String
  | operand text | comparison text => text
  | conjunction => "&&"
  | disjunction => "||"
  | negation => "!"
  | opening => "("
  | closing => ")"

def between (x y : Symbol) : String :=
  if x = negation ∨ x = opening ∨ y = closing then "" else " "

def write : List Symbol → String
  | [] => ""
  | [x] => x.text
  | x :: y :: s => x.text ++ between x y ++ write (y :: s)

theorem write_append {s t : List Symbol} {separator : String} (left : s ≠ []) (right : t ≠ [])
    (h : ∀ x ∈ s.getLast?, ∀ y ∈ t.head?, between x y = separator) :
    write (s ++ t) = write s ++ separator ++ write t := by
  obtain ⟨y, t, rfl⟩ := List.exists_cons_of_ne_nil right
  induction s with
  | nil => exact absurd rfl left
  | cons x s ih =>
    cases s with
    | nil => simp [write, h x rfl y rfl]
    | cons z s =>
      have rest := ih (by simp) (by simpa using h)
      simp only [List.cons_append] at rest ⊢
      simp [write, rest, String.append_assoc]

def IsPlain (x : Symbol) : Prop :=
  x ≠ negation ∧ x ≠ opening ∧ x ≠ closing

theorem between_of_isPlain {x y : Symbol} (left : x.IsPlain) (right : y.IsPlain) :
    between x y = " " := by
  simp [between, left.1, left.2.1, right.2.2]

theorem write_of_isPlain {s : List Symbol} (plain : ∀ x ∈ s, x.IsPlain) :
    write s = " ".intercalate (s.map text) := by
  induction s with
  | nil => rfl
  | cons x s ih =>
    cases s with
    | nil => simp [write]
    | cons y s =>
      rw [List.forall_mem_cons] at plain
      have right := plain.2 y (.head s)
      rw [write, between_of_isPlain plain.1 right, ih plain.2]
      simp [String.intercalate_cons_cons]

/-- An operator has a blank on either side. -/
theorem write_operator {s t : List Symbol} {x : Symbol}
    (operator : x = .conjunction ∨ x = .disjunction) (left : s ≠ []) (right : t ≠ [])
    (last : ∀ y ∈ s.getLast?, y ≠ .negation ∧ y ≠ .opening)
    (first : ∀ y ∈ t.head?, y ≠ .closing) :
    write (s ++ x :: t) = write s ++ (" " ++ x.text ++ " ") ++ write t := by
  have behind : write ([x] ++ t) = x.text ++ " " ++ write t := by
    apply write_append (by simp) right
    intro y hy z hz
    obtain rfl : x = y := by simpa using hy
    rcases operator with rfl | rfl <;> simp [between, first z hz]
  have whole : write (s ++ ([x] ++ t)) = write s ++ " " ++ write ([x] ++ t) := by
    apply write_append left (by simp)
    intro y hy z hz
    obtain rfl : x = z := by simpa using hz
    rcases operator with rfl | rfl <;> simp [between, last y hy]
  rw [← List.singleton_append, whole, behind]
  simp only [String.append_assoc]

theorem write_parentheses {s : List Symbol} (nonempty : s ≠ []) :
    write (.opening :: (s ++ [.closing])) = "(" ++ write s ++ ")" := by
  have inner : write (s ++ [.closing]) = write s ++ "" ++ ")" :=
    write_append nonempty (by simp) (by simp [between])
  have outer : write ([.opening] ++ (s ++ [.closing])) = "(" ++ "" ++ write (s ++ [.closing]) :=
    write_append (by simp) (by simp) (by simp [between])
  rw [← List.singleton_append, outer, inner]
  simp [String.append_assoc]

theorem write_excluded {s : List Symbol} (nonempty : s ≠ []) :
    write (excluded s) = "!(" ++ write s ++ ")" := by
  have outer : write ([.negation] ++ .opening :: (s ++ [.closing])) =
      "!" ++ "" ++ write (.opening :: (s ++ [.closing])) :=
    write_append (by simp) (by simp) (by simp [between])
  have mark : "!(" = "!" ++ "(" := rfl
  rw [excluded, ← List.singleton_append, outer, write_parentheses nonempty, mark]
  simp only [String.append_assoc, String.append_empty]

end Symbol

theorem Token.symbol_isPlain (t : Token) : t.symbol.IsPlain := by
  unfold Token.symbol
  split
  · exact ⟨nofun, nofun, nofun⟩
  · split <;> exact ⟨nofun, nofun, nofun⟩
  all_goals exact ⟨nofun, nofun, nofun⟩

theorem Token.Worded.text_symbol {t : Token} (h : t.Worded) : t.symbol.text = t.text := by
  unfold Token.symbol
  cases kind : t.kind
  case logical =>
    rcases h kind with text | text <;> simp [Token.isDisjunction, kind, text, Symbol.text]
  all_goals rfl

namespace Condition

variable {c : Condition} {prior : List Condition}

theorem isPlain_symbols (c : Condition) : ∀ x ∈ c.symbols, x.IsPlain := by
  simpa [symbols] using fun t _ => t.symbol_isPlain

theorem Chained.symbols_ne_nil (h : c.Chained) : c.symbols ≠ [] := by
  simpa [symbols] using h.chained.ne_nil

theorem Chained.write_symbols (h : c.Chained) (worded : ∀ t ∈ c.tokens, t.Worded) :
    Symbol.write c.symbols = c.text := by
  have texts : c.body.map (fun t => t.symbol.text) = c.body.map Token.text :=
    List.map_congr_left fun t ht => (worded t ((List.dropWhile_sublist _).subset ht)).text_symbol
  rw [Symbol.write_of_isPlain c.isPlain_symbols, h.text, symbols, List.map_map, Token.join]
  exact congrArg _ texts

theorem joined_ne_nil (nonempty : prior ≠ []) (chained : ∀ c ∈ prior, c.Chained) :
    Symbol.joined (prior.map symbols) ≠ [] := by
  obtain ⟨c, prior, rfl⟩ := List.exists_cons_of_ne_nil nonempty
  have first := (chained c (.head prior)).symbols_ne_nil
  cases prior with
  | nil => simpa [Symbol.joined, List.intercalate] using first
  | cons d prior => simp [Symbol.joined_cons]

theorem isPlain_joined (prior : List Condition) :
    ∀ x ∈ Symbol.joined (prior.map symbols), x.IsPlain := by
  induction prior with
  | nil => simp [Symbol.joined, List.intercalate]
  | cons c prior ih =>
    cases prior with
    | nil => simpa [Symbol.joined, List.intercalate] using c.isPlain_symbols
    | cons d prior =>
      rw [List.map_cons, Symbol.joined_cons _ (by simp), List.forall_mem_append,
        List.forall_mem_cons]
      exact ⟨c.isPlain_symbols, by simp [Symbol.IsPlain], ih⟩

theorem write_joined (nonempty : prior ≠ []) (chained : ∀ c ∈ prior, c.Chained)
    (worded : ∀ c ∈ prior, ∀ t ∈ c.tokens, t.Worded) :
    Symbol.write (Symbol.joined (prior.map symbols)) =
      " || ".intercalate (prior.map Condition.text) := by
  induction prior with
  | nil => exact absurd rfl nonempty
  | cons c prior ih =>
    rw [List.forall_mem_cons] at chained worded
    have first := chained.1.write_symbols worded.1
    cases prior with
    | nil => simpa [Symbol.joined, List.intercalate] using first
    | cons d prior =>
      have others := ih (by simp) chained.2 worded.2
      have back := joined_ne_nil (by simp) chained.2
      have last : ∀ x ∈ c.symbols.getLast?, x ≠ .negation ∧ x ≠ .opening := fun x hx =>
        have plain := c.isPlain_symbols x (List.mem_of_getLast? hx)
        ⟨plain.1, plain.2.1⟩
      have head : ∀ x ∈ (Symbol.joined ((d :: prior).map symbols)).head?, x ≠ .closing :=
        fun x hx => (isPlain_joined _ x (List.mem_of_mem_head? hx)).2.2
      rw [List.map_cons, Symbol.joined_cons _ (by simp),
        Symbol.write_operator (.inr rfl) chained.1.symbols_ne_nil back last head, first, others]
      simp only [List.map_cons, String.intercalate_cons_cons]
      rfl

theorem write_noneOf (nonempty : prior ≠ []) (chained : ∀ c ∈ prior, c.Chained)
    (worded : ∀ c ∈ prior, ∀ t ∈ c.tokens, t.Worded) :
    Symbol.write (Symbol.excluded (Symbol.joined (prior.map symbols))) = Guard.noneOf prior := by
  rw [Symbol.write_excluded (joined_ne_nil nonempty chained), write_joined nonempty chained worded]
  rfl

end Condition

namespace Guard

/-- A guard is written as its symbols are. -/
theorem Chained.write_symbols {g : Guard} (h : g.Chained)
    (worded : ∀ c ∈ g.conditions, ∀ t ∈ c.tokens, t.Worded) :
    Symbol.write (g.symbols Condition.symbols) = g.text := by
  cases g with
  | first own => exact Condition.Chained.write_symbols h (worded own (.head _))
  | otherwise prior => exact Condition.write_noneOf h.1 h.2 worded
  | elseIf prior own =>
    obtain ⟨nonempty, priors, owns⟩ := h
    rw [conditions, List.forall_mem_append] at worded
    have front := Condition.write_noneOf nonempty priors worded.1
    have last : ∀ x ∈ (Symbol.excluded (Symbol.joined (prior.map Condition.symbols))).getLast?,
        x ≠ .negation ∧ x ≠ .opening := by
      simp [Symbol.excluded, List.getLast?_cons, List.getLast?_append]
    have back := owns.write_symbols (worded.2 own (.head _))
    have head : ∀ x ∈ own.symbols.head?, x ≠ .closing := fun x hx =>
      (own.isPlain_symbols x (List.mem_of_mem_head? hx)).2.2
    rw [symbols, Guard.text, Condition.conjunct]
    split
    · rw [Symbol.write_operator (.inl rfl) (by simp [Symbol.excluded]) (by simp) last (by simp),
        front, Symbol.write_parentheses owns.symbols_ne_nil, back]
      rfl
    · rw [Symbol.write_operator (.inl rfl) (by simp [Symbol.excluded]) owns.symbols_ne_nil last
        head, front, back]
      rfl

end Guard

end QueryTemplate
