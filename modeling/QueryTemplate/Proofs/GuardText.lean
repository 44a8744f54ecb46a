import QueryTemplate.Proofs.GuardValue
import QueryTemplate.Proofs.TokenSpelling

/-!
The text of a guard, read as symbols. It has the symbols of the texts of its tokens, with those
that the guard adds. If no token has a parenthesis outside of its quotes, these are the symbols of
the guard, and otherwise no expression has them.
-/

namespace QueryTemplate

namespace Token

theorem join_append {ts us : List Token} (left : ts ≠ []) (right : us ≠ []) :
    join (ts ++ us) = join ts ++ " " ++ join us := by
  unfold join
  induction ts with
  | nil => exact absurd rfl left
  | cons t ts ih =>
    rcases ts with _ | ⟨t', ts⟩
    · obtain ⟨u, us, rfl⟩ := List.exists_cons_of_ne_nil right
      simp [String.intercalate_cons_cons]
    · have rest := ih (by simp)
      simp only [List.cons_append, List.map_cons] at rest ⊢
      rw [String.intercalate_cons_cons, rest, String.intercalate_cons_cons]
      simp only [String.append_assoc]

theorem Formed.isComparison {o : Token} (formed : o.Formed) (compares : o.kind = .comparison) :
    TokenKind.isComparison o.text.toList = true := by
  cases formed with
  | word other => exact absurd compares other
  | quoted kind => simp [compares] at kind
  | comparison _ compares => exact compares
  | logical kind => simp [compares] at kind

theorem Atomic.spells {ts : List Token} (h : Atomic ts) (formed : ∀ t ∈ ts, t.Formed) :
    Symbol.Spells (join ts) (ts.flatMap spelling) := by
  cases h with
  | bare operand => simpa [join] using (formed _ (.head _)).spells operand
  | @comparison x o y left compares right =>
    obtain ⟨fx, fo, fy⟩ : x.Formed ∧ o.Formed ∧ y.Formed := by simpa using formed
    have text : join [x, o, y] = x.text ++ " " ++ o.text ++ " " ++ y.text := by
      simp [join, String.intercalate_cons_cons, String.append_assoc]
    have operator : o.spelling = [.comparison o.text] := by rw [spelling, compares]
    have spells := (fx.spells left).comparison (fo.isComparison compares) (fy.spells right)
    rw [text]
    simpa [operator] using spells

theorem Chained.spells {ts : List Token} (h : Chained ts) (formed : ∀ t ∈ ts, t.Formed) :
    Symbol.Spells (join ts) (ts.flatMap spelling) := by
  induction h with
  | atom atomic => exact atomic.spells formed
  | @cons ts rest o atomic logical others ih =>
    rw [List.forall_mem_append, List.forall_mem_cons] at formed
    obtain ⟨atoms, operator, others'⟩ := formed
    have text : join (ts ++ o :: rest) = join ts ++ " " ++ o.text ++ " " ++ join rest := by
      rw [join_append atomic.ne_nil (by simp), ← List.singleton_append,
        join_append (by simp) others.ne_nil]
      simp [join, String.append_assoc]
    rw [text, List.flatMap_append, List.flatMap_cons, ← List.append_assoc]
    exact ((atomic.spells atoms).blank (operator.spells_logical logical)).blank (ih others')

end Token

namespace Condition

def spelling (c : Condition) : List Symbol :=
  c.body.flatMap Token.spelling

theorem Chained.spells {c : Condition} (h : c.Chained) (formed : ∀ t ∈ c.tokens, t.Formed) :
    Symbol.Spells c.text c.spelling := by
  rw [h.text]
  exact h.chained.spells fun t ht => formed t ((List.dropWhile_sublist _).subset ht)

theorem spells_noneOf {prior : List Condition} (chained : ∀ c ∈ prior, c.Chained)
    (formed : ∀ c ∈ prior, ∀ t ∈ c.tokens, t.Formed) :
    Symbol.Spells (Guard.noneOf prior)
      (Symbol.excluded (Symbol.joined (prior.map Condition.spelling))) := by
  apply Symbol.Spells.negation
  induction prior with
  | nil =>
    intro rest _
    simp [Symbol.joined, List.intercalate]
  | cons c prior ih =>
    rw [List.forall_mem_cons] at chained formed
    have first := chained.1.spells formed.1
    rcases prior with _ | ⟨d, prior⟩
    · simpa [Symbol.joined, List.intercalate] using first
    · have others := (first.blank Symbol.spells_disjunction).blank (ih chained.2 formed.2)
      have bar : " || " = " " ++ "||" ++ " " := rfl
      rw [List.map_cons, List.map_cons, String.intercalate_cons_cons, List.map_cons,
        Symbol.joined_cons _ (by simp)]
      simpa [bar, String.append_assoc] using others

end Condition

namespace Guard

theorem Chained.spells {g : Guard} (h : g.Chained)
    (formed : ∀ c ∈ g.conditions, ∀ t ∈ c.tokens, t.Formed) :
    Symbol.Spells g.text (g.symbols Condition.spelling) := by
  cases g with
  | first own => exact Condition.Chained.spells h (formed own (.head _))
  | otherwise prior => exact Condition.spells_noneOf h.2 formed
  | elseIf prior own =>
    obtain ⟨-, priors, owns⟩ := h
    rw [conditions, List.forall_mem_append] at formed
    have front := Condition.spells_noneOf priors formed.1
    have back := owns.spells (formed.2 own (.head _))
    have text : (elseIf prior own).text = noneOf prior ++ " " ++ "&&" ++ " " ++ own.conjunct := by
      have operator : " && " = " " ++ "&&" ++ " " := rfl
      simp only [Guard.text, operator, String.append_assoc]
    rw [text, symbols, Condition.conjunct, List.append_cons]
    apply (front.blank Symbol.spells_conjunction).blank
    split
    · exact back.parentheses
    · exact back

end Guard

/-! ## Parentheses outside of quotes -/

namespace Symbol

theorem expects_infix {s t : List Symbol} (inside : t <:+: s) {before after : Bool}
    (h : expects before s = some after) : ∃ before' after', expects before' t = some after' := by
  obtain ⟨front, back, rfl⟩ := inside
  rw [expects_append, expects_append] at h
  obtain ⟨end', reached, -⟩ := Option.bind_eq_some_iff.1 h
  obtain ⟨start, -, through⟩ := Option.bind_eq_some_iff.1 reached
  exact ⟨start, end', through⟩

end Symbol

namespace Token

theorem Formed.spelling_of_clear {t : Token} (formed : t.Formed) (clear : t.Clear) :
    t.spelling = [t.symbol] := by
  have nonempty := formed.nonempty
  have divided (comparison : t.kind ≠ .comparison) (logical : t.kind ≠ .logical) :
      t.spelling = [.operand t.text] := by
    rw [spelling_eq_split comparison logical,
      Symbol.split_of_clear [] clear (by simpa using nonempty)]
    simp [String.ofList_toList]
  cases kind : t.kind
  case comparison | logical => simp [spelling, symbol, kind]
  all_goals
    rw [divided (by simp [kind]) (by simp [kind])]
    simp [symbol, kind]

end Token

namespace Condition

/-- No token of the condition has a parenthesis in front of its quotes. -/
def Clear (c : Condition) : Prop :=
  ∀ t ∈ c.tokens, t.Clear

variable {c : Condition}

theorem spelling_of_clear (formed : ∀ t ∈ c.tokens, t.Formed) (clear : c.Clear) :
    c.spelling = c.symbols := by
  have body : ∀ t ∈ c.body, t.spelling = [t.symbol] := fun t ht =>
    have mem := (List.dropWhile_sublist _).subset ht
    (formed t mem).spelling_of_clear (clear t mem)
  rw [spelling, symbols, List.flatMap_def, List.map_congr_left body, ← List.flatMap_def,
    ← List.map_eq_flatMap]

/-- Where an expression goes on through the condition, none of its tokens closes a parenthesis. -/
theorem not_mem_closing {s : List Symbol} {before after : Bool}
    (formed : ∀ t ∈ c.tokens, t.Formed) (inside : c.spelling <:+: s)
    (expected : Symbol.expects before s = some after) : .closing ∉ c.spelling := by
  intro closing
  obtain ⟨t, ht, closing⟩ := List.mem_flatMap.1 closing
  have whole : t.spelling <:+: s := by
    obtain ⟨front, back, body⟩ := List.append_of_mem ht
    rw [spelling, body, List.flatMap_append, List.flatMap_cons] at inside
    exact (List.infix_append' _ _ _).trans inside
  obtain ⟨_, _, some⟩ := Symbol.expects_infix whole expected
  have mem := (List.dropWhile_sublist _).subset ht
  rw [(formed t mem).expects_spelling closing] at some
  cases some

/-- In an expression with as many opening parentheses as closing ones, no token has any. -/
theorem clear_of_count {s : List Symbol} {before after : Bool}
    (formed : ∀ t ∈ c.tokens, t.Formed) (inside : c.spelling <:+: s)
    (expected : Symbol.expects before s = some after)
    (balanced : c.spelling.count .opening = c.spelling.count .closing) : c.Clear := by
  have closing := not_mem_closing formed inside expected
  have opening : .opening ∉ c.spelling := by
    rw [← List.count_eq_zero, balanced, List.count_eq_zero]
    exact closing
  intro t ht
  rw [← List.takeWhile_append_dropWhile (p := fun t => t.keyword?.isSome) (l := c.tokens),
    List.mem_append] at ht
  rcases ht with keyword | body
  · have mem := (List.takeWhile_sublist _).subset keyword
    have isSome : t.keyword?.isSome = true := List.all_eq_true.1 List.all_takeWhile t keyword
    apply (formed t mem).clear_of_kind
    intro kind
    simp [Token.keyword?, kind] at isSome
  · refine (formed t ((List.dropWhile_sublist _).subset body)).clear_iff.2 ⟨?_, ?_⟩
    · exact fun mem => opening (List.mem_flatMap.2 ⟨t, body, mem⟩)
    · exact fun mem => closing (List.mem_flatMap.2 ⟨t, body, mem⟩)

end Condition

namespace Guard

theorem symbols_congr {f f' : Condition → List Symbol} {g : Guard}
    (same : ∀ c ∈ g.conditions, f c = f' c) : g.symbols f = g.symbols f' := by
  cases g with
  | first own => exact same own (.head _)
  | otherwise prior => simp only [symbols, List.map_congr_left (l := prior) same]
  | elseIf prior own =>
    rw [conditions, List.forall_mem_append] at same
    rw [symbols, symbols, List.map_congr_left same.1, same.2 own (.head _)]

variable {prior : List Condition} {own : Condition} {v : Atom → Bool} {a : Bool}

theorem clear_of_reads_first (formed : ∀ t ∈ own.tokens, t.Formed)
    (reads : Symbol.Reads v .disjunction own.spelling a) : own.Clear :=
  Condition.clear_of_count formed (List.infix_refl _) reads.expects reads.count_opening

/-- The parentheses that the guard adds are closed, and so are those of clear prior conditions. -/
theorem clear_of_reads_elseIf (chained : (elseIf prior own).Chained)
    (formed : ∀ c ∈ prior ++ [own], ∀ t ∈ c.tokens, t.Formed) (clear : ∀ c ∈ prior, c.Clear)
    (reads : Symbol.Reads v .disjunction ((elseIf prior own).symbols Condition.spelling) a) :
    own.Clear := by
  obtain ⟨nonempty, priors, -⟩ := chained
  rw [List.forall_mem_append] at formed
  have same : prior.map Condition.spelling = prior.map Condition.symbols :=
    List.map_congr_left fun c hc => Condition.spelling_of_clear (formed.1 c hc) (clear c hc)
  have front := (Condition.reads_joined (v := v) nonempty priors).excluded.count_opening
  have balanced := reads.count_opening
  have expected := reads.expects
  rw [symbols, same] at balanced expected
  have formedOwn := formed.2 own (.head _)
  split at balanced
  · next disjunction =>
    rw [if_pos disjunction] at expected
    refine Condition.clear_of_count formedOwn ?_ expected ?_
    · rw [List.append_cons]
      exact (List.infix_append [.opening] _ [.closing]).trans (List.suffix_append _ _).isInfix
    · simpa [front] using balanced
  · next plain =>
    rw [if_neg plain] at expected
    refine Condition.clear_of_count formedOwn ?_ expected ?_
    · rw [List.append_cons]
      exact (List.suffix_append _ _).isInfix
    · simpa [front] using balanced

end Guard

end QueryTemplate
