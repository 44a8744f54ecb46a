import QueryTemplate.Proofs.ConditionValue

/-!
The terms of a condition, in their order. A condition has a logical operator between neighbouring
terms and nothing else, so it can be taken apart in front of any of them, and every comparison
operator in it belongs to a term with the two tokens around it.
-/

namespace QueryTemplate

/-- An operand on its own, or two of them with a comparison between them. -/
inductive Term where
  | bare (x : Token) (operand : x.isOperand = true)
  | comparison (x o y : Token) (left : x.isOperand = true) (compares : o.kind = .comparison)
      (right : y.isOperand = true)

namespace Term

def tokens : Term → List Token
  | bare x _ => [x]
  | comparison x o y _ _ _ => [x, o, y]

def compared : Term → Bool
  | bare .. => false
  | comparison .. => true

theorem atomic (a : Term) : Token.Atomic a.tokens := by
  cases a with
  | bare x operand => exact .bare operand
  | comparison x o y left compares right => exact .comparison left compares right

theorem exists_of_atomic {ts : List Token} (h : Token.Atomic ts) : ∃ a : Term, ts = a.tokens := by
  cases h with
  | bare operand => exact ⟨.bare _ operand, rfl⟩
  | comparison left compares right => exact ⟨.comparison _ _ _ left compares right, rfl⟩

theorem exists_cons (a : Term) : ∃ x more, a.tokens = x :: more ∧ x.isOperand = true := by
  cases a with
  | bare x operand => exact ⟨x, [], rfl, operand⟩
  | comparison x o y left => exact ⟨x, [o, y], rfl, left⟩

/-- The tokens are those of the terms, with a logical operator behind each of them. -/
inductive Led : List Term → List Token → Prop
  | nil : Led [] []
  | cons (a : Term) {o : Token} (logical : o.kind = .logical) {as : List Term} {ts : List Token}
      (others : Led as ts) : Led (a :: as) (a.tokens ++ o :: ts)

/-- The tokens are those of the terms, with a logical operator between neighbours. -/
inductive Divided : List Term → List Token → Prop
  | nil : Divided [] []
  | last (a : Term) : Divided [a] a.tokens
  | cons (a : Term) {o : Token} (logical : o.kind = .logical) {b : Term} {as : List Term}
      {ts : List Token} (others : Divided (b :: as) ts) :
      Divided (a :: b :: as) (a.tokens ++ o :: ts)

variable {a b : Term} {as before after : List Term} {front rest ts : List Token}

theorem Divided.exists_cons (h : Divided (a :: as) ts) :
    ∃ x more, ts = x :: more ∧ x.isOperand = true := by
  obtain ⟨x, more, tokens, operand⟩ := a.exists_cons
  cases h with
  | last => exact ⟨x, more, tokens, operand⟩
  | cons => exact ⟨x, more ++ _, by rw [tokens, List.cons_append], operand⟩

theorem Divided.behind (h : Divided as ts) (nonempty : as ≠ []) (a : Term) {o : Token}
    (logical : o.kind = .logical) : Divided (a :: as) (a.tokens ++ o :: ts) := by
  obtain ⟨b, as, rfl⟩ := List.exists_cons_of_ne_nil nonempty
  exact .cons a logical h

theorem Divided.append (led : Led before front) (h : Divided (a :: after) rest) :
    Divided (before ++ a :: after) (front ++ rest) := by
  induction led with
  | nil => exact h
  | cons b logical _ ih =>
    rw [List.append_assoc, List.cons_append, List.cons_append]
    exact ih.behind (by simp) b logical

/-- A condition can be taken apart in front of a term. -/
theorem Divided.split (h : Divided (before ++ a :: after) ts) :
    ∃ front rest, ts = front ++ rest ∧ Led before front ∧ Divided (a :: after) rest := by
  induction before generalizing ts with
  | nil => exact ⟨[], ts, rfl, .nil, h⟩
  | cons b before ih =>
    obtain ⟨c, as, terms⟩ := List.exists_cons_of_ne_nil (l := before ++ a :: after) (by simp)
    rw [List.cons_append, terms] at h
    cases h with
    | @cons _ o logical _ _ ts others =>
      obtain ⟨front, rest, rfl, led, divided⟩ := ih (terms ▸ others)
      exact ⟨b.tokens ++ o :: front, rest, by simp, .cons b logical led, divided⟩

theorem Divided.eq_tokens (h : Divided [a] ts) : ts = a.tokens := by
  cases h
  rfl

/-- A condition is one term or several. -/
theorem chained_iff : Token.Chained ts ↔ ∃ a as, Divided (a :: as) ts := by
  constructor
  · intro h
    induction h with
    | atom atomic =>
      obtain ⟨a, rfl⟩ := exists_of_atomic atomic
      exact ⟨a, [], .last a⟩
    | cons atomic logical _ ih =>
      obtain ⟨a, rfl⟩ := exists_of_atomic atomic
      obtain ⟨b, bs, others⟩ := ih
      exact ⟨a, b :: bs, .cons a logical others⟩
  · rintro ⟨a, as, h⟩
    generalize terms : a :: as = bs at h
    induction h generalizing a as with
    | nil => cases terms
    | last b => exact .atom b.atomic
    | cons b logical _ ih => exact .cons b.atomic logical (ih _ _ rfl)

theorem exists_cons_of_chained (h : Token.Chained ts) :
    ∃ x more, ts = x :: more ∧ x.isOperand = true := by
  obtain ⟨a, as, divided⟩ := chained_iff.1 h
  exact divided.exists_cons

theorem kind_ne_comparison {t : Token} (operand : t.isOperand = true) : t.kind ≠ .comparison := by
  intro kind
  simp [Token.isOperand, kind] at operand

/-- The comparison operator of a term is the second of its tokens. -/
theorem tokens_eq_append {x o : Token} {c : List Token} (h : a.tokens = front ++ x :: o :: c)
    (compares : o.kind = .comparison) :
    front = [] ∧ ∃ y left right, a = comparison x o y left compares right ∧ c = [y] := by
  cases a with
  | bare z =>
    have length := congrArg List.length h
    simp only [tokens, List.length_append, List.length_cons, List.length_nil] at length
    omega
  | comparison p q r left _ right =>
    match front with
    | [] =>
      cases h
      exact ⟨rfl, r, left, right, rfl, rfl⟩
    | [_] =>
      cases h
      exact absurd compares (kind_ne_comparison right)
    | _ :: _ :: _ =>
      have length := congrArg List.length h
      simp only [tokens, List.length_append, List.length_cons, List.length_nil] at length
      omega

/-- Where no comparison follows the term, a comparison operator is in the term or behind it. -/
theorem comparison_cases {x o y : Token} {more back : List Token}
    (h : a.tokens ++ more = front ++ x :: o :: y :: back) (compares : o.kind = .comparison)
    (other : ∀ l ∈ more.head?, l.kind ≠ .comparison) :
    (front = [] ∧ more = back ∧ ∃ left right, a = comparison x o y left compares right) ∨
      ∃ behind, front = a.tokens ++ behind ∧ more = behind ++ x :: o :: y :: back := by
  rcases List.append_eq_append_iff.1 h with ⟨behind, rfl, following⟩ | ⟨inner, tokens, following⟩
  · exact .inr ⟨behind, rfl, following⟩
  · match inner with
    | [] => exact .inr ⟨[], by simpa using tokens.symm, by simpa using following.symm⟩
    | [_] =>
      cases following
      exact absurd compares (other o rfl)
    | _ :: _ :: c =>
      simp only [List.cons_append, List.cons.injEq] at following
      obtain ⟨rfl, rfl, following⟩ := following
      obtain ⟨rfl, z, left, right, rfl, rfl⟩ := tokens_eq_append tokens compares
      cases following
      exact .inl ⟨rfl, rfl, left, right, rfl⟩

/-- A comparison operator belongs to a term with the tokens around it, and another term may stand in
the place of that one. -/
theorem Divided.exists_comparison {x o y : Token} {back : List Token}
    (h : Divided as (front ++ x :: o :: y :: back)) (compares : o.kind = .comparison) :
    ∃ before after left right, as = before ++ comparison x o y left compares right :: after ∧
      ∀ c : Term, Divided (before ++ c :: after) (front ++ (c.tokens ++ back)) := by
  generalize whole : front ++ x :: o :: y :: back = ts at h
  induction h generalizing front with
  | nil => simp at whole
  | last a =>
    rw [← List.append_nil a.tokens] at whole
    rcases comparison_cases whole.symm compares (by simp) with
      ⟨rfl, rfl, left, right, rfl⟩ | ⟨behind, -, following⟩
    · exact ⟨[], [], left, right, rfl, fun c => by simpa using .last c⟩
    · simp at following
  | @cons a l logical b as ts others ih =>
    rcases comparison_cases whole.symm compares (by simp [logical]) with
      ⟨rfl, rfl, left, right, rfl⟩ | ⟨behind, rfl, following⟩
    · exact ⟨[], b :: as, left, right, rfl, fun c => .cons c logical others⟩
    · cases behind with
      | nil =>
        cases following
        obtain ⟨_, _, tokens, operand⟩ := others.exists_cons
        cases tokens
        exact absurd compares (kind_ne_comparison operand)
      | cons _ behind =>
        cases following
        obtain ⟨before, after, left, right, terms, place⟩ := ih rfl
        refine ⟨a :: before, after, left, right, by rw [terms, List.cons_append], fun c => ?_⟩
        rw [List.append_assoc, List.cons_append]
        exact (place c).behind (by simp) a logical

end Term

end QueryTemplate
