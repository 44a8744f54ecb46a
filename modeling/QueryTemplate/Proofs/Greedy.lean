import Mathlib
import QueryTemplate.Proofs.Partition
import QueryTemplate.Proofs.Respelling

/-!
How far a condition reaches. It ends where the next token does not go on from its last term, and so
it is the longest condition that the tokens start with. If there is no such end, an operator that
goes on from a term has no operand behind it, and grouping fails with the tokens through that
operator.
-/

namespace QueryTemplate

namespace Term

open Statement

/-- The tokens are a condition with the term at its end. -/
def EndsIn (ts : List Token) (a : Term) : Prop :=
  ∃ before, Divided (before ++ [a]) ts

variable {a : Term} {ts front : List Token} {o y : Token}

theorem chained_iff_endsIn : Token.Chained ts ↔ ∃ a, EndsIn ts a := by
  rw [chained_iff]
  constructor
  · rintro ⟨a, as, h⟩
    obtain nil | ⟨before, b, terms⟩ := List.eq_nil_or_concat' (a :: as)
    · cases nil
    · exact ⟨b, before, terms ▸ h⟩
  · rintro ⟨a, before, h⟩
    obtain ⟨b, as, terms⟩ := List.exists_cons_of_ne_nil (l := before ++ [a]) (by simp)
    exact ⟨b, as, terms ▸ h⟩

theorem EndsIn.split (h : EndsIn ts a) :
    ∃ before front, Led before front ∧ ts = front ++ a.tokens := by
  obtain ⟨before, divided⟩ := h
  obtain ⟨front, rest, rfl, led, last⟩ := divided.split
  exact ⟨before, front, led, by rw [last.eq_tokens]⟩

theorem Led.endsIn {before : List Term} (led : Led before front) (a : Term) :
    EndsIn (front ++ a.tokens) a :=
  ⟨before, (Divided.last a).append led⟩

theorem endsIn_tokens (a : Term) : EndsIn a.tokens a :=
  Led.nil.endsIn a

theorem Led.concat {before : List Term} (led : Led before front) (a : Term) {o : Token}
    (logical : o.kind = .logical) : Led (before ++ [a]) (front ++ (a.tokens ++ [o])) := by
  induction led with
  | nil => exact .cons a logical .nil
  | cons b logical' _ ih =>
    rw [List.append_assoc, List.cons_append]
    exact .cons b logical' ih

theorem EndsIn.exists_cons (h : EndsIn ts a) : ∃ x body, ts = x :: body ∧ x.isOperand = true :=
  exists_cons_of_chained (chained_iff_endsIn.2 ⟨a, h⟩)

/-- A condition goes on with an operator and an operand. -/
theorem EndsIn.extend (h : EndsIn ts a) (continues : Continues a.compared o)
    (operand : y.isOperand = true) :
    ∃ b, EndsIn (ts ++ [o, y]) b ∧ b.compared = decide (o.kind = .comparison) := by
  obtain ⟨before, front, led, rfl⟩ := h.split
  rcases continues with logical | ⟨compares, single⟩
  · refine ⟨.bare y operand, ?_, by simp [compared, logical]⟩
    simpa [tokens] using (led.concat a logical).endsIn (.bare y operand)
  · cases a with
    | bare x left =>
      refine ⟨.comparison x o y left compares operand, ?_, by simp [compared, compares]⟩
      simpa [tokens] using led.endsIn (.comparison x o y left compares operand)
    | comparison => cases single

end Term

namespace Statement

open Term

/-- The same reach, seen from further tokens in front. -/
def Reach.behind (front : List Token) : Reach → Reach
  | complete taken left => complete (front ++ taken) left
  | dangling taken => dangling (front ++ taken)

theorem Reach.behind_nil (r : Reach) : r.behind [] = r := by
  cases r <;> rfl

theorem Reach.after_eq (operator operand : Token) (r : Reach) :
    r.after operator operand = r.behind [operator, operand] := by
  cases r <;> rfl

theorem Reach.behind_behind (front ts : List Token) (r : Reach) :
    (r.behind ts).behind front = r.behind (front ++ ts) := by
  cases r <;> simp [behind]

variable {ts taken left front body more : List Token} {a : Term} {x o : Token}

/-! ## Along a condition -/

theorem reachAfter_term (tokens : a.tokens = x :: body) (more : List Token) :
    reachAfter false (body ++ more) = (reachAfter a.compared more).behind body := by
  cases a with
  | bare =>
    cases tokens
    exact (Reach.behind_nil _).symm
  | comparison x o y left compares right =>
    cases tokens
    have continues : Continues false o := .inr ⟨compares, rfl⟩
    rw [List.cons_append, List.cons_append, reachAfter_operand continues right, Reach.after_eq,
      compares]
    rfl

/-- Whatever follows a condition, the reading comes to its end. -/
theorem reachAfter_led {before : List Term} (led : Led before front)
    (tokens : front ++ a.tokens = x :: body) (more : List Token) :
    reachAfter false (body ++ more) = (reachAfter a.compared more).behind body := by
  induction led generalizing x body with
  | nil => exact reachAfter_term tokens more
  | @cons b o logical as ts others ih =>
    -- the reading goes along the term, over the operator and one operand, and on from there
    obtain ⟨y, own, first, -⟩ := b.exists_cons
    obtain ⟨z, inner, following, operand⟩ := (others.endsIn a).exists_cons
    have continues : Continues b.compared o := .inl logical
    have single : decide (o.kind = .comparison) = false := by simp [logical]
    rw [first, List.append_assoc, List.cons_append, List.cons_append, following] at tokens
    cases tokens
    rw [List.append_assoc, reachAfter_term first, List.cons_append, List.cons_append,
      reachAfter_operand continues operand, Reach.after_eq, single, ih following,
      Reach.behind_behind, Reach.behind_behind, List.append_assoc]
    rfl

theorem reachAfter_endsIn (h : EndsIn (x :: body) a) (more : List Token) :
    reachAfter false (body ++ more) = (reachAfter a.compared more).behind body := by
  obtain ⟨before, front, led, tokens⟩ := h.split
  exact reachAfter_led led tokens.symm more

/-- A token ends a condition whose last term it does not go on from. -/
theorem reachAfter_stops {compared : Bool} (stops : ∀ o ∈ left.head?, ¬ Continues compared o) :
    reachAfter compared left = .complete [] left := by
  cases left with
  | nil => rw [reachAfter]
  | cons o rest => exact reachAfter_of_not_continues (stops o rfl)

/-- No operand is behind an operator that a condition would go on with. -/
theorem reachAfter_noOperand {compared : Bool} {rest : List Token}
    (continues : Continues compared o) (stuck : ∀ y ∈ rest.head?, y.isOperand = false) :
    reachAfter compared (o :: rest) = .dangling [o] := by
  cases rest with
  | nil => exact reachAfter_last continues
  | cons y rest => exact reachAfter_stuck continues (stuck y rfl)

/-! ## Where a condition ends -/

/-- A condition ends in front of the token with the number `n`, which does not go on from it. -/
def EndsAt (ts : List Token) (n : Nat) : Prop :=
  n ≤ ts.length ∧ ∃ a, EndsIn (ts.take n) a ∧ ∀ o ∈ ts[n]?, ¬ Continues a.compared o

/-- A condition goes on with the token with the number `n`, and no operand follows. -/
def StuckAt (ts : List Token) (n : Nat) : Prop :=
  ∃ a o, EndsIn (ts.take n) a ∧ ts[n]? = some o ∧ Continues a.compared o ∧
    ∀ y ∈ ts[n + 1]?, y.isOperand = false

/-- Going on from a condition, one comes to its end or to an operator without an operand. -/
theorem endsAt_or_stuckAt {front : List Token} {a : Term} (h : EndsIn front a)
    (more : List Token) :
    (∃ n, EndsAt (front ++ more) n) ∨ ∃ n, StuckAt (front ++ more) n := by
  have next : (front ++ more)[front.length]? = more[0]? := by
    rw [List.getElem?_append_right le_rfl, Nat.sub_self]
  have whole : EndsIn ((front ++ more).take front.length) a := by rwa [List.take_left]
  match more with
  | [] => exact .inl ⟨front.length, by simp, a, whole, by simp⟩
  | o :: rest =>
    by_cases continues : Continues a.compared o
    · match rest with
      | [] => exact .inr ⟨front.length, a, o, whole, next, continues, by simp⟩
      | y :: rest =>
        cases operand : y.isOperand with
        | true =>
          obtain ⟨b, extended, -⟩ := h.extend continues operand
          simpa using endsAt_or_stuckAt extended rest
        | false => exact .inr ⟨front.length, a, o, whole, next, continues, by simpa using operand⟩
    · exact .inl ⟨front.length, by simp, a, whole, by simpa [next] using continues⟩
termination_by more.length

variable {ts rest words : List Token} {kind : StatementKind} {s : Statement} {n m : Nat}

/-- Whatever stands behind a condition, the reading of the tokens comes to its end. -/
theorem exists_reachAfter (h : EndsIn (ts.take n) a) : ∃ x body rest, x.isOperand = true ∧
    ts.take n = x :: body ∧ ts = x :: rest ∧
      reachAfter false rest = (reachAfter a.compared (ts.drop n)).behind body := by
  obtain ⟨x, body, front, operand⟩ := h.exists_cons
  refine ⟨x, body, body ++ ts.drop n, operand, front, ?_, reachAfter_endsIn (front ▸ h) _⟩
  rw [← List.cons_append, ← front, List.take_append_drop]

theorem reachAfter_of_endsAt (h : EndsAt ts n) : ∃ x body rest, x.isOperand = true ∧
    ts.take n = x :: body ∧ ts = x :: rest ∧
      reachAfter false rest = .complete body (ts.drop n) := by
  obtain ⟨-, a, ends, stops⟩ := h
  obtain ⟨x, body, rest, operand, front, tokens, reaches⟩ := exists_reachAfter ends
  have stops' : ∀ o ∈ (ts.drop n).head?, ¬ Continues a.compared o := by simpa using stops
  refine ⟨x, body, rest, operand, front, tokens, ?_⟩
  rw [reaches, reachAfter_stops stops', Reach.behind, List.append_nil]

theorem readGuarded_of_endsAt (h : EndsAt ts n) (kind : StatementKind) (words : List Token) :
    readGuarded kind words ts = .ok (guarded kind words (ts.take n), ts.drop n) := by
  obtain ⟨x, body, rest, operand, front, tokens, reaches⟩ := reachAfter_of_endsAt h
  rw [front]
  conv_lhs => rw [tokens]
  rw [readGuarded, if_pos operand, reaches]

theorem readGuarded_of_stuckAt (h : StuckAt ts n) (kind : StatementKind) (words : List Token) :
    readGuarded kind words ts = .error (.dangling (Token.join (words ++ ts.take (n + 1)))) := by
  obtain ⟨a, o, ends, found, continues, stuck⟩ := h
  obtain ⟨x, body, rest, operand, front, tokens, reaches⟩ := exists_reachAfter ends
  obtain ⟨bound, rfl⟩ := List.getElem?_eq_some_iff.1 found
  rw [List.drop_eq_getElem_cons bound, reachAfter_noOperand continues (by simpa using stuck),
    Reach.behind] at reaches
  rw [List.take_add_one, front, found]
  conv_lhs => rw [tokens]
  rw [readGuarded, if_pos operand, reaches]
  rfl

theorem readGuarded_noOperand (none : ∀ x ∈ ts.head?, x.isOperand = false) (kind : StatementKind)
    (words : List Token) :
    readGuarded kind words ts = .error (.noCondition (Token.join words)) := by
  cases ts with
  | nil => rfl
  | cons x ts =>
    have other : x.isOperand = false := none x rfl
    rw [readGuarded, if_neg (by simp [other])]

theorem StuckAt.not_endsAt (h : StuckAt ts n) (m : Nat) : ¬ EndsAt ts m := by
  intro ends
  have reads := readGuarded_of_stuckAt h .ifOpen []
  rw [readGuarded_of_endsAt ends] at reads
  cases reads

theorem Reach.length_le_of_behind {r : Reach} (h : r.behind front = .complete taken left) :
    front.length ≤ taken.length := by
  cases r with
  | complete => cases h; simp
  | dangling => cases h

/-- Where a condition ends, the longest one does. -/
theorem EndsAt.isGreatest (h : EndsAt ts n) :
    IsGreatest {m | m ≤ ts.length ∧ Token.Chained (ts.take m)} n := by
  obtain ⟨bound, a, ends, -⟩ := id h
  refine ⟨⟨bound, chained_iff_endsIn.2 ⟨a, ends⟩⟩, fun m hm => ?_⟩
  -- the reading comes to the end of the other condition too, and stops no earlier
  obtain ⟨bound', chained⟩ := hm
  obtain ⟨b, ends'⟩ := chained_iff_endsIn.1 chained
  obtain ⟨x, body, rest, -, front, tokens, reaches⟩ := reachAfter_of_endsAt h
  obtain ⟨x', body', rest', -, front', tokens', reaches'⟩ := exists_reachAfter ends'
  obtain ⟨rfl, rfl⟩ := List.cons.inj (tokens.symm.trans tokens')
  have shorter := Reach.length_le_of_behind (reaches'.symm.trans reaches)
  have length := congrArg List.length front
  have length' := congrArg List.length front'
  simp only [List.length_take, List.length_cons] at length length'
  omega

theorem settled_of_operand {x : Token} (first : x ∈ ts.head?) (operand : x.isOperand = true) :
    (∃ n, EndsAt ts n) ∨ ∃ n, StuckAt ts n := by
  cases ts with
  | nil => cases first
  | cons y ts =>
    cases first
    exact endsAt_or_stuckAt (endsIn_tokens (.bare x operand)) ts

theorem readGuarded_eq_ok_iff : readGuarded kind words ts = .ok (s, left) ↔
    ∃ n, EndsAt ts n ∧ s = guarded kind words (ts.take n) ∧ left = ts.drop n := by
  constructor
  · intro reads
    by_cases starts : ∃ x ∈ ts.head?, x.isOperand = true
    · obtain ⟨x, first, operand⟩ := starts
      obtain ⟨n, ends⟩ | ⟨n, stuck⟩ := settled_of_operand first operand
      · rw [readGuarded_of_endsAt ends] at reads
        cases reads
        exact ⟨n, ends, rfl, rfl⟩
      · rw [readGuarded_of_stuckAt stuck] at reads
        cases reads
    · rw [readGuarded_noOperand (by simpa using starts)] at reads
      cases reads
  · rintro ⟨n, ends, rfl, rfl⟩
    exact readGuarded_of_endsAt ends kind words

/-! ## Where grouping has got to -/

/-- The first tokens are grouped into the statements, and the others are left. -/
inductive Grouped : List Token → List Statement → List Token → Prop
  | none (ts : List Token) : Grouped ts [] ts
  | next {t : Token} {rest left left' : List Token} {s : Statement} {ss : List Statement}
      (first : read t rest = .ok (s, left)) (others : Grouped left ss left') :
      Grouped (t :: rest) (s :: ss) left'

variable {ss : List Statement} {left' : List Token} {t : Token}

theorem Grouped.ofTokens_eq (h : Grouped ts ss left) :
    ofTokens ts = (ofTokens left).map (ss ++ ·) := by
  induction h with
  | none ts => cases ofTokens ts <;> simp [Except.map]
  | @next t rest left left' s ss first _ ih =>
    rw [ofTokens_cons first, ih]
    cases ofTokens left' <;> rfl

theorem Grouped.append {ss' : List Statement} (h : Grouped ts ss left)
    (h' : Grouped left ss' left') : Grouped ts (ss ++ ss') left' := by
  induction h with
  | none => exact h'
  | next first _ ih => exact .next first (ih h')

theorem grouped_concat (h : Grouped ts ss (t :: rest)) :
    Grouped ts (ss ++ [s]) left ↔ read t rest = .ok (s, left) := by
  constructor
  · intro further
    generalize whole : t :: rest = reached at h
    induction h with
    | none =>
      cases whole
      cases further with
      | next first others =>
        cases others
        exact first
    | next first _ ih =>
      cases further with
      | next first' others =>
        rw [first] at first'
        cases first'
        exact ih others whole
  · intro reads
    exact h.append (.next reads (.none left))

theorem Heads.read_eq (h : Heads kind words rest) :
    ∃ t more, words = t :: more ∧ read t (more ++ rest) = readGuarded kind words rest := by
  cases h with
  | ifOpen word | elseIf word => exact ⟨_, [], rfl, by simp [read, word]⟩
  | divided first second further => exact ⟨_, [_], rfl, read_elseIf first second further⟩

section Reached

variable (reached : Grouped ts ss (words ++ rest)) (heads : Heads kind words rest)
include reached heads

theorem grouped_concat_heads : Grouped ts (ss ++ [s]) left ↔
    ∃ n, EndsAt rest n ∧ s = guarded kind words (rest.take n) ∧ left = rest.drop n := by
  obtain ⟨t, more, rfl, reads⟩ := heads.read_eq
  rw [← readGuarded_eq_ok_iff, ← reads]
  exact grouped_concat reached

theorem exists_grouped_iff : (∃ s left, Grouped ts (ss ++ [s]) left) ↔ ∃ n, EndsAt rest n := by
  simp only [grouped_concat_heads reached heads]
  exact ⟨fun ⟨_, _, n, ends, _⟩ => ⟨n, ends⟩, fun ⟨n, ends⟩ => ⟨_, _, n, ends, rfl, rfl⟩⟩

theorem ofTokens_of_readGuarded {fault : Fault}
    (fails : readGuarded kind words rest = .error fault) : ofTokens ts = .error fault := by
  obtain ⟨t, more, rfl, reads⟩ := heads.read_eq
  rw [reached.ofTokens_eq, List.cons_append, ofTokens_eq_bind, reads, fails]
  rfl

end Reached

/-- A condition is announced, and all statements in front of it are grouped. It has to start with an
operand. Then it is taken to its end, which is the only one and that of the longest condition.
Grouping fails just when there is no end, and then an operator is left without an operand. -/
theorem ofTokens_longest (reached : Grouped ts ss (words ++ rest)) (heads : Heads kind words rest)
    (name template : String) :
    ((∀ x ∈ rest.head?, x.isOperand = false) →
      (ofTokens ts).mapError (Fault.report name template) =
        .error ⟨.syntactic, name, "syntax error: " ++ Token.join words, template⟩) ∧
    ((∃ x ∈ rest.head?, x.isOperand = true) →
      (∀ s left, Grouped ts (ss ++ [s]) left ↔
        ∃ n, EndsAt rest n ∧ s = guarded kind words (rest.take n) ∧ left = rest.drop n) ∧
      (∀ n, EndsAt rest n → (∀ m, EndsAt rest m → m = n) ∧
        IsGreatest {m | m ≤ rest.length ∧ Token.Chained (rest.take m)} n) ∧
      ((¬ ∃ s left, Grouped ts (ss ++ [s]) left) ↔ ¬ ∃ n, EndsAt rest n) ∧
      ((¬ ∃ n, EndsAt rest n) ↔ ∃ n, StuckAt rest n) ∧
      ∀ n, StuckAt rest n → (ofTokens ts).mapError (Fault.report name template) =
        .error ⟨.syntactic, name, "syntax error: " ++ Token.join (words ++ rest.take (n + 1)),
          Token.join (words ++ rest.take (n + 1))⟩) := by
  constructor
  · intro none
    rw [ofTokens_of_readGuarded reached heads (readGuarded_noOperand none kind words)]
    rfl
  rintro ⟨x, first, operand⟩
  refine ⟨fun s left => grouped_concat_heads reached heads, fun n ends => ⟨fun m ends' => ?_,
    ends.isGreatest⟩, not_congr (exists_grouped_iff reached heads), ⟨?_, ?_⟩, fun n stuck => ?_⟩
  · exact ends'.isGreatest.unique ends.isGreatest
  · exact (settled_of_operand first operand).resolve_left
  · rintro ⟨n, stuck⟩ ⟨m, ends⟩
    exact stuck.not_endsAt m ends
  · rw [ofTokens_of_readGuarded reached heads (readGuarded_of_stuckAt stuck kind words)]
    rfl

/-- The tokens of `"a" else if A == B && C` with further ones behind them. A text ends the
condition, and an operator in front of a keyword leaves it without an end. -/
theorem longest_divided :
    let text (kind : TokenKind) (text : String) : Token := ⟨kind, text, false⟩
    let word (keyword : Keyword) : Token := ⟨.keyword keyword, keyword.name, false⟩
    let condition : List Token := [text (.param .int) "A", text .comparison "==",
      text (.param .int) "B", text .logical "&&", text (.param .bool) "C"]
    let words : List Token := [word .otherwise, word .ifOpen]
    let first : Token := text .quoted "\"a\""
    let ended : List Token := condition ++ [text .quoted "\"x\""]
    let stuck : List Token := condition ++ [text .logical "||", word .close]
    (Grouped (first :: (words ++ ended)) [literal first] (words ++ ended) ∧
      Heads .elseIf words ended ∧ EndsAt ended 5 ∧
      IsGreatest {m | m ≤ ended.length ∧ Token.Chained (ended.take m)} 5 ∧
      Grouped (first :: (words ++ ended)) [literal first, guarded .elseIf words condition]
        [text .quoted "\"x\""]) ∧
    Grouped (first :: (words ++ stuck)) [literal first] (words ++ stuck) ∧
      Heads .elseIf words stuck ∧ StuckAt stuck 5 ∧
      (ofTokens (first :: (words ++ stuck))).mapError (Fault.report "t" "") =
        .error ⟨.syntactic, "t", "syntax error: else if A == B && C ||",
          "else if A == B && C ||"⟩ := by
  intro text word condition words first ended stuck
  have whole : EndsIn condition (.bare (text (.param .bool) "C") rfl) :=
    ⟨[.comparison _ _ _ rfl rfl rfl], .cons _ rfl (.last _)⟩
  have reached (ts : List Token) : Grouped (first :: ts) [literal first] ts := .next rfl (.none ts)
  have heads (ts : List Token) (further : ts ≠ []) : Heads .elseIf words ts :=
    .divided rfl rfl further
  have endsAt : EndsAt ended 5 := ⟨by decide, _, whole, by rintro o ⟨⟩; simp [Continues, text]⟩
  have stuckAt : StuckAt stuck 5 := ⟨_, _, whole, rfl, .inl rfl, by rintro y ⟨⟩; rfl⟩
  obtain ⟨grouped, ends, -⟩ := (ofTokens_longest (reached _) (heads ended (by simp [ended])) "t"
    "").2 ⟨_, rfl, rfl⟩
  obtain ⟨-, -, -, -, fails⟩ := (ofTokens_longest (reached _) (heads stuck (by simp [stuck])) "t"
    "").2 ⟨_, rfl, rfl⟩
  exact ⟨⟨reached _, heads _ (by simp [ended]), endsAt, (ends 5 endsAt).2,
    (grouped _ _).2 ⟨5, endsAt, rfl, rfl⟩⟩, reached _, heads _ (by simp [stuck]), stuckAt,
    (fails 5 stuckAt).trans (by decide)⟩

/-- At the end of the tokens the words "else if" announce nothing. The "if" is what has no
condition. -/
example : ofTokens [⟨.keyword .otherwise, "else", false⟩, ⟨.keyword .ifOpen, "if", false⟩] =
    .error (.noCondition "if") := by cbv

end Statement

end QueryTemplate
