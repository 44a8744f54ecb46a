import Mathlib
import QueryTemplate.Proofs.Announced
import QueryTemplate.Proofs.Outline
import QueryTemplate.Proofs.Partition
import QueryTemplate.Proofs.TokenText

/-!
Operators outside of conditions. A condition goes on with every operator behind one of its operands
that it can take, so an operator is left over just where it follows no operand of a condition, or
would compare an operand a second time. What is left over is a literal like any other token: it is
copied into the query as a piece.
-/

namespace QueryTemplate

/-! ## Operators behind operands -/

namespace Token

def IsOperator (t : Token) : Prop :=
  t.kind = .comparison ∨ t.kind = .logical

instance (t : Token) : Decidable t.IsOperator :=
  inferInstanceAs (Decidable (_ ∨ _))

/-- The last word in front of a condition. -/
def Opens (t : Token) : Prop :=
  t.keyword? = some .ifOpen ∨ t.keyword? = some .elseIf

instance (t : Token) : Decidable t.Opens :=
  inferInstanceAs (Decidable (_ ∨ _))

/-- The operator comes directly behind an operand, and that behind the word that opens a condition
or behind another operator. Of two operators around one operand at most one is a comparison. The
tokens in front are given last first. -/
def Attached (o : Token) : List Token → Prop
  | x :: a :: _ => x.isOperand = true ∧ (a.Opens ∨ a.IsOperator) ∧
      ¬ (a.kind = .comparison ∧ o.kind = .comparison)
  | _ => False

instance (o : Token) : (front : List Token) → Decidable (o.Attached front)
  | [] | [_] => isFalse id
  | _ :: _ :: _ => inferInstanceAs (Decidable (_ ∧ _ ∧ ¬ _))

/-- All operators among the tokens are attached. The tokens in front are given last first. -/
def AllAttached (front : List Token) : List Token → Prop
  | [] => True
  | t :: ts => (t.IsOperator → t.Attached front) ∧ AllAttached (t :: front) ts

instance decidableAllAttached (front : List Token) : (ts : List Token) →
    Decidable (AllAttached front ts)
  | [] => isTrue trivial
  | t :: ts =>
    have := decidableAllAttached (t :: front) ts
    inferInstanceAs (Decidable (_ ∧ _))

theorem allAttached_append (front ts us : List Token) :
    AllAttached front (ts ++ us) ↔ AllAttached front ts ∧ AllAttached (ts.reverse ++ front) us := by
  induction ts generalizing front with
  | nil => simp [AllAttached]
  | cons t ts ih => simp [AllAttached, ih, and_assoc]

theorem not_isOperator_of_isOperand {t : Token} (operand : t.isOperand = true) :
    ¬ t.IsOperator := by
  rintro (kind | kind) <;> simp [isOperand, kind] at operand

theorem not_isOperator_of_keyword {t : Token} (keyword : t.keyword?.isSome) : ¬ t.IsOperator := by
  rintro (kind | kind) <;> simp [keyword?, kind] at keyword

theorem opens_isSome {t : Token} (opens : t.Opens) : t.keyword?.isSome := by
  rcases opens with word | word <;> simp [word]

/-- An operand opens no condition, and is no operator. -/
theorem isOperand_ended {t : Token} (operand : t.isOperand = true) :
    ¬ (t.Opens ∨ t.IsOperator) := by
  have free := keyword?_of_isOperand operand
  exact not_or.2 ⟨fun opens => by simp [Opens, free] at opens,
    not_isOperator_of_isOperand operand⟩

/-- Apart from keywords there are operands and operators. -/
theorem isOperand_of_keyword? {t : Token} (free : t.keyword? = none) (other : ¬ t.IsOperator) :
    t.isOperand = true := by
  unfold keyword? at free
  unfold isOperand
  cases kind : t.kind <;> simp_all [IsOperator]

theorem allAttached_keywords (front : List Token) {ts : List Token}
    (keywords : ∀ t ∈ ts, t.keyword?.isSome) : AllAttached front ts := by
  induction ts generalizing front with
  | nil => trivial
  | cons t ts ih =>
    rw [List.forall_mem_cons] at keywords
    exact ⟨fun operator => absurd operator (not_isOperator_of_keyword keywords.1), ih _ keywords.2⟩

/-- No statement goes on from the tokens in front to those behind. The former are given last first.
-/
structure Parted (front behind : List Token) : Prop where
  ended : ∀ a ∈ front.head?, ¬ (a.Opens ∨ a.IsOperator)
  loose : ∀ o ∈ behind.head?, o.IsOperator → ¬ o.Attached front

theorem parted_nil (behind : List Token) : Parted [] behind where
  ended := by simp
  loose _ _ _ attached := attached

/-- Behind a token that opens no condition and is no operator no statement goes on, unless it is the
operand that the tokens in front of it call for. -/
theorem parted_cons {t : Token} (ended : ¬ (t.Opens ∨ t.IsOperator)) {front : List Token}
    (before : t.isOperand = true → ∀ a ∈ front.head?, ¬ (a.Opens ∨ a.IsOperator))
    (behind : List Token) : Parted (t :: front) behind where
  ended := by simpa using ended
  loose o _ _ attached := by
    match front with
    | [] => exact attached
    | a :: _ => exact before attached.1 a rfl attached.2.1

end Token

/-! ## Grouping -/

namespace Statement

open Token

/-- Of the words in front of a condition the last one opens it. -/
theorem Heads.exists_opens {kind : StatementKind} {words ts : List Token}
    (h : Heads kind words ts) :
    ∃ front w, words = front ++ [w] ∧ w.Opens ∧ ∀ t ∈ front, t.keyword?.isSome := by
  cases h with
  | ifOpen word => exact ⟨[], _, rfl, .inl word, List.forall_mem_nil _⟩
  | elseIf word => exact ⟨[], _, rfl, .inr word, List.forall_mem_nil _⟩
  | divided first second => exact ⟨[_], _, rfl, .inl second, by simp [first]⟩

/-- Behind an operand of a condition exactly the attached operators are taken. The operand `x`
follows the token `a`. -/
theorem allAttached_of_reachAfter {compared : Bool} {ts taken left : List Token}
    (h : reachAfter compared ts = .complete taken left) {a x : Token} (front : List Token)
    (operand : x.isOperand = true) (opens : a.Opens ∨ a.IsOperator)
    (last : compared = decide (a.kind = .comparison)) :
    AllAttached (x :: a :: front) taken ∧ Parted (taken.reverse ++ x :: a :: front) left := by
  fun_induction reachAfter compared ts generalizing taken left a x front with
  | case1 =>
    cases h
    exact ⟨trivial, by simpa using isOperand_ended operand, by simp⟩
  | case2 => cases h
  | case3 compared operator continues y rest isOperand ih =>
    cases further : reachAfter (operator.kind = .comparison) rest with
    | complete taken' left' =>
      rw [further] at h
      cases h
      have isOperator : operator.IsOperator := continues.symm.imp And.left id
      obtain ⟨others, parted⟩ := ih further (x :: a :: front) isOperand (.inr isOperator) rfl
      refine ⟨⟨fun _ => ⟨operand, opens, ?_⟩,
        fun other => absurd other (not_isOperator_of_isOperand isOperand), others⟩, ?_⟩
      · rintro ⟨compares, compares'⟩
        rcases continues with logical | ⟨-, fresh⟩
        · simp [compares'] at logical
        · simp [fresh, compares] at last
      · simpa using parted
    | dangling =>
      rw [further] at h
      cases h
  | case4 => cases h
  | case5 compared operator rest stops =>
    cases h
    refine ⟨trivial, by simpa using isOperand_ended operand, ?_⟩
    rintro o ⟨⟩ isOperator ⟨-, -, once⟩
    rcases isOperator with compares | logical
    · refine stops (.inr ⟨compares, ?_⟩)
      rw [last]
      simpa using fun compares' => once ⟨compares', compares⟩
    · exact stops (.inl logical)

/-- What is known after a statement has been read behind the tokens in front: its operators are
attached just if it announces a condition, and then no statement goes on from it. -/
def Settled (front : List Token) (r : Statement × List Token) : Prop :=
  (AllAttached front r.1.tokens ↔ ∀ u ∈ r.1.tokens, u.IsOperator → r.1.Announces) ∧
    (AllAttached front r.1.tokens → Parted (r.1.tokens.reverse ++ front) r.2)

theorem settled_guarded {kind : StatementKind} {words : List Token} {w : Token} {ts : List Token}
    {r : Statement × List Token} (h : readGuarded kind (words ++ [w]) ts = .ok r)
    (announces : kind = .ifOpen ∨ kind = .elseIf) (opens : w.Opens)
    (keywords : ∀ t ∈ words, t.keyword?.isSome) (front : List Token) : Settled front r := by
  cases ts with
  | nil => cases h
  | cons operand rest =>
    rw [readGuarded] at h
    split at h
    · next isOperand =>
      split at h
      · next taken left reached =>
        cases h
        have other : w.kind ≠ .comparison := fun compares =>
          not_isOperator_of_keyword (opens_isSome opens) (.inl compares)
        have opening : ∀ t ∈ words ++ [w], t.keyword?.isSome :=
          List.forall_mem_append.2 ⟨keywords, by simpa using opens_isSome opens⟩
        obtain ⟨others, parted⟩ := allAttached_of_reachAfter reached (words.reverse ++ front)
          isOperand (.inl opens) (by simp [other])
        refine ⟨iff_of_true ?_ fun _ _ _ => announces, fun _ => by simpa [guarded] using parted⟩
        rw [guarded, allAttached_append]
        refine ⟨allAttached_keywords front opening, ?_, ?_⟩
        · exact fun operator => absurd operator (not_isOperator_of_isOperand isOperand)
        · simpa using others
      · cases h
    · cases h

theorem settled_literal {t : Token} {rest front : List Token} (free : t.keyword? = none)
    (parted : Parted front (t :: rest)) : Settled front (literal t, rest) := by
  by_cases operator : t.IsOperator
  · have loose : ¬ AllAttached front [t] := fun attached =>
      parted.loose t rfl operator (attached.1 operator)
    have silent : ¬ ∀ u ∈ [t], u.IsOperator → (literal t).Announces := fun announces => by
      rcases announces t (.head _) operator with kind | kind <;> cases kind
    exact ⟨iff_of_false loose silent, fun attached => absurd attached loose⟩
  · have operand := isOperand_of_keyword? free operator
    refine ⟨iff_of_true ⟨fun is => absurd is operator, trivial⟩ ?_, fun _ => ?_⟩
    · simp [literal, operator]
    · exact parted_cons (isOperand_ended operand) (fun _ => parted.ended) rest

theorem settled_bare {kind : StatementKind} {t : Token} {word : Keyword} {rest : List Token}
    (keyword : t.keyword? = some word) (alone : word.alone? = some kind)
    (front : List Token) : Settled front (bare kind t, rest) := by
  have other : ¬ t.IsOperator := not_isOperator_of_keyword (by simp [keyword])
  have silent : word ≠ .ifOpen ∧ word ≠ .elseIf := by
    constructor <;> rintro rfl <;> cases alone
  have ended : ¬ (t.Opens ∨ t.IsOperator) := by simp [Opens, keyword, silent, other]
  refine ⟨iff_of_true ⟨fun is => absurd is other, trivial⟩ ?_, fun _ => ?_⟩
  · simp [bare, other]
  · refine parted_cons ended (fun operand => ?_) rest
    rw [keyword?_of_isOperand operand] at keyword
    cases keyword

theorem settled_of_read {t : Token} {rest front : List Token} {r : Statement × List Token}
    (h : read t rest = .ok r) (parted : Parted front (t :: rest)) : Settled front r := by
  cases opened_of_read h with
  | literal free => exact settled_literal free parted
  | bare keyword alone => exact settled_bare keyword alone front
  | guarded heads _ reads =>
    obtain ⟨before, w, rfl, opens, keywords⟩ := heads.exists_opens
    exact settled_guarded reads heads.announces opens keywords front

/-- Exactly the attached operators get into conditions. -/
theorem allAttached_iff {ts : List Token} {ss : List Statement} (h : ofTokens ts = .ok ss)
    {front : List Token} (parted : Parted front ts) :
    AllAttached front ts ↔ ∀ s ∈ ss, ∀ t ∈ s.tokens, t.IsOperator → s.Announces := by
  fun_induction ofTokens ts generalizing ss front with
  | case1 =>
    cases h
    simp [AllAttached]
  | case2 => cases h
  | case3 t rest s left found _ ih =>
    obtain ⟨more, others, rfl⟩ := except_map_eq_ok.1 h
    obtain ⟨own, next⟩ := settled_of_read found parted
    rw [← read_eq_ok found, allAttached_append, List.forall_mem_cons, ← own]
    exact and_congr_right fun attached => ih others (next attached)

end Statement

/-! ## Pieces -/

open Outline

namespace Clause

mutual

def pieces : Clause → List String
  | .sql pieces => pieces
  | .choice _ _ body branches => piecesList body ++ piecesBranches branches
  | .collection _ _ body => piecesList body

def piecesList : List Clause → List String
  | [] => []
  | c :: cs => c.pieces ++ piecesList cs

def piecesBranches : List Branch → List String
  | [] => []
  | ⟨_, body⟩ :: branches => piecesList body ++ piecesBranches branches

end

end Clause

def Outline.literals (es : List Entry) : List String :=
  (es.filter fun e => e.kind = .literal).map Entry.text

theorem Outline.literals_append (es fs : List Entry) :
    literals (es ++ fs) = literals es ++ literals fs := by
  simp [literals]

theorem Outline.literals_cons {e : Entry} (other : e.kind ≠ .literal) (es : List Entry) :
    literals (e :: es) = literals es := by
  simp [literals, other]

namespace Clause

mutual

theorem literals_outline (c : Clause) : literals c.outline = c.pieces := by
  match c with
  | .sql pieces =>
    rw [outline, Clause.pieces]
    simp [literals, List.filter_map, Function.comp_def]
  | .choice _ condition body branches =>
    rw [outline, Clause.pieces, literals_cons (by simp), literals_append, literals_append,
      literals_outlineList, literals_outlineBranches, literals_cons (by simp)]
    simp [literals]
  | .collection kind _ body =>
    rw [outline, Clause.pieces, literals_cons (by cases kind <;> simp [ListKind.opening]),
      literals_append, literals_outlineList, literals_cons (by simp)]
    simp [literals]

theorem literals_outlineList (cs : List Clause) : literals (outlineList cs) = piecesList cs := by
  match cs with
  | [] => rfl
  | c :: cs =>
    rw [outlineList, piecesList, literals_append, literals_outline c, literals_outlineList cs]

theorem literals_outlineBranches (bs : List Branch) :
    literals (outlineBranches bs) = piecesBranches bs := by
  match bs with
  | [] => rfl
  | ⟨guard, body⟩ :: bs =>
    rw [outlineBranches, piecesBranches, literals_cons (by cases guard <;> simp [Guard.kind]),
      literals_append, literals_outlineList body, literals_outlineBranches bs]

end

end Clause

theorem Statement.literals_outline (around : List Open) (ss : List Statement) :
    literals (outline around ss) = (ss.filter fun s => s.kind = .literal).map content := by
  induction ss generalizing around with
  | nil => rfl
  | cons s ss ih =>
    simp only [literals] at ih
    cases kind : s.kind <;> rcases around with _ | ⟨_ | _, outer⟩ <;>
      simp [outline, kind, literals, ih]

/-- The pieces of a template are the contents of its literals. -/
theorem Compiled.piecesList_clauses {ss : List Statement} {c : Compiled}
    (h : Compiled.ofStatements ss = .ok c) :
    Clause.piecesList c.clauses =
      (ss.filter fun s => s.kind = .literal).map Statement.content := by
  obtain ⟨ns, read, clauses, -⟩ := Compiled.ofStatements_eq_ok h
  have spelled := (Node.ofStatements_eq_ok_iff.1 read).2
  rw [clauses, ← Clause.literals_outlineList, ← Node.outline_spelledAll spelled,
    Statement.literals_outline]

/-! ## Texts of operators -/

namespace Token

def operatorTexts : List (List Char) :=
  [['>'], ['<'], ['>', '='], ['<', '='], ['=', '='], ['!', '='], ['&', '&'], ['|', '|']]

theorem mem_operatorTexts {cs : List Char} :
    cs ∈ operatorTexts ↔
      TokenKind.isComparison cs = true ∨ cs = ['&', '&'] ∨ cs = ['|', '|'] := by
  simp [operatorTexts, TokenKind.isComparison, or_assoc]

theorem isMark_of_mem_operatorTexts : ∀ cs ∈ operatorTexts,
    ∀ c ∈ cs, (Lexeme.isOperatorMark c || Lexeme.isLogicalMark c) = true := by
  simp [operatorTexts, Lexeme.isOperatorMark, Lexeme.isLogicalMark]

/-- Operators can be told from operands by their texts. -/
structure Distinct (t : Token) : Prop where
  operator : t.IsOperator → t.text.toList ∈ operatorTexts
  operand : t.isOperand = true → t.text.toList ∉ operatorTexts

theorem distinct_operand {t : Token} (operand : t.isOperand = true)
    (other : t.text.toList ∉ operatorTexts) : t.Distinct where
  operator is := absurd is (not_isOperator_of_isOperand operand)
  operand _ := other

theorem distinct_operator {params : List Param} {cs ds : List Char} {c : Char}
    (mark : Lexeme.isOperatorMark c = true) (starts : cs = c :: ds) {ts : List Token}
    (h : ofLexeme params (.operator cs) = .ok ts) : ∀ t ∈ ts, t.Distinct := by
  simp only [ofLexeme] at h
  split at h
  · next compares =>
    cases h
    rw [List.forall_mem_singleton]
    refine ⟨fun _ => mem_operatorTexts.2 (.inl (by simpa using compares)), fun operand => ?_⟩
    cases operand
  · next other =>
    obtain ⟨p, -, -, rfl⟩ := reference_eq_ok h
    rw [List.forall_mem_singleton]
    refine distinct_operand rfl fun listed => ?_
    rw [String.toList_ofList, mem_operatorTexts] at listed
    rcases listed with compares | rfl | rfl
    · exact other compares
    all_goals
      cases starts
      simp [Lexeme.isOperatorMark] at mark

theorem distinct_ofLexeme {params : List Param} {l : Lexeme} (formed : l.Formed) {ts : List Token}
    (h : ofLexeme params l = .ok ts) : ∀ t ∈ ts, t.Distinct := by
  cases formed with
  | @word cs nonempty plain =>
    have other : (String.ofList cs).toList ∉ operatorTexts := by
      rw [String.toList_ofList]
      intro listed
      obtain ⟨c, ds, rfl⟩ := List.exists_cons_of_ne_nil nonempty
      have mark := isMark_of_mem_operatorTexts _ listed c (.head ds)
      obtain ⟨-, operator, logical, -⟩ := plain c (.head ds)
      simp [operator, logical] at mark
    simp only [ofLexeme] at h
    split at h
    · next kind reserved =>
      obtain ⟨comparison, logical, -⟩ := kind_of_ofReserved? reserved
      cases h
      rw [List.forall_mem_singleton]
      exact ⟨fun operator => (operator.elim comparison logical).elim, fun _ => other⟩
    · obtain ⟨p, -, -, rfl⟩ := reference_eq_ok h
      rw [List.forall_mem_singleton]
      exact distinct_operand rfl other
  | quoted plain closes =>
    cases h
    rw [List.forall_mem_singleton]
    refine distinct_operand rfl fun listed => ?_
    have mark := isMark_of_mem_operatorTexts _ listed '"' (by simp)
    exact absurd mark (by decide)
  | mark mark => exact distinct_operator mark rfl h
  | markEqual mark => exact distinct_operator mark rfl h
  | @logical c mark =>
    cases h
    rw [List.forall_mem_singleton]
    refine ⟨fun _ => mem_operatorTexts.2 (.inr ?_), fun operand => by cases operand⟩
    simp only [Lexeme.isLogicalMark, Bool.or_eq_true, decide_eq_true_eq] at mark
    rcases mark with rfl | rfl <;> simp
  | stray c =>
    cases h
    simp
  | truncated => cases h

theorem distinct_ofText {params : List Param} {template : String} {ts : List Token}
    (h : ofText params template = .ok ts) : ∀ t ∈ ts, t.Distinct := by
  have formed : ∀ l ∈ Lexeme.ofText template, l.Formed := Lexeme.formed_scan (by simp) _
  exact forall_mem_ofLexemes (fun l hl _ => distinct_ofLexeme (formed l hl)) h

end Token

/-! ## Templates -/

namespace Statement

open Token

/-- A statement is a single word of the query, or it has keywords and perhaps a condition. -/
def Sorted (s : Statement) : Prop :=
  (∃ t, t.keyword? = none ∧ s = literal t) ∨
    s.kind ≠ .literal ∧ ∀ t ∈ s.tokens, t.IsOperator → s.Announces

theorem sorted_of_ofTokens {ts : List Token} {ss : List Statement} (h : ofTokens ts = .ok ss) :
    ∀ s ∈ ss, s.Sorted := by
  refine forall_of_ofTokens h fun t rest r opened => ?_
  obtain ⟨s, left⟩ := r
  cases opened with
  | literal free => exact .inl ⟨t, free, rfl⟩
  | @bare kind word keyword alone =>
    refine .inr ⟨?_, fun u hu operator => ?_⟩
    · rintro rfl
      cases word <;> cases alone
    · obtain rfl := List.mem_singleton.1 hu
      exact absurd operator (not_isOperator_of_keyword (by simp [keyword]))
  | guarded heads _ reads =>
    obtain ⟨body, -, rfl⟩ := chained_of_readGuarded reads
    refine .inr ⟨?_, fun _ _ _ => heads.announces⟩
    rintro rfl
    simpa using heads.announces

/-- An operator outside of any condition is a word of the query by itself. -/
theorem eq_literal_of_not_announces {ts : List Token} {ss : List Statement} {s : Statement}
    {t : Token} (h : ofTokens ts = .ok ss) (hs : s ∈ ss) (ht : t ∈ s.tokens)
    (operator : t.IsOperator) (outside : ¬ s.Announces) : s = literal t := by
  rcases sorted_of_ofTokens h s hs with ⟨u, -, rfl⟩ | ⟨-, announces⟩
  · rw [List.mem_singleton.1 ht]
  · exact absurd (announces t ht operator) outside

theorem mem_literals {ss : List Statement} {t : Token} (h : literal t ∈ ss) :
    t.text ∈ (ss.filter fun s => s.kind = .literal).map content :=
  List.mem_map.2 ⟨literal t, List.mem_filter.2 ⟨h, rfl⟩, rfl⟩

/-- Where operators can be told from operands, the literals are operands just if no operator is
among them. -/
theorem literals_isOperand_iff {ts : List Token} {ss : List Statement} (h : ofTokens ts = .ok ss)
    (distinct : ∀ t ∈ ts, t.Distinct) :
    (∀ p ∈ (ss.filter fun s => s.kind = .literal).map content,
        ∃ t ∈ ts, t.isOperand = true ∧ t.text = p) ↔
      ∀ s ∈ ss, ∀ t ∈ s.tokens, t.IsOperator → s.Announces := by
  have sorted := sorted_of_ofTokens h
  have mem := mem_of_ofTokens h
  constructor
  · intro operands s hs t ht operator
    by_contra outside
    obtain rfl := eq_literal_of_not_announces h hs ht operator outside
    obtain ⟨v, hv, operand, text⟩ := operands t.text (mem_literals hs)
    have listed := (distinct t (mem _ hs t ht)).operator operator
    exact (distinct v hv).operand operand (text ▸ listed)
  · intro announced p hp
    obtain ⟨s, filtered, rfl⟩ := List.mem_map.1 hp
    obtain ⟨hs, kind⟩ := List.mem_filter.1 filtered
    rcases sorted s hs with ⟨t, free, rfl⟩ | ⟨other, -⟩
    · have plain : ¬ t.IsOperator := fun operator => by
        rcases announced _ hs t (.head _) operator with is | is <;> cases is
      exact ⟨t, mem _ hs t (.head _), isOperand_of_keyword? free plain, rfl⟩
    · exact absurd (of_decide_eq_true kind) other

end Statement

/-- For a template that compiles it is the same that all its operators are in conditions, that all
pieces of its clauses are operands, and that every operator is attached to an operand of a
condition. An operator that is in no condition is a word of the query, and a piece of a clause. -/
theorem compile_operators {params : List Param} {template : String} {c : Compiled}
    (h : compile params template = .ok c) :
    ∃ ts ss, Token.ofText params template = .ok ts ∧ Statement.ofTokens ts = .ok ss ∧
      ((∀ s ∈ ss, ∀ t ∈ s.tokens, t.IsOperator → s.Announces) ↔ Token.AllAttached [] ts) ∧
      ((∀ p ∈ Clause.piecesList c.clauses, ∃ t ∈ ts, t.isOperand = true ∧ t.text = p) ↔
        Token.AllAttached [] ts) ∧
      ∀ s ∈ ss, ∀ t ∈ s.tokens, t.IsOperator → ¬ s.Announces →
        s = .literal t ∧ t.text ∈ Clause.piecesList c.clauses := by
  obtain ⟨ts, ss, tokens, statements, compiled⟩ := compile_eq_ok h
  have attached := Statement.allAttached_iff statements (Token.parted_nil ts)
  have operands := Statement.literals_isOperand_iff statements (Token.distinct_ofText tokens)
  have pieces := Compiled.piecesList_clauses compiled
  refine ⟨ts, ss, tokens, statements, attached.symm, ?_, fun s hs t ht operator outside => ?_⟩
  · rw [pieces, operands, attached]
  · obtain rfl := Statement.eq_literal_of_not_announces statements hs ht operator outside
    exact ⟨rfl, pieces ▸ Statement.mem_literals hs⟩

/-- Two comparisons with a conjunction between them. -/
theorem compile_operators_between :
    ∃ c ts ss, compile [⟨"A", .int, false⟩] "if A > 1 && A < 9 \"a\" end" = .ok c ∧
      Token.ofText [⟨"A", .int, false⟩] "if A > 1 && A < 9 \"a\" end" = .ok ts ∧
      Statement.ofTokens ts = .ok ss ∧
      (∀ s ∈ ss, ∀ t ∈ s.tokens, t.IsOperator → s.Announces) ∧
      ∀ p ∈ Clause.piecesList c.clauses, ∃ t ∈ ts, t.isOperand = true ∧ t.text = p := by
  have compiles : (compile [⟨"A", .int, false⟩] "if A > 1 && A < 9 \"a\" end").map
      (fun _ => ()) = .ok () := by cbv
  have attached : (Token.ofText [⟨"A", .int, false⟩] "if A > 1 && A < 9 \"a\" end").map
      (fun ts => decide (Token.AllAttached [] ts)) = .ok true := by cbv
  obtain ⟨c, h, -⟩ := except_map_eq_ok.1 compiles
  obtain ⟨ts, ss, tokens, statements, conditions, operands, -⟩ := compile_operators h
  rw [tokens] at attached
  have all : Token.AllAttached [] ts := by simpa [Except.map] using attached
  exact ⟨c, ts, ss, h, tokens, statements, conditions.2 all, operands.2 all⟩

/-- A comparison outside of any condition is copied between the operands that it compares. -/
theorem exists_operator_literal :
    ∃ c ts ss, compile [] "\"a\" == \"b\"" = .ok c ∧
      Token.ofText [] "\"a\" == \"b\"" = .ok ts ∧ Statement.ofTokens ts = .ok ss ∧
      (∃ s ∈ ss, ∃ t ∈ s.tokens, t.IsOperator ∧ ¬ s.Announces) ∧
      (∃ p ∈ Clause.piecesList c.clauses, ∀ t ∈ ts, t.isOperand = true → t.text ≠ p) ∧
      c.assembly {} = ["", "generateSQL+=\"a\"+==+\"b\""] := by
  have compiles : (compile [] "\"a\" == \"b\"").map
      (fun c => (Clause.piecesList c.clauses, c.assembly {})) =
        .ok (["\"a\"", "==", "\"b\""], ["", "generateSQL+=\"a\"+==+\"b\""]) := by cbv
  have tokens : Token.ofText [] "\"a\" == \"b\"" =
      .ok [⟨.quoted, "\"a\"", false⟩, ⟨.comparison, "==", false⟩, ⟨.quoted, "\"b\"", false⟩] := by
    cbv
  have statements : Statement.ofTokens
      [⟨.quoted, "\"a\"", false⟩, ⟨.comparison, "==", false⟩, ⟨.quoted, "\"b\"", false⟩] =
        .ok [.literal ⟨.quoted, "\"a\"", false⟩, .literal ⟨.comparison, "==", false⟩,
          .literal ⟨.quoted, "\"b\"", false⟩] := by cbv
  obtain ⟨c, h, output⟩ := except_map_eq_ok.1 compiles
  obtain ⟨pieces, lines⟩ := Prod.mk.inj output
  refine ⟨c, _, _, h, tokens, statements, ⟨_, .tail _ (.head _), _, .head _, .inl rfl, ?_⟩,
    ⟨"==", by simp [pieces], by decide⟩, lines⟩
  rintro (kind | kind) <;> cases kind

end QueryTemplate
