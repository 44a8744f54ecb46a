import Mathlib
import QueryTemplate.Proofs.Scanning.Append
import QueryTemplate.Proofs.Scanning.Quoted
import QueryTemplate.Proofs.Scanning.Texts

/-!
Quoted texts and the words in front of them. What is pending when a quote opens a quoted text comes
to belong to it. So a token is a quoted literal, and a word is looked up, just where no word is
written directly in front of a quote; marks that are dropped do not part the two.
-/

namespace QueryTemplate

namespace Lexeme

/-! ## Words in front of quotes -/

/-- A quoted text that starts with something else than its quote. -/
def Prefixed : Lexeme → Prop
  | quoted cs => cs.head? ≠ some '"'
  | word _ | operator _ | logical _ | stray _ | truncated => False

theorem prefixed_quoted {p : List Char} (plain : ∀ c ∈ p, Plain c) (b : List Char) :
    Prefixed (.quoted (p ++ '"' :: b)) ↔ p ≠ [] := by
  cases p with
  | nil => simp [Prefixed]
  | cons c p => simpa [Prefixed] using (plain c (.head _)).1

/-- The word that a lexeme starts with: all of a word, and what stands in front of a quote. -/
def bare : Lexeme → List Char
  | word cs => cs
  | quoted cs => cs.takeWhile (· ≠ '"')
  | operator _ | logical _ | stray _ | truncated => []

/-- A text that closes every quoted text that it opens. -/
inductive Outside : List Char → Prop
  | nil : Outside []
  | cons {c : Char} {cs : List Char} (other : c ≠ '"') (others : Outside cs) : Outside (c :: cs)
  | quoted {b cs : List Char} (closing : Closing '"' b) (others : Outside cs) :
      Outside ('"' :: (b ++ cs))

/-- A text with a quote in front, or with marks that are dropped and then a quote. -/
inductive Meets : List Char → Prop
  | quote (cs : List Char) : Meets ('"' :: cs)
  | stray {c d : Char} {cs : List Char} (mark : isLogicalMark c = true) (other : d ≠ c)
      (others : Meets (d :: cs)) : Meets (c :: d :: cs)

/-- Somewhere a word is written directly in front of a quote. -/
def Glued (cs : List Char) : Prop :=
  ∃ front c back, cs = front ++ c :: back ∧ Outside front ∧ Plain c ∧ Meets back

variable {c d : Char} {cs : List Char}

theorem not_meets (quote : c ≠ '"') (mark : isLogicalMark c = false) : ¬ Meets (c :: cs) := by
  intro h
  cases h with
  | quote => exact quote rfl
  | stray is => exact absurd is (by simp [mark])

theorem not_meets_double (mark : isLogicalMark c = true) : ¬ Meets (c :: c :: cs) := by
  intro h
  cases h with
  | quote => exact absurd mark (by decide)
  | stray _ other => exact other rfl

theorem meets_stray (mark : isLogicalMark c = true) (other : d ≠ c) :
    Meets (c :: d :: cs) ↔ Meets (d :: cs) := by
  constructor
  · intro h
    cases h with
    | quote => exact absurd mark (by decide)
    | stray _ _ others => exact others
  · exact .stray mark other

theorem not_glued_nil : ¬ Glued [] := by
  rintro ⟨front, c, back, whole, -⟩
  simp at whole

theorem glued_cons (quote : c ≠ '"') : Glued (c :: cs) ↔ Plain c ∧ Meets cs ∨ Glued cs := by
  constructor
  · rintro ⟨front, d, back, whole, outside, plain, meets⟩
    cases outside with
    | nil =>
      obtain ⟨rfl, rfl⟩ := List.cons.inj whole
      exact .inl ⟨plain, meets⟩
    | cons _ others =>
      obtain ⟨-, rfl⟩ := List.cons.inj whole
      exact .inr ⟨_, d, back, rfl, others, plain, meets⟩
    | quoted => exact absurd (List.cons.inj whole).1 quote
  · rintro (⟨plain, meets⟩ | ⟨front, d, back, rfl, outside, plain, meets⟩)
    · exact ⟨[], c, cs, rfl, .nil, plain, meets⟩
    · exact ⟨c :: front, d, back, rfl, .cons quote outside, plain, meets⟩

theorem glued_cons_of_not_plain (quote : c ≠ '"') (other : ¬ Plain c) :
    Glued (c :: cs) ↔ Glued cs := by
  rw [glued_cons quote, or_iff_right fun h => other h.1]

theorem glued_quoted {b : List Char} (closing : Closing '"' b) :
    Glued ('"' :: (b ++ cs)) ↔ Glued cs := by
  constructor
  · rintro ⟨front, d, back, whole, outside, plain, meets⟩
    cases outside with
    | nil => exact absurd (List.cons.inj whole).1.symm plain.1
    | cons other _ => exact absurd (List.cons.inj whole).1.symm other
    | quoted closing' others =>
      rw [List.cons_append, List.cons_inj_right, List.append_assoc] at whole
      obtain ⟨-, rfl⟩ := closing.unique closing' whole
      exact ⟨_, d, back, rfl, others, plain, meets⟩
  · rintro ⟨front, d, back, rfl, outside, plain, meets⟩
    exact ⟨'"' :: (b ++ front), d, back, by simp, .quoted closing outside, plain, meets⟩

/-- A word is glued to a quote, with some characters of the first word in front of the text. -/
def Joins (pending cs : List Char) : Prop :=
  pending ≠ [] ∧ Meets cs ∨ Glued cs

variable {pending : List Char}

theorem joins_nil : Joins [] cs ↔ Glued cs :=
  or_iff_right fun h => h.1 rfl

theorem joins_plain (plain : Plain c) : Joins pending (c :: cs) ↔ Joins (c :: pending) cs := by
  rw [Joins, or_iff_right fun h => not_meets plain.1 plain.2.2.1 h.2, glued_cons plain.1, Joins,
    and_iff_right plain, and_iff_right (List.cons_ne_nil c pending)]

/-- A character that ends the word in front, or that is no part of any, starts anew. -/
theorem joins_cons (quote : c ≠ '"') (other : ¬ Plain c) (apart : ¬ Meets (c :: cs)) :
    Joins pending (c :: cs) ↔ Joins [] cs := by
  rw [Joins, or_iff_right fun h => apart h.2, glued_cons_of_not_plain quote other, joins_nil]

theorem joins_mark (mark : isOperatorMark c = true) : Joins pending (c :: cs) ↔ Joins [] cs := by
  obtain ⟨quote, logical, -⟩ := of_isOperatorMark mark
  exact joins_cons quote (fun plain => by simp [plain.2.1] at mark) (not_meets quote logical)

theorem joins_blank (blank : Text.isBlank c = true) : Joins pending (c :: cs) ↔ Joins [] cs := by
  obtain ⟨quote, -, logical⟩ := of_isBlank blank
  exact joins_cons quote (fun plain => by simp [plain.2.2.2] at blank) (not_meets quote logical)

theorem not_plain_of_isLogicalMark (mark : isLogicalMark c = true) : ¬ Plain c :=
  fun plain => by simp [plain.2.2.1] at mark

theorem joins_double (mark : isLogicalMark c = true) :
    Joins pending (c :: c :: cs) ↔ Joins [] cs := by
  have quote := (of_isLogicalMark mark).1
  have other := not_plain_of_isLogicalMark mark
  rw [joins_cons quote other (not_meets_double mark), joins_nil,
    glued_cons_of_not_plain quote other, joins_nil]

theorem joins_stray (mark : isLogicalMark c = true) (other : d ≠ c) :
    Joins pending (c :: d :: cs) ↔ Joins pending (d :: cs) := by
  rw [Joins, Joins, meets_stray mark other,
    glued_cons_of_not_plain (of_isLogicalMark mark).1 (not_plain_of_isLogicalMark mark)]

theorem joins_quoted {b : List Char} (closing : Closing '"' b) :
    Joins pending ('"' :: (b ++ cs)) ↔ pending ≠ [] ∨ Joins [] cs := by
  rw [Joins, and_iff_left (Meets.quote _), glued_quoted closing, joins_nil]

/-! ## Scanning -/

/-- The lexemes tell whether a word is glued to a quote, unless the text breaks off. -/
structure Tells (ls : List Lexeme) (glued : Prop) : Prop where
  sound : (∃ l ∈ ls, l.Prefixed) → glued
  complete : .truncated ∉ ls → glued → ∃ l ∈ ls, l.Prefixed

namespace Tells

variable {ls : List Lexeme} {glued : Prop}

theorem nil (apart : ¬ glued) : Tells [] glued :=
  ⟨by simp, fun _ h => absurd h apart⟩

/-- Nothing is told of a text that breaks off. -/
theorem truncated : Tells [.truncated] glued :=
  ⟨by simp [Prefixed], fun whole => absurd (.head _) whole⟩

theorem cons (h : Tells ls glued) {l : Lexeme} (plain : ¬ l.Prefixed) : Tells (l :: ls) glued := by
  constructor
  · rintro ⟨l', hl, is⟩
    rcases List.mem_cons.1 hl with rfl | hl
    · exact absurd is plain
    · exact h.sound ⟨l', hl, is⟩
  · intro whole is
    obtain ⟨l', hl, is⟩ := h.complete (fun hl => whole (.tail _ hl)) is
    exact ⟨l', .tail _ hl, is⟩

theorem quoted (h : Tells ls glued) {pending : List Char} (plain : ∀ c ∈ pending, Plain c)
    (b : List Char) :
    Tells (.quoted (pending.reverse ++ '"' :: b) :: ls) (pending ≠ [] ∨ glued) := by
  have first : Prefixed (.quoted (pending.reverse ++ '"' :: b)) ↔ pending ≠ [] := by
    rw [prefixed_quoted (fun c hc => plain c (List.mem_reverse.1 hc)), ne_eq,
      List.reverse_eq_nil_iff]
  constructor
  · rintro ⟨l, hl, is⟩
    rcases List.mem_cons.1 hl with rfl | hl
    · exact .inl (first.1 is)
    · exact .inr (h.sound ⟨l, hl, is⟩)
  · rintro whole (some_pending | is)
    · exact ⟨_, .head _, first.2 some_pending⟩
    · obtain ⟨l, hl, is⟩ := h.complete (fun hl => whole (.tail _ hl)) is
      exact ⟨l, .tail _ hl, is⟩

theorem endWord (h : Tells ls glued) (pending : List Char) :
    Tells (Lexeme.endWord pending ls) glued := by
  cases pending with
  | nil => exact h
  | cons => exact h.cons id

end Tells

variable {ls : List Lexeme}

/-- What is scanned tells whether the word that is pending, or one behind it, is glued to a quote.
-/
theorem Scans.tells (h : Scans pending cs ls) (plain : ∀ c ∈ pending, Plain c) :
    Tells ls (Joins pending cs) := by
  have fresh : ∀ c ∈ ([] : List Char), Plain c := by simp
  induction h with
  | done pending =>
    refine (Tells.nil ?_).endWord pending
    rintro (⟨-, meets⟩ | glued)
    · cases meets
    · exact not_glued_nil glued
  | plain continues _ ih =>
    rw [joins_plain continues]
    exact ih (List.forall_mem_cons.2 ⟨continues, plain⟩)
  | blank blank _ ih =>
    rw [joins_blank blank]
    exact (ih fresh).endWord _
  | quoted closing _ ih =>
    rw [joins_quoted closing]
    exact (ih fresh).quoted plain _
  | mark mark other _ ih =>
    rw [joins_mark mark]
    exact ((ih fresh).cons id).endWord _
  | markEqual mark _ ih =>
    rw [joins_mark mark, joins_mark rfl]
    exact ((ih fresh).cons id).endWord _
  | double mark _ ih =>
    rw [joins_double mark]
    exact ((ih fresh).cons id).endWord _
  | stray mark other _ ih =>
    rw [joins_stray mark other]
    exact (ih plain).cons id
  | unclosed => exact .truncated
  | lastMark => exact Tells.truncated.endWord _
  | lastLogical => exact .truncated

/-- A lexeme that starts with a word is that word, unless it is a quoted text behind one. -/
theorem eq_word_of_not_prefixed {l : Lexeme} (apart : ¬ l.Prefixed) (nonempty : l.bare ≠ []) :
    l = .word l.bare := by
  cases l with
  | word cs => rfl
  | quoted cs =>
    have starts : cs.head? = some '"' := by simpa [Prefixed] using apart
    cases cs with
    | nil => cases starts
    | cons c cs =>
      obtain rfl := Option.some.inj starts
      exact absurd rfl nonempty
  | operator | logical | stray | truncated => exact absurd rfl nonempty

end Lexeme

namespace Token

/-- A text in quotes, where every further quote stands behind a backslash. -/
def IsLiteral (cs : List Char) : Prop :=
  ∃ content, cs = '"' :: (content ++ ['"']) ∧
    ∀ front back, content = front ++ '"' :: back → front.getLast? = some '\\'

/-- A quoted text is a literal just if it starts with its quote. -/
theorem isLiteral_iff {p b : List Char} (plain : ∀ c ∈ p, Lexeme.Plain c)
    (closes : Lexeme.Closes b) : IsLiteral (p ++ '"' :: b) ↔ p = [] := by
  constructor
  · rintro ⟨content, whole, -⟩
    cases p with
    | nil => rfl
    | cons c p => exact absurd (List.cons.inj whole).1 (plain c (.head _)).1
  · rintro rfl
    have closing := closes.closing
    obtain ⟨content, rfl⟩ := closing.exists_content
    refine ⟨content, rfl, ?_⟩
    rintro front back rfl
    rw [List.append_assoc] at closing
    induction front using List.reverseRecOn with
    | nil => exact absurd ((closing.of_cons (by simp)).1 rfl) (by decide)
    | append_singleton front c _ =>
      rw [List.append_assoc] at closing
      rw [List.getLast?_concat]
      exact congrArg some (((closing.of_append (by simp)).of_cons (by simp)).1 rfl)

variable {params : List Param}

theorem forall_quoted_ofLexeme {P : List Char → Prop} {l : Lexeme} {ts : List Token}
    (h : ofLexeme params l = .ok ts) :
    (∀ t ∈ ts, t.kind = .quoted → P t.text.toList) ↔ ∀ cs, .quoted cs = l → P cs := by
  cases classified h with
  | reserved reserved => simp [(kind_of_ofReserved? reserved).2.2]
  | named | quoted | comparison | namedOperator | logical | stray => simp

/-- The quoted tokens are the quoted texts that were scanned. -/
theorem forall_quoted_iff {P : List Char → Prop} {ls : List Lexeme} {ts : List Token}
    (h : ofLexemes params ls = .ok ts) :
    (∀ t ∈ ts, t.kind = .quoted → P t.text.toList) ↔ ∀ cs, .quoted cs ∈ ls → P cs := by
  induction ls generalizing ts with
  | nil =>
    cases h
    simp
  | cons l ls ih =>
    obtain ⟨front, back, first, others, rfl⟩ := ofLexemes_cons_eq_ok h
    rw [List.forall_mem_append, forall_quoted_ofLexeme first, ih others]
    simp only [List.mem_cons, or_imp, forall_and]

/-- The tokens of a lexeme are among those of the template. -/
theorem exists_subset_of_mem {ls : List Lexeme} {ts : List Token}
    (h : ofLexemes params ls = .ok ts) {l : Lexeme} (hl : l ∈ ls) :
    ∃ us, ofLexeme params l = .ok us ∧ us ⊆ ts := by
  induction ls generalizing ts with
  | nil => cases hl
  | cons l' ls ih =>
    obtain ⟨front, back, first, others, rfl⟩ := ofLexemes_cons_eq_ok h
    rcases List.mem_cons.1 hl with rfl | hl
    · exact ⟨front, first, List.subset_append_left front back⟩
    · obtain ⟨us, read, subset⟩ := ih others hl
      exact ⟨us, read, List.Subset.trans subset (List.subset_append_right front back)⟩

variable {template : String}

theorem tells_ofText (template : String) :
    Lexeme.Tells (Lexeme.ofText template) (Lexeme.Glued template.toList) := by
  have tells := (Lexeme.scans [] template.toList).tells (List.forall_mem_nil _)
  rwa [Lexeme.joins_nil] at tells

/-- The quoted tokens of a template are literals just if no word is glued to a quote. -/
theorem forall_isLiteral_iff {ts : List Token} (h : ofText params template = .ok ts) :
    (∀ t ∈ ts, t.kind = .quoted → IsLiteral t.text.toList) ↔ ¬ Lexeme.Glued template.toList := by
  have tells := tells_ofText template
  have glued : Lexeme.Glued template.toList ↔ ∃ l ∈ Lexeme.ofText template, l.Prefixed :=
    ⟨tells.complete (not_mem_truncated h), tells.sound⟩
  have formed : ∀ l ∈ Lexeme.ofText template, l.Formed := Lexeme.formed_scan (by simp) _
  have literal {cs : List Char} (hl : .quoted cs ∈ Lexeme.ofText template) :
      IsLiteral cs ↔ ¬ Lexeme.Prefixed (.quoted cs) := by
    cases formed _ hl with
    | quoted plain closes =>
      rw [isLiteral_iff plain closes, Lexeme.prefixed_quoted plain, not_not]
  rw [forall_quoted_iff h, glued]
  constructor
  · rintro all ⟨l, hl, is⟩
    cases l with
    | quoted cs => exact (literal hl).1 (all cs hl) is
    | word | operator | logical | stray | truncated => exact is
  · exact fun none cs hl => (literal hl).2 fun is => none ⟨_, hl, is⟩

/-- A word without a meaning is a fault, unless an earlier lexeme is one. -/
theorem ofText_unknown {front back : List Lexeme} {cs : List Char} {us : List Token}
    (lexemes : Lexeme.ofText template = front ++ .word cs :: back)
    (known : ofLexemes params front = .ok us) (reserved : TokenKind.ofReserved? cs = none)
    (undeclared : Param.find? params (String.ofList cs) = none) :
    ofText params template = .error (.unknownParameter (String.ofList cs)) := by
  have word : ofLexeme params (.word cs) = .error (.unknownParameter (String.ofList cs)) := by
    simp only [ofLexeme, reserved, reference, undeclared]
    rfl
  rw [ofText, lexemes, ofLexemes_append known, ofLexemes, word]
  rfl

/-- Every quoted token is one literal just if no word is written directly in front of a quote.
Then every word outside of quotes is a token of its own, and a word that is neither reserved nor
declared is reported as an unknown parameter. -/
theorem ofText_literals (params : List Param) (template : String) :
    (∀ ts, ofText params template = .ok ts →
      ((∀ t ∈ ts, t.kind = .quoted → IsLiteral t.text.toList) ↔
        ¬ Lexeme.Glued template.toList)) ∧
    (¬ Lexeme.Glued template.toList → ∀ front l back,
      Lexeme.ofText template = front ++ l :: back → l.bare ≠ [] →
        (∀ ts, ofText params template = .ok ts →
          ∃ t ∈ ts, ofLexeme params (.word l.bare) = .ok [t]) ∧
        ∀ us, ofLexemes params front = .ok us → TokenKind.ofReserved? l.bare = none →
          Param.find? params (String.ofList l.bare) = none →
            ofText params template = .error (.unknownParameter (String.ofList l.bare))) := by
  refine ⟨fun ts => forall_isLiteral_iff, fun apart front l back lexemes nonempty => ?_⟩
  have mem : l ∈ Lexeme.ofText template := by simp [lexemes]
  have notPrefixed : ¬ l.Prefixed := fun is => apart ((tells_ofText template).sound ⟨l, mem, is⟩)
  have word := Lexeme.eq_word_of_not_prefixed notPrefixed nonempty
  rw [word] at lexemes mem
  refine ⟨fun ts h => ?_, fun us known => ofText_unknown lexemes known⟩
  obtain ⟨us, read, subset⟩ := exists_subset_of_mem h mem
  rcases ofLexeme_eq_ok read with ⟨none, -⟩ | ⟨t, rfl, -⟩
  · exact absurd none nonempty
  · exact ⟨t, subset (.head _), read⟩

/-- A literal with an escaped quote between two words, of which the second one may be declared. -/
theorem ofText_literals_escaped :
    ∃ ts, ofText [⟨"A", .int, false⟩, ⟨"B", .int, false⟩] "A \"x\\\"\" B" = .ok ts ∧
      ¬ Lexeme.Glued "A \"x\\\"\" B".toList ∧
      (∃ t ∈ ts, ofLexeme [⟨"A", .int, false⟩, ⟨"B", .int, false⟩] (.word ['B']) = .ok [t]) ∧
      ofText [⟨"A", .int, false⟩] "A \"x\\\"\" B" = .error (.unknownParameter "B") := by
  have tokens : ofText [⟨"A", .int, false⟩, ⟨"B", .int, false⟩] "A \"x\\\"\" B" =
      .ok [⟨.param .int, "A", false⟩, ⟨.quoted, "\"x\\\"\"", false⟩,
        ⟨.param .int, "B", false⟩] := by
    cbv
  have literal : IsLiteral "\"x\\\"\"".toList := by
    have closing : Lexeme.Closing '"' ['x', '\\', '"', '"'] := by decide
    exact (isLiteral_iff (List.forall_mem_nil _) closing.closes).2 rfl
  have apart : ¬ Lexeme.Glued "A \"x\\\"\" B".toList := by
    refine ((ofText_literals _ _).1 _ tokens).1 ?_
    simpa using literal
  have lexemes : Lexeme.ofText "A \"x\\\"\" B" =
      [.word ['A'], .quoted "\"x\\\"\"".toList] ++ .word ['B'] :: [] := by cbv
  have read : ofLexemes [⟨"A", .int, false⟩] [.word ['A'], .quoted "\"x\\\"\"".toList] =
      .ok [⟨.param .int, "A", false⟩, ⟨.quoted, "\"x\\\"\"", false⟩] := by cbv
  refine ⟨_, tokens, apart, ?_, ?_⟩
  · exact ((ofText_literals _ _).2 apart _ _ _ lexemes (by decide)).1 _ tokens
  · exact ((ofText_literals _ _).2 apart _ _ _ lexemes (by decide)).2 _ read (by cbv) rfl

/-- The word has no meaning, and it is no literal. -/
theorem not_isLiteral_glued :
    ofText [] "abc\"x\"" = .ok [⟨.quoted, "abc\"x\"", false⟩] ∧
      ¬ IsLiteral "abc\"x\"".toList ∧ TokenKind.ofReserved? "abc".toList = none ∧
      Param.find? [] "abc" = none := by
  refine ⟨by cbv, ?_, by cbv, rfl⟩
  rintro ⟨content, whole, -⟩
  exact absurd (List.cons.inj whole).1 (by decide)

end Token

end QueryTemplate
