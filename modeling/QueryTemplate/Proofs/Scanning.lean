import QueryTemplate.Lexeme

/-!
How a text is scanned. `Lexeme.Scans` says it one lexeme at a time: what the text starts with, what
becomes of the word that is pending, and from where scanning goes on. It follows that lexemes have
certain shapes: a word has only characters that continue a word, and a quoted text is such
characters, a quote, and what closes it wherever it stands.
-/

namespace QueryTemplate

namespace Lexeme

def Plain (c : Char) : Prop :=
  c ≠ '"' ∧ isOperatorMark c = false ∧ isLogicalMark c = false ∧ Text.isBlank c = false

/-- What follows the first quote of a quoted text, through the last one. -/
def Closes (b : List Char) : Prop :=
  ∀ pending rest, scanQuoted ('"' :: pending) (b ++ rest) =
    .quoted (pending.reverse ++ '"' :: b) :: scan [] rest

inductive Formed : Lexeme → Prop
  | word {cs : List Char} (nonempty : cs ≠ []) (plain : ∀ c ∈ cs, Plain c) : Formed (.word cs)
  | quoted {p b : List Char} (plain : ∀ c ∈ p, Plain c) (closes : Closes b) :
      Formed (.quoted (p ++ '"' :: b))
  | mark {c : Char} (mark : isOperatorMark c = true) : Formed (.operator [c])
  | markEqual {c : Char} (mark : isOperatorMark c = true) : Formed (.operator [c, '='])
  | logical {c : Char} (mark : isLogicalMark c = true) : Formed (.logical c)
  | stray (c : Char) : Formed (.stray c)
  | truncated : Formed .truncated

/-! ## Characters -/

theorem of_isOperatorMark {c : Char} (mark : isOperatorMark c = true) :
    c ≠ '"' ∧ isLogicalMark c = false ∧ Text.isBlank c = false := by
  simp only [isOperatorMark, Bool.or_eq_true, decide_eq_true_eq] at mark
  rcases mark with ((rfl | rfl) | rfl) | rfl <;> decide

theorem of_isLogicalMark {c : Char} (mark : isLogicalMark c = true) :
    c ≠ '"' ∧ isOperatorMark c = false ∧ Text.isBlank c = false := by
  simp only [isLogicalMark, Bool.or_eq_true, decide_eq_true_eq] at mark
  rcases mark with rfl | rfl <;> decide

theorem of_isBlank {c : Char} (blank : Text.isBlank c = true) :
    c ≠ '"' ∧ isOperatorMark c = false ∧ isLogicalMark c = false := by
  refine ⟨?_, ?_, ?_⟩
  · rintro rfl
    exact absurd blank (by decide)
  · apply Bool.eq_false_iff.2
    intro mark
    simp [of_isOperatorMark mark] at blank
  · apply Bool.eq_false_iff.2
    intro mark
    simp [of_isLogicalMark mark] at blank

/-! ## What a text starts with -/

theorem scan_quote (pending cs : List Char) :
    scan pending ('"' :: cs) = scanQuoted ('"' :: pending) cs := by
  rw [scan.eq_def]
  rfl

theorem scan_markEqual {c : Char} (mark : isOperatorMark c = true) (pending cs : List Char) :
    scan pending (c :: '=' :: cs) = endWord pending (.operator [c, '='] :: scan [] cs) := by
  rw [scan.eq_def]
  simp [of_isOperatorMark mark, mark]

/-- A mark that no equals sign follows is an operator of its own. -/
theorem scan_mark {c d : Char} (mark : isOperatorMark c = true) (other : d ≠ '=')
    (pending cs : List Char) :
    scan pending (c :: d :: cs) = endWord pending (.operator [c] :: scan [] (d :: cs)) := by
  rw [scan.eq_def]
  simp [of_isOperatorMark mark, mark, other]

theorem scan_double {c : Char} (mark : isLogicalMark c = true) (pending cs : List Char) :
    scan pending (c :: c :: cs) = endWord pending (.logical c :: scan [] cs) := by
  rw [scan.eq_def]
  simp [of_isLogicalMark mark, mark]

/-- A mark that is not doubled leaves the word pending. -/
theorem scan_stray {c d : Char} (mark : isLogicalMark c = true) (other : d ≠ c)
    (pending cs : List Char) :
    scan pending (c :: d :: cs) = .stray c :: scan pending (d :: cs) := by
  rw [scan.eq_def]
  simp [of_isLogicalMark mark, mark, other]

theorem scan_blank {c : Char} (blank : Text.isBlank c = true) (pending cs : List Char) :
    scan pending (c :: cs) = endWord pending (scan [] cs) := by
  rw [scan.eq_def]
  simp [of_isBlank blank, blank]

theorem scan_cons_plain {c : Char} (plain : Plain c) (pending cs : List Char) :
    scan pending (c :: cs) = scan (c :: pending) cs := by
  obtain ⟨quote, operator, logical, blank⟩ := plain
  rw [scan.eq_def]
  simp [quote, operator, logical, blank]

theorem scan_plain {w : List Char} (plain : ∀ c ∈ w, Plain c) (pending cs : List Char) :
    scan pending (w ++ cs) = scan (w.reverse ++ pending) cs := by
  induction w generalizing pending with
  | nil => rfl
  | cons c w ih =>
    rw [List.forall_mem_cons] at plain
    rw [List.cons_append, scan_cons_plain plain.1, ih plain.2, List.reverse_cons, List.append_assoc,
      List.singleton_append]

/-! ## Quoted texts -/

/-- What is left of a quoted text behind a character, through the quote that closes it. -/
inductive Closing : Char → List Char → Prop
  | last {before : Char} (free : before ≠ '\\') : Closing before ['"']
  | cons {before c : Char} {b : List Char} (inside : c = '"' → before = '\\')
      (others : Closing c b) : Closing before (c :: b)

theorem Closing.scanQuoted {before : Char} {b : List Char} (h : Closing before b)
    (pending rest : List Char) : Lexeme.scanQuoted (before :: pending) (b ++ rest) =
      .quoted (pending.reverse ++ before :: b) :: scan [] rest := by
  induction h generalizing pending with
  | last free =>
    rw [List.singleton_append, Lexeme.scanQuoted, if_pos ⟨rfl, by simpa using free⟩]
    simp
  | @cons before c b inside _ ih =>
    have goesOn : ¬ (c = '"' ∧ (before :: pending).head? ≠ some '\\') := by
      rintro ⟨quote, free⟩
      exact free (congrArg some (inside quote))
    rw [List.cons_append, Lexeme.scanQuoted, if_neg goesOn, ih]
    simp

theorem Closing.closes {b : List Char} (h : Closing '"' b) : Closes b :=
  h.scanQuoted

/-- Which quote closes a quoted text depends on the last character behind it only. -/
theorem scanQuoted_cases (before : Char) (cs : List Char) :
    (∀ pending, scanQuoted (before :: pending) cs = [.truncated]) ∨
      ∃ b rest, cs = b ++ rest ∧ Closing before b := by
  induction cs generalizing before with
  | nil => exact .inl fun _ => rfl
  | cons c cs ih =>
    by_cases close : c = '"' ∧ before ≠ '\\'
    · exact .inr ⟨[c], cs, rfl, close.1 ▸ .last close.2⟩
    · rcases ih c with unclosed | ⟨b, rest, rfl, closing⟩
      · apply Or.inl
        intro pending
        rw [scanQuoted, if_neg (by simpa using close), unclosed]
      · exact .inr ⟨c :: b, rest, rfl, .cons (by simpa using close) closing⟩

/-! ## Texts -/

/-- The lexemes of a text that continues a word, by what the text starts with. -/
inductive Scans : List Char → List Char → List Lexeme → Prop
  | done (pending : List Char) : Scans pending [] (endWord pending [])
  | plain {pending cs : List Char} {c : Char} {ls : List Lexeme} (plain : Plain c)
      (others : Scans (c :: pending) cs ls) : Scans pending (c :: cs) ls
  | blank {pending cs : List Char} {c : Char} {ls : List Lexeme} (blank : Text.isBlank c = true)
      (others : Scans [] cs ls) : Scans pending (c :: cs) (endWord pending ls)
  | quoted {pending b cs : List Char} {ls : List Lexeme} (closing : Closing '"' b)
      (others : Scans [] cs ls) :
      Scans pending ('"' :: (b ++ cs)) (.quoted (pending.reverse ++ '"' :: b) :: ls)
  | mark {pending cs : List Char} {c d : Char} {ls : List Lexeme} (mark : isOperatorMark c = true)
      (other : d ≠ '=') (others : Scans [] (d :: cs) ls) :
      Scans pending (c :: d :: cs) (endWord pending (.operator [c] :: ls))
  | markEqual {pending cs : List Char} {c : Char} {ls : List Lexeme}
      (mark : isOperatorMark c = true) (others : Scans [] cs ls) :
      Scans pending (c :: '=' :: cs) (endWord pending (.operator [c, '='] :: ls))
  | double {pending cs : List Char} {c : Char} {ls : List Lexeme} (mark : isLogicalMark c = true)
      (others : Scans [] cs ls) :
      Scans pending (c :: c :: cs) (endWord pending (.logical c :: ls))
  | stray {pending cs : List Char} {c d : Char} {ls : List Lexeme} (mark : isLogicalMark c = true)
      (other : d ≠ c) (others : Scans pending (d :: cs) ls) :
      Scans pending (c :: d :: cs) (.stray c :: ls)
  | unclosed {pending cs : List Char} (unclosed : scanQuoted ('"' :: pending) cs = [.truncated]) :
      Scans pending ('"' :: cs) [.truncated]
  | lastMark {pending : List Char} {c : Char} (mark : isOperatorMark c = true) :
      Scans pending [c] (endWord pending [.truncated])
  | lastLogical {pending : List Char} {c : Char} (mark : isLogicalMark c = true) :
      Scans pending [c] [.truncated]

theorem scans (pending cs : List Char) : Scans pending cs (scan pending cs) := by
  match cs with
  | [] => exact .done pending
  | c :: cs =>
    by_cases quote : c = '"'
    · subst quote
      rw [scan_quote]
      rcases scanQuoted_cases '"' cs with unclosed | ⟨b, rest, spelled, closing⟩
      · rw [unclosed]
        exact .unclosed (unclosed pending)
      · have shorter : rest.length ≤ cs.length := by
          rw [spelled, List.length_append]
          omega
        rw [spelled, closing.scanQuoted]
        exact .quoted closing (scans [] rest)
    by_cases mark : isOperatorMark c = true
    · match cs with
      | [] =>
        rw [scan.eq_def]
        simpa only [if_neg quote, if_pos mark] using .lastMark mark
      | d :: ds =>
        by_cases equal : d = '='
        · subst equal
          rw [scan_markEqual mark]
          exact .markEqual mark (scans [] ds)
        · rw [scan_mark mark equal]
          exact .mark mark equal (scans [] (d :: ds))
    by_cases logical : isLogicalMark c = true
    · match cs with
      | [] =>
        rw [scan.eq_def]
        simpa only [if_neg quote, if_neg mark, if_pos logical] using .lastLogical logical
      | d :: ds =>
        by_cases double : d = c
        · subst double
          rw [scan_double logical]
          exact .double logical (scans [] ds)
        · rw [scan_stray logical double]
          exact .stray logical double (scans pending (d :: ds))
    by_cases blank : Text.isBlank c = true
    · rw [scan_blank blank]
      exact .blank blank (scans [] cs)
    · have plain : Plain c := ⟨quote, by simpa using mark, by simpa using logical,
        by simpa using blank⟩
      rw [scan_cons_plain plain]
      exact .plain plain (scans (c :: pending) cs)
termination_by cs.length
decreasing_by
  all_goals simp only [List.length_cons]
  all_goals omega

/-! ## Shapes -/

theorem formed_endWord {pending : List Char} {rest : List Lexeme} (plain : ∀ c ∈ pending, Plain c)
    (others : ∀ l ∈ rest, Formed l) : ∀ l ∈ endWord pending rest, Formed l := by
  cases pending with
  | nil => exact others
  | cons c pending =>
    refine List.forall_mem_cons.2 ⟨.word (by simp) fun d hd => ?_, others⟩
    exact plain d (List.mem_reverse.1 hd)

theorem Scans.formed {pending cs : List Char} {ls : List Lexeme} (h : Scans pending cs ls)
    (plain : ∀ c ∈ pending, Plain c) : ∀ l ∈ ls, Formed l := by
  have fresh : ∀ c ∈ ([] : List Char), Plain c := by simp
  induction h with
  | done => exact formed_endWord plain (by simp)
  | plain continues _ ih => exact ih (List.forall_mem_cons.2 ⟨continues, plain⟩)
  | blank _ _ ih => exact formed_endWord plain (ih fresh)
  | quoted closing _ ih =>
    refine List.forall_mem_cons.2 ⟨.quoted (fun d hd => ?_) closing.closes, ih fresh⟩
    exact plain d (List.mem_reverse.1 hd)
  | mark mark _ _ ih => exact formed_endWord plain (List.forall_mem_cons.2 ⟨.mark mark, ih fresh⟩)
  | markEqual mark _ ih =>
    exact formed_endWord plain (List.forall_mem_cons.2 ⟨.markEqual mark, ih fresh⟩)
  | double mark _ ih =>
    exact formed_endWord plain (List.forall_mem_cons.2 ⟨.logical mark, ih fresh⟩)
  | stray _ _ _ ih => exact List.forall_mem_cons.2 ⟨.stray _, ih plain⟩
  | unclosed | lastLogical => simpa using .truncated
  | lastMark => exact formed_endWord plain (by simpa using .truncated)

theorem formed_scan {pending : List Char} (plain : ∀ c ∈ pending, Plain c) (cs : List Char) :
    ∀ l ∈ scan pending cs, Formed l :=
  (scans pending cs).formed plain

end Lexeme

end QueryTemplate
