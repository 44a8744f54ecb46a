import QueryTemplate.Proofs.Scanning
import QueryTemplate.Token.OfText

/-!
Templates written one after the other. A template that is read as a whole leaves nothing pending
but a word, so a text that starts with no part of a word is read as if it stood alone.
-/

namespace QueryTemplate

namespace Lexeme

theorem endWord_append (pending : List Char) (ls more : List Lexeme) :
    endWord pending ls ++ more = endWord pending (ls ++ more) := by
  cases pending <;> rfl

theorem mem_endWord {pending : List Char} {ls : List Lexeme} {l : Lexeme} (h : l ∈ ls) :
    l ∈ endWord pending ls := by
  cases pending with
  | nil => exact h
  | cons => exact .tail _ h

/-- A text that ends every word in front of it. -/
def EndsWord (cs : List Char) : Prop :=
  ∀ pending, scan pending cs = endWord pending (scan [] cs)

theorem endsWord_blank {c : Char} (blank : Text.isBlank c = true) (cs : List Char) :
    EndsWord (c :: cs) := by
  intro pending
  rw [scan_blank blank, scan_blank blank []]
  rfl

/-- A text that is read as a whole is read alike whatever follows its last word. -/
theorem Scans.append {pending cs rest : List Char} {ls : List Lexeme} (h : Scans pending cs ls)
    (whole : .truncated ∉ ls) (ends : EndsWord rest) :
    scan pending (cs ++ rest) = ls ++ scan [] rest := by
  induction h with
  | done pending =>
    rw [List.nil_append, ends, endWord_append]
    rfl
  | plain plain _ ih => rw [List.cons_append, scan_cons_plain plain, ih whole]
  | blank blank _ ih =>
    have tail := ih fun h => whole (mem_endWord h)
    rw [List.cons_append, scan_blank blank, tail, endWord_append]
  | quoted closing _ ih =>
    have tail := ih fun h => whole (.tail _ h)
    rw [List.cons_append, List.append_assoc, scan_quote, closing.scanQuoted, tail]
    rfl
  | mark mark other _ ih =>
    have tail := ih fun h => whole (mem_endWord (.tail _ h))
    rw [List.cons_append] at tail
    rw [List.cons_append, List.cons_append, scan_mark mark other, tail, endWord_append]
    rfl
  | markEqual mark _ ih =>
    have tail := ih fun h => whole (mem_endWord (.tail _ h))
    rw [List.cons_append, List.cons_append, scan_markEqual mark, tail, endWord_append]
    rfl
  | double mark _ ih =>
    have tail := ih fun h => whole (mem_endWord (.tail _ h))
    rw [List.cons_append, List.cons_append, scan_double mark, tail, endWord_append]
    rfl
  | stray mark other _ ih =>
    have tail := ih fun h => whole (.tail _ h)
    rw [List.cons_append] at tail
    rw [List.cons_append, List.cons_append, scan_stray mark other, tail]
    rfl
  -- these texts end where a quoted text or an operator could go on, so they are not whole
  | unclosed | lastLogical => exact absurd (.head _) whole
  | lastMark => exact absurd (mem_endWord (.head _)) whole

theorem scan_append {pending cs rest : List Char} (whole : .truncated ∉ scan pending cs)
    (ends : EndsWord rest) : scan pending (cs ++ rest) = scan pending cs ++ scan [] rest :=
  (scans pending cs).append whole ends

theorem scan_word {w rest : List Char} (nonempty : w ≠ []) (plain : ∀ c ∈ w, Plain c)
    (ends : EndsWord rest) : scan [] (w ++ rest) = .word w :: scan [] rest := by
  obtain ⟨c, cs, last⟩ := List.exists_cons_of_ne_nil (List.reverse_ne_nil_iff.2 nonempty)
  rw [scan_plain plain, List.append_nil, ends, last, endWord, ← last, List.reverse_reverse]

end Lexeme

namespace Token

variable {params : List Param}

theorem ofLexemes_append {ls : List Lexeme} {ts : List Token} (h : ofLexemes params ls = .ok ts)
    (more : List Lexeme) :
    ofLexemes params (ls ++ more) = (ofLexemes params more).map (ts ++ ·) := by
  induction ls generalizing ts with
  | nil =>
    cases h
    cases read : ofLexemes params more <;> simp [read, Except.map]
  | cons l ls ih =>
    obtain ⟨front, back, first, others, rfl⟩ := ofLexemes_cons_eq_ok h
    rw [List.cons_append, ofLexemes, first, ih others]
    cases ofLexemes params more <;> simp [bind, Except.bind, pure, Except.pure, Except.map]

theorem not_mem_truncated {ls : List Lexeme} {ts : List Token}
    (h : ofLexemes params ls = .ok ts) : .truncated ∉ ls := by
  induction ls generalizing ts with
  | nil => simp
  | cons l ls ih =>
    obtain ⟨front, back, first, others, -⟩ := ofLexemes_cons_eq_ok h
    rw [List.mem_cons, not_or]
    refine ⟨?_, ih others⟩
    rintro rfl
    cases first

/-- Behind a template with tokens, a text that ends its last word is read on its own. -/
theorem ofText_append {a b : String} {ts : List Token} (h : ofText params a = .ok ts)
    (ends : Lexeme.EndsWord b.toList) :
    ofText params (a ++ b) = (ofText params b).map (ts ++ ·) := by
  unfold ofText Lexeme.ofText at h ⊢
  rw [String.toList_append, Lexeme.scan_append (not_mem_truncated h) ends, ofLexemes_append h]

/-- A keyword between blanks, in front of a template. -/
theorem ofText_keyword (word : Keyword) (b : String) :
    ofText params (" " ++ word.name ++ " " ++ b) =
      (ofText params b).map (⟨.keyword word, word.name, false⟩ :: ·) := by
  have nonempty : word.name.toList ≠ [] := by cases word <;> decide
  have plain : ∀ c ∈ word.name.toList, Lexeme.Plain c := by
    cases word <;> simp [Keyword.name, Lexeme.Plain] <;> decide
  have reserved : TokenKind.ofReserved? word.name.toList = some (.keyword word) := by
    cases word <;> decide
  have spelled : (" " ++ word.name ++ " " ++ b).toList =
      ' ' :: (word.name.toList ++ ' ' :: b.toList) := by
    simp [String.toList_append]
  have lexemes : Lexeme.ofText (" " ++ word.name ++ " " ++ b) =
      .word word.name.toList :: Lexeme.ofText b := by
    unfold Lexeme.ofText
    rw [spelled, Lexeme.scan_blank rfl, Lexeme.endWord,
      Lexeme.scan_word nonempty plain (Lexeme.endsWord_blank rfl _), Lexeme.scan_blank rfl]
    rfl
  have first : ofLexeme params (.word word.name.toList) =
      .ok [⟨.keyword word, word.name, false⟩] := by
    simp [ofLexeme, reserved]
  unfold ofText
  rw [lexemes, ofLexemes, first]
  cases ofLexemes params (Lexeme.ofText b) <;> rfl

end Token

end QueryTemplate
