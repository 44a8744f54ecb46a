import Mathlib
import QueryTemplate.Proofs.Scanning.Texts

/-!
What a template says. Blanks and marks that are not doubled count for nothing outside of quoted
texts, and everything else is kept: the tokens of a template have these characters, no others, and
in this order.
-/

namespace QueryTemplate

namespace Text

mutual

/-- A text without the blanks, and without the ampersands and bars that are not doubled, except for
those inside of quoted texts. Equal marks in a row are paired from the left. -/
def significant : List Char → List Char
  | [] => []
  | c :: cs =>
    if c = '"' then c :: verbatim c cs
    else if Lexeme.isLogicalMark c then
      match cs with
      | [] => []
      | d :: ds => if d = c then c :: d :: significant ds else significant (d :: ds)
    else if isBlank c then significant cs
    else c :: significant cs

/-- What is left of a quoted text behind a character, as it stands, and what counts of the text
behind it. -/
def verbatim (before : Char) : List Char → List Char
  | [] => []
  | c :: cs => if c = '"' ∧ before ≠ '\\' then c :: significant cs else c :: verbatim c cs

end

variable {c d : Char} {cs : List Char}

theorem significant_quote : significant ('"' :: cs) = '"' :: verbatim '"' cs := by
  rw [significant.eq_def]
  rfl

theorem significant_double (mark : Lexeme.isLogicalMark c = true) :
    significant (c :: c :: cs) = c :: c :: significant cs := by
  rw [significant.eq_def]
  simp [Lexeme.of_isLogicalMark mark, mark]

theorem significant_stray (mark : Lexeme.isLogicalMark c = true) (other : d ≠ c) :
    significant (c :: d :: cs) = significant (d :: cs) := by
  rw [significant.eq_def]
  simp [Lexeme.of_isLogicalMark mark, mark, other]

theorem significant_blank (blank : isBlank c = true) : significant (c :: cs) = significant cs := by
  rw [significant.eq_def]
  simp [Lexeme.of_isBlank blank, blank]

theorem significant_plain (plain : Lexeme.Plain c) :
    significant (c :: cs) = c :: significant cs := by
  obtain ⟨quote, -, logical, blank⟩ := plain
  rw [significant.eq_def]
  simp [quote, logical, blank]

theorem significant_mark (mark : Lexeme.isOperatorMark c = true) :
    significant (c :: cs) = c :: significant cs := by
  rw [significant.eq_def]
  simp [Lexeme.of_isOperatorMark mark]

theorem verbatim_closing {before : Char} {b : List Char} (h : Lexeme.Closing before b) :
    verbatim before (b ++ cs) = b ++ significant cs := by
  induction h with
  | last free => rw [List.singleton_append, verbatim, if_pos ⟨rfl, free⟩, List.singleton_append]
  | @cons before c b inside _ ih =>
    have goesOn : ¬ (c = '"' ∧ before ≠ '\\') := by
      rintro ⟨quote, free⟩
      exact free (inside quote)
    rw [List.cons_append, verbatim, if_neg goesOn, ih, List.cons_append]

end Text

namespace Lexeme

theorem flatMap_text_endWord (pending : List Char) (ls : List Lexeme) :
    (endWord pending ls).flatMap text = pending.reverse ++ ls.flatMap text := by
  cases pending <;> rfl

/-- Each character of a text gets into one lexeme or is not significant. The characters of the word
that is pending come first, also where a quoted text takes them up. -/
theorem Scans.flatMap_text {pending cs : List Char} {ls : List Lexeme} (h : Scans pending cs ls)
    (whole : .truncated ∉ ls) :
    ls.flatMap text = pending.reverse ++ Text.significant cs := by
  induction h with
  | done pending => rw [flatMap_text_endWord, Text.significant, List.flatMap_nil]
  | plain plain _ ih =>
    rw [ih whole, Text.significant_plain plain, List.reverse_cons, List.append_assoc,
      List.singleton_append]
  | blank blank _ ih =>
    have tail := ih fun h => whole (mem_endWord h)
    rw [flatMap_text_endWord, tail, Text.significant_blank blank]
    rfl
  | quoted closing _ ih =>
    have tail := ih fun h => whole (.tail _ h)
    rw [List.flatMap_cons, tail, Text.significant_quote, Text.verbatim_closing closing, text]
    simp
  | @mark pending cs c d ls mark other _ ih =>
    have tail := ih fun h => whole (mem_endWord (.tail _ h))
    rw [flatMap_text_endWord, List.flatMap_cons, tail, Text.significant_mark mark]
    rfl
  | @markEqual pending cs c ls mark _ ih =>
    have equal : Text.significant ('=' :: cs) = '=' :: Text.significant cs :=
      Text.significant_mark rfl
    have tail := ih fun h => whole (mem_endWord (.tail _ h))
    rw [flatMap_text_endWord, List.flatMap_cons, tail, Text.significant_mark mark, equal]
    rfl
  | double mark _ ih =>
    have tail := ih fun h => whole (mem_endWord (.tail _ h))
    rw [flatMap_text_endWord, List.flatMap_cons, tail, Text.significant_double mark]
    rfl
  | stray mark other _ ih =>
    have tail := ih fun h => whole (.tail _ h)
    rw [List.flatMap_cons, tail, Text.significant_stray mark other]
    rfl
  -- these texts end where a quoted text or an operator could go on, so they are not whole
  | unclosed | lastLogical => exact absurd (.head _) whole
  | lastMark => exact absurd (mem_endWord (.head _)) whole

end Lexeme

namespace Token

/-- The tokens of a template have its significant characters, one after the other. -/
theorem ofText_significant {params : List Param} {template : String} {ts : List Token}
    (h : ofText params template = .ok ts) :
    ts.flatMap (fun t => t.text.toList) = Text.significant template.toList := by
  have whole : .truncated ∉ Lexeme.ofText template := not_mem_truncated h
  rw [flatMap_text_ofLexemes h]
  exact (Lexeme.scans [] template.toList).flatMap_text whole

/-- Three marks in a row, two that differ, one inside of a word, and a quoted text behind a word,
with blanks, marks and escaped quotes in it. -/
theorem significant_glued :
    ∃ ts, ofText [⟨"A", .int, false⟩] "if A >= 1&&&A &|\t== A& x\"a & \\\"b\\\"\" e&nd" = .ok ts ∧
      ts.flatMap (fun t => t.text.toList) = "ifA>=1&&A==Ax\"a & \\\"b\\\"\"end".toList := by
  have read : (ofText [⟨"A", .int, false⟩]
      "if A >= 1&&&A &|\t== A& x\"a & \\\"b\\\"\" e&nd").map (fun _ => ()) = .ok () := by cbv
  obtain ⟨ts, tokens, -⟩ := except_map_eq_ok.1 read
  refine ⟨ts, tokens, ?_⟩
  rw [ofText_significant tokens]
  cbv

end Token

end QueryTemplate
