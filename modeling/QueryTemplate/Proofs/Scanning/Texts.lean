import QueryTemplate.Proofs.Scanning.Append
import QueryTemplate.Proofs.TokenText

/-!
The texts of lexemes. Whatever is classified becomes one token, which has the text of its lexeme,
and a mark that stands alone becomes none. A lexeme that is written again is scanned as it was,
with one exception: a mark at the end of a text could still go on.
-/

namespace QueryTemplate

namespace Lexeme

def text : Lexeme → List Char
  | .word cs | .quoted cs | .operator cs => cs
  | .logical c => [c, c]
  | .stray _ | .truncated => []

/-- A lexeme with a text is scanned again, if what follows starts with no part of it. -/
theorem scan_text {l : Lexeme} (formed : l.Formed) (kept : l.text ≠ []) {rest : List Char}
    (ends : EndsWord rest) (further : ∀ c, l = .operator [c] → ∃ d ds, rest = d :: ds ∧ d ≠ '=') :
    scan [] (l.text ++ rest) = l :: scan [] rest := by
  cases formed with
  | word nonempty plain => exact scan_word nonempty plain ends
  | @quoted p b plain closes =>
    show scan [] ((p ++ '"' :: b) ++ rest) = _
    rw [List.append_assoc, scan_plain plain, List.append_nil, List.cons_append, scan_quote, closes,
      List.reverse_reverse]
  | @mark c mark =>
    obtain ⟨d, ds, rfl, other⟩ := further c rfl
    exact scan_mark mark other [] ds
  | markEqual mark => exact scan_markEqual mark [] rest
  | logical mark => exact scan_double mark [] rest
  | stray | truncated => exact absurd rfl kept

end Lexeme

namespace Token

variable {params : List Param} {l : Lexeme}

theorem ofLexeme_eq_ok {ts : List Token} (h : ofLexeme params l = .ok ts) :
    (l.text = [] ∧ ts = []) ∨ ∃ t, ts = [t] ∧ t.text.toList = l.text := by
  cases classified h with
  | reserved | named | quoted | comparison | namedOperator | logical =>
    exact .inr ⟨_, rfl, String.toList_ofList⟩
  | stray => exact .inl ⟨rfl, rfl⟩

/-- The tokens of a template have the texts of its lexemes. -/
theorem flatMap_text_ofLexemes {ls : List Lexeme} {ts : List Token}
    (h : ofLexemes params ls = .ok ts) :
    ts.flatMap (fun t => t.text.toList) = ls.flatMap Lexeme.text := by
  induction ls generalizing ts with
  | nil =>
    cases h
    rfl
  | cons l ls ih =>
    obtain ⟨front, back, first, others, rfl⟩ := ofLexemes_cons_eq_ok h
    rw [List.flatMap_append, List.flatMap_cons, ih others]
    rcases ofLexeme_eq_ok first with ⟨none, rfl⟩ | ⟨t, rfl, text⟩
    · rw [none, List.flatMap_nil]
    · rw [List.flatMap_singleton, text]

end Token

end QueryTemplate
