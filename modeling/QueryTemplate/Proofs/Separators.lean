import Mathlib
import QueryTemplate.Proofs.Scanning.Append

/-!
Texts that separate others: a blank, or an operator of two marks. A template in front of one and a
text behind it are read as if each stood alone, so it makes no difference whether there are blanks
around the operator, or how many blanks there are between two tokens.
-/

namespace QueryTemplate

theorem Lexeme.scan_blanks {w : List Char} (blank : w.all Text.isBlank = true) (cs : List Char) :
    scan [] (w ++ cs) = scan [] cs := by
  induction w with
  | nil => rfl
  | cons c w ih =>
    rw [List.all_cons, Bool.and_eq_true] at blank
    rw [List.cons_append, scan_blank blank.1, endWord, ih blank.2]

namespace Token

variable {params : List Param} {text : String} {ts : List Token}

/-- The text separates what is around it, and has the tokens itself. -/
inductive Separates : String → List Token → Prop
  | blank {c : Char} (blank : Text.isBlank c = true) : Separates (String.singleton c) []
  | comparison {text : String} (operator : text ∈ [">=", "<=", "==", "!="]) :
      Separates text [⟨.comparison, text, false⟩]
  | logical {text : String} (operator : text ∈ ["&&", "||"]) :
      Separates text [⟨.logical, text, false⟩]

/-- The lexemes of a separator depend neither on the word in front of it nor on what follows. -/
theorem Separates.scan (h : Separates text ts) (params : List Param) :
    ∃ ls, ofLexemes params ls = .ok ts ∧ ∀ pending cs,
      Lexeme.scan pending (text.toList ++ cs) =
        Lexeme.endWord pending (ls ++ Lexeme.scan [] cs) := by
  cases h with
  | @blank c blank =>
    refine ⟨[], rfl, ?_⟩
    intro pending cs
    rw [String.toList_singleton]
    exact Lexeme.scan_blank blank pending cs
  | comparison operator =>
    refine ⟨[.operator text.toList], ?_, ?_⟩
    · simp only [List.mem_cons, List.not_mem_nil, or_false] at operator
      rcases operator with rfl | rfl | rfl | rfl <;> rfl
    · intro pending cs
      simp only [List.mem_cons, List.not_mem_nil, or_false] at operator
      rcases operator with rfl | rfl | rfl | rfl <;> exact Lexeme.scan_markEqual rfl pending cs
  | logical operator =>
    simp only [List.mem_cons, List.not_mem_nil, or_false] at operator
    rcases operator with rfl | rfl
    · exact ⟨[.logical '&'], rfl, Lexeme.scan_double rfl⟩
    · exact ⟨[.logical '|'], rfl, Lexeme.scan_double rfl⟩

theorem Separates.endsWord (h : Separates text ts) (cs : List Char) :
    Lexeme.EndsWord (text.toList ++ cs) := by
  obtain ⟨ls, -, scan⟩ := h.scan []
  intro pending
  rw [scan, scan, Lexeme.endWord]

theorem Separates.ofText (h : Separates text ts) (b : String) :
    ofText params (text ++ b) = (ofText params b).map (ts ++ ·) := by
  obtain ⟨ls, classified, scan⟩ := h.scan params
  rw [Token.ofText, Lexeme.ofText, String.toList_append, scan, Lexeme.endWord,
    ofLexemes_append classified]
  rfl

theorem ofText_blanks {w : String} (blank : Text.isAllBlank w = true) (b : String) :
    ofText params (w ++ b) = ofText params b := by
  rw [ofText, Lexeme.ofText, String.toList_append, Lexeme.scan_blanks blank]
  rfl

/-- Blanks at the end of a template only end its last word. -/
theorem ofText_append_blanks {a v : String} (h : ofText params a = .ok ts)
    (blank : Text.isAllBlank v = true) : ofText params (a ++ v) = .ok ts := by
  have nothing : ofText params v = .ok [] := by
    rw [← String.append_empty (s := v), ofText_blanks blank]
    rfl
  have ends : Lexeme.EndsWord v.toList := by
    unfold Text.isAllBlank at blank
    cases spelled : v.toList with
    | nil => exact fun _ => rfl
    | cons c cs =>
      rw [spelled, List.all_cons, Bool.and_eq_true] at blank
      exact Lexeme.endsWord_blank blank.1 cs
  rw [ofText_append h ends, nothing]
  simp [Except.map]

/-- With a separator behind a template, any text that follows is read as it is alone: it fails as it
does alone, and otherwise its tokens come after those of the template and of the separator. Further
blanks on either side of the separator change nothing. -/
theorem ofText_separated {a : String} {us : List Token} (h : Token.ofText params a = .ok ts)
    (separates : Separates text us) (b : String) :
    Token.ofText params (a ++ text ++ b) = (Token.ofText params b).map (ts ++ us ++ ·) ∧
      ∀ v w, Text.isAllBlank v = true → Text.isAllBlank w = true →
        Token.ofText params (a ++ v ++ text ++ w ++ b) = Token.ofText params (a ++ text ++ b) := by
  have read {a : String} (h : Token.ofText params a = .ok ts) (b : String) :
      Token.ofText params (a ++ text ++ b) = (Token.ofText params b).map (ts ++ us ++ ·) := by
    have ends : Lexeme.EndsWord (text ++ b).toList := by
      rw [String.toList_append]
      exact separates.endsWord b.toList
    rw [String.append_assoc, ofText_append h ends, separates.ofText]
    cases Token.ofText params b <;> simp [Except.map]
  refine ⟨read h b, ?_⟩
  intro v w blankBefore blankBehind
  have regrouped : a ++ v ++ text ++ w ++ b = a ++ v ++ text ++ (w ++ b) := String.append_assoc
  rw [regrouped, read (ofText_append_blanks h blankBefore), read h b, ofText_blanks blankBehind]

/-- A quote stands directly behind the operator, and a stray mark behind the quoted text. -/
theorem separated_quoted :
    ∃ ts us, Token.ofText [⟨"A", .string, false⟩] "if A" = .ok ts ∧
      Token.ofText [⟨"A", .string, false⟩] "\"x \\\" y\"&end" = .ok us ∧
      Token.ofText [⟨"A", .string, false⟩] "if A==\"x \\\" y\"&end" =
        .ok (ts ++ [⟨.comparison, "==", false⟩] ++ us) ∧
      Token.ofText [⟨"A", .string, false⟩] "if A\t ==\n\"x \\\" y\"&end" =
        .ok (ts ++ [⟨.comparison, "==", false⟩] ++ us) := by
  have front : Token.ofText [⟨"A", .string, false⟩] "if A" =
      .ok [⟨.keyword .ifOpen, "if", false⟩, ⟨.param .string, "A", false⟩] := by cbv
  have back : Token.ofText [⟨"A", .string, false⟩] "\"x \\\" y\"&end" =
      .ok [⟨.quoted, "\"x \\\" y\"", false⟩, ⟨.keyword .close, "end", false⟩] := by cbv
  have compares : Separates "==" [⟨.comparison, "==", false⟩] := .comparison (by decide)
  obtain ⟨joined, spaced⟩ := ofText_separated front compares "\"x \\\" y\"&end"
  have blanks := spaced "\t " "\n" rfl rfl
  rw [back] at joined
  refine ⟨_, _, front, back, joined, ?_⟩
  exact blanks.trans joined

end Token

end QueryTemplate
