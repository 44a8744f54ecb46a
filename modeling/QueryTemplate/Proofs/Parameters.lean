import Mathlib
import QueryTemplate.Compile

/-!
Parameters that a template does not need. Words are looked up by name and the first declaration
counts, so declarations behind the others change nothing but the meaning of words that had none.
Where no name is declared twice, the order of the declarations does not matter either.
-/

namespace QueryTemplate

namespace Param

variable {ps qs : List Param} {name : String} {p : Param}

/-- What the first parameters declare, the second ones declare in the same way. -/
def Extends (ps qs : List Param) : Prop :=
  ∀ name p, find? ps name = some p → find? qs name = some p

theorem extends_append (ps extra : List Param) : Extends ps (ps ++ extra) :=
  fun _ _ found => find?_append found extra

/-- Without repeated names there is only one declaration that a lookup can find. -/
theorem find?_eq_some_iff (distinct : (ps.map Param.name).Nodup) :
    find? ps name = some p ↔ p ∈ ps ∧ p.name = name := by
  constructor
  · intro found
    exact ⟨List.mem_of_find?_eq_some found, by simpa using List.find?_some found⟩
  · rintro ⟨mem, rfl⟩
    cases found : find? ps p.name with
    | none => simpa using List.find?_eq_none.1 found p mem
    | some q =>
      have named : q.name = p.name := by simpa using List.find?_some found
      have only := List.inj_on_of_nodup_map distinct (List.mem_of_find?_eq_some found) mem named
      rw [only]

theorem find?_perm (distinct : (ps.map Param.name).Nodup) (perm : ps.Perm qs) (name : String) :
    find? qs name = find? ps name := by
  have distinct' : (qs.map Param.name).Nodup := (perm.map Param.name).nodup_iff.1 distinct
  apply Option.ext
  intro p
  rw [find?_eq_some_iff distinct, find?_eq_some_iff distinct', perm.mem_iff]

end Param

/-- The outcome is not that of a word without a meaning. -/
def Settled {α : Type} (outcome : Except Fault α) : Prop :=
  ∀ word, outcome ≠ .error (.unknownParameter word)

theorem settled_ok {α : Type} (a : α) : Settled (.ok a) :=
  fun _ h => nomatch h

namespace Settled

variable {α β : Type} {x : Except Fault α} {f : α → Except Fault β}

theorem of_bind (h : Settled (x >>= f)) : Settled x := by
  rintro word rfl
  exact h word rfl

theorem of_map {f : α → β} (h : Settled (x.map f)) : Settled x := by
  rintro word rfl
  exact h word rfl

end Settled

namespace Token

variable {ps qs : List Param}

/-! ## Further parameters -/

theorem reference_extends (wider : Param.Extends ps qs) {text : String}
    (settled : Settled (reference ps text)) : reference qs text = reference ps text := by
  unfold reference at settled ⊢
  cases found : Param.find? ps text with
  | none =>
    rw [found] at settled
    exact absurd rfl (settled text)
  | some p => rw [wider text p found]

theorem ofLexeme_extends (wider : Param.Extends ps qs) {l : Lexeme}
    (settled : Settled (ofLexeme ps l)) : ofLexeme qs l = ofLexeme ps l := by
  cases l with
  | word cs =>
    simp only [ofLexeme] at settled ⊢
    cases reserved : TokenKind.ofReserved? cs with
    | some kind => rfl
    | none =>
      rw [reserved] at settled
      simp only [reference_extends wider settled.of_map]
  | operator cs =>
    simp only [ofLexeme] at settled ⊢
    by_cases compares : TokenKind.isComparison cs = true
    · rw [if_pos compares, if_pos compares]
    · rw [if_neg compares] at settled
      rw [if_neg compares, if_neg compares, reference_extends wider settled.of_map]
  | quoted | logical | stray | truncated => rfl

/-- The lexemes are classified in turn, so a fault that is found under fewer parameters has nothing
in front of it that further ones could change. -/
theorem ofLexemes_extends (wider : Param.Extends ps qs) {ls : List Lexeme}
    (settled : Settled (ofLexemes ps ls)) : ofLexemes qs ls = ofLexemes ps ls := by
  induction ls with
  | nil => rfl
  | cons l ls ih =>
    rw [ofLexemes] at settled
    rw [ofLexemes, ofLexemes, ofLexeme_extends wider settled.of_bind]
    cases first : ofLexeme ps l with
    | error fault => rfl
    | ok front =>
      rw [first] at settled
      have others : Settled (ofLexemes ps ls) := Settled.of_bind settled
      rw [ih others]

/-! ## The same parameters in another order -/

theorem ofLexeme_congr (same : ∀ name, Param.find? qs name = Param.find? ps name) (l : Lexeme) :
    ofLexeme qs l = ofLexeme ps l := by
  have references (text : String) : reference qs text = reference ps text := by
    rw [reference, reference, same]
  cases l with
  | word cs => simp only [ofLexeme, references]
  | operator cs => simp only [ofLexeme, references]
  | quoted | logical | stray | truncated => rfl

theorem ofLexemes_congr (same : ∀ name, Param.find? qs name = Param.find? ps name)
    (ls : List Lexeme) : ofLexemes qs ls = ofLexemes ps ls := by
  induction ls with
  | nil => rfl
  | cons l ls ih => rw [ofLexemes, ofLexemes, ofLexeme_congr same, ih]

end Token

section Compile

variable {ps qs : List Param} {template : String}

/-- Only a word without a meaning can get one from further parameters. Every other outcome, the
faults included, stays as it is. -/
theorem compile_append_params (settled : Settled (compile ps template)) (extra : List Param) :
    compile (ps ++ extra) template = compile ps template := by
  have tokens : Token.ofText (ps ++ extra) template = Token.ofText ps template :=
    Token.ofLexemes_extends (Param.extends_append ps extra) settled.of_bind
  rw [compile, compile, tokens]

theorem compile_congr_params (same : ∀ name, Param.find? qs name = Param.find? ps name) :
    compile qs template = compile ps template := by
  have tokens : Token.ofText qs template = Token.ofText ps template :=
    Token.ofLexemes_congr same _
  rw [compile, compile, tokens]

end Compile

/-- What a named template comes to for a target: the clauses with the lines, or the report of what
is wrong. -/
def compileFor (target : Target) (name : String) (params : List Param) (template : String) :
    Except Report (List Clause × List String) :=
  match compile params template with
  | .ok c => .ok (c.clauses, c.assembly target)
  | .error fault => .error (fault.report name template)

/-- Parameters behind the others do not change a template that compiles without them, whatever
their names are. If no name is declared twice, the outcome is the same for every order of the
parameters. -/
theorem compileFor_params (target : Target) (name template : String) (ps : List Param) :
    (∀ result, compileFor target name ps template = .ok result →
      ∀ extra, compileFor target name (ps ++ extra) template = .ok result) ∧
    ((ps.map Param.name).Nodup → ∀ qs, ps.Perm qs →
      compileFor target name qs template = compileFor target name ps template) := by
  constructor
  · intro result h extra
    cases compiled : compile ps template with
    | error fault =>
      rw [compileFor, compiled] at h
      cases h
    | ok c =>
      have settled : Settled (compile ps template) := compiled ▸ settled_ok c
      rw [← h, compileFor, compileFor, compile_append_params settled]
  · intro distinct qs perm
    rw [compileFor, compileFor, compile_congr_params (Param.find?_perm distinct perm)]

/-- The name "A" is declared twice, and further parameters repeat it and name a keyword. Then the
two declarations of different names change their places. -/
theorem compileFor_repeatedName :
    ∃ result other,
      compileFor {} "t" [⟨"A", .int, false⟩, ⟨"A", .string, false⟩]
          "if A == 1 \"a\" end" = .ok result ∧
        compileFor {} "t" [⟨"A", .int, false⟩, ⟨"A", .string, false⟩, ⟨"A", .bool, true⟩,
          ⟨"end", .int, false⟩] "if A == 1 \"a\" end" = .ok result ∧
      compileFor {} "t" [⟨"A", .int, false⟩, ⟨"B", .int, true⟩]
          "if B != nil A B end" = .ok other ∧
        compileFor {} "t" [⟨"B", .int, true⟩, ⟨"A", .int, false⟩]
          "if B != nil A B end" = .ok other := by
  have repeated : (compileFor {} "t" [⟨"A", .int, false⟩, ⟨"A", .string, false⟩]
      "if A == 1 \"a\" end").map (fun _ => ()) = .ok () := by cbv
  have distinct : (compileFor {} "t" [⟨"A", .int, false⟩, ⟨"B", .int, true⟩]
      "if B != nil A B end").map (fun _ => ()) = .ok () := by cbv
  obtain ⟨result, h, -⟩ := except_map_eq_ok.1 repeated
  obtain ⟨other, h', -⟩ := except_map_eq_ok.1 distinct
  have swapped := (compileFor_params {} "t" "if B != nil A B end"
    [⟨"A", .int, false⟩, ⟨"B", .int, true⟩]).2 (by decide) _ (List.Perm.swap _ _ [])
  refine ⟨result, other, h, ?_, h', swapped.trans h'⟩
  exact (compileFor_params {} "t" "if A == 1 \"a\" end" _).1 result h
    [⟨"A", .bool, true⟩, ⟨"end", .int, false⟩]

end QueryTemplate
