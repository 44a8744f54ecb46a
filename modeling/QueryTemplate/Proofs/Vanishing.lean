import Mathlib
import QueryTemplate.Proofs.Parts
import QueryTemplate.Proofs.Rescanning
import QueryTemplate.Proofs.Seams
import QueryTemplate.Proofs.Serialization
import QueryTemplate.Proofs.Shape

/-!
Expressions of which nothing is left. A quoted plus sign has the form of a seam, so an expression
that is nothing else is dropped. The expression of a branch is gone through twice: the first time
empty literals melt into a literal behind them, and what is left may be a quoted plus sign.
-/

namespace QueryTemplate

namespace Text

theorem dropSeams_plus (u : List Char) : dropSeams ('+' :: u) = '+' :: dropSeams u :=
  dropSeams_cons_of_ne (by decide) u

/-- Nothing is left of a text just if it is made of seams. -/
theorem dropSeams_eq_nil_iff {cs : List Char} :
    dropSeams cs = [] ↔ cs = [] ∨ ∃ v, cs = '"' :: '+' :: '"' :: v ∧ dropSeams v = [] := by
  constructor
  · intro none
    rcases cs with _ | ⟨c, cs⟩
    · exact .inl rfl
    · by_cases seam : ∃ v, c :: cs = '"' :: '+' :: '"' :: v
      · obtain ⟨v, starts⟩ := seam
        rw [starts, dropSeams] at none
        exact .inr ⟨v, starts, none⟩
      · rw [dropSeams_cons fun v starts => seam ⟨v, starts⟩] at none
        cases none
  · rintro (rfl | ⟨v, rfl, none⟩)
    · rfl
    · rw [dropSeams, none]

theorem dropSeams_quote_eq_nil_iff {cs : List Char} :
    dropSeams ('"' :: cs) = [] ↔ ∃ v, cs = '+' :: '"' :: v ∧ dropSeams v = [] := by
  rw [dropSeams_eq_nil_iff]
  simp

/-- No other character than a quote or a plus sign is dropped. -/
theorem mem_dropSeams {c : Char} (quote : c ≠ '"') (plus : c ≠ '+') {cs : List Char}
    (h : c ∈ cs) : c ∈ dropSeams cs := by
  fun_induction dropSeams cs with
  | case1 cs ih =>
    apply ih
    simpa [quote, plus] using h
  | case2 d cs _ ih =>
    rcases List.mem_cons.1 h with rfl | others
    · exact .head _
    · exact .tail _ (ih others)
  | case3 => exact h

/-- How the text of a token can start, as far as seams are concerned: it is an empty literal or a
quoted plus sign, it has something else behind its first quote, or it does not start with one. -/
inductive Starts : List Char → Prop
  | empty : Starts ['"', '"']
  | plus : Starts ['"', '+', '"']
  | quoted {d : Char} (quote : d ≠ '"') (plus : d ≠ '+') (q : List Char) : Starts ('"' :: d :: q)
  | behindPlus {d : Char} (quote : d ≠ '"') (q : List Char) : Starts ('"' :: '+' :: d :: q)
  | word {d : Char} (quote : d ≠ '"') (q : List Char) : Starts (d :: q)

theorem starts_of_closing {b : List Char} (h : Lexeme.Closing '"' b) : Starts ('"' :: b) := by
  cases h with
  | last => exact .empty
  | @cons _ c _ inside others =>
    have quote : c ≠ '"' := fun is => absurd (inside is) (by decide)
    by_cases plus : c = '+'
    · subst plus
      cases others with
      | last => exact .plus
      | cons inside => exact .behindPlus (fun is => absurd (inside is) (by decide)) _
    · exact .quoted quote plus _

def behind (ps : List String) : List Char :=
  ps.flatMap fun p => '+' :: p.toList

theorem behind_cons (p : String) (ps : List String) :
    behind (p :: ps) = '+' :: (p.toList ++ behind ps) :=
  rfl

theorem behind_eq_nil_iff {ps : List String} : behind ps = [] ↔ ps = [] := by
  cases ps <;> simp [behind]

theorem toList_eq_empty_iff {p : String} : p.toList = ['"', '"'] ↔ p = "\"\"" := by
  rw [← String.toList_inj]
  rfl

theorem toList_eq_plus_iff {p : String} : p.toList = ['"', '+', '"'] ↔ p = "\"+\"" := by
  rw [← String.toList_inj]
  rfl

theorem follows_behind (ps : List String) : Follows (behind ps) := by
  cases ps with
  | nil => exact .inl rfl
  | cons p ps => exact .inr ⟨p.toList ++ behind ps, rfl⟩

theorem toList_concatenation_cons (p : String) (ps : List String) :
    (concatenation (p :: ps)).toList = dropSeams (p.toList ++ behind ps) := by
  have whole := toList_concatenation (List.cons_ne_nil p ps)
  rw [List.flatMap_cons, List.cons_append, dropSeams_plus] at whole
  exact (List.cons.inj whole).2

/-! ## Once -/

theorem Starts.dropSeams_append_eq_nil_iff {p t : List Char} (h : Starts p) (follows : Follows t) :
    dropSeams (p ++ t) = [] ↔ p = ['"', '+', '"'] ∧ t = [] := by
  rw [dropSeams_eq_nil_iff]
  cases h with
  | empty => simp
  | plus =>
    rcases follows with rfl | ⟨u, rfl⟩
    · simp [dropSeams]
    · simp [dropSeams_plus]
  | quoted quote plus => simp [plus]
  | behindPlus quote => simp [quote]
  | word quote => simp [quote]

/-- Only of a quoted plus sign that stands alone nothing is left. -/
theorem concatenation_eq_empty_iff {ps : List String} (nonempty : ps ≠ [])
    (starts : ∀ p ∈ ps, Starts p.toList) : concatenation ps = "" ↔ ps = ["\"+\""] := by
  obtain ⟨p, ps, rfl⟩ := List.exists_cons_of_ne_nil nonempty
  rw [← String.toList_eq_nil_iff, toList_concatenation_cons,
    (starts p (.head ps)).dropSeams_append_eq_nil_iff (follows_behind ps), behind_eq_nil_iff,
    toList_eq_plus_iff, List.cons.injEq]

/-! ## Twice -/

/-- There is one quoted plus sign, and there are empty literals around it. -/
def Melts (ps : List String) : Prop :=
  ∃ front back, ps = front ++ "\"+\"" :: back ∧ ∀ p ∈ front ++ back, p = "\"\""

theorem not_melts_nil : ¬ Melts [] := by
  rintro ⟨front, back, none, -⟩
  simp at none

theorem melts_cons {p : String} {ps : List String} :
    Melts (p :: ps) ↔ p = "\"\"" ∧ Melts ps ∨ p = "\"+\"" ∧ ∀ q ∈ ps, q = "\"\"" := by
  constructor
  · rintro ⟨front, back, spelled, empty⟩
    cases front with
    | nil =>
      cases spelled
      exact .inr ⟨rfl, empty⟩
    | cons q front =>
      cases spelled
      rw [List.cons_append, List.forall_mem_cons] at empty
      exact .inl ⟨empty.1, front, back, rfl, empty.2⟩
  · rintro (⟨rfl, front, back, rfl, empty⟩ | ⟨rfl, empty⟩)
    · exact ⟨"\"\"" :: front, back, rfl, List.forall_mem_cons.2 ⟨rfl, empty⟩⟩
    · exact ⟨[], ps, rfl, empty⟩

/-- Behind a plus sign that is left: a quote is left too, and of the rest nothing the second time,
just if all texts are empty literals. -/
theorem dropSeams_quote_behind_iff {ps : List String} (starts : ∀ p ∈ ps, Starts p.toList) :
    (∃ v, dropSeams ('"' :: behind ps) = '"' :: v ∧ dropSeams v = []) ↔
      ∀ p ∈ ps, p = "\"\"" := by
  induction ps with
  | nil => exact iff_of_true ⟨[], rfl, rfl⟩ (List.forall_mem_nil _)
  | cons p ps ih =>
    rw [List.forall_mem_cons] at starts ⊢
    obtain ⟨first, others⟩ := starts
    rw [← ih others, behind_cons, ← toList_eq_empty_iff]
    generalize p.toList = q at first
    cases first with
    | empty => simp [dropSeams]
    | plus => simp [dropSeams, dropSeams_plus]
    | quoted quote plus => simp [dropSeams, dropSeams_cons_of_ne quote, quote]
    | behindPlus quote => simp [dropSeams, dropSeams_plus]
    | @word d quote q =>
      have apart : ∀ v, '"' :: '+' :: d :: (q ++ behind ps) ≠ '"' :: '+' :: '"' :: v := by
        simp [quote]
      simp [dropSeams_cons apart, dropSeams_plus, quote]

/-- Behind a quote that is left. -/
theorem dropSeams_quote_dropSeams_iff {ps : List String} (starts : ∀ p ∈ ps, Starts p.toList) :
    dropSeams ('"' :: dropSeams ('"' :: behind ps)) = [] ↔ Melts ps := by
  induction ps with
  | nil => exact iff_of_false (by decide) not_melts_nil
  | cons p ps ih =>
    rw [List.forall_mem_cons] at starts
    obtain ⟨first, others⟩ := starts
    rw [melts_cons, ← ih others, ← dropSeams_quote_behind_iff others, dropSeams_quote_eq_nil_iff,
      dropSeams_quote_eq_nil_iff, behind_cons, ← toList_eq_empty_iff, ← toList_eq_plus_iff]
    generalize p.toList = q at first
    cases first with
    | empty => simp [dropSeams]
    | plus => simp [dropSeams, dropSeams_plus]
    | quoted quote plus => simp [dropSeams, dropSeams_cons_of_ne quote, quote, plus]
    | behindPlus quote => simp [dropSeams, dropSeams_plus, dropSeams_cons_of_ne quote, quote]
    | @word d quote q =>
      have apart : ∀ v, '"' :: '+' :: d :: (q ++ behind ps) ≠ '"' :: '+' :: '"' :: v := by
        simp [quote]
      simp [dropSeams_cons apart, quote]

/-- Nothing is left of an expression that is gone through twice if it is a quoted plus sign, or an
empty literal and more of which nothing is left. -/
theorem Starts.dropSeams_dropSeams_iff {p : String} {ps : List String} (h : Starts p.toList)
    (others : ∀ q ∈ ps, Starts q.toList) :
    dropSeams (dropSeams (p.toList ++ behind ps)) = [] ↔
      p = "\"+\"" ∧ ps = [] ∨ p = "\"\"" ∧ Melts ps := by
  rw [← dropSeams_quote_dropSeams_iff others, ← behind_eq_nil_iff, ← toList_eq_plus_iff,
    ← toList_eq_empty_iff]
  generalize p.toList = q at h
  cases h with
  | empty => simp [dropSeams]
  | plus =>
    rcases follows_behind ps with none | ⟨u, starts⟩
    · simp [none, dropSeams]
    · simp [starts, dropSeams, dropSeams_plus]
  | @quoted d quote plus q =>
    have apart : ∀ v, '"' :: d :: (q ++ behind ps) ≠ '"' :: '+' :: '"' :: v := by simp [plus]
    simp [dropSeams_cons apart, dropSeams_cons_of_ne quote, dropSeams_quote_eq_nil_iff, quote, plus]
  | @behindPlus d quote q =>
    have apart : ∀ v, '"' :: '+' :: d :: (q ++ behind ps) ≠ '"' :: '+' :: '"' :: v := by
      simp [quote]
    simp [dropSeams_cons apart, dropSeams_plus, dropSeams_cons_of_ne quote,
      dropSeams_quote_eq_nil_iff, quote]
  | @word d quote q => simp [dropSeams_cons_of_ne quote, quote]

/-- Nothing is left of an expression that is gone through twice just if it is a quoted plus sign
that stands alone or among empty literals, one of them in front of it. -/
theorem concatenation_singleton_eq_empty_iff {ps : List String} (nonempty : ps ≠ [])
    (starts : ∀ p ∈ ps, Starts p.toList) : concatenation [concatenation ps] = "" ↔
      ∃ front back, ps = front ++ "\"+\"" :: back ∧ (front = [] → back = []) ∧
        ∀ p ∈ front ++ back, p = "\"\"" := by
  obtain ⟨p, ps, rfl⟩ := List.exists_cons_of_ne_nil nonempty
  obtain ⟨first, others⟩ := List.forall_mem_cons.1 starts
  have twice : (concatenation [concatenation (p :: ps)]).toList =
      dropSeams (dropSeams (p.toList ++ behind ps)) := by
    rw [toList_concatenation_cons, toList_concatenation_cons]
    simp [behind]
  rw [← String.toList_eq_nil_iff, twice, first.dropSeams_dropSeams_iff others]
  constructor
  · rintro (⟨rfl, rfl⟩ | ⟨rfl, front, back, rfl, empty⟩)
    · exact ⟨[], [], rfl, fun _ => rfl, List.forall_mem_nil _⟩
    · exact ⟨"\"\"" :: front, back, rfl, nofun, List.forall_mem_cons.2 ⟨rfl, empty⟩⟩
  · rintro ⟨front, back, spelled, alone, empty⟩
    cases front with
    | nil =>
      cases spelled
      exact .inl ⟨rfl, alone rfl⟩
    | cons q front =>
      cases spelled
      rw [List.cons_append, List.forall_mem_cons] at empty
      exact .inr ⟨empty.1, front, back, rfl, empty.2⟩

end Text

/-! ## Tokens and clauses -/

theorem Token.Scanned.starts {params : List Param} {t : Token} (h : t.Scanned params) :
    Text.Starts t.text.toList := by
  obtain ⟨l, formed, text, classified⟩ := h
  rw [← text]
  cases formed with
  | @word cs nonempty plain =>
    obtain ⟨c, cs, rfl⟩ := List.exists_cons_of_ne_nil nonempty
    exact .word (plain c (.head cs)).1 cs
  | @quoted p b plain closes =>
    cases p with
    | nil => exact Text.starts_of_closing closes.closing
    | cons c p => exact .word (plain c (.head p)).1 _
  | mark mark | markEqual mark => exact .word (Lexeme.of_isOperatorMark mark).1 _
  | logical mark => exact .word (Lexeme.of_isLogicalMark mark).1 _
  | stray | truncated => cases classified

/-- Nothing is left of the expression of the clause: it is a quoted plus sign. -/
def Clause.Vanishes : Clause → Prop
  | .sql pieces => pieces = ["\"+\""]
  | .choice .. | .collection .. => False

/-- The branch has clauses, and nothing is left of their expression. -/
def Branch.Vanishes (b : Branch) : Prop :=
  ∃ front back, b.body = [.sql (front ++ "\"+\"" :: back)] ∧ (front = [] → back = []) ∧
    ∀ p ∈ front ++ back, p = "\"\""

namespace Clause

/-- A text has pieces, and these start as tokens do. -/
def Started : Clause → Prop
  | .sql pieces => pieces ≠ [] ∧ ∀ p ∈ pieces, Text.Starts p.toList
  | .choice .. | .collection .. => True

variable (target : Target)

/-- The expression of a list has a full stop. -/
theorem mem_rendering {c : Clause} (list : ¬ c.IsSql) : '.' ∈ (c.rendering target).toList := by
  cases c with
  | sql => exact absurd trivial list
  | choice => simp [rendering, Target.call]
  | collection kind => cases kind <;> simp [rendering, Target.call]

theorem rendering_eq_empty_iff {c : Clause} (started : c.Started) :
    c.rendering target = "" ↔ c.Vanishes := by
  have listed (list : ¬ c.IsSql) : c.rendering target ≠ "" := by
    intro none
    have stop := mem_rendering target list
    simp [none] at stop
  cases c with
  | sql pieces => exact Text.concatenation_eq_empty_iff started.1 started.2
  | choice => exact iff_of_false (listed id) id
  | collection => exact iff_of_false (listed id) id

/-- Texts that are apart and have nothing between them are at most one. -/
theorem Apart.eq_singleton {cs : List Clause} (apart : Apart cs) (texts : ∀ c ∈ cs, c.IsSql) :
    cs = [] ∨ ∃ pieces, cs = [.sql pieces] := by
  rcases cs with _ | ⟨c, _ | ⟨d, cs⟩⟩
  · exact .inl rfl
  · have text := texts c (.head _)
    cases c with
    | sql pieces => exact .inr ⟨pieces, rfl⟩
    | choice => exact text.elim
    | collection => exact text.elim
  · have both := (List.isChain_cons_cons.1 apart).1
    exact absurd ⟨texts c (.head _), texts d (.tail _ (.head _))⟩ both

end Clause

/-- A branch in which an if, a where or a set stands has their lists in its expression. -/
theorem Branch.rendering_ne_empty (target : Target) {b : Branch} {c : Clause} (hc : c ∈ b.body)
    (list : ¬ c.IsSql) : b.rendering target ≠ "" := by
  intro none
  have nonempty : b.body.map (Clause.rendering target) ≠ [] := by
    simpa using List.ne_nil_of_mem hc
  have whole := Text.toList_concatenation nonempty
  have inside : '.' ∈ (b.body.map (Clause.rendering target)).flatMap fun s => '+' :: s.toList := by
    refine List.mem_flatMap.2 ⟨_, List.mem_map.2 ⟨c, hc, rfl⟩, ?_⟩
    exact .tail _ (Clause.mem_rendering target list)
  have kept := Text.mem_dropSeams (by decide) (by decide) inside
  rw [← whole, ← Branch.rendering, none] at kept
  simp at kept

theorem Branch.rendering_eq_empty_iff (target : Target) {b : Branch}
    (apart : Clause.Apart b.body) (started : ∀ c ∈ b.body, c.Started) :
    b.rendering target = "" ↔ b.body = [] ∨ b.Vanishes := by
  by_cases texts : ∀ c ∈ b.body, c.IsSql
  · rcases apart.eq_singleton texts with none | ⟨pieces, one⟩
    · exact iff_of_true (by rw [rendering, none]; rfl) (.inl none)
    · have text := started (.sql pieces) (by simp [one])
      rw [rendering, one, List.map_singleton, Clause.rendering,
        Text.concatenation_singleton_eq_empty_iff text.1 text.2]
      simp [Vanishes, one]
  · simp only [not_forall] at texts
    obtain ⟨c, hc, list⟩ := texts
    refine iff_of_false (rendering_ne_empty target hc list) ?_
    rintro (none | ⟨front, back, one, -⟩)
    · simp [none] at hc
    · rw [one, List.mem_singleton] at hc
      exact list (hc ▸ trivial)

end QueryTemplate
