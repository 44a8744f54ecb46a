import QueryTemplate.Statement

/-!
The grammar of templates, as rules over the kinds of statements, and the lists of kinds that a rule
matches.
-/

namespace QueryTemplate

namespace Grammar

inductive Rule where
  | program
  | ifBlock
  | child
  | whereBlock
  | setBlock
  deriving DecidableEq, Repr

inductive Form where
  | kind (k : StatementKind)
  | rule (r : Rule)
  | seq (first second : Form)
  | either (left right : Form)
  /-- Any number of matches one after the other. -/
  | many (f : Form)
  | optional (f : Form)
  deriving DecidableEq, Repr

def Form.item : Form :=
  .either (.kind .literal) (.rule .ifBlock)

def Form.branch (k : StatementKind) : Form :=
  .seq (.kind k) (.many (.rule .child))

def Form.child : Form :=
  .either (.kind .literal) <| .either (.rule .ifBlock) <|
    .either (.rule .whereBlock) (.rule .setBlock)

def Rule.form : Rule → Form
  | program => .many (.either (.kind .close) .child)
  | ifBlock =>
    .seq (.kind .ifOpen) <| .seq (.many (.rule .child)) <| .seq (.many (.branch .elseIf)) <|
      .seq (.optional (.branch .otherwise)) (.kind .close)
  | child => .child
  | whereBlock => .seq (.kind .whereOpen) (.seq (.many .item) (.kind .close))
  | setBlock => .seq (.kind .setOpen) (.seq (.many .item) (.kind .close))

inductive Form.Matches : Form → List StatementKind → Prop
  | kind {k : StatementKind} : Matches (.kind k) [k]
  | rule {r : Rule} {ks : List StatementKind} (h : Matches r.form ks) : Matches (.rule r) ks
  | seq {f g : Form} {ks ls : List StatementKind} (first : Matches f ks) (second : Matches g ls) :
      Matches (.seq f g) (ks ++ ls)
  | left {f g : Form} {ks : List StatementKind} (h : Matches f ks) : Matches (.either f g) ks
  | right {f g : Form} {ks : List StatementKind} (h : Matches g ks) : Matches (.either f g) ks
  | none {f : Form} : Matches (.many f) []
  | more {f : Form} {ks ls : List StatementKind} (first : Matches f ks)
      (others : Matches (.many f) ls) : Matches (.many f) (ks ++ ls)
  | absent {f : Form} : Matches (.optional f) []
  | present {f : Form} {ks : List StatementKind} (h : Matches f ks) : Matches (.optional f) ks

/-- The kinds of the statements match the form. -/
def Form.Covers (f : Form) (ss : List Statement) : Prop :=
  f.Matches (ss.map Statement.kind)

namespace Form

variable {f g : Form} {ss ts : List Statement}

theorem covers_kind {k : StatementKind} : (kind k).Covers ss ↔ ∃ s, ss = [s] ∧ s.kind = k := by
  constructor
  · intro h
    unfold Covers at h
    generalize hks : ss.map Statement.kind = ks at h
    cases h
    obtain ⟨s, rfl, hs⟩ := List.map_eq_singleton_iff.1 hks
    exact ⟨s, rfl, hs⟩
  · rintro ⟨s, rfl, rfl⟩
    exact .kind

theorem covers_rule {r : Rule} : (rule r).Covers ss ↔ r.form.Covers ss := by
  constructor
  · intro h
    cases h
    assumption
  · exact .rule

theorem covers_seq :
    (seq f g).Covers ss ↔ ∃ as bs, ss = as ++ bs ∧ f.Covers as ∧ g.Covers bs := by
  constructor
  · intro h
    unfold Covers at h
    generalize hks : ss.map Statement.kind = ks at h
    cases h with
    | seq first second =>
      obtain ⟨as, bs, rfl, rfl, rfl⟩ := List.map_eq_append_iff.1 hks
      exact ⟨as, bs, rfl, first, second⟩
  · rintro ⟨as, bs, rfl, first, second⟩
    unfold Covers
    rw [List.map_append]
    exact .seq first second

/-- A form that starts with one kind. -/
theorem covers_kind_seq {k : StatementKind} :
    (seq (kind k) f).Covers ss ↔ ∃ s more, ss = s :: more ∧ s.kind = k ∧ f.Covers more := by
  rw [covers_seq]
  constructor
  · rintro ⟨opening, more, rfl, first, h⟩
    obtain ⟨s, rfl, hs⟩ := covers_kind.1 first
    exact ⟨s, more, rfl, hs, h⟩
  · rintro ⟨s, more, rfl, hs, h⟩
    exact ⟨[s], more, rfl, covers_kind.2 ⟨s, rfl, hs⟩, h⟩

theorem covers_either : (either f g).Covers ss ↔ f.Covers ss ∨ g.Covers ss := by
  constructor
  · intro h
    cases h with
    | left h => exact .inl h
    | right h => exact .inr h
  · rintro (h | h)
    · exact .left h
    · exact .right h

theorem covers_many : (many f).Covers ss ↔
    ∃ parts : List (List Statement), ss = parts.flatten ∧ ∀ part ∈ parts, f.Covers part := by
  constructor
  · intro h
    unfold Covers at h
    generalize hks : ss.map Statement.kind = ks at h
    generalize hm : many f = m at h
    induction h generalizing ss with
    | none => exact ⟨[], List.map_eq_nil_iff.1 hks, by simp⟩
    | more first _ _ ih =>
      cases hm
      obtain ⟨as, bs, rfl, rfl, rfl⟩ := List.map_eq_append_iff.1 hks
      obtain ⟨parts, rfl, covers⟩ := ih rfl rfl
      exact ⟨as :: parts, rfl, by simpa using ⟨first, covers⟩⟩
    | _ => cases hm
  · rintro ⟨parts, rfl, covers⟩
    induction parts with
    | nil => exact .none
    | cons part parts ih =>
      unfold Covers
      rw [List.flatten_cons, List.map_append]
      exact .more (covers part (.head parts)) (ih fun p hp => covers p (.tail part hp))

theorem covers_optional : (optional f).Covers ss ↔ ss = [] ∨ f.Covers ss := by
  constructor
  · intro h
    unfold Covers at h
    generalize hks : ss.map Statement.kind = ks at h
    cases h with
    | absent => exact .inl (List.map_eq_nil_iff.1 hks)
    | present h =>
      rw [← hks] at h
      exact .inr h
  · rintro (rfl | h)
    · exact .absent
    · exact .present h

theorem Covers.many_single (h : f.Covers ss) : (many f).Covers ss :=
  covers_many.2 ⟨[ss], by simp, by simpa using h⟩

theorem Covers.many_append (h : (many f).Covers ss) (more : (many f).Covers ts) :
    (many f).Covers (ss ++ ts) := by
  obtain ⟨parts, rfl, covers⟩ := covers_many.1 h
  obtain ⟨others, rfl, coversMore⟩ := covers_many.1 more
  refine covers_many.2 ⟨parts ++ others, by simp, ?_⟩
  intro part hp
  exact (List.mem_append.1 hp).elim (covers part) (coversMore part)

theorem Covers.many_mono (h : (many f).Covers ss) (sub : ∀ ts, f.Covers ts → g.Covers ts) :
    (many g).Covers ss := by
  obtain ⟨parts, rfl, covers⟩ := covers_many.1 h
  exact covers_many.2 ⟨parts, rfl, fun part hp => sub part (covers part hp)⟩

theorem covers_many_kind {k : StatementKind} (h : ∀ s ∈ ss, s.kind = k) :
    (many (kind k)).Covers ss := by
  refine covers_many.2 ⟨ss.map ([·]), by rw [← List.flatMap_def, List.flatMap_singleton'], ?_⟩
  intro part hp
  obtain ⟨s, hs, rfl⟩ := List.mem_map.1 hp
  exact covers_kind.2 ⟨s, rfl, h s hs⟩

end Form

end Grammar

end QueryTemplate
