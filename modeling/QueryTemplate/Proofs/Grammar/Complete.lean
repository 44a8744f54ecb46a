import QueryTemplate.Proofs.Drafting
import QueryTemplate.Proofs.Grammar.Sound

/-!
Statements that match the grammar spell nodes if the types fit. The grammar does not say which
literals form one text, so the nodes of a template are put together from a match by joining
neighbouring literals.
-/

namespace QueryTemplate

namespace Grammar

open Form

/-- A literal in front of a node that is no text starts a text of its own, and in front of a text it
becomes the first piece. -/
theorem spelled_literal_cons {s t : Statement} {ss : List Statement} {n : Node}
    (literal : s.kind = .literal) (h : Node.Spelled t ss n) :
    t.kind ≠ .literal ∨ n.IsText ∧ ∃ pieces, Node.Spelled s (t :: ss) (.text pieces) := by
  cases h with
  | text first others =>
    exact .inr ⟨trivial, _, .text literal (by simpa using ⟨first, others⟩)⟩
  | choice opening => exact .inl (by simp [opening])
  | @collection _ _ block _ opening =>
    apply Or.inl
    cases block <;> simp [opening, ListKind.opening]

theorem spelledBody_literal_cons {s : Statement} {bs : List Statement} {ns : List Node}
    (literal : s.kind = .literal) (h : Node.SpelledBody bs ns) :
    ∃ ms, Node.SpelledBody (s :: bs) ms := by
  have alone : Node.Spelled s [] _ := .text literal (by simp)
  cases h with
  | nil => exact ⟨_, .cons alone (fun _ _ h => nomatch h) .nil⟩
  | cons first parted others =>
    rcases spelled_literal_cons literal first with other | ⟨text, _, spelled⟩
    · exact ⟨_, .cons alone (fun _ t ht => by cases ht; exact other) (.cons first parted others)⟩
    · exact ⟨_, .cons spelled (fun _ => parted text) others⟩

theorem spelledItems_literal_cons {s : Statement} {is : List Statement} {ns : List Node}
    (literal : s.kind = .literal) (h : Node.SpelledItems is ns) :
    ∃ ms, Node.SpelledItems (s :: is) ms := by
  have alone : Node.Spelled s [] _ := .text literal (by simp)
  cases h with
  | close closing =>
    exact ⟨_, .cons alone trivial (fun _ t ht => by cases ht; simp [closing]) (.close closing)⟩
  | cons first item parted others =>
    rcases spelled_literal_cons literal first with other | ⟨text, _, spelled⟩
    · exact ⟨_, .cons alone trivial (fun _ t ht => by cases ht; exact other)
        (.cons first item parted others)⟩
    · exact ⟨_, .cons spelled trivial (fun _ => parted text) others⟩

theorem spelledAll_literal_cons {s : Statement} {ss : List Statement} {ns : List Node}
    (literal : s.kind = .literal) (h : Node.SpelledAll ss ns) :
    ∃ ms, Node.SpelledAll (s :: ss) ms := by
  have alone : Node.Spelled s [] _ := .text literal (by simp)
  cases h with
  | nil => exact ⟨_, .cons alone (fun _ _ h => nomatch h) .nil⟩
  | stray closing others =>
    exact ⟨_, .cons alone (fun _ t ht => by cases ht; simp [closing]) (.stray closing others)⟩
  | cons first parted others =>
    rcases spelled_literal_cons literal first with other | ⟨text, _, spelled⟩
    · exact ⟨_, .cons alone (fun _ t ht => by cases ht; exact other) (.cons first parted others)⟩
    · exact ⟨_, .cons spelled (fun _ => parted text) others⟩

def SpellsBlock (ss : List Statement) : Prop :=
  ∃ s more n, ss = s :: more ∧ Node.Spelled s more n ∧ ¬ n.IsText

def SpellsIf (ss : List Statement) : Prop :=
  ∃ s more c body arms, ss = s :: more ∧ Node.Spelled s more (.choice c body arms)

theorem SpellsIf.spellsBlock {ss : List Statement} (h : SpellsIf ss) : SpellsBlock ss := by
  obtain ⟨s, more, c, body, arms, split, spelled⟩ := h
  exact ⟨s, more, _, split, spelled, id⟩

theorem spelledBody_flatten {parts : List (List Statement)}
    (h : ∀ part ∈ parts, (kind .literal).Covers part ∨ SpellsBlock part) :
    ∃ ns, Node.SpelledBody parts.flatten ns := by
  induction parts with
  | nil => exact ⟨[], .nil⟩
  | cons part parts ih =>
    obtain ⟨ns, others⟩ := ih fun p hp => h p (.tail part hp)
    rcases h part (.head parts) with covers | ⟨s, more, n, rfl, spelled, block⟩
    · obtain ⟨s, rfl, literal⟩ := covers_kind.1 covers
      exact spelledBody_literal_cons literal others
    · exact ⟨_, .cons spelled (fun text => absurd text block) others⟩

theorem spelledItems_flatten {parts : List (List Statement)} {e : Statement}
    (h : ∀ part ∈ parts, (kind .literal).Covers part ∨ SpellsIf part) (closing : e.kind = .close) :
    ∃ ns, Node.SpelledItems (parts.flatten ++ [e]) ns := by
  induction parts with
  | nil => exact ⟨[], .close closing⟩
  | cons part parts ih =>
    obtain ⟨ns, others⟩ := ih fun p hp => h p (.tail part hp)
    rw [List.flatten_cons, List.append_assoc]
    rcases h part (.head parts) with covers | ⟨s, more, c, body, arms, rfl, spelled⟩
    · obtain ⟨s, rfl, literal⟩ := covers_kind.1 covers
      exact spelledItems_literal_cons literal others
    · exact ⟨_, .cons spelled trivial False.elim others⟩

theorem spelledAll_flatten {parts : List (List Statement)}
    (h : ∀ part ∈ parts,
      (kind .close).Covers part ∨ (kind .literal).Covers part ∨ SpellsBlock part) :
    ∃ ns, Node.SpelledAll parts.flatten ns := by
  induction parts with
  | nil => exact ⟨[], .nil⟩
  | cons part parts ih =>
    obtain ⟨ns, others⟩ := ih fun p hp => h p (.tail part hp)
    rcases h part (.head parts) with covers | covers | ⟨s, more, n, rfl, spelled, block⟩
    · obtain ⟨e, rfl, closing⟩ := covers_kind.1 covers
      exact ⟨ns, .stray closing others⟩
    · obtain ⟨s, rfl, literal⟩ := covers_kind.1 covers
      exact spelledAll_literal_cons literal others
    · exact ⟨_, .cons spelled (fun text => absurd text block) others⟩

/-- Every block of less than `N` statements that the grammar allows spells a node. -/
structure BlocksSpelled (N : Nat) : Prop where
  choice : ∀ ss : List Statement, ss.length < N → Checked ss → (rule .ifBlock).Covers ss →
    SpellsIf ss
  collection : ∀ ss : List Statement, ss.length < N → Checked ss →
    (rule .whereBlock).Covers ss ∨ (rule .setBlock).Covers ss → SpellsBlock ss

theorem length_le_flatten {parts : List (List Statement)} {part : List Statement}
    (h : part ∈ parts) : part.length ≤ parts.flatten.length :=
  (List.sublist_flatten_of_mem h).length_le

variable {N : Nat}

theorem BlocksSpelled.child (ih : BlocksSpelled N) {ss : List Statement} (small : ss.length < N)
    (checked : Checked ss) (h : Form.child.Covers ss) :
    (kind .literal).Covers ss ∨ SpellsBlock ss := by
  rcases covers_either.1 h with h | h
  · exact .inl h
  · rcases covers_either.1 h with h | h
    · exact .inr (ih.choice ss small checked h).spellsBlock
    · exact .inr (ih.collection ss small checked (covers_either.1 h))

theorem BlocksSpelled.body (ih : BlocksSpelled N) {bs : List Statement} (small : bs.length < N)
    (checked : Checked bs) (h : (many (rule .child)).Covers bs) :
    ∃ ns, Node.SpelledBody bs ns := by
  obtain ⟨parts, rfl, covers⟩ := covers_many.1 h
  apply spelledBody_flatten
  intro part hp
  have shorter := Nat.lt_of_le_of_lt (length_le_flatten hp) small
  exact ih.child shorter (checked.of_mem_flatten hp) (covers_rule.1 (covers part hp))

theorem BlocksSpelled.items (ih : BlocksSpelled N) {is : List Statement} (small : is.length < N)
    (checked : Checked is) (h : (Form.seq (many .item) (kind .close)).Covers is) :
    ∃ ns, Node.SpelledItems is ns := by
  obtain ⟨items, last, rfl, coversItems, coversLast⟩ := covers_seq.1 h
  obtain ⟨e, rfl, closing⟩ := covers_kind.1 coversLast
  obtain ⟨parts, rfl, covers⟩ := covers_many.1 coversItems
  refine spelledItems_flatten (fun part hp => ?_) closing
  rw [List.length_append] at small
  have shorter : part.length < N := by have := length_le_flatten hp; omega
  apply (covers_either.1 (covers part hp)).imp_right
  intro block
  exact ih.choice part shorter ((checked_append.1 checked).1.of_mem_flatten hp) block

theorem BlocksSpelled.arms (ih : BlocksSpelled N) {branches : List (List Statement)}
    {last : List Statement} (small : (branches.flatten ++ last).length < N)
    (checked : Checked (branches.flatten ++ last))
    (covers : ∀ b ∈ branches, (branch .elseIf).Covers b)
    (coversLast : (Form.seq (optional (branch .otherwise)) (kind .close)).Covers last) :
    ∃ arms, Node.SpelledArms (branches.flatten ++ last) arms := by
  induction branches with
  | nil =>
    obtain ⟨rest, tail, rfl, coversRest, coversTail⟩ := covers_seq.1 coversLast
    obtain ⟨e, rfl, closing⟩ := covers_kind.1 coversTail
    rcases covers_optional.1 coversRest with rfl | coversRest
    · exact ⟨_, .close closing⟩
    · obtain ⟨s, bs, rfl, hs, body⟩ := covers_kind_seq.1 coversRest
      rw [List.flatten_nil, List.nil_append, List.cons_append] at small checked ⊢
      simp only [List.length_append, List.length_cons] at small
      have ⟨ns, spelled⟩ := ih.body (by omega) (checked_append.1 (checked_cons.1 checked).2).1 body
      exact ⟨_, .otherwise hs spelled closing⟩
  | cons b branches arms =>
    obtain ⟨s, bs, rfl, hs, body⟩ := covers_kind_seq.1 (covers b (.head branches))
    rw [List.flatten_cons, List.append_assoc, List.cons_append] at small checked ⊢
    obtain ⟨check, checked⟩ := checked_cons.1 checked
    simp only [List.length_append, List.length_cons] at small
    have ⟨ns, spelled⟩ := ih.body (by omega) (checked_append.1 checked).1 body
    have ⟨as, armsSpelled⟩ := arms (by rw [List.length_append]; omega) (checked_append.1 checked).2
      fun b hb => covers b (.tail _ hb)
    exact ⟨_, .elseIf hs (check (.inr hs)) spelled armsSpelled⟩

theorem blocksSpelled (N : Nat) : BlocksSpelled N := by
  induction N with
  | zero =>
    exact ⟨fun _ h => absurd h (Nat.not_lt_zero _), fun _ h => absurd h (Nat.not_lt_zero _)⟩
  | succ N ih =>
    constructor
    · intro ss small checked h
      obtain ⟨s, rest, rfl, hs, coversRest⟩ := covers_kind_seq.1 (covers_rule.1 h)
      obtain ⟨bs, as, rfl, body, coversArms⟩ := covers_seq.1 coversRest
      obtain ⟨elseIfs, last, rfl, coversElseIfs, coversLast⟩ := covers_seq.1 coversArms
      obtain ⟨branches, rfl, covers⟩ := covers_many.1 coversElseIfs
      obtain ⟨check, checked⟩ := checked_cons.1 checked
      simp only [List.length_append, List.length_cons] at small
      have ⟨ns, spelled⟩ := ih.body (by omega) (checked_append.1 checked).1 body
      have ⟨arms, armsSpelled⟩ := ih.arms (by rw [List.length_append]; omega)
        (checked_append.1 checked).2 covers coversLast
      exact ⟨s, _, _, _, _, rfl, .choice hs (check (.inl hs)) spelled armsSpelled⟩
    · intro ss small checked h
      have ⟨block, h⟩ : ∃ block : ListKind,
          (Form.seq (kind block.opening) (.seq (many .item) (kind .close))).Covers ss := by
        rcases h with h | h
        · exact ⟨.whereList, covers_rule.1 h⟩
        · exact ⟨.setList, covers_rule.1 h⟩
      obtain ⟨s, is, rfl, hs, items⟩ := covers_kind_seq.1 h
      rw [List.length_cons] at small
      have ⟨ns, spelled⟩ := ih.items (by omega) (checked_cons.1 checked).2 items
      exact ⟨s, is, _, rfl, .collection hs spelled, id⟩

/-! ## Templates -/

theorem spelledAll_of_covers {ss : List Statement} (h : (rule .program).Covers ss)
    (checked : Checked ss) : ∃ ns, Node.SpelledAll ss ns := by
  obtain ⟨parts, rfl, covers⟩ := covers_many.1 (covers_rule.1 h)
  apply spelledAll_flatten
  intro part hp
  apply (covers_either.1 (covers part hp)).imp_right
  intro child
  have blocks := blocksSpelled (part.length + 1)
  exact blocks.child (Nat.lt_succ_self _) (checked.of_mem_flatten hp) child

/-- Statements form a template just if there are any, their kinds are a sentence of the grammar, and
the types fit in every condition among them. -/
theorem ofStatements_isOk_iff (ss : List Statement) :
    (∃ c, Compiled.ofStatements ss = .ok c) ↔
      ss ≠ [] ∧ (rule .program).Matches (ss.map Statement.kind) ∧
        ∀ s ∈ ss, s.kind = .ifOpen ∨ s.kind = .elseIf →
          Condition.checkTypes s.tokens = .ok () := by
  constructor
  · rintro ⟨c, h⟩
    obtain ⟨ns, read, -⟩ := Compiled.ofStatements_eq_ok_iff.1 h
    obtain ⟨nonempty, spelled⟩ := Node.ofStatements_eq_ok_iff.1 read
    exact ⟨nonempty, covers_of_spelledAll spelled, checked_of_spelledAll spelled⟩
  · rintro ⟨nonempty, covers, checked⟩
    obtain ⟨ns, spelled⟩ := spelledAll_of_covers covers checked
    have read := Node.ofStatements_eq_ok_iff.2 ⟨nonempty, spelled⟩
    exact ⟨Compiled.ofNodes ns, Compiled.ofStatements_eq_ok_iff.2 ⟨ns, read, rfl⟩⟩

end Grammar

end QueryTemplate
