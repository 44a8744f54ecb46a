import Mathlib.Data.List.Forall2
import QueryTemplate.Json.OfCompiled
import QueryTemplate.Proofs.Drafting

/-!
Templates that come to the same. Of the tokens of a condition only three things matter behind the
grouping: the text, whether the types fit, and whether there is a disjunction among them. Lists of
statements that agree in these, statement by statement, are accepted together, and then they have
the same clauses, as these are shown, and the same lines.
-/

namespace QueryTemplate

/-- Both readings succeed, with related results, or both fail. -/
inductive Agree {α β : Type} (R : α → β → Prop) : Except Fault α → Except Fault β → Prop
  | ok {a : α} {b : β} (related : R a b) : Agree R (.ok a) (.ok b)
  | error (f g : Fault) : Agree R (.error f) (.error g)

namespace Agree

variable {α β γ δ : Type} {R : α → β → Prop} {S : γ → δ → Prop}

theorem bind {x : Except Fault α} {y : Except Fault β} (h : Agree R x y) {f : α → Except Fault γ}
    {g : β → Except Fault δ}
    (each : ∀ a b, x = .ok a → R a b → Agree S (f a) (g b)) : Agree S (x >>= f) (y >>= g) := by
  cases h with
  | ok related => exact each _ _ rfl related
  | error f g => exact .error f g

theorem map {x : Except Fault α} {y : Except Fault β} (h : Agree R x y) {f : α → γ} {g : β → δ}
    (each : ∀ a b, R a b → S (f a) (g b)) : Agree S (x.map f) (y.map g) := by
  cases h with
  | ok related => exact .ok (each _ _ related)
  | error f g => exact .error f g

theorem imp {x : Except Fault α} {y : Except Fault β} (h : Agree R x y) {S : α → β → Prop}
    (each : ∀ a b, x = .ok a → y = .ok b → R a b → S a b) : Agree S x y := by
  cases h with
  | ok related => exact .ok (each _ _ rfl rfl related)
  | error f g => exact .error f g

theorem of_ok {x : Except Fault α} {b : β} (h : Agree R x (.ok b)) : ∃ a, x = .ok a ∧ R a b := by
  cases h with
  | ok related => exact ⟨_, rfl, related⟩

theorem eq_ok_iff {x y : Except Fault α} (h : Agree Eq x y) {a : α} : x = .ok a ↔ y = .ok a := by
  cases h with
  | ok related => rw [related]
  | error => simp

end Agree

theorem forall₂_append_left {α β : Type} {R : α → β → Prop} {as bs : List α} {l : List β}
    (h : List.Forall₂ R (as ++ bs) l) :
    ∃ cs ds, l = cs ++ ds ∧ List.Forall₂ R as cs ∧ List.Forall₂ R bs ds := by
  induction as generalizing l with
  | nil => exact ⟨[], l, rfl, .nil, h⟩
  | cons a as ih =>
    cases h with
    | @cons _ c _ l first others =>
      obtain ⟨cs, ds, rfl, front, back⟩ := ih others
      exact ⟨c :: cs, ds, rfl, .cons first front, back⟩

/-! ## Statements -/

/-- The conditions are written alike wherever they get into a guard. -/
structure Condition.Same (c d : Condition) : Prop where
  text : c.text = d.text
  conjunct : c.conjunct = d.conjunct

/-- One statement can stand for the other, with related texts and conditions. -/
structure Statement.Like (P : String → String → Prop) (Q : Condition → Condition → Prop)
    (s t : Statement) : Prop where
  kind : s.kind = t.kind
  content : s.kind = .literal → P s.content t.content
  condition : s.kind = .ifOpen ∨ s.kind = .elseIf → Q s.condition t.condition
  check : s.kind = .ifOpen ∨ s.kind = .elseIf →
    (s.condition.check = .ok () ↔ t.condition.check = .ok ())

namespace Statement

variable {P : String → String → Prop} {Q : Condition → Condition → Prop}

theorem Like.flip {s t : Statement} (h : s.Like P Q t) : t.Like (flip P) (flip Q) s where
  kind := h.kind.symm
  content literal := h.content (h.kind.trans literal)
  condition announces := h.condition (h.kind ▸ announces)
  check announces := (h.check (h.kind ▸ announces)).symm

theorem Like.head {ss tt : List Statement} (h : List.Forall₂ (Like P Q) ss tt)
    {k : StatementKind} (other : ∀ s ∈ ss.head?, s.kind ≠ k) : ∀ t ∈ tt.head?, t.kind ≠ k := by
  cases h with
  | nil => simp
  | @cons s t ss tt first others =>
    intro u hu
    cases hu
    rw [← first.kind]
    exact other s rfl

end Statement

/-! ## Nodes -/

namespace Node

mutual

/-- The nodes differ in their pieces and conditions only, and these are related. -/
inductive Related (P : String → String → Prop) (Q : Condition → Condition → Prop) :
    Node → Node → Prop
  | text {ps qs : List String} (pieces : List.Forall₂ P ps qs) : Related P Q (.text ps) (.text qs)
  | choice {c d : Condition} {ns ms : List Node} {as bs : Arms} (condition : Q c d)
      (body : RelatedList P Q ns ms) (arms : RelatedArms P Q as bs) :
      Related P Q (.choice c ns as) (.choice d ms bs)
  | collection {kind : ListKind} {ns ms : List Node} (body : RelatedList P Q ns ms) :
      Related P Q (.collection kind ns) (.collection kind ms)

inductive RelatedList (P : String → String → Prop) (Q : Condition → Condition → Prop) :
    List Node → List Node → Prop
  | nil : RelatedList P Q [] []
  | cons {n m : Node} {ns ms : List Node} (first : Related P Q n m)
      (others : RelatedList P Q ns ms) : RelatedList P Q (n :: ns) (m :: ms)

inductive RelatedArms (P : String → String → Prop) (Q : Condition → Condition → Prop) :
    Arms → Arms → Prop
  | close : RelatedArms P Q .close .close
  | otherwise {ns ms : List Node} (body : RelatedList P Q ns ms) :
      RelatedArms P Q (.otherwise ns) (.otherwise ms)
  | elseIf {c d : Condition} {ns ms : List Node} {as bs : Arms} (condition : Q c d)
      (body : RelatedList P Q ns ms) (others : RelatedArms P Q as bs) :
      RelatedArms P Q (.elseIf c ns as) (.elseIf d ms bs)

end

variable {P : String → String → Prop} {Q : Condition → Condition → Prop}

theorem Related.isText {n m : Node} (h : Related P Q n m) (text : m.IsText) : n.IsText := by
  cases h with
  | text => trivial
  | choice | collection => exact text.elim

theorem Related.isItem {n m : Node} (h : Related P Q n m) (item : n.IsItem) : m.IsItem := by
  cases h with
  | text | choice => trivial
  | collection => exact item.elim

theorem Related.parted {n m : Node} (h : Related P Q n m) {ss tt : List Statement}
    (statements : List.Forall₂ (Statement.Like P Q) ss tt) (parted : n.Parted ss) : m.Parted tt :=
  fun text => Statement.Like.head statements (parted (h.isText text))

theorem forall₂_content {ss tt : List Statement} (h : List.Forall₂ (Statement.Like P Q) ss tt)
    (literals : ∀ s ∈ ss, s.kind = .literal) :
    List.Forall₂ P (ss.map Statement.content) (tt.map Statement.content) ∧
      ∀ t ∈ tt, t.kind = .literal := by
  induction h with
  | nil => exact ⟨.nil, by simp⟩
  | cons first _ ih =>
    rw [List.forall_mem_cons] at literals
    obtain ⟨contents, kinds⟩ := ih literals.2
    refine ⟨.cons (first.content literals.1) contents, List.forall_mem_cons.2 ⟨?_, kinds⟩⟩
    rw [← first.kind, literals.1]

mutual

/-- What like statements spell differs only where they do. -/
theorem related_of_spelled {s t : Statement} {ss tt : List Statement} {n : Node}
    (h : Spelled s ss n) (first : s.Like P Q t) (others : List.Forall₂ (Statement.Like P Q) ss tt) :
    ∃ m, Spelled t tt m ∧ Related P Q n m := by
  match h with
  | .text literal literals =>
    obtain ⟨contents, kinds⟩ := forall₂_content others literals
    exact ⟨_, .text (first.kind ▸ literal) kinds, .text (.cons (first.content literal) contents)⟩
  | .choice opening check body arms =>
    obtain ⟨bs, as, rfl, inBody, inArms⟩ := forall₂_append_left others
    obtain ⟨ms, bodySpelled, bodies⟩ := relatedList_of_spelledBody body inBody
    obtain ⟨bs, armsSpelled, branches⟩ := relatedArms_of_spelledArms arms inArms
    have checked := (first.check (.inl opening)).1 check
    exact ⟨_, .choice (first.kind ▸ opening) checked bodySpelled armsSpelled,
      .choice (first.condition (.inl opening)) bodies branches⟩
  | .collection opening items =>
    obtain ⟨ms, spelled, bodies⟩ := relatedList_of_spelledItems items others
    exact ⟨_, .collection (first.kind ▸ opening) spelled, .collection bodies⟩

theorem relatedList_of_spelledBody {ss tt : List Statement} {ns : List Node}
    (h : SpelledBody ss ns) (others : List.Forall₂ (Statement.Like P Q) ss tt) :
    ∃ ms, SpelledBody tt ms ∧ RelatedList P Q ns ms := by
  match h with
  | .nil =>
    cases others
    exact ⟨[], .nil, .nil⟩
  | .cons first parted more =>
    cases others with
    | cons head tail =>
      obtain ⟨front, back, rfl, inFirst, inMore⟩ := forall₂_append_left tail
      obtain ⟨m, spelled, related⟩ := related_of_spelled first head inFirst
      obtain ⟨ms, moreSpelled, others⟩ := relatedList_of_spelledBody more inMore
      exact ⟨m :: ms, .cons spelled (related.parted inMore parted) moreSpelled,
        .cons related others⟩

theorem relatedArms_of_spelledArms {ss tt : List Statement} {as : Arms} (h : SpelledArms ss as)
    (others : List.Forall₂ (Statement.Like P Q) ss tt) :
    ∃ bs, SpelledArms tt bs ∧ RelatedArms P Q as bs := by
  match h with
  | .close closing =>
    cases others with
    | cons head tail =>
      cases tail
      exact ⟨_, .close (head.kind ▸ closing), .close⟩
  | .otherwise opening body closing =>
    cases others with
    | cons head tail =>
      obtain ⟨bs, last, rfl, inBody, inLast⟩ := forall₂_append_left tail
      cases inLast with
      | cons e none =>
        cases none
        obtain ⟨ms, spelled, bodies⟩ := relatedList_of_spelledBody body inBody
        exact ⟨_, .otherwise (head.kind ▸ opening) spelled (e.kind ▸ closing), .otherwise bodies⟩
  | .elseIf opening check body arms =>
    cases others with
    | cons head tail =>
      obtain ⟨bs, as, rfl, inBody, inArms⟩ := forall₂_append_left tail
      obtain ⟨ms, bodySpelled, bodies⟩ := relatedList_of_spelledBody body inBody
      obtain ⟨bs, armsSpelled, branches⟩ := relatedArms_of_spelledArms arms inArms
      have checked := (head.check (.inr opening)).1 check
      exact ⟨_, .elseIf (head.kind ▸ opening) checked bodySpelled armsSpelled,
        .elseIf (head.condition (.inr opening)) bodies branches⟩

theorem relatedList_of_spelledItems {ss tt : List Statement} {ns : List Node}
    (h : SpelledItems ss ns) (others : List.Forall₂ (Statement.Like P Q) ss tt) :
    ∃ ms, SpelledItems tt ms ∧ RelatedList P Q ns ms := by
  match h with
  | .close closing =>
    cases others with
    | cons head tail =>
      cases tail
      exact ⟨[], .close (head.kind ▸ closing), .nil⟩
  | .cons first item parted more =>
    cases others with
    | cons head tail =>
      obtain ⟨front, back, rfl, inFirst, inMore⟩ := forall₂_append_left tail
      obtain ⟨m, spelled, related⟩ := related_of_spelled first head inFirst
      obtain ⟨ms, moreSpelled, others⟩ := relatedList_of_spelledItems more inMore
      exact ⟨m :: ms,
        .cons spelled (related.isItem item) (related.parted inMore parted) moreSpelled,
        .cons related others⟩

end

theorem relatedList_of_spelledAll {ss tt : List Statement} {ns : List Node}
    (h : SpelledAll ss ns) (others : List.Forall₂ (Statement.Like P Q) ss tt) :
    ∃ ms, SpelledAll tt ms ∧ RelatedList P Q ns ms := by
  induction h generalizing tt with
  | nil =>
    cases others
    exact ⟨[], .nil, .nil⟩
  | stray closing _ ih =>
    cases others with
    | cons head tail =>
      obtain ⟨ms, spelled, related⟩ := ih tail
      exact ⟨ms, .stray (head.kind ▸ closing) spelled, related⟩
  | cons first parted _ ih =>
    cases others with
    | cons head tail =>
      obtain ⟨front, back, rfl, inFirst, inMore⟩ := forall₂_append_left tail
      obtain ⟨m, spelled, related⟩ := related_of_spelled first head inFirst
      obtain ⟨ms, moreSpelled, others⟩ := ih inMore
      exact ⟨m :: ms, .cons spelled (related.parted inMore parted) moreSpelled,
        .cons related others⟩

theorem ofStatements_related {ss tt : List Statement} {ns : List Node}
    (h : List.Forall₂ (Statement.Like P Q) ss tt) (read : ofStatements ss = .ok ns) :
    ∃ ms, ofStatements tt = .ok ms ∧ RelatedList P Q ns ms := by
  obtain ⟨nonempty, spelled⟩ := ofStatements_eq_ok_iff.1 read
  obtain ⟨ms, spelled', related⟩ := relatedList_of_spelledAll spelled h
  refine ⟨ms, ofStatements_eq_ok_iff.2 ⟨?_, spelled'⟩, related⟩
  rintro rfl
  exact nonempty (List.forall₂_nil_right_iff.1 h)

/-- Like statements are accepted together. -/
theorem agree_ofStatements {ss tt : List Statement} (h : List.Forall₂ (Statement.Like P Q) ss tt) :
    Agree (RelatedList P Q) (ofStatements ss) (ofStatements tt) := by
  cases read : ofStatements ss with
  | ok ns =>
    obtain ⟨ms, read', related⟩ := ofStatements_related h read
    rw [read']
    exact .ok related
  | error f =>
    cases read' : ofStatements tt with
    | error g => exact .error f g
    | ok ms =>
      have back : List.Forall₂ (Statement.Like (flip P) (flip Q)) tt ss :=
        (h.imp fun _ _ like => like.flip).flip
      obtain ⟨ns, found, -⟩ := ofStatements_related back read'
      rw [read] at found
      cases found

end Node

/-! ## Clauses -/

namespace Clause

mutual

/-- The clauses differ in the tokens of conditions only. -/
inductive Alike : Clause → Clause → Prop
  | sql (pieces : List String) : Alike (.sql pieces) (.sql pieces)
  | choice {index : Nat} {c d : Condition} {cs ds : List Clause} {as bs : List Branch}
      (text : c.text = d.text) (body : AlikeList cs ds) (branches : AlikeBranches as bs) :
      Alike (.choice index c cs as) (.choice index d ds bs)
  | collection {kind : ListKind} {index : Nat} {cs ds : List Clause} (body : AlikeList cs ds) :
      Alike (.collection kind index cs) (.collection kind index ds)

inductive AlikeList : List Clause → List Clause → Prop
  | nil : AlikeList [] []
  | cons {c d : Clause} {cs ds : List Clause} (first : Alike c d) (others : AlikeList cs ds) :
      AlikeList (c :: cs) (d :: ds)

inductive AlikeBranches : List Branch → List Branch → Prop
  | nil : AlikeBranches [] []
  | cons {g h : Guard} {cs ds : List Clause} {as bs : List Branch} (text : g.text = h.text)
      (body : AlikeList cs ds) (others : AlikeBranches as bs) :
      AlikeBranches (⟨g, cs⟩ :: as) (⟨h, ds⟩ :: bs)

end

mutual

theorem Alike.toJson {c d : Clause} (h : c.Alike d) : c.toJson = d.toJson := by
  match h with
  | .sql pieces => rfl
  | .choice text body branches =>
    rw [Clause.toJson, Clause.toJson, text, body.listToJson, branches.branchesToJson]
  | .collection body => rw [Clause.toJson, Clause.toJson, body.listToJson]

theorem AlikeList.listToJson {cs ds : List Clause} (h : AlikeList cs ds) :
    Clause.listToJson cs = Clause.listToJson ds := by
  match h with
  | .nil => rfl
  | .cons first others =>
    rw [Clause.listToJson, Clause.listToJson, first.toJson, others.listToJson]

theorem AlikeBranches.branchesToJson {as bs : List Branch} (h : AlikeBranches as bs) :
    Clause.branchesToJson as = Clause.branchesToJson bs := by
  match h with
  | .nil => rfl
  | .cons text body others =>
    rw [Clause.branchesToJson, Clause.branchesToJson, Clause.branchToJson, Clause.branchToJson,
      text, body.listToJson, others.branchesToJson]

end

/-! ### Lines -/

variable {target : Target}

theorem Alike.operand {c d : Clause} (h : c.Alike d) : c.operand = d.operand := by
  cases h <;> rfl

theorem AlikeList.operands {cs ds : List Clause} (h : AlikeList cs ds) :
    cs.map Clause.operand = ds.map Clause.operand := by
  match h with
  | .nil => rfl
  | .cons first others => rw [List.map_cons, List.map_cons, first.operand, others.operands]

theorem text_appendGuarded {g h : Guard} (text : g.text = h.text) (index : Nat)
    (payload : Payload Nat) : (Step.appendGuarded index g payload).text target =
      (Step.appendGuarded index h payload).text target := by
  rw [Step.text, Step.text, Step.line, Step.line, text]

mutual

theorem Alike.block {c d : Clause} (h : c.Alike d) :
    c.block.map (Step.text target) = d.block.map (Step.text target) := by
  match h with
  | .sql pieces => rfl
  | .choice text body branches =>
    rw [Clause.block, Clause.block, List.map_cons, List.map_cons, List.map_append,
      List.map_append, body.blockGuarded text, branches.blockBranches]
  | .collection body =>
    rw [Clause.block, Clause.block, List.map_cons, List.map_cons, body.blockItems]

theorem AlikeList.blockGuarded {cs ds : List Clause} (h : AlikeList cs ds) {c d : Condition}
    (text : c.text = d.text) {index : Nat} :
    (Clause.blockGuarded index (.first c) cs).map (Step.text target) =
      (Clause.blockGuarded index (.first d) ds).map (Step.text target) := by
  match h with
  | .nil => rfl
  | .cons first others =>
    have guards : (Guard.first c).text = (Guard.first d).text := text
    rw [Clause.blockGuarded, Clause.blockGuarded, List.map_append, List.map_append, List.map_cons,
      List.map_cons, first.block, others.blockGuarded text, first.operand,
      text_appendGuarded guards]

theorem AlikeList.blockItems {cs ds : List Clause} (h : AlikeList cs ds) {kind : ListKind}
    {index : Nat} :
    (Clause.blockItems kind index cs).map (Step.text target) =
      (Clause.blockItems kind index ds).map (Step.text target) := by
  match h with
  | .nil => rfl
  | .cons first others =>
    rw [Clause.blockItems, Clause.blockItems, List.map_append, List.map_append, List.map_cons,
      List.map_cons, first.block, others.blockItems, first.operand]

theorem AlikeList.blockList {cs ds : List Clause} (h : AlikeList cs ds) :
    (Clause.blockList cs).map (Step.text target) =
      (Clause.blockList ds).map (Step.text target) := by
  match h with
  | .nil => rfl
  | .cons first others =>
    rw [Clause.blockList, Clause.blockList, List.map_append, List.map_append, first.block,
      others.blockList]

theorem AlikeBranches.blockBranches {as bs : List Branch} (h : AlikeBranches as bs)
    {index : Nat} :
    (Clause.blockBranches index as).map (Step.text target) =
      (Clause.blockBranches index bs).map (Step.text target) := by
  match h with
  | .nil => rfl
  | .cons text body others =>
    rw [Clause.blockBranches, Clause.blockBranches, List.map_append, List.map_append,
      List.map_cons, List.map_cons, body.blockList, others.blockBranches, body.operands,
      text_appendGuarded text]

end

theorem AlikeList.program {cs ds : List Clause} (h : AlikeList cs ds) :
    (Clause.program cs).map (Step.text target) = (Clause.program ds).map (Step.text target) := by
  cases h with
  | nil => rfl
  | cons first others =>
    rw [Clause.program, Clause.program, List.map_cons, List.map_cons, List.map_append,
      List.map_append, List.map_cons, List.map_cons, first.block, others.program, first.operand]

end Clause

/-! ### Numbering -/

namespace Node

theorem noneOf_eq {prior prior' : List Condition}
    (texts : prior.map Condition.text = prior'.map Condition.text) :
    Guard.noneOf prior = Guard.noneOf prior' := by
  rw [Guard.noneOf, Guard.noneOf, texts]

mutual

theorem Related.alike {n m : Node} (h : Related Eq Condition.Same n m) (next : Numbers) :
    (n.number next).1.Alike (m.number next).1 ∧ (n.number next).2 = (m.number next).2 := by
  match h with
  | .text pieces =>
    rw [List.forall₂_eq_eq_eq] at pieces
    subst pieces
    exact ⟨.sql _, rfl⟩
  | @Related.choice _ _ c d ns ms _ _ condition body arms =>
    have first : [c].map Condition.text = [d].map Condition.text := by simp [condition.text]
    obtain ⟨inner, numbers⟩ := body.alike (next.bump .choice)
    obtain ⟨branches, numbers'⟩ := arms.alike (numberList (next.bump .choice) ns).2 first
    rw [numbers] at branches numbers'
    simp only [number, numbers]
    exact ⟨.choice condition.text inner branches, numbers'⟩
  | .collection body =>
    obtain ⟨inner, numbers⟩ := body.alike (next.bump _)
    simp only [number]
    exact ⟨.collection inner, numbers⟩

theorem RelatedList.alike {ns ms : List Node} (h : RelatedList Eq Condition.Same ns ms)
    (next : Numbers) :
    Clause.AlikeList (numberList next ns).1 (numberList next ms).1 ∧
      (numberList next ns).2 = (numberList next ms).2 := by
  match h with
  | .nil => exact ⟨.nil, rfl⟩
  | .cons first others =>
    obtain ⟨clause, numbers⟩ := first.alike next
    obtain ⟨clauses, numbers'⟩ := others.alike (number next _).2
    rw [numbers] at clauses numbers'
    simp only [numberList, numbers]
    exact ⟨.cons clause clauses, numbers'⟩

theorem RelatedArms.alike {as bs : Arms} (h : RelatedArms Eq Condition.Same as bs)
    (next : Numbers) {prior prior' : List Condition}
    (texts : prior.map Condition.text = prior'.map Condition.text) :
    Clause.AlikeBranches (numberArms next prior as).1 (numberArms next prior' bs).1 ∧
      (numberArms next prior as).2 = (numberArms next prior' bs).2 := by
  match h with
  | .close => exact ⟨.nil, rfl⟩
  | .otherwise body =>
    obtain ⟨inner, numbers⟩ := body.alike next
    exact ⟨.cons (noneOf_eq texts) inner .nil, numbers⟩
  | @RelatedArms.elseIf _ _ c d ns _ _ _ condition body others =>
    have longer : (prior ++ [c]).map Condition.text = (prior' ++ [d]).map Condition.text := by
      simp [texts, condition.text]
    obtain ⟨inner, numbers⟩ := body.alike next
    obtain ⟨branches, numbers'⟩ := others.alike (numberList next ns).2 longer
    rw [numbers] at branches numbers'
    simp only [numberArms, numbers]
    refine ⟨.cons ?_ inner branches, numbers'⟩
    rw [Guard.text, Guard.text, noneOf_eq texts, condition.conjunct]

end

end Node

/-! ## Compiled templates -/

namespace Compiled

/-- The clauses are shown alike, and for every target the lines are the same. A clause has all its
parts in what is shown of it, but for the tokens that its conditions were written with. -/
structure Same (c d : Compiled) : Prop where
  clauses : Clause.listToJson c.clauses = Clause.listToJson d.clauses
  assembly : ∀ target, c.assembly target = d.assembly target

theorem same_ofNodes {ns ms : List Node} (h : Node.RelatedList Eq Condition.Same ns ms) :
    (ofNodes ns).Same (ofNodes ms) := by
  have alike := (h.alike fun _ => 0).1
  exact ⟨alike.listToJson, fun _ => alike.program⟩

theorem agree_ofStatements {ss tt : List Statement}
    (h : List.Forall₂ (Statement.Like Eq Condition.Same) ss tt) :
    Agree Same (ofStatements ss) (ofStatements tt) := by
  rw [ofStatements_eq, ofStatements_eq]
  exact (Node.agree_ofStatements h).map fun _ _ => same_ofNodes

end Compiled

end QueryTemplate
