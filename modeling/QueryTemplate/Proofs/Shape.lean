import Mathlib
import QueryTemplate.Proofs.Parts
import QueryTemplate.Proofs.Renumbering
import QueryTemplate.Proofs.Joining
import QueryTemplate.Proofs.Unclosed

/-!
The shape of the clauses of a template. A text takes in all literals that follow it, so no two texts
stand next to each other in a body. At the top level an "end" that closes nothing leaves no clause
behind but ends the text in front of it, and nothing else keeps two texts apart there.
-/

namespace QueryTemplate

namespace Clause

def IsSql : Clause → Prop
  | .sql _ => True
  | .choice .. | .collection .. => False

def IsChoice : Clause → Prop
  | .choice .. => True
  | .sql _ | .collection .. => False

def Apart (cs : List Clause) : Prop :=
  cs.IsChain fun c d => ¬ (c.IsSql ∧ d.IsSql)

/-- A text has pieces, the texts of a body are apart, and a where or set has texts and ifs only. -/
def Shaped : Clause → Prop
  | .sql pieces => pieces ≠ []
  | .choice _ _ body branches => Apart body ∧ ∀ b ∈ branches, Apart b.body
  | .collection _ _ body => Apart body ∧ ∀ c ∈ body, c.IsSql ∨ c.IsChoice

end Clause

namespace Node

open Clause

variable {s : Statement} {ss more : List Statement} {n : Node} {ns : List Node}

theorem isSql_number (n : Node) (next : Numbers) : (n.number next).1.IsSql ↔ n.IsText := by
  cases n <;> rfl

theorem head?_numberList (next : Numbers) (ns : List Node) :
    (numberList next ns).1.head? = ns.head?.map fun n => (n.number next).1 := by
  cases ns <;> rfl

theorem Spelled.literal_of_isText (h : Spelled s ss n) (text : n.IsText) : s.kind = .literal := by
  cases h with
  | text first => exact first
  | choice => exact text.elim
  | collection => exact text.elim

theorem isItem_number (item : n.IsItem) (next : Numbers) :
    (n.number next).1.IsSql ∨ (n.number next).1.IsChoice := by
  cases n with
  | text => exact .inl trivial
  | choice => exact .inr trivial
  | collection => exact item.elim

/-- A node that takes in all that it can is followed by a text only if it is none. -/
theorem apart_cons (parted : n.Parted more)
    (follows : ∀ m ∈ ns.head?, m.IsText → ∃ t ∈ more.head?, t.kind = .literal) {next : Numbers}
    (others : Apart (numberList (n.number next).2 ns).1) :
    Apart (numberList next (n :: ns)).1 := by
  refine List.isChain_cons.2 ⟨fun d hd => ?_, others⟩
  rw [head?_numberList] at hd
  obtain ⟨m, hm, rfl⟩ := Option.mem_map.1 hd
  rintro ⟨first, second⟩
  rw [isSql_number] at first second
  obtain ⟨t, ht, literal⟩ := follows m hm second
  exact parted first t ht literal

theorem SpelledBody.follows (h : SpelledBody more ns) :
    ∀ m ∈ ns.head?, m.IsText → ∃ t ∈ more.head?, t.kind = .literal := by
  cases h with
  | nil => simp
  | cons first =>
    rintro _ ⟨⟩ text
    exact ⟨_, rfl, first.literal_of_isText text⟩

theorem SpelledItems.follows (h : SpelledItems more ns) :
    ∀ m ∈ ns.head?, m.IsText → ∃ t ∈ more.head?, t.kind = .literal := by
  cases h with
  | close => simp
  | cons first =>
    rintro _ ⟨⟩ text
    exact ⟨_, rfl, first.literal_of_isText text⟩

mutual

theorem shaped_of_spelled {s : Statement} {ss : List Statement} {n : Node} (h : Spelled s ss n)
    (next : Numbers) : ∀ d ∈ (n.number next).1.parts, d.Shaped := by
  match h with
  | .text _ _ => simp [number, parts, Shaped]
  | @Spelled.choice s _ _ ns _ _ _ bodySpelled armsSpelled =>
    have body := shaped_of_spelledBody bodySpelled (next.bump .choice)
    have arms := shaped_of_spelledArms armsSpelled (numberList (next.bump .choice) ns).2
      [s.condition]
    simp only [number, parts, List.forall_mem_cons, List.forall_mem_append]
    exact ⟨⟨body.1, arms.1⟩, body.2, arms.2⟩
  | @Spelled.collection _ _ kind _ _ itemsSpelled =>
    have items := shaped_of_spelledItems itemsSpelled (next.bump kind.block)
    simp only [number, parts, List.forall_mem_cons]
    exact ⟨⟨items.1, items.2.1⟩, items.2.2⟩

theorem shaped_of_spelledBody {bs : List Statement} {ns : List Node} (h : SpelledBody bs ns)
    (next : Numbers) : Apart (numberList next ns).1 ∧
      ∀ d ∈ partsList (numberList next ns).1, d.Shaped := by
  match h with
  | .nil => exact ⟨.nil, by simp [numberList, partsList]⟩
  | .cons (n := n) first parted others =>
    have node := shaped_of_spelled first next
    have rest := shaped_of_spelledBody others (n.number next).2
    exact ⟨apart_cons parted others.follows rest.1, List.forall_mem_append.2 ⟨node, rest.2⟩⟩

theorem shaped_of_spelledArms {as : List Statement} {arms : Arms} (h : SpelledArms as arms)
    (next : Numbers) (prior : List Condition) :
    (∀ b ∈ (numberArms next prior arms).1, Apart b.body) ∧
      ∀ d ∈ partsBranches (numberArms next prior arms).1, d.Shaped := by
  match h with
  | .close _ => simp [numberArms, partsBranches]
  | .otherwise _ bodySpelled _ =>
    have body := shaped_of_spelledBody bodySpelled next
    simp only [numberArms, partsBranches, List.append_nil, List.forall_mem_singleton]
    exact body
  | @SpelledArms.elseIf s _ _ ns _ _ _ bodySpelled armsSpelled =>
    have body := shaped_of_spelledBody bodySpelled next
    have arms := shaped_of_spelledArms armsSpelled (numberList next ns).2 (prior ++ [s.condition])
    simp only [numberArms, partsBranches, List.forall_mem_cons, List.forall_mem_append]
    exact ⟨⟨body.1, arms.1⟩, body.2, arms.2⟩

theorem shaped_of_spelledItems {is : List Statement} {ns : List Node} (h : SpelledItems is ns)
    (next : Numbers) : Apart (numberList next ns).1 ∧
      (∀ c ∈ (numberList next ns).1, c.IsSql ∨ c.IsChoice) ∧
        ∀ d ∈ partsList (numberList next ns).1, d.Shaped := by
  match h with
  | .close _ => exact ⟨.nil, by simp [numberList], by simp [numberList, partsList]⟩
  | .cons (n := n) first item parted others =>
    have node := shaped_of_spelled first next
    have rest := shaped_of_spelledItems others (n.number next).2
    exact ⟨apart_cons parted others.follows rest.1,
      List.forall_mem_cons.2 ⟨isItem_number item next, rest.2.1⟩,
      List.forall_mem_append.2 ⟨node, rest.2.2⟩⟩

end

theorem shaped_of_spelledAll (h : SpelledAll ss ns) (next : Numbers) :
    ∀ d ∈ partsList (numberList next ns).1, d.Shaped := by
  induction h generalizing next with
  | nil => simp [numberList, partsList]
  | stray _ _ ih => exact ih next
  | cons first _ _ ih =>
    exact List.forall_mem_append.2 ⟨shaped_of_spelled first next, ih _⟩

end Node

/-! ## Texts at the top level -/

/-- Ends that close nothing, with a literal directly in front of them and one directly behind. -/
structure Statement.Divides (front es back : List Statement) : Prop where
  some : es ≠ []
  closes : ∀ e ∈ es, e.kind = .close
  outside : openBlocks front = []
  before : ∃ t ∈ front.getLast?, t.kind = .literal
  behind : ∃ t ∈ back.head?, t.kind = .literal

namespace Node

open Statement
open List (mem_getLast?_cons mem_getLast?_append_of_mem_getLast?)

variable {s : Statement} {ss front back : List Statement} {n : Node} {ns ms ks : List Node}

theorem SpelledArms.getLast?_kind {as : List Statement} {arms : Arms} (h : SpelledArms as arms) :
    ∃ e ∈ as.getLast?, e.kind = .close := by
  match h with
  | .close closing => exact ⟨_, rfl, closing⟩
  | .otherwise _ _ closing =>
    exact ⟨_, mem_getLast?_cons (mem_getLast?_append_of_mem_getLast? rfl), closing⟩
  | .elseIf _ _ _ armsSpelled =>
    obtain ⟨e, last, closing⟩ := armsSpelled.getLast?_kind
    exact ⟨e, mem_getLast?_cons (mem_getLast?_append_of_mem_getLast? last), closing⟩

theorem SpelledItems.getLast?_kind {is : List Statement} {ns : List Node}
    (h : SpelledItems is ns) : ∃ e ∈ is.getLast?, e.kind = .close := by
  match h with
  | .close closing => exact ⟨_, rfl, closing⟩
  | .cons _ _ _ others =>
    obtain ⟨e, last, closing⟩ := others.getLast?_kind
    exact ⟨e, mem_getLast?_cons (mem_getLast?_append_of_mem_getLast? last), closing⟩

/-- Only a text ends with a literal. -/
theorem Spelled.isText_of_getLast? (h : Spelled s ss n)
    (last : ∃ t ∈ (s :: ss).getLast?, t.kind = .literal) : n.IsText := by
  have closed (closes : ∃ e ∈ (s :: ss).getLast?, e.kind = .close) : n.IsText := by
    obtain ⟨t, ht, literal⟩ := last
    obtain ⟨e, he, closing⟩ := closes
    obtain rfl := Option.mem_unique ht he
    simp [literal] at closing
  cases h with
  | text => trivial
  | choice _ _ _ armsSpelled =>
    apply closed
    obtain ⟨e, he, closing⟩ := armsSpelled.getLast?_kind
    exact ⟨e, mem_getLast?_cons (mem_getLast?_append_of_mem_getLast? he), closing⟩
  | collection _ itemsSpelled =>
    apply closed
    obtain ⟨e, he, closing⟩ := itemsSpelled.getLast?_kind
    exact ⟨e, mem_getLast?_cons he, closing⟩

theorem Spelled.getLast?_literal (h : Spelled s ss n) (text : n.IsText) :
    ∃ t ∈ (s :: ss).getLast?, t.kind = .literal := by
  cases h with
  | text first others =>
    have literals : ∀ t ∈ s :: ss, t.kind = .literal := List.forall_mem_cons.2 ⟨first, others⟩
    refine ⟨_, List.getLast?_eq_some_getLast (List.cons_ne_nil s ss), ?_⟩
    exact literals _ (List.getLast_mem _)
  | choice => exact text.elim
  | collection => exact text.elim

/-- The template in front of a place where it ends with a literal ends with a text. -/
theorem SpelledAll.exists_concat_text (h : SpelledAll ss ns)
    (last : ∃ t ∈ ss.getLast?, t.kind = .literal) : ∃ ms pieces, ns = ms ++ [.text pieces] := by
  induction h with
  | nil => simp at last
  | @stray e more ns closing others ih =>
    cases more with
    | nil => simp [closing] at last
    | cons t more =>
      rw [List.getLast?_cons_cons] at last
      exact ih last
  | @cons s ss more n ns first parted others ih =>
    cases more with
    | nil =>
      cases others
      rw [List.append_nil] at last
      have text := first.isText_of_getLast? last
      cases n with
      | text pieces => exact ⟨[], pieces, rfl⟩
      | choice => exact text.elim
      | collection => exact text.elim
    | cons t more =>
      rw [← List.cons_append, List.getLast?_append_of_ne_nil _ (List.cons_ne_nil t more)] at last
      obtain ⟨ms, pieces, rfl⟩ := ih last
      exact ⟨n :: ms, pieces, rfl⟩

/-- The ends in front of the first node that close nothing. -/
theorem SpelledAll.exists_strays (h : SpelledAll ss (n :: ns)) :
    ∃ es s others more, ss = es ++ s :: (others ++ more) ∧ (∀ e ∈ es, e.kind = .close) ∧
      Spelled s others n ∧ SpelledAll (s :: (others ++ more)) (n :: ns) := by
  generalize whole : n :: ns = all at h
  induction h with
  | nil => cases whole
  | @stray e more _ closing _ ih =>
    obtain ⟨es, s, others, rest, rfl, closes, first, spelled⟩ := ih whole
    exact ⟨e :: es, s, others, rest, rfl, List.forall_mem_cons.2 ⟨closing, closes⟩, first, spelled⟩
  | @cons s others more _ _ first parted spelled =>
    cases whole
    exact ⟨[], s, others, more, rfl, by simp, first, .cons first parted spelled⟩

/-- Between two texts that stand next to each other there are ends that close nothing. -/
theorem SpelledAll.exists_divides {a b : List String} (h : SpelledAll ss ns)
    (texts : ns = ms ++ .text a :: .text b :: ks) :
    ∃ front es back, ss = front ++ (es ++ back) ∧ es ≠ [] ∧ (∀ e ∈ es, e.kind = .close) ∧
      (∃ t ∈ front.getLast?, t.kind = .literal) ∧ (∃ t ∈ back.head?, t.kind = .literal) ∧
      SpelledAll front (ms ++ [.text a]) := by
  induction h generalizing ms with
  | nil => simp at texts
  | @stray e _ _ closing _ ih =>
    obtain ⟨front, es, back, rfl, some, closes, before, behind, spelled⟩ := ih texts
    refine ⟨e :: front, es, back, rfl, some, closes, ?_, behind, .stray closing spelled⟩
    obtain ⟨t, ht, literal⟩ := before
    exact ⟨t, mem_getLast?_cons ht, literal⟩
  | @cons s ss more n ns first parted others ih =>
    cases ms with
    | nil =>
      obtain ⟨rfl, rfl⟩ := List.cons.inj texts
      obtain ⟨es, t, run, rest, rfl, closes, second, -⟩ := others.exists_strays
      have literal := second.literal_of_isText trivial
      refine ⟨s :: ss, es, t :: (run ++ rest), by simp, ?_, closes,
        first.getLast?_literal trivial, ⟨t, rfl, literal⟩, ?_⟩
      · rintro rfl
        exact parted trivial t rfl literal
      · have alone := SpelledAll.cons first (fun _ _ h => by cases h) .nil
        rwa [List.append_nil] at alone
    | cons m ms =>
      obtain ⟨rfl, rfl⟩ := List.cons.inj texts
      obtain ⟨front, es, back, rfl, some, closes, before, behind, spelled⟩ := ih rfl
      refine ⟨s :: (ss ++ front), es, back, by simp, some, closes, ?_, behind,
        .cons first parted.of_append spelled⟩
      obtain ⟨t, ht, literal⟩ := before
      exact ⟨t, mem_getLast?_cons (mem_getLast?_append_of_mem_getLast? ht), literal⟩

theorem exists_spelledAll_iff : (∃ ns, SpelledAll ss ns) ↔ OpenBlock.verdict [] ss = .ok () := by
  rw [verdict_takeAll]
  constructor
  · rintro ⟨ns, spelled⟩
    rw [takeAll_of_spelledAll spelled]
    rfl
  · intro h
    obtain ⟨ns, takes, -⟩ := except_bind_eq_ok.1 h
    exact ⟨ns, spelledAll_of_takeAll takes⟩

/-- A template can be divided where no block is open: what is in front is a template, and no block
is open before what is behind. -/
theorem SpelledAll.divided {rest : List Statement} (h : SpelledAll (front ++ rest) ns)
    (outside : openBlocks front = []) :
    (∃ ms, SpelledAll front ms) ∧ OpenBlock.verdict [] rest = .ok () := by
  have found := exists_spelledAll_iff.1 ⟨ns, h⟩
  rw [OpenBlock.verdict_append] at found
  obtain ⟨blocks, run, others⟩ := except_bind_eq_ok.1 found
  have none : blocks.map OpenBlock.block = [] := (OpenBlock.map_block_foldlM run).trans outside
  obtain rfl := List.map_eq_nil_iff.1 none
  refine ⟨exists_spelledAll_iff.2 ?_, others⟩
  rw [OpenBlock.verdict, run]
  rfl

theorem SpelledAll.openBlocks (h : SpelledAll ss ns) : openBlocks ss = [] := by
  obtain ⟨blocks, run, closed⟩ := except_bind_eq_ok.1 (exists_spelledAll_iff.1 ⟨ns, h⟩)
  obtain rfl := OpenBlock.closed_eq_ok_iff.1 closed
  exact (OpenBlock.map_block_foldlM run).symm

theorem SpelledAll.unique (h : SpelledAll ss ns) (h' : SpelledAll ss ms) : ns = ms := by
  have once := takeAll_of_spelledAll h
  rw [takeAll_of_spelledAll h'] at once
  exact (Except.ok.inj once).symm

theorem SpelledAll.behind_strays {es : List Statement} (h : SpelledAll ss ns)
    (closes : ∀ e ∈ es, e.kind = .close) : SpelledAll (es ++ ss) ns := by
  induction es with
  | nil => exact h
  | cons e es ih =>
    rw [List.forall_mem_cons] at closes
    exact .stray closes.1 (ih closes.2)

theorem SpelledAll.exists_text_cons (h : SpelledAll ss ns)
    (first : ∃ t ∈ ss.head?, t.kind = .literal) : ∃ pieces ks, ns = .text pieces :: ks := by
  obtain ⟨t, ht, literal⟩ := first
  cases h with
  | nil => cases ht
  | stray closing =>
    cases ht
    simp [closing] at literal
  | cons spelled =>
    cases ht
    cases spelled with
    | text => exact ⟨_, _, rfl⟩
    | choice opening => simp [opening] at literal
    | @collection _ _ kind _ opening => cases kind <;> simp [opening, ListKind.opening] at literal

/-- Where ends that close nothing divide a template there are two texts next to each other. -/
theorem SpelledAll.texts_of_divides {es : List Statement}
    (h : SpelledAll (front ++ (es ++ back)) ns) (divides : Divides front es back) :
    ∃ ms a b ks, ns = ms ++ .text a :: .text b :: ks ∧ SpelledAll front (ms ++ [.text a]) := by
  obtain ⟨⟨first, inFront⟩, rest⟩ := h.divided divides.outside
  have ends : es.foldlM OpenBlock.after [] = .ok [] := by
    simpa using OpenBlock.foldlM_closes divides.closes []
  rw [OpenBlock.verdict_append, ends] at rest
  obtain ⟨second, inBack⟩ := exists_spelledAll_iff.2 rest
  have stop : ∀ t ∈ (es ++ back).head?, t.kind ≠ .literal := by
    obtain ⟨e, more, rfl⟩ := List.exists_cons_of_ne_nil divides.some
    rintro _ ⟨⟩
    simp [divides.closes e (.head more)]
  have whole := inFront.append (inBack.behind_strays divides.closes) stop
  obtain rfl := h.unique whole
  obtain ⟨ms, a, rfl⟩ := inFront.exists_concat_text divides.before
  obtain ⟨b, ks, rfl⟩ := inBack.exists_text_cons divides.behind
  exact ⟨ms, a, b, ks, by simp, inFront⟩

/-! ### The clauses of the top level -/

theorem numberList_eq_append {next : Numbers} {xs ys : List Clause}
    (h : (numberList next ns).1 = xs ++ ys) :
    ∃ ms ks, ns = ms ++ ks ∧ (numberList next ms).1 = xs ∧
      (numberList (numberList next ms).2 ks).1 = ys := by
  induction xs generalizing next ns with
  | nil => exact ⟨[], ns, rfl, rfl, h⟩
  | cons x xs ih =>
    cases ns with
    | nil => cases h
    | cons n ns =>
      obtain ⟨rfl, others⟩ := List.cons.inj h
      obtain ⟨ms, ks, rfl, front, back⟩ := ih others
      exact ⟨n :: ms, ks, rfl, by simp only [numberList, front], back⟩

theorem numberList_eq_sql_cons {next : Numbers} {pieces : List String} {ys : List Clause}
    (h : (numberList next ns).1 = .sql pieces :: ys) :
    ∃ ks, ns = .text pieces :: ks ∧ (numberList next ks).1 = ys := by
  cases ns with
  | nil => cases h
  | cons n ns =>
    obtain ⟨first, others⟩ := List.cons.inj h
    cases n with
    | text =>
      cases first
      exact ⟨ns, rfl, others⟩
    | choice => cases first
    | collection => cases first

end Node

namespace Compiled

open Node Statement

variable {ss : List Statement} {c : Compiled}

theorem clauses_eq_ok_iff {clauses : List Clause} :
    (ofStatements ss).map Compiled.clauses = .ok clauses ↔
      ss ≠ [] ∧ ∃ ns, SpelledAll ss ns ∧ (numberList (fun _ => 0) ns).1 = clauses := by
  constructor
  · intro h
    obtain ⟨c, compiled, rfl⟩ := except_map_eq_ok.1 h
    obtain ⟨ns, read, numbered, -⟩ := ofStatements_eq_ok compiled
    obtain ⟨nonempty, spelled⟩ := Node.ofStatements_eq_ok_iff.1 read
    exact ⟨nonempty, ns, spelled, numbered.symm⟩
  · rintro ⟨nonempty, ns, spelled, rfl⟩
    have read := Node.ofStatements_eq_ok_iff.2 ⟨nonempty, spelled⟩
    rw [ofStatements_eq, read]
    rfl

/-- Every clause of a template is shaped, at any depth. At the top level two texts stand next to
each other just where ends that close nothing divide the statements between two literals: in front
of the ends stands a template that ends with the first of the two texts. -/
theorem ofStatements_shaped (h : ofStatements ss = .ok c) :
    (∀ d ∈ Clause.partsList c.clauses, d.Shaped) ∧
      (∀ xs p q ys, c.clauses = xs ++ .sql p :: .sql q :: ys →
        ∃ front es back, ss = front ++ (es ++ back) ∧ Divides front es back ∧
          (ofStatements front).map clauses = .ok (xs ++ [.sql p])) ∧
      ∀ front es back, ss = front ++ (es ++ back) → Divides front es back →
        ∃ xs p q ys, c.clauses = xs ++ .sql p :: .sql q :: ys ∧
          (ofStatements front).map clauses = .ok (xs ++ [.sql p]) := by
  obtain ⟨ns, read, numbered, -⟩ := ofStatements_eq_ok h
  have spelled := (Node.ofStatements_eq_ok_iff.1 read).2
  have nonempty {front : List Statement} (before : ∃ t ∈ front.getLast?, t.kind = .literal) :
      front ≠ [] := by
    rintro rfl
    simp at before
  rw [numbered]
  refine ⟨shaped_of_spelledAll spelled _, ?_, ?_⟩
  · intro xs p q ys texts
    obtain ⟨ms, ks, rfl, first, second⟩ := numberList_eq_append texts
    obtain ⟨ks, rfl, others⟩ := numberList_eq_sql_cons second
    obtain ⟨ks, rfl, -⟩ := numberList_eq_sql_cons others
    obtain ⟨front, es, back, rfl, some, closes, before, behind, inFront⟩ :=
      spelled.exists_divides rfl
    refine ⟨front, es, back, rfl, ⟨some, closes, inFront.openBlocks, before, behind⟩, ?_⟩
    refine clauses_eq_ok_iff.2 ⟨nonempty before, _, inFront, ?_⟩
    rw [numberList_append, first]
    rfl
  · rintro front es back rfl divides
    obtain ⟨ms, a, b, ks, rfl, inFront⟩ := spelled.texts_of_divides divides
    refine ⟨(numberList (fun _ => 0) ms).1, a, b, _, by rw [numberList_append]; rfl, ?_⟩
    refine clauses_eq_ok_iff.2 ⟨nonempty divides.before, _, inFront, ?_⟩
    rw [numberList_append]
    rfl

/-- A text, two ends that close nothing, and a text in front of a where with an if. -/
def dividedTexts : List Statement :=
  let word (k : Keyword) : Token := ⟨.keyword k, k.name, false⟩
  let text (content : String) : Statement := .literal ⟨.quoted, content, false⟩
  let close : Statement := .bare .close (word .close)
  [text "\"a\"", close, close, text "\"b\"", text "\"c\"", .bare .whereOpen (word .whereOpen),
    .guarded .ifOpen [word .ifOpen] [⟨.param .bool, "A", false⟩], text "\"d\"", close, close]

theorem ofStatements_dividedTexts :
    ∃ c, ofStatements dividedTexts = .ok c ∧ (∀ d ∈ Clause.partsList c.clauses, d.Shaped) ∧
      Divides (dividedTexts.take 1) ((dividedTexts.drop 1).take 2) (dividedTexts.drop 3) ∧
      (∃ xs p q ys, c.clauses = xs ++ .sql p :: .sql q :: ys ∧
        (ofStatements (dividedTexts.take 1)).map clauses = .ok (xs ++ [.sql p])) ∧
      ∃ front es back, dividedTexts = front ++ (es ++ back) ∧ Divides front es back ∧
        (ofStatements front).map clauses = .ok [.sql ["\"a\""]] := by
  have compiles : (ofStatements dividedTexts).map (fun c => c.clauses.take 2) =
      .ok [.sql ["\"a\""], .sql ["\"b\"", "\"c\""]] := by cbv
  obtain ⟨c, h, texts⟩ := except_map_eq_ok.1 compiles
  have divides : Divides (dividedTexts.take 1) ((dividedTexts.drop 1).take 2)
      (dividedTexts.drop 3) :=
    ⟨by decide, by decide, by decide, ⟨_, rfl, rfl⟩, ⟨_, rfl, rfl⟩⟩
  obtain ⟨shaped, divided, adjacent⟩ := ofStatements_shaped h
  have whole : c.clauses =
      [] ++ .sql ["\"a\""] :: .sql ["\"b\"", "\"c\""] :: c.clauses.drop 2 := by
    conv => lhs; rw [← List.take_append_drop 2 c.clauses, texts]
    rfl
  exact ⟨c, h, shaped, divides, adjacent _ _ _ rfl divides, divided _ _ _ _ whole⟩

end Compiled

end QueryTemplate
