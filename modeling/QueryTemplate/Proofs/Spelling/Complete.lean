import QueryTemplate.Proofs.Spelling.Sound

/-!
Statements that spell a node are taken in by reading, whatever follows them. So reading succeeds on
exactly the statements that spell nodes and gives the nodes they spell.
-/

namespace QueryTemplate

namespace Node

theorem takeText_append {run after : List Statement} (literals : ∀ t ∈ run, t.kind = .literal)
    (stop : ∀ s ∈ after.head?, s.kind ≠ .literal) :
    (takeText (run ++ after)).value = run.map Statement.content ∧
      (takeText (run ++ after)).left = after := by
  induction run with
  | nil =>
    cases after with
    | nil => exact ⟨rfl, rfl⟩
    | cons s after =>
      simp only [List.nil_append, takeText]
      rw [if_neg (stop s rfl)]
      exact ⟨rfl, rfl⟩
  | cons s run ih =>
    obtain ⟨value, left⟩ := ih fun t ht => literals t (.tail s ht)
    simp only [List.cons_append, takeText]
    rw [if_pos (literals s (.head run))]
    exact ⟨by simp [value], left⟩

theorem takeBody_of_endsBody {after : List Statement} (h : ∀ s ∈ after.head?, s.kind.EndsBody) :
    ∃ len, takeBody after = .ok ⟨[], after, len⟩ := by
  refine ⟨Nat.le_refl _, ?_⟩
  cases after with
  | nil => rw [takeBody]
  | cons s after =>
    have ends := h s rfl
    rw [takeBody]
    cases kind : s.kind <;> simp only [kind, StatementKind.EndsBody] at ends
    all_goals rfl

/-- Behind a body no further one is read. -/
theorem takeBody_left {ss : List Statement} {body : Taken (List Node) ss}
    (takes : takeBody ss = .ok body) : ∃ len, takeBody body.left = .ok ⟨[], body.left, len⟩ := by
  obtain ⟨-, -, -, ends⟩ := spelledBody_of_takeBody takes
  exact takeBody_of_endsBody ends

theorem takeBody_of_take {s : Statement} {rest : List Statement} {node : Taken Node rest}
    {more : Taken (List Node) node.left} (takes : take s rest = .ok node)
    (takesMore : takeBody node.left = .ok more) :
    ∃ len, takeBody (s :: rest) = .ok ⟨node.value :: more.value, more.left, len⟩ := by
  refine ⟨Nat.le_succ_of_le (Nat.le_trans more.length_le node.length_le), ?_⟩
  rw [takeBody]
  cases kind : s.kind
  case elseIf | otherwise | close =>
    rw [take] at takes
    simp only [kind] at takes
    cases takes
  all_goals simp [takes, takesMore, bind, Except.bind, pure, Except.pure]

theorem take_choice {s : Statement} {rest : List Statement} {body : Taken (List Node) rest}
    {arms : Taken Arms body.left} (opening : s.kind = .ifOpen) (check : s.condition.check = .ok ())
    (takesBody : takeBody rest = .ok body) (takesArms : takeArms body.left = .ok arms) :
    ∃ len, take s rest = .ok ⟨.choice s.condition body.value arms.value, arms.left, len⟩ := by
  refine ⟨Nat.le_trans arms.length_le body.length_le, ?_⟩
  rw [take]
  simp [opening, check, takesBody, takesArms, bind, Except.bind, pure, Except.pure]

theorem take_collection {s : Statement} {rest : List Statement} {kind : ListKind}
    {items : Taken (List Node) rest} (opening : s.kind = kind.opening)
    (takesItems : takeItems kind rest = .ok items) :
    ∃ len, take s rest = .ok ⟨.collection kind items.value, items.left, len⟩ := by
  refine ⟨items.length_le, ?_⟩
  rw [take]
  cases kind <;>
    simp [opening, ListKind.opening, takesItems, bind, Except.bind, pure, Except.pure]

theorem takeArms_elseIf {s : Statement} {rest : List Statement} {body : Taken (List Node) rest}
    {arms : Taken Arms body.left} (opening : s.kind = .elseIf) (check : s.condition.check = .ok ())
    (takesBody : takeBody rest = .ok body) (takesArms : takeArms body.left = .ok arms) :
    ∃ len, takeArms (s :: rest) =
      .ok ⟨.elseIf s.condition body.value arms.value, arms.left, len⟩ := by
  refine ⟨Nat.le_succ_of_le (Nat.le_trans arms.length_le body.length_le), ?_⟩
  rw [takeArms]
  simp [opening, check, takesBody, takesArms, bind, Except.bind, pure, Except.pure]

theorem takeArms_otherwise {s e : Statement} {rest after : List Statement} {body : List Node}
    {len : (e :: after).length ≤ rest.length} (opening : s.kind = .otherwise)
    (takesBody : takeBody rest = .ok ⟨body, e :: after, len⟩) (closing : e.kind = .close) :
    ∃ len, takeArms (s :: rest) = .ok ⟨.otherwise body, after, len⟩ := by
  simp only [List.length_cons] at len
  refine ⟨by simp only [List.length_cons]; omega, ?_⟩
  rw [takeArms]
  simp [opening, closing, takesBody, bind, Except.bind, pure, Except.pure]

theorem takeItems_of_take {s : Statement} {rest : List Statement} {kind : ListKind}
    {node : Taken Node rest} {more : Taken (List Node) node.left}
    (part : s.kind = .literal ∨ s.kind = .ifOpen) (takes : take s rest = .ok node)
    (takesMore : takeItems kind node.left = .ok more) :
    ∃ len, takeItems kind (s :: rest) = .ok ⟨node.value :: more.value, more.left, len⟩ := by
  refine ⟨Nat.le_succ_of_le (Nat.le_trans more.length_le node.length_le), ?_⟩
  rw [takeItems]
  rcases part with part | part <;>
    simp [part, takes, takesMore, bind, Except.bind, pure, Except.pure]

mutual

theorem take_of_spelled {s : Statement} {ss : List Statement} {n : Node} (h : Spelled s ss n)
    (after : List Statement) (parted : n.Parted after) :
    ∃ len, take s (ss ++ after) = .ok ⟨n, after, len⟩ := by
  match h with
  | .text first others =>
    obtain ⟨value, left⟩ := takeText_append others (parted trivial)
    refine ⟨by simp, ?_⟩
    rw [take]
    simp only [first]
    congr
  | .choice opening check bodySpelled armsSpelled =>
    obtain ⟨e, more, rfl, ends⟩ := armsSpelled.head_endsBody
    obtain ⟨_, takesBody⟩ := takeBody_of_spelled bodySpelled ((e :: more) ++ after)
      (by simpa using ends)
    obtain ⟨_, takesArms⟩ := takeArms_of_spelled armsSpelled after
    rw [List.append_assoc]
    exact take_choice opening check takesBody takesArms
  | .collection opening itemsSpelled =>
    obtain ⟨_, takesItems⟩ := takeItems_of_spelled _ itemsSpelled after
    exact take_collection opening takesItems

theorem takeBody_of_spelled {bs : List Statement} {ns : List Node} (h : SpelledBody bs ns)
    (after : List Statement) (ends : ∀ s ∈ after.head?, s.kind.EndsBody) :
    ∃ len, takeBody (bs ++ after) = .ok ⟨ns, after, len⟩ := by
  match h with
  | .nil => exact takeBody_of_endsBody ends
  | .cons first parted others =>
    obtain ⟨_, takes⟩ := take_of_spelled first _ (parted.append (ne_literal_of_endsBody ends))
    obtain ⟨_, takesMore⟩ := takeBody_of_spelled others after ends
    rw [List.cons_append, List.append_assoc]
    exact takeBody_of_take takes takesMore

theorem takeArms_of_spelled {as : List Statement} {arms : Arms} (h : SpelledArms as arms)
    (after : List Statement) : ∃ len, takeArms (as ++ after) = .ok ⟨arms, after, len⟩ := by
  match h with
  | .close closing =>
    rw [List.singleton_append]
    refine ⟨Nat.le_succ _, ?_⟩
    rw [takeArms]
    simp [closing]
  | .otherwise (e := e) opening bodySpelled closing =>
    obtain ⟨_, takesBody⟩ := takeBody_of_spelled bodySpelled (e :: after)
      (by simp [closing, StatementKind.EndsBody])
    rw [List.cons_append, List.append_assoc, List.singleton_append]
    exact takeArms_otherwise opening takesBody closing
  | .elseIf opening check bodySpelled armsSpelled =>
    obtain ⟨e, more, rfl, ends⟩ := armsSpelled.head_endsBody
    obtain ⟨_, takesBody⟩ := takeBody_of_spelled bodySpelled ((e :: more) ++ after)
      (by simpa using ends)
    obtain ⟨_, takesArms⟩ := takeArms_of_spelled armsSpelled after
    rw [List.cons_append, List.append_assoc]
    exact takeArms_elseIf opening check takesBody takesArms

theorem takeItems_of_spelled (kind : ListKind) {is : List Statement} {ns : List Node}
    (h : SpelledItems is ns) (after : List Statement) :
    ∃ len, takeItems kind (is ++ after) = .ok ⟨ns, after, len⟩ := by
  match h with
  | .close closing =>
    rw [List.singleton_append]
    refine ⟨Nat.le_succ _, ?_⟩
    rw [takeItems]
    simp [closing]
  | .cons first item parted others =>
    obtain ⟨e, more, rfl⟩ := others.exists_cons
    obtain ⟨_, takes⟩ := take_of_spelled first ((e :: more) ++ after) parted
    obtain ⟨_, takesMore⟩ := takeItems_of_spelled kind others after
    rw [List.cons_append, List.append_assoc]
    exact takeItems_of_take (first.head_of_isItem item) takes takesMore

end

theorem takeAll_of_spelledAll {ss : List Statement} {ns : List Node} (h : SpelledAll ss ns) :
    takeAll ss = .ok ns := by
  induction h with
  | nil => rw [takeAll]
  | stray closing _ ih =>
    rw [takeAll, if_pos closing]
    exact ih
  | cons first parted _ ih =>
    obtain ⟨_, takes⟩ := take_of_spelled first _ parted
    rw [takeAll, if_neg first.head_ne_close]
    simp [takes, ih, bind, Except.bind, pure, Except.pure]

/-- Reading succeeds on exactly the statements that spell nodes, and gives these nodes. -/
theorem ofStatements_eq_ok_iff {ss : List Statement} {ns : List Node} :
    ofStatements ss = .ok ns ↔ ss ≠ [] ∧ SpelledAll ss ns := by
  unfold ofStatements
  split
  · next empty => simp [empty]
  · next nonempty =>
    exact ⟨fun h => ⟨nonempty, spelledAll_of_takeAll h⟩, fun h => takeAll_of_spelledAll h.2⟩

end Node

end QueryTemplate
