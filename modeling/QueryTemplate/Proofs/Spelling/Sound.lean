import QueryTemplate.Proofs.Spelling

/-!
What reading takes off a list of statements spells what it gives.
-/

namespace QueryTemplate

namespace Node

theorem takeText_spelled (ss : List Statement) :
    ∃ run, ss = run ++ (takeText ss).left ∧ (∀ t ∈ run, t.kind = .literal) ∧
      (takeText ss).value = run.map Statement.content ∧
      ∀ s ∈ (takeText ss).left.head?, s.kind ≠ .literal := by
  induction ss with
  | nil => exact ⟨[], rfl, by simp, rfl, by simp [takeText]⟩
  | cons s rest ih =>
    rw [takeText]
    split
    · next literal =>
      obtain ⟨run, split, literals, value, stop⟩ := ih
      refine ⟨s :: run, ?_, ?_, ?_, stop⟩
      · simpa using split
      · simpa using ⟨literal, literals⟩
      · simp [value]
    · next other => exact ⟨[], rfl, by simp, rfl, by simpa using other⟩

theorem takeBody_cons {s : Statement} {rest : List Statement} {t : Taken (List Node) (s :: rest)}
    (h : takeBody (s :: rest) = .ok t) :
    (s.kind.EndsBody ∧ t.value = [] ∧ t.left = s :: rest) ∨
      ∃ node more, take s rest = .ok node ∧ takeBody node.left = .ok more ∧
        t.value = node.value :: more.value ∧ t.left = more.left := by
  rw [takeBody] at h
  cases kind : s.kind <;> simp only [kind] at h
  case elseIf | otherwise | close =>
    cases h
    exact .inl ⟨trivial, rfl, rfl⟩
  all_goals
    obtain ⟨node, takes, h⟩ := except_bind_eq_ok.1 h
    obtain ⟨more, takesMore, h⟩ := except_bind_eq_ok.1 h
    cases h
    exact .inr ⟨node, more, takes, takesMore, rfl, rfl⟩

theorem takeItems_cons {kind : ListKind} {s : Statement} {rest : List Statement}
    {t : Taken (List Node) (s :: rest)} (h : takeItems kind (s :: rest) = .ok t) :
    (s.kind = .close ∧ t.value = [] ∧ t.left = rest) ∨
      ((s.kind = .literal ∨ s.kind = .ifOpen) ∧
        ∃ node more, take s rest = .ok node ∧ takeItems kind node.left = .ok more ∧
          t.value = node.value :: more.value ∧ t.left = more.left) := by
  rw [takeItems] at h
  cases kind : s.kind <;> simp only [kind] at h
  case close =>
    cases h
    exact .inl ⟨rfl, rfl, rfl⟩
  case literal | ifOpen =>
    obtain ⟨node, takes, h⟩ := except_bind_eq_ok.1 h
    obtain ⟨more, takesMore, h⟩ := except_bind_eq_ok.1 h
    cases h
    exact .inr ⟨by simp, node, more, takes, takesMore, rfl, rfl⟩
  all_goals cases h

mutual

theorem spelled_of_take {s : Statement} {rest : List Statement} {t : Taken Node rest}
    (h : take s rest = .ok t) :
    ∃ ss, rest = ss ++ t.left ∧ Spelled s ss t.value ∧ t.value.Parted t.left := by
  rw [take] at h
  split at h
  case _ kind =>
    cases h
    obtain ⟨run, split, literals, value, stop⟩ := takeText_spelled rest
    refine ⟨run, split, ?_, fun _ => stop⟩
    rw [value]
    exact .text kind literals
  case _ kind =>
    obtain ⟨_, check, h⟩ := except_bind_eq_ok.1 h
    obtain ⟨body, takesBody, h⟩ := except_bind_eq_ok.1 h
    obtain ⟨arms, takesArms, h⟩ := except_bind_eq_ok.1 h
    cases h
    obtain ⟨bs, splitBody, bodySpelled, -⟩ := spelledBody_of_takeBody takesBody
    obtain ⟨as, splitArms, armsSpelled⟩ := spelledArms_of_takeArms takesArms
    refine ⟨bs ++ as, ?_, .choice kind check bodySpelled armsSpelled, False.elim⟩
    rw [List.append_assoc, ← splitArms, ← splitBody]
  case _ kind | _ kind =>
    obtain ⟨items, takesItems, h⟩ := except_bind_eq_ok.1 h
    cases h
    obtain ⟨is, split, itemsSpelled⟩ := spelledItems_of_takeItems takesItems
    exact ⟨is, split, .collection kind itemsSpelled, False.elim⟩
  all_goals cases h
termination_by 2 * rest.length + 1
decreasing_by
  · omega
  · have := body.length_le; omega
  · omega
  · omega

theorem spelledBody_of_takeBody {ss : List Statement} {t : Taken (List Node) ss}
    (h : takeBody ss = .ok t) :
    ∃ bs, ss = bs ++ t.left ∧ SpelledBody bs t.value ∧ ∀ s ∈ t.left.head?, s.kind.EndsBody := by
  match ss with
  | [] =>
    rw [takeBody] at h
    cases h
    exact ⟨[], rfl, .nil, by simp⟩
  | s :: rest =>
    rcases takeBody_cons h with ⟨ends, value, left⟩ | ⟨node, more, takes, takesMore, value, left⟩
    · rw [value, left]
      exact ⟨[], rfl, .nil, by simpa using ends⟩
    · obtain ⟨ss, split, spelled, parted⟩ := spelled_of_take takes
      obtain ⟨bs, splitMore, others, ends⟩ := spelledBody_of_takeBody takesMore
      rw [value, left]
      rw [splitMore] at split parted
      exact ⟨s :: (ss ++ bs), by simp [split], .cons spelled parted.of_append others, ends⟩
termination_by 2 * ss.length
decreasing_by
  all_goals simp only [List.length_cons]
  · omega
  · have := node.length_le; omega

theorem spelledArms_of_takeArms {ss : List Statement} {t : Taken Arms ss}
    (h : takeArms ss = .ok t) :
    ∃ as, ss = as ++ t.left ∧ SpelledArms as t.value := by
  match ss with
  | [] =>
    rw [takeArms] at h
    cases h
  | s :: rest =>
    rw [takeArms] at h
    split at h
    case _ kind =>
      cases h
      exact ⟨[s], rfl, .close kind⟩
    case _ kind =>
      obtain ⟨_, check, h⟩ := except_bind_eq_ok.1 h
      obtain ⟨body, takesBody, h⟩ := except_bind_eq_ok.1 h
      obtain ⟨arms, takesArms, h⟩ := except_bind_eq_ok.1 h
      cases h
      obtain ⟨bs, splitBody, bodySpelled, -⟩ := spelledBody_of_takeBody takesBody
      obtain ⟨as, splitArms, armsSpelled⟩ := spelledArms_of_takeArms takesArms
      refine ⟨s :: (bs ++ as), ?_, .elseIf kind check bodySpelled armsSpelled⟩
      rw [List.cons_append, List.append_assoc, ← splitArms, ← splitBody]
    case _ kind =>
      obtain ⟨body, takesBody, h⟩ := except_bind_eq_ok.1 h
      obtain ⟨bs, splitBody, bodySpelled, -⟩ := spelledBody_of_takeBody takesBody
      split at h
      · cases h
      · next e left closes =>
        split at h
        · next closing =>
          cases h
          refine ⟨s :: (bs ++ [e]), ?_, .otherwise kind bodySpelled closing⟩
          simp [splitBody, closes]
        · cases h
    all_goals cases h
termination_by 2 * ss.length
decreasing_by
  all_goals simp only [List.length_cons]
  · omega
  · have := body.length_le; omega
  · omega

theorem spelledItems_of_takeItems {kind : ListKind} {ss : List Statement}
    {t : Taken (List Node) ss} (h : takeItems kind ss = .ok t) :
    ∃ is, ss = is ++ t.left ∧ SpelledItems is t.value := by
  match ss with
  | [] =>
    rw [takeItems] at h
    cases h
  | s :: rest =>
    rcases takeItems_cons h with
      ⟨closing, value, left⟩ | ⟨part, node, more, takes, takesMore, value, left⟩
    · rw [value, left]
      exact ⟨[s], rfl, .close closing⟩
    · obtain ⟨ss, split, spelled, parted⟩ := spelled_of_take takes
      obtain ⟨is, splitMore, others⟩ := spelledItems_of_takeItems takesMore
      rw [value, left]
      rw [splitMore] at split parted
      exact ⟨s :: (ss ++ is), by simp [split],
        .cons spelled (spelled.isItem part) parted.of_append others⟩
termination_by 2 * ss.length
decreasing_by
  all_goals simp only [List.length_cons]
  · omega
  · have := node.length_le; omega

end

theorem spelledAll_of_takeAll {ss : List Statement} {ns : List Node} (h : takeAll ss = .ok ns) :
    SpelledAll ss ns := by
  match ss with
  | [] =>
    rw [takeAll] at h
    cases h
    exact .nil
  | s :: rest =>
    rw [takeAll] at h
    split at h
    · next closing => exact .stray closing (spelledAll_of_takeAll h)
    · obtain ⟨node, takes, h⟩ := except_bind_eq_ok.1 h
      obtain ⟨more, takesMore, h⟩ := except_bind_eq_ok.1 h
      cases h
      obtain ⟨ss, split, spelled, parted⟩ := spelled_of_take takes
      have all := SpelledAll.cons spelled parted (spelledAll_of_takeAll takesMore)
      rwa [← split] at all
termination_by ss.length
decreasing_by
  · exact Nat.lt_succ_of_le node.length_le
  · exact Nat.lt_succ_self _

end Node

end QueryTemplate
