import QueryTemplate.Node

/-!
Which statements spell which nodes, as a relation that mentions no reader. A node is given with
the statement it starts with and the statements after that one.
-/

namespace QueryTemplate

def ListKind.opening : ListKind → StatementKind
  | .whereList => .whereOpen
  | .setList => .setOpen

/-- A statement that no body of a branch goes on with. -/
def StatementKind.EndsBody : StatementKind → Prop
  | .elseIf | .otherwise | .close => True
  | .literal | .ifOpen | .whereOpen | .setOpen => False

namespace Node

def IsText : Node → Prop
  | .text _ => True
  | .choice .. | .collection .. => False

def IsItem : Node → Prop
  | .text _ | .choice .. => True
  | .collection .. => False

/-- A text takes in all literals that follow it. -/
def Parted (n : Node) (after : List Statement) : Prop :=
  n.IsText → ∀ s ∈ after.head?, s.kind ≠ .literal

mutual

inductive Spelled : Statement → List Statement → Node → Prop
  | text {s : Statement} {ss : List Statement} (first : s.kind = .literal)
      (others : ∀ t ∈ ss, t.kind = .literal) :
      Spelled s ss (.text (s.content :: ss.map Statement.content))
  | choice {s : Statement} {bs as : List Statement} {body : List Node} {arms : Arms}
      (opening : s.kind = .ifOpen) (check : s.condition.check = .ok ())
      (bodySpelled : SpelledBody bs body) (armsSpelled : SpelledArms as arms) :
      Spelled s (bs ++ as) (.choice s.condition body arms)
  | collection {s : Statement} {is : List Statement} {kind : ListKind} {items : List Node}
      (opening : s.kind = kind.opening) (itemsSpelled : SpelledItems is items) :
      Spelled s is (.collection kind items)

inductive SpelledBody : List Statement → List Node → Prop
  | nil : SpelledBody [] []
  | cons {s : Statement} {ss more : List Statement} {n : Node} {ns : List Node}
      (first : Spelled s ss n) (parted : n.Parted more) (others : SpelledBody more ns) :
      SpelledBody (s :: (ss ++ more)) (n :: ns)

inductive SpelledArms : List Statement → Arms → Prop
  | close {e : Statement} (closing : e.kind = .close) : SpelledArms [e] .close
  | otherwise {s e : Statement} {bs : List Statement} {body : List Node}
      (opening : s.kind = .otherwise) (bodySpelled : SpelledBody bs body)
      (closing : e.kind = .close) : SpelledArms (s :: (bs ++ [e])) (.otherwise body)
  | elseIf {s : Statement} {bs as : List Statement} {body : List Node} {arms : Arms}
      (opening : s.kind = .elseIf) (check : s.condition.check = .ok ())
      (bodySpelled : SpelledBody bs body) (armsSpelled : SpelledArms as arms) :
      SpelledArms (s :: (bs ++ as)) (.elseIf s.condition body arms)

inductive SpelledItems : List Statement → List Node → Prop
  | close {e : Statement} (closing : e.kind = .close) : SpelledItems [e] []
  | cons {s : Statement} {ss more : List Statement} {n : Node} {ns : List Node}
      (first : Spelled s ss n) (item : n.IsItem) (parted : n.Parted more)
      (others : SpelledItems more ns) : SpelledItems (s :: (ss ++ more)) (n :: ns)

end

/-- The statements of a whole template. An "end" that closes nothing spells nothing. -/
inductive SpelledAll : List Statement → List Node → Prop
  | nil : SpelledAll [] []
  | stray {e : Statement} {more : List Statement} {ns : List Node} (closing : e.kind = .close)
      (others : SpelledAll more ns) : SpelledAll (e :: more) ns
  | cons {s : Statement} {ss more : List Statement} {n : Node} {ns : List Node}
      (first : Spelled s ss n) (parted : n.Parted more) (others : SpelledAll more ns) :
      SpelledAll (s :: (ss ++ more)) (n :: ns)

theorem Parted.of_append {n : Node} {ss after : List Statement} (h : n.Parted (ss ++ after)) :
    n.Parted ss := by
  cases ss with
  | nil => exact fun _ s hs => nomatch hs
  | cons s ss => exact h

/-- What follows a list of parts decides whether its last part is complete. -/
theorem Parted.append {n : Node} {more after : List Statement} (h : n.Parted more)
    (stop : ∀ s ∈ after.head?, s.kind ≠ .literal) : n.Parted (more ++ after) := by
  cases more with
  | nil => exact fun _ => stop
  | cons s more => exact h

theorem ne_literal_of_endsBody {after : List Statement} (h : ∀ s ∈ after.head?, s.kind.EndsBody) :
    ∀ s ∈ after.head?, s.kind ≠ .literal :=
  fun s hs kind => by simpa [kind, StatementKind.EndsBody] using h s hs

theorem Spelled.isItem {s : Statement} {ss : List Statement} {n : Node} (h : Spelled s ss n)
    (kind : s.kind = .literal ∨ s.kind = .ifOpen) : n.IsItem := by
  cases h with
  | text => trivial
  | choice => trivial
  | @collection _ _ block _ opening =>
    rw [opening] at kind
    cases block <;> simp [ListKind.opening] at kind

theorem Spelled.head_ne_close {s : Statement} {ss : List Statement} {n : Node}
    (h : Spelled s ss n) : s.kind ≠ .close := by
  cases h with
  | text first => simp [first]
  | choice opening => simp [opening]
  | @collection _ _ kind _ opening => cases kind <;> simp [opening, ListKind.opening]

theorem Spelled.head_of_isItem {s : Statement} {ss : List Statement} {n : Node}
    (h : Spelled s ss n) (item : n.IsItem) : s.kind = .literal ∨ s.kind = .ifOpen := by
  cases h with
  | text first => exact .inl first
  | choice opening => exact .inr opening
  | collection => exact item.elim

theorem SpelledItems.exists_cons {is : List Statement} {ns : List Node} (h : SpelledItems is ns) :
    ∃ e more, is = e :: more := by
  cases h <;> exact ⟨_, _, rfl⟩

theorem SpelledArms.head_endsBody {as : List Statement} {arms : Arms} (h : SpelledArms as arms) :
    ∃ s more, as = s :: more ∧ s.kind.EndsBody := by
  cases h with
  | close closing => exact ⟨_, _, rfl, by simp [closing, StatementKind.EndsBody]⟩
  | otherwise opening => exact ⟨_, _, rfl, by simp [opening, StatementKind.EndsBody]⟩
  | elseIf opening => exact ⟨_, _, rfl, by simp [opening, StatementKind.EndsBody]⟩

end Node

end QueryTemplate
