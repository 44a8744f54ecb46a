import Mathlib
import QueryTemplate.Param

/-!
Specs of parameters. A name, a colon and the name of a type declare a parameter of that name and
type, and brackets at the end declare an array. So every parameter whose name a command line can
carry is declared by a spec, and by one for each name that its type has.
-/

namespace QueryTemplate

namespace Text

/-- Trimming drops blanks from both ends, so what it keeps as a whole starts with none. -/
theorem dropWhile_of_trimChars {cs : List Char} (h : trimChars cs = cs) :
    cs.dropWhile isBlank = cs := by
  refine (List.dropWhile_suffix isBlank).eq_of_length_le ?_
  have shorter : (trimChars cs).length ≤ (cs.dropWhile isBlank).length :=
    (List.rdropWhile_prefix isBlank (cs.dropWhile isBlank)).length_le
  rwa [h] at shorter

theorem trimChars_concat {cs : List Char} (h : trimChars cs = cs) {c : Char}
    (visible : isBlank c = false) : trimChars (cs ++ [c]) = cs ++ [c] := by
  have front : (cs ++ [c]).dropWhile isBlank = cs ++ [c] := by
    cases cs with
    | nil => simp [visible]
    | cons d ds =>
      have first := dropWhile_of_trimChars h
      rw [List.dropWhile_eq_self_iff] at first
      rw [List.dropWhile_eq_self_iff]
      intro nonempty
      exact first (by simp)
  rw [trimChars, front]
  exact List.rdropWhile_concat_neg isBlank cs c (by simp [visible])

theorem trimChars_of_trim {s : String} (h : trim s = s) : trimChars s.toList = s.toList := by
  have chars := congrArg String.toList h
  rwa [trim, String.toList_ofList] at chars

end Text

namespace Param

/-- The spec declares the parameter: its name, a colon, a name of its type, and brackets if it is an
array. Neither name starts or ends with a blank, the first one is there and has no colon, and the
second one does not end like an array. -/
structure DeclaredBy (p : Param) (spec : String) : Prop where
  nonempty : p.name ≠ ""
  colon : ':' ∉ p.name.toList
  trimmed : Text.trim p.name = p.name
  written : ∃ type, spec = p.name ++ ":" ++ type ++ (if p.isArray then "[]" else "") ∧
    ParamType.ofName type = p.type ∧ Text.trim type = type ∧ ¬ ['[', ']'] <:+ type.toList

variable {p : Param} {spec : String}

theorem ofTypeText_array (name : String) (type : List Char) :
    ofTypeText name (type ++ ['[', ']']) = ⟨name, .ofName (String.ofList type), true⟩ := by
  simp [ofTypeText]

theorem ofTypeText_single (name : String) {type : List Char} (single : ¬ ['[', ']'] <:+ type) :
    ofTypeText name type = ⟨name, .ofName (String.ofList type), false⟩ := by
  unfold ofTypeText
  split
  · next element brackets =>
    refine absurd ⟨element.reverse, ?_⟩ single
    have spelled := congrArg List.reverse brackets
    simpa using spelled.symm
  · rfl

/-- The first colon ends the name, so the name of the type is what stands behind it. -/
theorem ofSpec_of_colon {name : String} (nonempty : name ≠ "") (colon : ':' ∉ name.toList)
    (trimmed : Text.trim name = name) {type : List Char} (trimmed' : Text.trimChars type = type)
    (whole : spec.toList = name.toList ++ ':' :: type) :
    ofSpec spec = .ok (ofTypeText name type) := by
  have named : ∀ c ∈ name.toList, decide (c ≠ ':') = true := by
    intro c hc
    exact decide_eq_true fun is => colon (is ▸ hc)
  have parts : spec.toList.span (· ≠ ':') = (name.toList, ':' :: type) := by
    rw [whole, List.span_eq_takeWhile_dropWhile, List.takeWhile_append_of_pos named,
      List.dropWhile_append_of_pos named]
    simp
  rw [ofSpec, parts]
  simp only [Text.trimChars_of_trim trimmed, trimmed', String.ofList_toList, if_neg nonempty]

theorem ofSpec_of_declaredBy (h : p.DeclaredBy spec) : ofSpec spec = .ok p := by
  obtain ⟨nonempty, colon, trimmed, type, written, kind, trimmed', single⟩ := h
  have blanks := Text.trimChars_of_trim trimmed'
  cases isArray : p.isArray with
  | false =>
    have whole : spec.toList = p.name.toList ++ ':' :: type.toList := by
      simp [written, isArray]
    rw [ofSpec_of_colon nonempty colon trimmed blanks whole, ofTypeText_single _ single,
      String.ofList_toList, kind, ← isArray]
  | true =>
    have whole : spec.toList = p.name.toList ++ ':' :: (type.toList ++ ['[', ']']) := by
      simp [written, isArray]
    have bracketed : Text.trimChars (type.toList ++ ['[', ']']) = type.toList ++ ['[', ']'] := by
      have opened := Text.trimChars_concat blanks (c := '[') rfl
      have closed := Text.trimChars_concat opened (c := ']') rfl
      simpa using closed
    rw [ofSpec_of_colon nonempty colon trimmed bracketed whole, ofTypeText_array,
      String.ofList_toList, kind, ← isArray]

theorem mapM_ofSpec_of_declaredBy {ps : List Param} {specs : List String}
    (h : List.Forall₂ DeclaredBy ps specs) : specs.mapM ofSpec = .ok ps := by
  induction h with
  | nil => rfl
  | cons first _ ih =>
    rw [List.mapM_cons, ofSpec_of_declaredBy first, ih]
    rfl

end Param

end QueryTemplate
