import Mathlib
import QueryTemplate.Batch
import QueryTemplate.Proofs.Parameters
import QueryTemplate.Proofs.Separators

/-!
Batches account for every method. A method is compiled under the manifest's target as if it were the
only one, so the batch of a manifest is put together from those of its single methods. Only the
warnings look at more than one method: a name is repeated if an earlier method has it.
-/

namespace QueryTemplate

/-! ## Reports -/

theorem infix_of_eq_append {front text back whole : String} (h : whole = front ++ text ++ back) :
    text.toList <:+: whole.toList := by
  subst h
  exact ⟨front.toList, back.toList, by rw [String.toList_append, String.toList_append]⟩

theorem Report.template_infix_display (r : Report) : r.template.toList <:+: r.display.toList := by
  have parts : ∃ back,
      r.display = "sql template " ++ r.kind.heading ++ "\n  → " ++ r.template ++ back := by
    unfold display
    exact ⟨_, String.append_assoc.trans (String.append_assoc.trans String.append_assoc)⟩
  obtain ⟨back, whole⟩ := parts
  exact infix_of_eq_append whole

/-- The name of the method that a fault is about. -/
def MethodFault.method : MethodFault → String
  | blank name => name
  | rejected report => report.template

theorem MethodFault.method_infix_message (f : MethodFault) :
    f.method.toList <:+: f.message.toList := by
  cases f with
  | blank name => exact infix_of_eq_append rfl
  | rejected report => exact report.template_infix_display

/-! ## Single methods -/

theorem compile_of_isAllBlank {template : String} (blank : Text.isAllBlank template = true)
    (params : List Param) : compile params template = .error .emptyTemplate := by
  have tokens : Token.ofText params template = .ok [] := by
    rw [← String.append_empty (s := template), Token.ofText_blanks blank]
    rfl
  have statements : Statement.ofTokens [] = .ok [] := by rw [Statement.ofTokens]
  rw [compile, tokens]
  show (Statement.ofTokens [] >>= Compiled.ofStatements) = _
  rw [statements]
  rfl

namespace Method

def Compiles (x : Method) : Prop :=
  ∃ c, QueryTemplate.compile x.params x.template = .ok c

theorem compile_eq_ok_iff {x : Method} {c : Compiled} :
    x.compile = .ok c ↔ QueryTemplate.compile x.params x.template = .ok c := by
  unfold compile
  split
  · next blank => simp [compile_of_isAllBlank blank]
  · cases QueryTemplate.compile x.params x.template <;> simp

theorem compiles_iff {x : Method} : x.Compiles ↔ ∃ c, x.compile = .ok c := by
  simp only [Compiles, compile_eq_ok_iff]

theorem not_compiles_iff {x : Method} : ¬ x.Compiles ↔ ∃ f, x.compile = .error f := by
  rw [compiles_iff]
  cases x.compile <;> simp

/-- A method fails with the template, and the fault of a blank template has a text of its own. -/
theorem compile_eq_error {x : Method} {f : MethodFault} (h : x.compile = .error f) :
    ∃ fault, QueryTemplate.compile x.params x.template = .error fault ∧
      f.message = if Text.isAllBlank x.template then (MethodFault.blank x.name).message
        else (fault.report x.name x.template).display := by
  unfold compile at h
  split at h
  · next blank =>
    cases h
    exact ⟨_, compile_of_isAllBlank blank x.params, by rw [if_pos blank]⟩
  · next blank =>
    cases compiled : QueryTemplate.compile x.params x.template <;> rw [compiled] at h <;> cases h
    exact ⟨_, rfl, by rw [if_neg blank]; rfl⟩

theorem method_of_compile_eq_error {x : Method} {f : MethodFault} (h : x.compile = .error f) :
    f.method = x.name := by
  unfold compile at h
  split at h
  · cases h
    rfl
  · cases compiled : QueryTemplate.compile x.params x.template <;> rw [compiled] at h <;> cases h
    rfl

/-- How a single method is accounted for: by its result for the target, or by the text of an error
that names it. -/
inductive Accounted (target : Target) (x : Method) :
    List (String × List Clause × List String) → List String → Prop
  | result {result : List Clause × List String}
      (compiles : compileFor target x.name x.params x.template = .ok result) :
      Accounted target x [(x.name, result)] []
  | error {report : Report} {text : String}
      (fails : compileFor target x.name x.params x.template = .error report)
      (told : text = if Text.isAllBlank x.template then (MethodFault.blank x.name).message
        else report.display)
      (named : x.name.toList <:+: text.toList) : Accounted target x [] [text]

end Method

/-! ## Batches -/

def Manifest.only (m : Manifest) (x : Method) : Manifest :=
  { m with methods := [x] }

namespace Batch

def results (target : Target) (b : Batch) : List (String × List Clause × List String) :=
  b.compiled.map fun (name, c) => (name, c.clauses, c.assembly target)

def errors (b : Batch) : List String :=
  b.faults.map MethodFault.message

variable {m : Manifest} {x : Method}

theorem filterMap_eq_flatMap {α β : Type} (f : α → Option β) (l : List α) :
    l.filterMap f = l.flatMap fun a => [a].filterMap f := by
  induction l with
  | nil => rfl
  | cons a l ih => rw [List.flatMap_cons, ← ih, ← List.filterMap_append, List.singleton_append]

/-- Every method of a manifest is compiled as if it were the only one. -/
theorem compiled_ofManifest (m : Manifest) :
    (ofManifest m).compiled = m.methods.flatMap fun x => (ofManifest (m.only x)).compiled := by
  simp only [ofManifest, successes]
  rw [filterMap_eq_flatMap, List.flatMap_map]
  rfl

theorem faults_ofManifest (m : Manifest) :
    (ofManifest m).faults = m.methods.flatMap fun x => (ofManifest (m.only x)).faults := by
  simp only [ofManifest, failures]
  rw [filterMap_eq_flatMap, List.flatMap_map]
  rfl

theorem ofManifest_only_ok {c : Compiled} (h : x.compile = .ok c) :
    (ofManifest (m.only x)).compiled = [(x.name, c)] ∧ (ofManifest (m.only x)).faults = [] := by
  simp [ofManifest, Manifest.only, successes, failures, h]

theorem ofManifest_only_error {f : MethodFault} (h : x.compile = .error f) :
    (ofManifest (m.only x)).compiled = [] ∧ (ofManifest (m.only x)).faults = [f] := by
  simp [ofManifest, Manifest.only, successes, failures, h]

end Batch

/-! ## Repeated names -/

/-- The methods whose names earlier methods have, in order. -/
def Manifest.repetitions (m : Manifest) : List Method :=
  (m.methods.zipIdx.filter fun p => p.1.name ∈ (m.methods.take p.2).map Method.name).map Prod.fst

/-- A name is looked for among those that went before, which are the names of the methods in front.
-/
theorem repeatedNames_eq {front : List Method} {seen : List String}
    (known : ∀ name, name ∈ seen ↔ name ∈ front.map Method.name) (xs : List Method) :
    repeatedNames seen (xs.map Method.name) =
      ((xs.zipIdx front.length).filter fun p =>
        p.1.name ∈ ((front ++ xs).take p.2).map Method.name).map fun p => p.1.name := by
  induction xs generalizing front seen with
  | nil => rfl
  | cons x xs ih =>
    have shifted : front ++ x :: xs = (front ++ [x]) ++ xs := by simp
    have next : front.length + 1 = (front ++ [x]).length := by simp
    rw [List.map_cons, repeatedNames, List.zipIdx_cons, List.filter_cons, List.take_left, next,
      shifted]
    by_cases again : x.name ∈ seen
    · have same : ∀ name, name ∈ seen ↔ name ∈ (front ++ [x]).map Method.name := by
        intro name
        rw [List.map_append, List.mem_append, ← known]
        exact ⟨.inl, fun h => h.elim id fun last => List.mem_singleton.1 last ▸ again⟩
      rw [if_pos again, if_pos (by simpa using (known _).1 again), List.map_cons, ih same]
    · have more : ∀ name, name ∈ x.name :: seen ↔ name ∈ (front ++ [x]).map Method.name := by
        intro name
        rw [List.map_append, List.mem_append, ← known, List.mem_cons, or_comm]
        simp
      rw [if_neg again, if_neg (by simpa using (known _).not.1 again), ih more]

theorem repeatedNames_methods (m : Manifest) :
    repeatedNames [] (m.methods.map Method.name) = m.repetitions.map Method.name := by
  have none : ∀ name, name ∈ ([] : List String) ↔ name ∈ ([] : List Method).map Method.name :=
    fun _ => Iff.rfl
  rw [repeatedNames_eq none, Manifest.repetitions, List.map_map]
  rfl

theorem length_repeatedNames (seen names : List String) :
    (repeatedNames seen names).length + (seen.toFinset ∪ names.toFinset).card =
      names.length + seen.toFinset.card := by
  induction names generalizing seen with
  | nil => simp [repeatedNames]
  | cons name names ih =>
    rw [repeatedNames]
    split
    · next again =>
      have known : name ∈ seen.toFinset ∪ names.toFinset := by simp [again]
      rw [List.toFinset_cons, Finset.union_insert, Finset.insert_eq_of_mem known]
      have others := ih seen
      simp only [List.length_cons]
      omega
    · next new =>
      have others := ih (name :: seen)
      have more : (insert name seen.toFinset).card = seen.toFinset.card + 1 :=
        Finset.card_insert_of_notMem (by simpa using new)
      rw [List.toFinset_cons, more, Finset.insert_union] at others
      rw [List.toFinset_cons, Finset.union_insert, List.length_cons]
      omega

namespace Batch

theorem warnings_ofManifest (m : Manifest) :
    (ofManifest m).warnings = (if m.methods = [] then [.noMethods] else []) ++
      m.repetitions.map fun x => .repeated x.name := by
  rw [ofManifest, Manifest.warnings, repeatedNames_methods, List.map_map]
  rfl

theorem accounted_only (m : Manifest) (x : Method) :
    x.Accounted m.target ((ofManifest (m.only x)).results m.target)
      (ofManifest (m.only x)).errors := by
  cases h : x.compile with
  | ok c =>
    obtain ⟨compiled, faults⟩ := ofManifest_only_ok (m := m) h
    have compiles : compileFor m.target x.name x.params x.template =
        .ok (c.clauses, c.assembly m.target) := by
      rw [compileFor, Method.compile_eq_ok_iff.1 h]
    rw [results, compiled, errors, faults]
    exact .result compiles
  | error f =>
    obtain ⟨compiled, faults⟩ := ofManifest_only_error (m := m) h
    obtain ⟨fault, rejected, told⟩ := Method.compile_eq_error h
    have fails : compileFor m.target x.name x.params x.template =
        .error (fault.report x.name x.template) := by
      rw [compileFor, rejected]
    have named : x.name.toList <:+: f.message.toList :=
      Method.method_of_compile_eq_error h ▸ f.method_infix_message
    rw [results, compiled, errors, faults]
    exact .error fails told named

/-- A batch accounts for every method on its own. The results and the errors are those of the single
methods, in the order of the manifest, and each single method has one result or one error. There is
a warning for every method whose name an earlier one has, so there are as many of them as the
methods outnumber the names, and one more just if there are no methods. -/
theorem ofManifest_accounts (m : Manifest) :
    ((ofManifest m).results m.target =
        m.methods.flatMap fun x => (ofManifest (m.only x)).results m.target) ∧
      ((ofManifest m).errors = m.methods.flatMap fun x => (ofManifest (m.only x)).errors) ∧
      (∀ x : Method, x.Accounted m.target ((ofManifest (m.only x)).results m.target)
        (ofManifest (m.only x)).errors) ∧
      ((ofManifest m).warnings = (if m.methods = [] then [.noMethods] else []) ++
        m.repetitions.map fun x => .repeated x.name) ∧
      m.repetitions.length + (m.methods.map Method.name).toFinset.card = m.methods.length := by
  refine ⟨?_, ?_, accounted_only m, warnings_ofManifest m, ?_⟩
  · rw [results, compiled_ofManifest, List.map_flatMap]
    rfl
  · rw [errors, faults_ofManifest, List.map_flatMap]
    rfl
  · have counted := length_repeatedNames [] (m.methods.map Method.name)
    rw [repeatedNames_methods] at counted
    simpa using counted

end Batch

end QueryTemplate
