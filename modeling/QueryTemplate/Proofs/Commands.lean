import Mathlib
import QueryTemplate.Command.Run
import QueryTemplate.Proofs.Accounting
import QueryTemplate.Proofs.Json.Standard
import QueryTemplate.Proofs.Specs

/-!
The commands agree. All of them go through the one compilation of a template: a check and the
emission of a manifest compile its methods in a batch, and the command for one template compiles it
under the parameters that its specs declare. So the emission puts together what the other command
prints for the single methods.
-/

namespace QueryTemplate

namespace Batch

variable {m : Manifest}

theorem faults_eq_nil_iff : (ofManifest m).faults = [] ↔ ∀ x ∈ m.methods, x.Compiles := by
  rw [faults_ofManifest, List.flatMap_eq_nil_iff]
  refine forall₂_congr fun x _ => ?_
  cases h : x.compile with
  | ok c =>
    have compiles : x.Compiles := Method.compiles_iff.2 ⟨c, h⟩
    simp only [(ofManifest_only_ok (m := m) h).2, compiles]
  | error f =>
    have fails : ¬ x.Compiles := Method.not_compiles_iff.2 ⟨f, h⟩
    simp only [(ofManifest_only_error (m := m) h).2, fails, List.cons_ne_nil]

/-- The first fault is that of the first method that does not compile. -/
theorem faults_eq_cons {before after : List Method} {x : Method} {f : MethodFault}
    (methods : m.methods = before ++ x :: after) (compile : ∀ y ∈ before, y.Compiles)
    (fails : x.compile = .error f) : ∃ others, (ofManifest m).faults = f :: others := by
  have none : before.flatMap (fun y => (ofManifest (m.only y)).faults) = [] := by
    rw [List.flatMap_eq_nil_iff]
    intro y hy
    obtain ⟨c, h⟩ := Method.compiles_iff.1 (compile y hy)
    exact (ofManifest_only_ok h).2
  rw [faults_ofManifest, methods, List.flatMap_append, none, List.flatMap_cons,
    (ofManifest_only_error fails).2]
  exact ⟨_, rfl⟩

/-- If all methods compile, the batch has the result of each of them under its name. -/
theorem compiled_eq_map {results : Method → Compiled}
    (compiles : ∀ x ∈ m.methods, compile x.params x.template = .ok (results x)) :
    (ofManifest m).compiled = m.methods.map fun x => (x.name, results x) := by
  rw [compiled_ofManifest, List.map_eq_flatMap]
  refine List.flatMap_congr fun x hx => ?_
  exact (ofManifest_only_ok (Method.compile_eq_ok_iff.2 (compiles x hx))).1

end Batch

namespace Command

variable {lib : Json.Library} {m : Manifest}

theorem exit_runCheck (m : Manifest) :
    (runCheck m).exit = 0 ↔ (Batch.ofManifest m).faults = [] := by
  simp only [runCheck]
  split
  · next sound => exact iff_of_true rfl sound
  · next faulty => exact iff_of_false Nat.one_ne_zero faulty

theorem runEmit_of_faults {f : MethodFault} {others : List MethodFault}
    (h : (Batch.ofManifest m).faults = f :: others) (json : Bool) :
    runEmit lib m json = { exit := 1, logs := m.log, error := some f.message } := by
  simp only [runEmit, h]

theorem runEmit_of_sound (h : (Batch.ofManifest m).faults = []) (json : Bool) :
    runEmit lib m json =
      { stdout :=
          if json then jsonText lib (methodsJson lib m.target (Batch.ofManifest m).compiled)
          else String.join ((Batch.ofManifest m).compiled.map fun (name, c) =>
            methodText m.target name c),
        logs := m.log } := by
  simp only [runEmit, h]

theorem exit_runEmit (m : Manifest) (json : Bool) :
    (runEmit lib m json).exit = 0 ↔ (Batch.ofManifest m).faults = [] := by
  cases h : (Batch.ofManifest m).faults with
  | nil => rw [runEmit_of_sound h]; simp
  | cons f others => rw [runEmit_of_faults h]; simp

/-- The specs stand for the parameters, and the name under which a template is reported does not
change what it compiles to. -/
theorem runCompile_of_declaredBy {ps : List Param} {specs : List String} {template : String}
    {c : Compiled} (declared : List.Forall₂ Param.DeclaredBy ps specs)
    (h : QueryTemplate.compile ps template = .ok c) :
    (runCompile lib m template specs false).exit = 0 ∧
      (runCompile lib m template specs false).stdout = linesText (c.assembly m.target) := by
  simp only [runCompile, Param.mapM_ofSpec_of_declaredBy declared, h, Bool.false_eq_true, if_false,
    and_self]

theorem methodText_eq (target : Target) (name : String) (c : Compiled) :
    methodText target name c = "// " ++ name ++ "\n" ++ linesText (c.assembly target) := by
  rw [methodText, linesText, linesText, List.map_cons, String.join_cons]

/-- The object for methods has one field for each name, with the result of the last method of that
name. -/
theorem methodsJson_map (lawful : lib.Lawful) (target : Target) (xs : List Method)
    (results : Method → Compiled) :
    ∃ fields, methodsJson lib target (xs.map fun x => (x.name, results x)) = .object fields ∧
      (fields.map Prod.fst).Nodup ∧
      (∀ name, name ∈ fields.map Prod.fst ↔ name ∈ xs.map Method.name) ∧
      ∀ before x after, xs = before ++ x :: after → x.name ∉ after.map Method.name →
        ∃ value, (x.name, value) ∈ fields ∧ ((results x).toJson target).Reordered value := by
  have entries : lib.fieldsOf ((xs.map fun x => (x.name, results x)).map
      fun (name, c) => (name, c.toJson target)) =
        xs.map fun x => (x.name, lib.valueOf ((results x).toJson target)) := by
    simp only [Json.Library.fieldsOf_eq, List.map_map, Function.comp_def]
  refine ⟨_, rfl, ?_⟩
  rw [entries]
  refine ⟨lawful.nodup_collect _, fun name => ?_, ?_⟩
  · rw [lawful.mem_keys_collect, List.map_map]
    rfl
  · rintro before x after rfl last
    refine ⟨_, ?_, lawful.reordered_valueOf ((results x).keyed_toJson target)⟩
    rw [List.map_append, List.map_cons, lawful.mem_collect_iff]
    exact ⟨_, _, rfl, by rwa [List.map_map]⟩

/-- The commands agree on a manifest. The emission succeeds just if the check does, and that is if
every template compiles. Otherwise nothing is printed, and the error is the report of the first
method that fails. What is emitted for a method is the line of its name and then what the command
for one template prints for it, if its parameters are given as specs. In the other form, the text of
a single value is emitted: the object with one field for each name, which holds the result of the
last method of that name. -/
theorem runLogged_agree (lib : Json.Library) (m : Manifest) (root : String) :
    (∀ json, ((emit root json).runLogged lib (some m)).exit = 0 ↔
      ((check root).runLogged lib (some m)).exit = 0) ∧
    (((check root).runLogged lib (some m)).exit = 0 ↔ ∀ x ∈ m.methods, x.Compiles) ∧
    (∀ before x after, m.methods = before ++ x :: after → (∀ y ∈ before, y.Compiles) →
      ¬ x.Compiles → ∃ f, x.compile = .error f ∧ ∀ json,
        ((emit root json).runLogged lib (some m)).stdout = "" ∧
          ((emit root json).runLogged lib (some m)).error = some f.message) ∧
    ((∀ x ∈ m.methods, x.Compiles) → ∃ results : Method → Compiled,
      (∀ x ∈ m.methods, QueryTemplate.compile x.params x.template = .ok (results x)) ∧
      ((emit root false).runLogged lib (some m)).stdout = String.join (m.methods.map fun x =>
        "// " ++ x.name ++ "\n" ++ linesText ((results x).assembly m.target)) ∧
      (∀ x ∈ m.methods, ∀ specs, List.Forall₂ Param.DeclaredBy x.params specs →
        ((compile x.template specs false root).runLogged lib (some m)).exit = 0 ∧
          ((compile x.template specs false root).runLogged lib (some m)).stdout =
            linesText ((results x).assembly m.target)) ∧
      (lib.Lawful → ∃ text fields,
        ((emit root true).runLogged lib (some m)).stdout = text ++ "\n" ∧
        (∀ j, Json.IsText text j ↔ j = .object fields) ∧
        (fields.map Prod.fst).Nodup ∧
        (∀ name, name ∈ fields.map Prod.fst ↔ name ∈ m.methods.map Method.name) ∧
        ∀ before x after, m.methods = before ++ x :: after →
          x.name ∉ after.map Method.name →
            ∃ value, (x.name, value) ∈ fields ∧
              ((results x).toJson m.target).Reordered value)) := by
  refine ⟨fun json => ?_, ?_, ?_, ?_⟩
  · exact (exit_runEmit m json).trans (exit_runCheck m).symm
  · exact (exit_runCheck m).trans Batch.faults_eq_nil_iff
  · intro before x after methods compiles fails
    obtain ⟨f, h⟩ := Method.not_compiles_iff.1 fails
    obtain ⟨others, faults⟩ := Batch.faults_eq_cons methods compiles h
    refine ⟨f, h, fun json => ?_⟩
    simp only [runLogged, runEmit_of_faults faults, and_self]
  · intro all
    have chosen : ∀ x, ∃ c, x ∈ m.methods → QueryTemplate.compile x.params x.template = .ok c := by
      intro x
      by_cases hx : x ∈ m.methods
      · exact (all x hx).imp fun c h _ => h
      · exact ⟨⟨[], []⟩, fun known => absurd known hx⟩
    choose results compiles using chosen
    have faults := Batch.faults_eq_nil_iff.2 all
    have batch := Batch.compiled_eq_map compiles
    refine ⟨results, compiles, ?_, fun x hx specs declared => ?_, ?_⟩
    · simp only [runLogged, runEmit_of_sound faults, batch, List.map_map, Function.comp_def,
        methodText_eq, Bool.false_eq_true, if_false]
    · exact runCompile_of_declaredBy declared (compiles x hx)
    · intro lawful
      obtain ⟨fields, object, keys⟩ := methodsJson_map lawful m.target m.methods results
      have printed := lawful.pretty (.object fields)
      refine ⟨lib.pretty (.object fields), fields, ?_, fun j => ?_, keys⟩
      · simp only [runLogged, runEmit_of_sound faults, batch, object, if_true, jsonText]
      · exact ⟨fun other => other.unique printed, fun same => same ▸ printed⟩

def findAny : Method :=
  ⟨"find", "if B != nil A B end", [⟨"A", .int, false⟩, ⟨"B", .int, true⟩]⟩

def findOne : Method :=
  ⟨"find", "\"a\"", []⟩

theorem declaredBy_findAny :
    List.Forall₂ Param.DeclaredBy findAny.params ["A:int", "B:int[]"] := by
  refine .cons ⟨by decide, by decide, by decide, "int", by decide, by decide, by decide, by decide⟩
    (.cons ⟨by decide, by decide, by decide, "int", by decide, by decide, by decide, by decide⟩
      .nil)

/-- What is printed for the later of the two methods. -/
def findText : String :=
  "\n".intercalate
    ["\x7b",
      "  \"find\": \x7b",
      "    \"assembly\": [",
      "      \"\",",
      "      \"generateSQL+=\\\"a\\\"\"",
      "    ],",
      "    \"clauses\": [",
      "      \x7b",
      "        \"kind\": \"sql\",",
      "        \"pieces\": [",
      "          \"\\\"a\\\"\"",
      "        ]",
      "      \x7d",
      "    ]",
      "  \x7d",
      "\x7d"]

/-- Two methods have one name, and the parameters of the first one are declared by specs. Nothing
is emitted if a method without a template stands between them. -/
theorem runLogged_agree_repeatedName :
    ∃ c, QueryTemplate.compile findOne.params findOne.template = .ok c ∧
      ((emit "." false).runLogged .standard (some { methods := [findAny, findOne] })).stdout =
        String.join
          ["// find\n" ++ ((compile findAny.template ["A:int", "B:int[]"] false ".").runLogged
            .standard (some { methods := [findAny, findOne] })).stdout,
          "// find\n" ++ linesText (c.assembly {})] ∧
      ((emit "." true).runLogged .standard (some { methods := [findAny, findOne] })).stdout =
        findText ++ "\n" ∧
      (∃ fields, (∀ j, Json.IsText findText j ↔ j = .object fields) ∧
        ∃ value, ("find", value) ∈ fields ∧ (c.toJson {}).Reordered value) ∧
      ∀ json, ((emit "." json).runLogged .standard
        (some { methods := [findAny, ⟨"none", " ", []⟩, findOne] })).error =
          some (MethodFault.blank "none").message := by
  have any : (QueryTemplate.compile findAny.params findAny.template).map (fun _ => ()) =
      .ok () := by cbv
  have one : (QueryTemplate.compile findOne.params findOne.template).map
      (fun c => (methodsJson .standard {} [("find", c)]).pretty) = .ok findText := by cbv
  obtain ⟨a, compilesAny, -⟩ := except_map_eq_ok.1 any
  obtain ⟨c, compilesOne, pretty⟩ := except_map_eq_ok.1 one
  have all : ∀ x ∈ ({ methods := [findAny, findOne] } : Manifest).methods, x.Compiles := by
    simp only [List.forall_mem_cons]
    exact ⟨⟨a, compilesAny⟩, ⟨c, compilesOne⟩, List.forall_mem_nil _⟩
  obtain ⟨results, compiles, text, listed, objects⟩ :=
    (runLogged_agree .standard { methods := [findAny, findOne] } ".").2.2.2 all
  obtain ⟨object, fields, printed, unique, -, -, last⟩ := objects Json.Library.lawful_standard
  have result : results findOne = c :=
    Except.ok.inj ((compiles findOne (.tail _ (.head _))).symm.trans compilesOne)
  have stdout : ((emit "." true).runLogged .standard
      (some { methods := [findAny, findOne] })).stdout = findText ++ "\n" := by
    have faults := Batch.faults_eq_nil_iff.2 all
    have replaced : methodsJson .standard {} [("find", results findAny), ("find", c)] =
        methodsJson .standard {} [("find", c)] := by
      simp [methodsJson, Json.Library.valueOf, Json.Library.fieldsOf, Json.Library.collect,
        Json.Library.standard, Json.SortedFields.insert, Json.insertField]
    rw [← pretty, ← replaced, ← result]
    simp only [runLogged, runEmit_of_sound faults, Batch.compiled_eq_map compiles, if_true]
    rfl
  have same : object = findText := (String.append_left_inj "\n").1 (printed.symm.trans stdout)
  refine ⟨c, compilesOne, ?_, stdout, ⟨fields, same ▸ unique, ?_⟩, fun json => ?_⟩
  · rw [text, (listed findAny (.head _) _ declaredBy_findAny).2, ← result]
    rfl
  · rw [← result]
    exact last [findAny] findOne [] rfl (List.not_mem_nil)
  · have blank : (⟨"none", " ", []⟩ : Method).compile = .error (.blank "none") := rfl
    obtain ⟨f, fails, told⟩ := (runLogged_agree .standard
      { methods := [findAny, ⟨"none", " ", []⟩, findOne] } ".").2.2.1 [findAny] _ [findOne] rfl
        (List.forall_mem_singleton.2 ⟨a, compilesAny⟩) (Method.not_compiles_iff.2 ⟨_, blank⟩)
    rw [(told json).2, Except.error.inj (fails.symm.trans blank)]

end Command

end QueryTemplate
