import Schemata.Proofs.Compiler.BareMapping
import Schemata.Proofs.Compiler.Continuation

/-!
# Shapes after schemas

A schema of objects gets fields in one of two ways: by a call of its member of shapes, or by a mapping and the shape marker after the
schema. The second puts the compiled mapping in a list with the schema and takes both out again; the two give the same schema, and
the same error (`compile_shape_either_way`).
-/

namespace Schemata

namespace Compiler

variable (c : Compiler)

/-! ## The two ways -/

/-- A chain goes on from a schema of objects and a shape with the schema that has the fields of the shape. -/
theorem result_continueWithShape {s : Schema} (object : s.tag = .object) (terms : List (String × Term)) :
    (c.continueWithShape (.list [.schema s, .shape terms])).result = withShape s terms := by
  have hmember : Member.named? s.tag Member.shape.name = some .shape := by
    rw [object]
    rfl
  rw [← build_shape]
  unfold continueWithShape
  simp only [hmember, Traced.result_bind, Traced.result_ofExcept]
  show ((Member.shape.build s ⟨"shape", [.shape terms]⟩).mapError CompileError.build).map Term.schema = _
  cases Member.shape.build s ⟨"shape", [.shape terms]⟩ <;> rfl

/-- A mapping is put in a list with the schema before it. -/
theorem afterElement_map (s : Schema) (fields : List (String × Node)) :
    c.afterElement (.schema s) (.map fields) =
      (fun terms => .list [.schema s, .shape terms]) <$> (c.compileFields fields).result := by
  show append (.schema s) <$> (c.compile (.map fields)).result = _
  rw [result_compile_map]
  cases (c.compileFields fields).result <;> rfl

/-- A mapping and the shape marker after a schema of objects. -/
theorem foldlM_map_marker {s : Schema} (object : s.tag = .object) (fields : List (String × Node)) (more : List Node) :
    (Node.map fields :: .str c.shapeMarker :: more).foldlM c.afterElement (.schema s) =
      (c.compileFields fields).result >>= withShape s >>= more.foldlM c.afterElement := by
  rw [List.foldlM_cons, afterElement_map, bind_map_left, bind_assoc]
  congr 1
  funext terms
  rw [List.foldlM_cons, ← c.result_continueWithShape object]
  congr 1
  exact if_pos rfl

/-- A call with the mapping after the schema. -/
theorem foldlM_shape_call (alone : c.LeavesAlone "shape") {s : Schema} (object : s.tag = .object)
    (fields : List (String × Node)) (more : List Node) :
    (Node.seq [.str c.shapeMarker, .map fields] :: more).foldlM c.afterElement (.schema s) =
      (c.compileFields fields).result >>= withShape s >>= more.foldlM c.afterElement := by
  have hcall : c.afterElement (.schema s) (.seq [.str c.shapeMarker, .map fields]) =
      c.called (some (.schema s)) ⟨c.shapeMarker, [.map fields]⟩ :=
    c.result_invoke_call (some (.schema s)) ⟨c.shapeMarker, [.map fields]⟩ rfl
  rw [List.foldlM_cons, hcall, c.called_shape alone object]

/-! ## Either way -/

variable {first rest : List Node} {s : Schema}

/-- After a chain that describes a schema of objects, a mapping and the shape marker do what a call of the member of shapes does with
the mapping, whatever follows, result or error. If a field of the mapping does not compile, the error is that of the first such field;
else it is that of the first field, from the top down, that is neither a schema nor a shape. -/
theorem compile_shape_either_way (alone : c.LeavesAlone "shape")
    (compiles : (c.compile (.seq (.seq first :: rest))).result = .ok (.schema s)) (object : s.tag = .object)
    (fields : List (String × Node)) (more : List Node) :
    (c.compile (.seq (.seq first :: (rest ++ .map fields :: .str c.shapeMarker :: more)))).result =
      (c.compile (.seq (.seq first :: (rest ++ .seq [.str c.shapeMarker, .map fields] :: more)))).result ∧
    (∀ before key n after e, fields = before ++ (key, n) :: after →
      (∀ field ∈ before, ∃ t, (c.compile field.2).result = .ok t) → (c.compile n).result = .error e →
        (c.compile (.seq (.seq first :: (rest ++ .map fields :: .str c.shapeMarker :: more)))).result = .error e) ∧
    ∀ terms key stray others, c.FieldsCompile fields terms → strayFields terms = (key, stray) :: others →
      (c.compile (.seq (.seq first :: (rest ++ .map fields :: .str c.shapeMarker :: more)))).result =
        .error (.build (.invalidArgument "shape" 0 ("a schema for field `" ++ key ++ "`, found a " ++ stray.kindName))) := by
  have hmarker := c.result_compile_append compiles (.map fields :: .str c.shapeMarker :: more)
  have hcall := c.result_compile_append compiles (.seq [.str c.shapeMarker, .map fields] :: more)
  rw [c.foldlM_map_marker object] at hmarker
  rw [c.foldlM_shape_call alone object] at hcall
  refine ⟨hmarker.trans hcall.symm, ?_, ?_⟩
  · intro before key n after e hfields hbefore hn
    have herror : (c.compileFields fields).result = .error e :=
      (c.compileFields_eq_error_iff fields e).mpr ⟨before, key, n, after, hfields, hbefore, hn⟩
    rw [hmarker, herror]
    rfl
  · intro terms key stray others hterms hstray
    have hshape := (withShape_eq_error_iff s terms _).mpr ⟨key, stray, others, hstray, rfl⟩
    rw [hmarker, (c.compileFields_eq_ok_iff fields terms).mpr hterms]
    show withShape s terms >>= _ = _
    rw [hshape]
    rfl

namespace ShapeWitness

open SmallCase (compiler)

/-- The schema of objects that have to be there. -/
def objects : Schema :=
  (Schema.ofTag .object).required none

/-- A chain that describes it, with a mapping and the shape marker after it, and then one more call. -/
def marked (fields : List (String × Node)) : Node :=
  .seq [.seq [.str "do.object"], .seq [.str "do.required"], .map fields, .str "do.shape", .seq [.str "do.nullable"]]

/-- The chain with a call in their place. -/
def called (fields : List (String × Node)) : Node :=
  .seq [.seq [.str "do.object"], .seq [.str "do.required"], .seq [.str "do.shape", .map fields], .seq [.str "do.nullable"]]

theorem compile_person_either_way :
    (compiler.LeavesAlone "shape" ∧
      (compiler.compile (.seq [.seq [.str "do.object"], .seq [.str "do.required"]])).result = .ok (.schema objects) ∧
      objects.tag = .object) ∧
    ((compiler.compile (marked [("name", .seq [.seq [.str "do.string"]])])).result =
        (compiler.compile (called [("name", .seq [.seq [.str "do.string"]])])).result ∧
      (compiler.compile (called [("name", .seq [.seq [.str "do.string"]])])).result =
        .ok (.schema ((objects.shape [("name", .ofTag .string)]).nullable true))) ∧
    (compiler.compile (marked [("name", .seq [.str "do.text"]), ("zip", .null)])).result = .error (.unresolved "do.text") ∧
    (compiler.compile (marked [("name", .map [("first", .str "x")]), ("zip", .null)])).result =
      .error (.build (.invalidArgument "shape" 0 "a schema for field `first`, found a literal")) := by
  have alone : compiler.LeavesAlone "shape" := ⟨rfl, rfl⟩
  have compiles : (compiler.compile (.seq [.seq [.str "do.object"], .seq [.str "do.required"]])).result = .ok (.schema objects) := rfl
  have hperson := compiler.compile_shape_either_way alone compiles rfl [("name", .seq [.seq [.str "do.string"]])]
    [.seq [.str "do.nullable"]]
  have hunknown := compiler.compile_shape_either_way alone compiles rfl [("name", .seq [.str "do.text"]), ("zip", .null)]
    [.seq [.str "do.nullable"]]
  have hstray := compiler.compile_shape_either_way alone compiles rfl [("name", .map [("first", .str "x")]), ("zip", .null)]
    [.seq [.str "do.nullable"]]
  refine ⟨⟨alone, compiles, rfl⟩, ⟨hperson.1, rfl⟩, ?_, ?_⟩
  · exact hunknown.2.1 [] "name" _ [("zip", .null)] _ rfl (by simp) rfl
  · refine hstray.2.2 [("name", .shape [("first", .literal (.str "x"))]), ("zip", .literal .null)] "first" (.literal (.str "x"))
      [("zip", .literal .null)] ?_ rfl
    exact .cons ⟨rfl, rfl⟩ (.cons ⟨rfl, rfl⟩ .nil)

end ShapeWitness

end Compiler

end Schemata
