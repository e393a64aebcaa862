/-
  Types of a document under the precedence of the language.

  The text of a type stands for the type that the schema describes exactly if no
  union without brackets stands in front of `[]` or beside `&`.  Branches of
  schemas are written in brackets; alternatives with `null` and the constants of an
  enumeration are not, so arrays and intersections of them are read differently.

  * `Scope.parse_text_typeOf_iff`: for the types of schemas and of parameters;
  * `Scope.parse_text_typeOf_nullableTexts`: a list of nullable texts is not read as
    one.
-/
import ApiTypes.Parameter
import ApiTypes.Proofs.SchemaRules
import ApiTypes.Proofs.TypeText.Grouping

namespace ApiTypes

open Json (Value)
open TypeText

/-- The type of a parameter is formed. -/
theorem Parameter.all_formed_typeOf {scope : Scope} {parameter : Value} {t : TypeExpr}
    (h : (typeOf scope parameter).result = .ok t) : t.All TypeExpr.Formed := by
  have hkeyword (k : Keyword) : (TypeExpr.keyword k).All TypeExpr.Formed := .node trivial nofun
  unfold typeOf at h
  split at h
  · exact (scope.typeByName_writes [] _ t h).all_formed
  split at h
  · obtain ⟨items, hitems, rfl⟩ := Outcome.map_result_eq_ok.1 h
    have hformed := (scope.typeByName_writes [] _ items hitems).all_formed
    exact .node trivial fun c hc => List.mem_singleton.1 hc ▸ hformed
  all_goals
    obtain rfl := Except.ok.inj h
    exact hkeyword _

namespace Scope

/-- **Types under precedence.**  The text of the type of a schema or of a parameter
    stands for that type exactly if no bare type stands where `[]` or `&` takes its
    operand. -/
theorem parse_text_typeOf_iff (scope : Scope) :
    (∀ visiting schema t, (scope.typeOf visiting schema).result = .ok t → t.All TypeExpr.Plain →
      (parse t.text = some t.meaning ↔ t.All TypeExpr.Grouped)) ∧
    ∀ parameter t, (Parameter.typeOf scope parameter).result = .ok t → t.All TypeExpr.Plain →
      (parse t.text = some t.meaning ↔ t.All TypeExpr.Grouped) := by
  refine ⟨fun visiting schema t ht hplain => ?_, fun parameter t ht hplain => ?_⟩
  · exact TypeExpr.parse_text_eq_iff hplain (scope.typeOf_writes visiting schema t ht).all_formed
  · exact TypeExpr.parse_text_eq_iff hplain (Parameter.all_formed_typeOf ht)

/-- A schema of lists whose items are texts or `null`, as branches. -/
def textsOrNull : Value :=
  .obj [("type", .str "array"), ("items", .obj [("oneOf",
    .arr [.obj [("type", .str "string")], .obj [("type", .str "null")]])])]

/-- The same by way of `nullable`. -/
def nullableTexts : Value :=
  .obj [("type", .str "array"),
    ("items", .obj [("type", .str "string"), ("nullable", .bool true)])]

theorem parse_text_typeOf_textsOrNull :
    let t := TypeExpr.array (.union [.keyword .string, .keyword .null])
    (typeOf ⟨.null, ⟨[]⟩⟩ [] textsOrNull).result = .ok t ∧
      (Parameter.typeOf ⟨.null, ⟨[]⟩⟩ textsOrNull).result = .ok t ∧
        parse t.text = some t.meaning := by
  intro t
  have htype : (typeOf ⟨.null, ⟨[]⟩⟩ [] textsOrNull).result = .ok t := by cbv
  have hparameter : (Parameter.typeOf ⟨.null, ⟨[]⟩⟩ textsOrNull).result = .ok t := by cbv
  have hbranches {P : TypeExpr → Prop} (h : ∀ k, P (.keyword k)) :
      ∀ b ∈ [TypeExpr.keyword .string, .keyword .null], b.All P := by
    refine List.forall_mem_cons.2 ⟨.node (h _) (List.forall_mem_nil _), ?_⟩
    exact List.forall_mem_singleton.2 (.node (h _) (List.forall_mem_nil _))
  have hplain : t.All TypeExpr.Plain := .node trivial fun c hc =>
    List.mem_singleton.1 hc ▸ .node trivial (hbranches fun _ => trivial)
  have hgrouped : t.All TypeExpr.Grouped := .node id fun c hc =>
    List.mem_singleton.1 hc ▸ .node trivial (hbranches fun _ => trivial)
  have hiff := parse_text_typeOf_iff ⟨.null, ⟨[]⟩⟩
  exact ⟨htype, hparameter, (hiff.2 textsOrNull t hparameter hplain).2 hgrouped⟩

/-- Not all types are read as they are meant: a list of nullable texts is not. -/
theorem parse_text_typeOf_nullableTexts :
    ¬ ∀ (scope : Scope) visiting schema t, (scope.typeOf visiting schema).result = .ok t →
      t.All TypeExpr.Plain → parse t.text = some t.meaning := by
  intro h
  have htype : (typeOf ⟨.null, ⟨[]⟩⟩ [] nullableTexts).result =
      .ok (.array (.orNull (.keyword .string))) := by cbv
  have hplain : (TypeExpr.array (.orNull (.keyword .string))).All TypeExpr.Plain :=
    .node trivial fun c hc => List.mem_singleton.1 hc ▸ .node trivial fun b hb =>
      List.mem_singleton.1 hb ▸ .node trivial (List.forall_mem_nil _)
  have hformed := (typeOf_writes _ _ _ _ htype).all_formed
  have hgrouped := (TypeExpr.parse_text_eq_iff hplain hformed).1 (h _ _ _ _ htype hplain)
  exact (TypeExpr.all_iff.1 hgrouped).1 trivial

end Scope

end ApiTypes
