import SpecForge.Proofs.Api.Printed
import SpecForge.Proofs.Model.Lists
import SpecForge.Proofs.Text.Split

/-!
# References to components

A reference is read as the last step of its path, and that is the name of a component. No table
changes the name on its way to the code, unless it is that of a plain type, so the type of the
reference is the type that the model of the component declares.
-/

namespace SpecForge.Text

theorem lastPart_append {sep : Char} {name : String} (h : sep ∉ name.toList) (front : String) :
    lastPart sep (front ++ String.singleton sep ++ name) = name := by
  have hchars : (front ++ String.singleton sep ++ name).toList =
      front.toList ++ sep :: name.toList := by
    simp
  rw [lastPart, split, hchars, splitChars_append_sep, splitChars_of_not_mem h, List.map_append,
    List.map_singleton, List.getLastD_concat, String.ofList_toList]

end SpecForge.Text

namespace SpecForge.Api

/-- The path of a component. -/
def componentPath (name : String) : String := "#/components/schemas/" ++ name

/-- A schema that refers to a component. -/
def RefersTo (schema : Value) (name : String) : Prop :=
  memberOrNull schema "$ref" = .str (componentPath name) ∧ isArraySchema schema = false

/-- An array whose items are described by another schema. -/
def ListsItems (schema items : Value) : Prop :=
  isArraySchema schema = true ∧ (memberOrNull schema "$ref").isGiven = false ∧
    memberOrNull schema "items" = items

/-- What is cut has no member under a key that is a text. -/
theorem isCut_eq_false_of_memberOrNull {v : Value} {key : String}
    (h : (memberOrNull v key).isGiven = true) : v.isCut = false := by
  rw [memberOrNull, Value.member?] at h
  rw [Value.isCut]
  split
  · rename_i hcontent
    simp [hcontent, Value.isGiven] at h
  · rename_i w hcontent
    simp [hcontent, Value.lookup, Value.isText, Value.isGiven] at h
  · rfl

theorem componentPath_eq (name : String) :
    componentPath name = "#/components/schemas" ++ String.singleton '/' ++ name := by
  unfold componentPath
  rw [← String.toList_inj]
  simp

theorem isGiven_componentPath {v : Value} {name : String} (h : v = .str (componentPath name)) :
    v.isGiven = true := by
  rw [h, componentPath_eq]
  unfold Value.isGiven
  simp

theorem schemaType_componentPath {schema : Value} {name : String} (hslash : '/' ∉ name.toList)
    (h : memberOrNull schema "$ref" = .str (componentPath name)) :
    schemaType schema = .ok (.str name) := by
  have hread : (Value.str (componentPath name)).asText = .ok (componentPath name) := rfl
  rw [schemaType_reference (isGiven_componentPath h), h, hread, componentPath_eq, Except.map,
    Text.lastPart_append hslash]

theorem RefersTo.typeNamed {schema : Value} {name : String} (h : RefersTo schema name)
    (hslash : '/' ∉ name.toList) : TypeNamed schema name :=
  ⟨.str name, schemaType_componentPath hslash h.1, rfl⟩

theorem ListsItems.typeNamed {schema items : Value} {name : String} (h : ListsItems schema items)
    (hitems : RefersTo items name) (hslash : '/' ∉ name.toList) : TypeNamed schema name := by
  obtain ⟨array, named, rfl⟩ := h
  have hgiven := isGiven_componentPath hitems.1
  refine ⟨.str name, ?_, rfl⟩
  rw [schemaType_array named array, isCut_eq_false_of_memberOrNull hgiven,
    isGiven_of_memberOrNull hgiven, schemaType_componentPath hslash hitems.1]
  rfl

theorem isGiven_of_isArraySchema {schema : Value} (h : isArraySchema schema = true) :
    (memberOrNull schema "type").isGiven = true := by
  rw [isArraySchema, baseType] at h
  generalize memberOrNull schema "type" = declared at h ⊢
  split at h
  · rename_i types hcontent
    cases declared with
    | list types =>
        cases types with
        | nil =>
            cases hcontent
            simp [Value.isText] at h
        | cons type types => rfl
    | loop number content => rfl
    | _ => cases hcontent
  · cases declared with
    | str s =>
        rw [Value.isText, beq_iff_eq] at h
        rw [← h]
        rfl
    | _ => cases h

/-- Wherever a schema with the name of a type occurs, a name that no table knows is kept. -/
theorem Occurs.type?_eq {doc schema : Value} {api : Api} {spot : Spot} {name : String}
    (h : Occurs doc api schema spot) (hdoc : ofDocument doc = .ok api)
    (hobject : schema.isObject = true) (hgiven : schema.isGiven = true)
    (htype : TypeNamed schema name) (hplain : Text.lower name ∉ TypeName.plainNames)
    (hanswer : spot.isAnswer = true → name ≠ "") (p : Platform) :
    spot.type? p =
      some (if isArraySchema schema then TypeName.collection p name else name) := by
  obtain ⟨name', htype', hspot⟩ := h.exists_type hdoc hobject hgiven fun hspot hempty =>
    hanswer hspot (htype.unique hempty)
  obtain rfl := htype.unique htype'
  rw [hspot, TypeName.field, TypeName.schema_eq_self hplain]

theorem name_of_model {key schema : Value} {m : Model} (h : model key schema = .ok m) :
    Shape.text key = .ok m.name := by
  obtain ⟨members, _, h⟩ := bind_eq_ok_iff.1 h
  obtain ⟨properties, _, h⟩ := bind_eq_ok_iff.1 h
  obtain ⟨m', hm, h⟩ := bind_eq_ok_iff.1 h
  rw [Model.properties_of_distinct h]
  rw [checked_eq_ok_iff] at hm
  obtain ⟨name, hname, hm⟩ := bind_eq_ok_iff.1 hm
  obtain ⟨description, _, hm⟩ := bind_eq_ok_iff.1 hm
  cases hm
  exact Shape.under_eq_ok_iff.1 hname

/-- A client declares a type for every component. -/
theorem exists_modelHead {doc : Value} {api : Api} (hdoc : ofDocument doc = .ok api) {name : String}
    (hname : ∃ component ∈ componentSchemas doc, Shape.text component.1 = .ok name) (p : Platform)
    (source : String) :
    ∃ m ∈ api.models, m.name = name ∧ modelHead p m ∈ api.code p source := by
  obtain ⟨component, hcomponent, htext⟩ := hname
  obtain ⟨m, hm⟩ := exists_mem_zip (forall₂_model hdoc).length_eq hcomponent
  have hmodel := name_of_model (List.forall₂_zip (forall₂_model hdoc) hm)
  rw [htext, Except.ok.injEq] at hmodel
  have hmem := (List.of_mem_zip hm).2
  exact ⟨m, hmem, hmodel.symm, (modelBlock_isInfix hmem p source).subset (modelHead_mem p m)⟩

/-- A component that is not called like a plain type is declared under its name, and wherever a
reference to it or a list of such references is spelled, its type is that name or the list of it.
An answer whose type is the empty name is none. -/
theorem references_spelled {doc : Value} {api : Api} (hdoc : ofDocument doc = .ok api)
    {name : String} (hname : ∃ component ∈ componentSchemas doc, Shape.text component.1 = .ok name)
    (hslash : '/' ∉ name.toList) (hplain : Text.lower name ∉ TypeName.plainNames) (p : Platform)
    (source : String) :
    (∃ m ∈ api.models, m.name = name ∧ modelHead p m ∈ api.code p source) ∧
      ∀ schema spot, Occurs doc api schema spot → (spot.isAnswer = true → name ≠ "") →
        (RefersTo schema name →
          spot.type? p = some name ∧ spot.Prints p api source name) ∧
        (∀ items, ListsItems schema items → RefersTo items name →
          spot.type? p = some (TypeName.collection p name) ∧
            spot.Prints p api source (TypeName.collection p name)) := by
  refine ⟨exists_modelHead hdoc hname p source, fun schema spot hoccurs hanswer => ⟨?_, ?_⟩⟩
  · intro hrefers
    have hgiven := isGiven_componentPath hrefers.1
    have htype := hoccurs.type?_eq hdoc (isObject_of_memberOrNull hgiven)
      (isGiven_of_memberOrNull hgiven) (hrefers.typeNamed hslash) hplain hanswer p
    rw [if_neg (by simp [hrefers.2])] at htype
    exact ⟨htype, hoccurs.prints htype source⟩
  · intro items hlists hrefers
    have hgiven := isGiven_of_isArraySchema hlists.1
    have htype := hoccurs.type?_eq hdoc (isObject_of_memberOrNull hgiven)
      (isGiven_of_memberOrNull hgiven) (hlists.typeNamed hrefers hslash) hplain hanswer p
    rw [if_pos hlists.1] at htype
    exact ⟨htype, hoccurs.prints htype source⟩

/-- The reference to a component. -/
def referenceTo (name : String) : Value := .record [("$ref", .str (componentPath name))]

/-- A document whose property refers to a component and whose answer is a list of it. -/
def shopDocument : Value :=
  .record [("info", .record [("title", .str "Shop"), ("version", .str "1")]),
    ("paths", .record [("/orders", .record [("get", .record [("responses",
      .record [("200", .record [("content", .record [("application/json", .record [
        ("schema", listSchema (referenceTo "Order"))])])])])])])]),
    ("components", .record [("schemas", .record [("Order", .record []),
      ("Customer", .record [("properties", .record [("last", referenceTo "Order")])])])])]

theorem references_spelled_shopDocument :
    ∃ api spot spot', ofDocument shopDocument = .ok api ∧
      Occurs shopDocument api (referenceTo "Order") spot ∧
      Occurs shopDocument api (listSchema (referenceTo "Order")) spot' ∧
      ∀ p, spot.type? p = some "Order" ∧ spot.Prints p api "shop.json" "Order" ∧
        spot'.type? p = some (TypeName.collection p "Order") ∧
        ∃ m ∈ api.models, m.name = "Order" ∧ modelHead p m ∈ api.code p "shop.json" := by
  obtain ⟨api, hok⟩ : ∃ api, ofDocument shopDocument = .ok api :=
    exists_ok_of_isSome (by decide +kernel)
  obtain ⟨m, prop, field, hfield⟩ := exists_field hok
    (List.mem_cons_of_mem _ (List.mem_singleton_self _)) (List.mem_singleton_self _)
  obtain ⟨e, r, hanswer⟩ := exists_answer hok (List.mem_singleton_self _) [] rfl (by simp)
    (by decide +kernel)
  refine ⟨api, _, _, hok, hfield, hanswer, fun p => ?_⟩
  have hname : ∃ component ∈ componentSchemas shopDocument,
      Shape.text component.1 = .ok "Order" := ⟨_, List.mem_cons_self, rfl⟩
  obtain ⟨hhead, hspelled⟩ := references_spelled hok hname (by decide) (by decide +kernel) p
    "shop.json"
  obtain ⟨htype, hprints⟩ := (hspelled _ _ hfield fun _ => by decide).1 ⟨rfl, rfl⟩
  obtain ⟨htype', _⟩ :=
    (hspelled _ _ hanswer fun _ => by decide).2 (referenceTo "Order") ⟨rfl, rfl, rfl⟩ ⟨rfl, rfl⟩
  exact ⟨htype, hprints, htype', hhead⟩

/-- A document that refers to a component in a cookie and in a second response of success, and to
one with an empty name in an answer. -/
def unspelledDocument : Value :=
  .record [("info", .record [("title", .str "Shop"), ("version", .str "1")]),
    ("paths", .record [
      ("/orders", .record [("get", .record [
        ("parameters", .list [.record [("name", .str "draft"), ("in", .str "cookie"),
          ("schema", referenceTo "Order")]]),
        ("responses", .record [
          ("200", .record [("content", .record [("application/json", .record [
            ("schema", .record [("type", .str "string")])])])]),
          ("201", .record [("content", .record [("application/json", .record [
            ("schema", referenceTo "Order")])])])])])]),
      ("/nothing", .record [("get", .record [("responses", .record [
        ("200", .record [("content", .record [("application/json", .record [
          ("schema", referenceTo "")])])])])])])]),
    ("components", .record [("schemas", .record [("Order", .record []), ("", .record [])])])]

/-- Neither the cookie nor the second response is spelled, and the answer without a name is void. -/
theorem not_spelled_unspelledDocument :
    ∃ api, ofDocument unspelledDocument = .ok api ∧ api.models.map (·.name) = ["Order", ""] ∧
      api.endpoints.map TypeScript.declaration =
        ["async getOrders(): Promise<string> \x7b", "async getNothing(): Promise<void> \x7b"] := by
  exact exists_ok_of_any (by decide +kernel)

end SpecForge.Api
