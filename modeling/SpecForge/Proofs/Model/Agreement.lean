import SpecForge.Proofs.Model.Lists

/-!
# The two readings of schemas

A component of an interface and a model of its own are written in the same language, but they are
read apart: the one asks for the declared type and goes down into the items of arrays, the other
takes the name of the type first and looks whether it is that of an array. On schemas whose types are
names and whose references lead to names, and whose arrays are not nested, both give the same
properties.
-/

namespace SpecForge

theorem Text.dropEndChar_eq_self {sep : Char} {s tail : String} (htail : tail.toList = [sep])
    (h : Text.endsWith s tail = false) : Text.dropEndChar sep s = s := by
  rw [Text.endsWith, htail] at h
  rw [Text.dropEndChar]
  cases hs : s.toList.reverse with
  | nil =>
      rw [List.dropWhile_nil, List.reverse_nil, ← List.reverse_eq_nil_iff.1 hs, String.ofList_toList]
  | cons c cs =>
      rw [hs, List.reverse_singleton, beginsWith, beginsWith, Bool.and_true,
        beq_eq_false_iff_ne] at h
      have hne : ¬ (c == sep) = true := by simpa using h.symm
      rw [List.dropWhile_cons, if_neg hne, ← hs, List.reverse_reverse, String.ofList_toList]

/-- A text that is not empty. -/
def Value.IsName (v : Value) : Prop := ∃ s, v = .str s ∧ s ≠ ""

/-- A type that is not declared, a name, or some names. -/
inductive DeclaresType : Value → Prop where
  | absent : DeclaresType .null
  | name {v : Value} : v.IsName → DeclaresType v
  | names {v : Value} {types : List Value} : v.content = .list types →
      (∀ type ∈ types, type.IsName) → DeclaresType v

/-- A schema whose type is a name, or some, and whose reference, if it has one, leads to the name of
something other than an array. What refers is no array itself. -/
structure NamesType (schema : Value) : Prop where
  type : DeclaresType (Api.memberOrNull schema "type")
  reference : ∀ target, schema.member? "$ref" = some target →
    (∃ path, target = .str path ∧ path ≠ "" ∧ Text.endsWith path "/" = false ∧
      Text.lastPart '/' path ≠ "array") ∧ Api.isArraySchema schema = false

/-- A schema that names its type, and if it is that of an array its items do so and are no arrays. -/
structure Comparable (schema : Value) : Prop extends NamesType schema where
  items : Api.isArraySchema schema = true → NamesType (Api.memberOrNull schema "items") ∧
    Api.isArraySchema (Api.memberOrNull schema "items") = false ∧
    (Api.memberOrNull schema "items").isCut = false

/-- The declared type is the same one in both readings. -/
theorem declaredType_eq_baseType {schema : Value}
    (h : DeclaresType (Api.memberOrNull schema "type")) :
    Model.declaredType (Api.memberOrNull schema "type") =
      (Api.baseType schema).orElse (.str "any") := by
  rw [Api.baseType]
  generalize Api.memberOrNull schema "type" = declared at h ⊢
  cases h with
  | absent => rfl
  | name hname =>
      obtain ⟨s, rfl, _⟩ := hname
      rfl
  | @names _ types hcontent hnames =>
      rw [Model.declaredType, hcontent]
      dsimp only
      cases hfind : types.find? fun t => !t.isText "null" with
      | none => rfl
      | some type =>
          obtain ⟨s, rfl, hs⟩ := hnames type (List.mem_of_find?_eq_some hfind)
          have hgiven : (Value.str s).isGiven = true := by simpa [Value.isGiven] using hs
          rw [Option.getD_some, Option.getD_some, Value.orElse, if_pos hgiven]

theorem isText_orElse_baseType {schema : Value} :
    ((Api.baseType schema).orElse (.str "any")).isText "array" = Api.isArraySchema schema := by
  rw [Api.isArraySchema, Value.orElse]
  split
  · rfl
  · rename_i hgiven
    cases hbase : Api.baseType schema with
    | str s =>
        have hs : s = "" := by simpa [hbase, Value.isGiven] using hgiven
        rw [hs]
        rfl
    | _ => rfl

/-- The reading of JSON Schema looks for a reference first. -/
theorem Model.schemaType_eq (schema : Value) : schemaType schema =
    match schema.member? "$ref" with
    | some target =>
      target.asText.map fun path => .str (Text.lastPart '/' (Text.dropEndChar '/' path))
    | none => .ok (declaredType (Api.memberOrNull schema "type")) := by
  rw [schemaType, Api.memberOrNull, Value.member?, Value.member?]
  cases schema.content with
  | object members =>
      dsimp only
      cases Value.lookup "$ref" members with
      | none => rfl
      | some target =>
          dsimp only
          cases target.asText <;> rfl
  | _ => rfl

/-- Where a schema is not that of an array both readings give the same type, and it is not that of
an array. -/
theorem NamesType.exists_type {schema : Value} (h : NamesType schema)
    (harray : Api.isArraySchema schema = false) :
    ∃ type, Model.schemaType schema = .ok type ∧ Api.schemaType schema = .ok type ∧
      type.isText "array" = false := by
  rw [Model.schemaType_eq]
  cases htarget : schema.member? "$ref" with
  | none =>
      have hnamed : (Api.memberOrNull schema "$ref").isGiven = false := by
        rw [Api.memberOrNull, htarget]
        rfl
      refine ⟨_, rfl, ?_, ?_⟩
      · rw [Api.schemaType_declared hnamed harray, declaredType_eq_baseType h.type]
      · rw [declaredType_eq_baseType h.type, isText_orElse_baseType, harray]
  | some target =>
      obtain ⟨⟨path, rfl, hne, hslash, hlast⟩, _⟩ := h.reference target htarget
      have hmember : Api.memberOrNull schema "$ref" = .str path := by
        rw [Api.memberOrNull, htarget]
        rfl
      have hgiven : (Value.str path).isGiven = true := by simpa [Value.isGiven] using hne
      have hread : (Value.str path).asText = .ok path := rfl
      refine ⟨.str (Text.lastPart '/' path), ?_, ?_, ?_⟩
      · dsimp only
        rw [hread, Except.map, Text.dropEndChar_eq_self (by simp) hslash]
      · rw [Api.schemaType_reference (by rw [hmember, hgiven]), hmember, hread]
        rfl
      · rw [Value.isText, beq_eq_false_iff_ne]
        exact hlast.symm

/-- Both readings give the same type of the elements and agree on whether they are a list. -/
theorem Comparable.exists_type {schema : Value} (h : Comparable schema) :
    ∃ type, Model.elementType schema = .ok (type, Api.isArraySchema schema) ∧
      Api.schemaType schema = .ok type := by
  cases harray : Api.isArraySchema schema with
  | false =>
      obtain ⟨type, hmodel, hapi, hplain⟩ := h.toNamesType.exists_type harray
      exact ⟨type, Model.elementType_of_plain hmodel hplain, hapi⟩
  | true =>
      obtain ⟨hitems, hplain, hcut⟩ := h.items harray
      obtain ⟨type, hmodel, hapi, _⟩ := hitems.exists_type hplain
      -- what is an array has no reference
      have htarget : schema.member? "$ref" = none := by
        rw [Option.eq_none_iff_forall_ne_some]
        intro target hsome
        rw [(h.reference target hsome).2] at harray
        cases harray
      have hnamed : (Api.memberOrNull schema "$ref").isGiven = false := by
        rw [Api.memberOrNull, htarget]
        rfl
      have hdeclared := Model.schemaType_eq schema
      rw [htarget] at hdeclared
      have htext : (Model.declaredType (Api.memberOrNull schema "type")).isText "array" = true := by
        rw [declaredType_eq_baseType h.type, isText_orElse_baseType, harray]
      rw [Model.elementType_of_array hdeclared htext, Api.schemaType_array hnamed harray, hcut,
        hmodel, hapi]
      cases (Api.memberOrNull schema "items").isGiven with
      | true => exact ⟨type, rfl, rfl⟩
      | false => exact ⟨.str "any", rfl, rfl⟩

/-- A schema that is no object says nothing, in both readings. -/
theorem Comparable.objectOrEmpty {schema : Value} (h : Comparable schema) :
    Comparable (Api.objectOrEmpty schema) := by
  rw [Api.objectOrEmpty]
  split
  · exact h
  · refine ⟨⟨.absent, ?_⟩, ?_⟩
    · intro target htarget
      cases htarget
    · intro harray
      cases harray

theorem Comparable.property_eq {schema : Value} (h : Comparable schema) (required name : Value) :
    Model.schemaProperty required name schema = Api.property required name schema := by
  obtain ⟨type, helement, htype⟩ := h.objectOrEmpty.exists_type
  change (required.holds name >>= fun isRequired =>
    Model.elementType (Api.objectOrEmpty schema) >>= _) =
      (Api.schemaType (Api.objectOrEmpty schema) >>= _)
  rw [helement, htype]
  rfl

/-! ### Models -/

/-- Two readings both fail, or both give a model and the models have the same properties. -/
def SameProperties (read read' : Outcome Model) : Prop :=
  (∃ m m', read = .ok m ∧ read' = .ok m' ∧ m.properties = m'.properties) ∨
    ∃ f f', read = .error f ∧ read' = .error f'

/-- The properties that an object schema declares, as an interface reads them. -/
def Api.propertiesOf (schema : Value) : Outcome (List Property) := do
  let required := (memberOrNull schema "required").orElse (.list [])
  let members ← tableOf (memberOrNull schema "properties")
  members.mapM fun m => property required m.1 m.2

theorem Api.model_eq {name schema : Value} (hobject : schema.isObject = true) :
    model name schema = propertiesOf schema >>=
      Model.check name (memberOrNull schema "description") := by
  rw [model, objectOrEmpty_of_isObject hobject, propertiesOf, bind_assoc]
  rfl

theorem Model.ofSchema_eq {schema : Value}
    (hkind : Api.memberOrNull schema "type" = .str "object")
    (h : ∀ member ∈ Api.membersOf (Api.memberOrNull schema "properties"), Comparable member.2) :
    ofSchema schema = Api.propertiesOf schema >>=
      check ((Api.memberOrNull schema "title").orElse unnamed)
        (Api.memberOrNull schema "description") := by
  have hany : (schema.member? "type").any (·.isText "object") = true := by
    rw [Api.memberOrNull] at hkind
    cases htype : schema.member? "type" with
    | none => simp [htype] at hkind
    | some type =>
        rw [htype, Option.getD_some] at hkind
        rw [hkind]
        rfl
  have hread : ofSchema schema = (do
      let members ← Api.tableOf (Api.memberOrNull schema "properties")
      let properties ← members.mapM fun m =>
        schemaProperty ((Api.memberOrNull schema "required").orElse (.list [])) m.1 m.2
      check ((Api.memberOrNull schema "title").orElse unnamed)
        (Api.memberOrNull schema "description") properties) := by
    rw [ofSchema, if_neg (by simp [hany])]
    rfl
  rw [hread, Api.propertiesOf, bind_assoc]
  cases hmembers : Api.tableOf (Api.memberOrNull schema "properties") with
  | error f => rfl
  | ok members =>
      rw [Api.membersOf_of_allMembers hmembers] at h
      generalize (Api.memberOrNull schema "required").orElse (.list []) = required
      have hproperties : members.mapM (fun m => schemaProperty required m.1 m.2) =
          members.mapM fun m => Api.property required m.1 m.2 :=
        mapM_congr fun m hm => (h m hm).property_eq required m.1
      change (members.mapM (fun m => schemaProperty required m.1 m.2) >>= _) = _
      rw [hproperties]
      rfl

/-- What is checked of a model beside its name is the same for every name. -/
theorem sameProperties_check {name name' : Value} (hname : ∃ s, Shape.text name = .ok s)
    (hname' : ∃ s, Shape.text name' = .ok s) (description : Value) (properties : List Property) :
    SameProperties (Model.check name description properties)
      (Model.check name' description properties) := by
  obtain ⟨s, hs⟩ := hname
  obtain ⟨s', hs'⟩ := hname'
  cases hdescription : Shape.optional Shape.text description with
  | error i =>
      rw [Model.check, Model.check, hs, hs', hdescription]
      exact .inr ⟨_, _, rfl, rfl⟩
  | ok d =>
      have hcheck : ∀ {name : Value} {s : String}, Shape.text name = .ok s →
          Model.check name description properties = (⟨s, d, properties⟩ : Model).distinct := by
        intro name s hs
        rw [Model.check, hs, hdescription]
        rfl
      rw [hcheck hs, hcheck hs', Model.distinct, Model.distinct]
      cases firstRepeated [] (properties.map (·.name)) with
      | none => exact .inl ⟨_, _, rfl, rfl, rfl⟩
      | some repeated => exact .inr ⟨_, _, rfl, rfl⟩

theorem sameProperties_model {schema : Value} (name : String)
    (hkind : Api.memberOrNull schema "type" = .str "object")
    (htitle : Api.memberOrNull schema "title" = .null ∨
      ∃ s, Api.memberOrNull schema "title" = .str s)
    (h : ∀ member ∈ Api.membersOf (Api.memberOrNull schema "properties"), Comparable member.2) :
    SameProperties (Model.ofSchema schema) (Api.model (.str name) schema) := by
  have hobject : schema.isObject = true :=
    Api.isObject_of_memberOrNull (by rw [hkind]; rfl : (Api.memberOrNull schema "type").isGiven = true)
  rw [Model.ofSchema_eq hkind h, Api.model_eq hobject]
  cases Api.propertiesOf schema with
  | error f => exact .inr ⟨f, f, rfl, rfl⟩
  | ok properties =>
      refine sameProperties_check ?_ ⟨name, rfl⟩ _ properties
      obtain hnull | ⟨s, hs⟩ := htitle
      · rw [hnull]
        exact ⟨_, rfl⟩
      · rw [hs, Value.orElse]
        split
        · exact ⟨s, rfl⟩
        · exact ⟨_, rfl⟩

/-! ### Documents -/

/-- A document with a component, and the same document with an empty schema in its place. -/
structure Places (doc bare : Value) (front back : List (Value × Value)) (name : String)
    (schema : Value) : Prop where
  components : Api.componentSchemas doc = front ++ (.str name, schema) :: back
  bareComponents : Api.componentSchemas bare = front ++ (.str name, .object []) :: back
  others : ∀ key, key ≠ "components" → Api.memberOrNull doc key = Api.memberOrNull bare key

namespace Api

/-- A value with members is an object that counts as given. -/
theorem of_membersOf_ne_nil {v : Value} (h : membersOf v ≠ []) :
    v.isGiven = true ∧ v.allMembers = .ok (membersOf v) := by
  rw [Value.allMembers]
  rw [membersOf] at h ⊢
  cases v with
  | object members =>
      cases members with
      | nil => exact absurd rfl h
      | cons m members => exact ⟨rfl, rfl⟩
  | loop number content =>
      cases content with
      | object members => exact ⟨rfl, rfl⟩
      | _ => exact absurd rfl h
  | _ => exact absurd rfl h

theorem tables_of_components {doc : Value} (h : componentSchemas doc ≠ []) :
    doc.isObject = true ∧ ∃ schemas, schemasOf doc = .ok schemas ∧
      tableOf schemas = .ok (componentSchemas doc) := by
  obtain ⟨hgiven, hmembers⟩ := of_membersOf_ne_nil h
  have hcomponents := isGiven_of_memberOrNull hgiven
  refine ⟨isObject_of_memberOrNull hcomponents,
    memberOrNull (memberOrNull doc "components") "schemas", ?_, ?_⟩
  · rw [schemasOf]
    rw [Value.orElse, if_pos hcomponents]
    exact part_eq_memberOrNull (isObject_of_memberOrNull hgiven) "schemas"
  · rw [tableOf, Value.orElse, if_pos hgiven]
    exact hmembers

theorem heading_eq {doc bare : Value} (hdoc : doc.isObject = true) (hbare : bare.isObject = true)
    (hinfo : memberOrNull doc "info" = memberOrNull bare "info") : heading doc = heading bare := by
  rw [heading, heading, hdoc, hbare, hinfo]

/-- What is checked of an interface does not concern its models. -/
theorem exists_assemble {doc bare url : Value} {name version : String}
    {endpoints : List (List Endpoint)} {models : List Model} (models' : List Model) {api : Api}
    (hinfo : memberOrNull doc "info" = memberOrNull bare "info")
    (h : assemble bare name version url endpoints models = .ok api) :
    ∃ api', assemble doc name version url endpoints models' = .ok api' := by
  rw [assemble] at h ⊢
  rw [hinfo]
  obtain ⟨api', hchecked, h⟩ := bind_eq_ok_iff.1 h
  obtain ⟨rfl, hnodup⟩ := nodup_of_distinct h
  rw [checked_eq_ok_iff] at hchecked
  obtain ⟨description, hdescription, hchecked⟩ := bind_eq_ok_iff.1 hchecked
  obtain ⟨url', hurl, hchecked⟩ := bind_eq_ok_iff.1 hchecked
  cases hchecked
  refine ⟨⟨name, version, description, url', endpoints.flatten, models'⟩, ?_⟩
  refine bind_eq_ok_iff.2 ⟨_, checked_eq_ok_iff.2 (bind_eq_ok_iff.2 ⟨_, hdescription,
    bind_eq_ok_iff.2 ⟨_, hurl, rfl⟩⟩), ?_⟩
  rw [distinct, (firstRepeated_eq_none_iff _ _).2 ⟨hnodup, by simp⟩]

end Api

/-- A document is accepted if it is with an empty schema in the place of one that makes a model. -/
theorem Places.exists_ofDocument {doc bare schema : Value} {front back : List (Value × Value)}
    {name : String} (h : Places doc bare front back name schema) {bareApi : Api}
    (hbare : Api.ofDocument bare = .ok bareApi) {m : Model}
    (hm : Api.model (.str name) schema = .ok m) : ∃ api, Api.ofDocument doc = .ok api := by
  obtain ⟨before, _, after, _, hbefore, _, hafter⟩ :=
    exists_of_forall₂_append_cons (h.bareComponents ▸ Api.forall₂_model hbare)
  have hmodels : (Api.componentSchemas doc).mapM (fun c => Api.model c.1 c.2) =
      .ok (before ++ m :: after) := by
    rw [mapM_eq_ok_iff_forall₂, h.components]
    exact List.rel_append hbefore (.cons hm hafter)
  have hne : Api.componentSchemas doc ≠ [] := by simp [h.components]
  have hbareNe : Api.componentSchemas bare ≠ [] := by simp [h.bareComponents]
  obtain ⟨hobject, schemas, hschemas, htable⟩ := Api.tables_of_components hne
  obtain ⟨hbareObject, _⟩ := Api.tables_of_components hbareNe
  rw [Api.ofDocument_eq] at hbare
  obtain ⟨⟨title, version⟩, hheading, hbare⟩ := bind_eq_ok_iff.1 hbare
  obtain ⟨url, hurl, hbare⟩ := bind_eq_ok_iff.1 hbare
  obtain ⟨_, _, hbare⟩ := bind_eq_ok_iff.1 hbare
  obtain ⟨typeName, htypeName, hbare⟩ := bind_eq_ok_iff.1 hbare
  obtain ⟨spelledVersion, hversion, hbare⟩ := bind_eq_ok_iff.1 hbare
  obtain ⟨paths, hpaths, hbare⟩ := bind_eq_ok_iff.1 hbare
  obtain ⟨endpoints, hendpoints, hbare⟩ := bind_eq_ok_iff.1 hbare
  obtain ⟨_, _, hbare⟩ := bind_eq_ok_iff.1 hbare
  obtain ⟨_, _, hbare⟩ := bind_eq_ok_iff.1 hbare
  have hinfo := h.others "info" (by decide)
  obtain ⟨api, hapi⟩ := Api.exists_assemble (before ++ m :: after) hinfo hbare
  rw [← Api.heading_eq hobject hbareObject hinfo] at hheading
  rw [← h.others "servers" (by decide)] at hurl
  rw [← h.others "paths" (by decide)] at hpaths
  refine ⟨api, ?_⟩
  rw [Api.ofDocument_eq]
  exact bind_eq_ok_iff.2 ⟨_, hheading, bind_eq_ok_iff.2 ⟨_, hurl, bind_eq_ok_iff.2 ⟨_, hschemas,
    bind_eq_ok_iff.2 ⟨_, htypeName, bind_eq_ok_iff.2 ⟨_, hversion, bind_eq_ok_iff.2 ⟨_, hpaths,
    bind_eq_ok_iff.2 ⟨_, hendpoints, bind_eq_ok_iff.2 ⟨_, htable, bind_eq_ok_iff.2 ⟨_, hmodels,
    hapi⟩⟩⟩⟩⟩⟩⟩⟩⟩

/-- An accepted document has the model of a component at the place of the component. -/
theorem Places.getElem?_models {doc bare schema : Value} {front back : List (Value × Value)}
    {name : String} (h : Places doc bare front back name schema) {api : Api}
    (hdoc : Api.ofDocument doc = .ok api) :
    ∃ m, Api.model (.str name) schema = .ok m ∧ api.models[front.length]? = some m := by
  obtain ⟨before, m, after, hmodels, hbefore, hm, _⟩ :=
    exists_of_forall₂_append_cons (h.components ▸ Api.forall₂_model hdoc)
  refine ⟨m, hm, ?_⟩
  rw [hmodels, hbefore.length_eq]
  simp

/-- An object schema by itself and as a component of a document that is accepted otherwise: either
both readings fail, or the model of the schema and that of the component have the same properties. -/
theorem properties_agree {doc bare schema : Value} {front back : List (Value × Value)}
    {name : String} {bareApi : Api} (hplaces : Places doc bare front back name schema)
    (hbare : Api.ofDocument bare = .ok bareApi)
    (hkind : Api.memberOrNull schema "type" = .str "object")
    (htitle : Api.memberOrNull schema "title" = .null ∨
      ∃ s, Api.memberOrNull schema "title" = .str s)
    (h : ∀ member ∈ Api.membersOf (Api.memberOrNull schema "properties"), Comparable member.2) :
    (∃ m api m', Model.ofSchema schema = .ok m ∧ Api.ofDocument doc = .ok api ∧
      api.models[front.length]? = some m' ∧ m.properties = m'.properties) ∨
    ∃ f f', Model.ofSchema schema = .error f ∧ Api.ofDocument doc = .error f' := by
  obtain ⟨m, m', hm, hm', hproperties⟩ | ⟨f, f', hf, hf'⟩ :=
    sameProperties_model name hkind htitle h
  · left
    obtain ⟨api, hapi⟩ := hplaces.exists_ofDocument hbare hm'
    obtain ⟨m'', hm'', hget⟩ := hplaces.getElem?_models hapi
    rw [hm', Except.ok.injEq] at hm''
    exact ⟨m, api, m'', hm, hapi, hget, hm'' ▸ hproperties⟩
  · right
    cases hapi : Api.ofDocument doc with
    | error f'' => exact ⟨f, f'', hf, rfl⟩
    | ok api =>
        obtain ⟨m, hm, _⟩ := hplaces.getElem?_models hapi
        rw [hf'] at hm
        cases hm

/-- A schema with a reference, a list whose type is one of two, and a property that says nothing. -/
def orderSchema : Value :=
  .record [("type", .str "object"), ("properties", .record [
    ("owner", .record [("$ref", .str "#/components/schemas/User")]),
    ("lines", .record [("type", .list [.str "null", .str "array"]),
      ("items", .record [("$ref", .str "line.json")])]),
    ("extra", .bool true)])]

/-- A document with one more component. -/
def storeDocument (schema : Value) : Value :=
  .record [("info", .record [("title", .str "Store"), ("version", .str "1")]),
    ("components", .record [("schemas", .record [("User", .record []), ("Order", schema)])])]

theorem comparable_orderSchema :
    ∀ member ∈ Api.membersOf (Api.memberOrNull orderSchema "properties"), Comparable member.2 := by
  have howner : Comparable (.record [("$ref", .str "#/components/schemas/User")]) := by
    refine ⟨⟨.absent, ?_⟩, fun harray => by cases harray⟩
    intro target htarget
    cases htarget
    exact ⟨⟨_, rfl, by decide, by decide, by decide⟩, rfl⟩
  have hline : NamesType (.record [("$ref", .str "line.json")]) := by
    refine ⟨.absent, ?_⟩
    intro target htarget
    cases htarget
    exact ⟨⟨_, rfl, by decide, by decide, by decide⟩, rfl⟩
  have hlines : Comparable (.record [("type", .list [.str "null", .str "array"]),
      ("items", .record [("$ref", .str "line.json")])]) := by
    refine ⟨⟨.names rfl ?_, ?_⟩, fun _ => ⟨hline, rfl, rfl⟩⟩
    · intro type htype
      obtain rfl | htype := List.mem_cons.1 htype
      · exact ⟨"null", rfl, by decide⟩
      · exact ⟨"array", List.mem_singleton.1 htype, by decide⟩
    · intro target htarget
      cases htarget
  have hextra : Comparable (.bool true) := by
    refine ⟨⟨.absent, ?_⟩, fun harray => by cases harray⟩
    intro target htarget
    cases htarget
  intro member hmember
  change member ∈ [_, _, _] at hmember
  simp only [List.mem_cons, List.not_mem_nil, or_false] at hmember
  obtain rfl | rfl | rfl := hmember
  · exact howner
  · exact hlines
  · exact hextra

theorem properties_agree_orderSchema :
    ∃ m api m', Model.ofSchema orderSchema = .ok m ∧
      Api.ofDocument (storeDocument orderSchema) = .ok api ∧ api.models[1]? = some m' ∧
      m.properties = m'.properties ∧
      m.properties.map (fun prop => (prop.name, prop.type, prop.isArray)) =
        [("owner", "User", false), ("lines", "line.json", true), ("extra", "any", false)] := by
  have hplaces : Places (storeDocument orderSchema) (storeDocument (.object []))
      [(.str "User", .record [])] [] "Order" orderSchema := by
    refine ⟨rfl, rfl, fun key hkey => ?_⟩
    have hcomponents : (Value.str "components").isText key = false := by
      rw [Value.isText, beq_eq_false_iff_ne]
      exact hkey
    simp [Api.memberOrNull, Value.member?, Value.content, Value.record, Value.lookup,
      storeDocument, hcomponents]
  obtain ⟨bareApi, hbare⟩ : ∃ api, Api.ofDocument (storeDocument (.object [])) = .ok api :=
    exists_ok_of_isSome (by decide +kernel)
  obtain ⟨m, hm, hread⟩ : ∃ m, Model.ofSchema orderSchema = .ok m ∧
      m.properties.map (fun prop => (prop.name, prop.type, prop.isArray)) =
        [("owner", "User", false), ("lines", "line.json", true), ("extra", "any", false)] :=
    exists_ok_of_any (by decide +kernel)
  obtain ⟨m', api, m'', hm', hapi, hget, hproperties⟩ | ⟨f, _, hf, _⟩ :=
    properties_agree hplaces hbare rfl (.inl rfl) comparable_orderSchema
  · cases hm.symm.trans hm'
    exact ⟨m, api, m'', hm, hapi, hget, hproperties, hread⟩
  · cases hm.symm.trans hf

end SpecForge
