import SpecForge.Proofs.Api.Spot

/-!
# Lists of items

A property knows that it is a list, but not of how many levels. The two readings of schemas agree on
a list of items that are no lists: it is the list of what the items are. They differ on a list of
lists. The reading of interfaces goes down to the innermost items and makes one list of them; that
of JSON Schema goes down one level and makes a list of lists of anything.
-/

namespace SpecForge

/-- The schema of an array of items. -/
def listSchema (items : Value) : Value := .record [("type", .str "array"), ("items", items)]

/-- Only the empty object is an object that counts as not given. -/
theorem eq_empty_of_isObject {v : Value} (hobject : v.isObject = true)
    (hgiven : ¬ v.isGiven = true) : v = .object [] := by
  cases v with
  | object members => simpa [Value.isGiven] using hgiven
  | loop number content => exact absurd rfl hgiven
  | _ => cases hobject

namespace Api

theorem schemaType_listSchema {items : Value} (hcut : items.isCut = false)
    (hobject : items.isObject = true) : schemaType (listSchema items) = schemaType items := by
  have hmember : memberOrNull (listSchema items) "items" = items := rfl
  rw [schemaType_array rfl rfl, hmember, hcut, if_neg (by simp)]
  split
  · rfl
  · rename_i hgiven
    have hany : schemaType (.object []) = .ok (.str "any") := schemaType_declared rfl rfl
    rw [eq_empty_of_isObject hobject hgiven, hany]

theorem property_listSchema {required name items : Value} (hobject : items.isObject = true)
    (hcut : items.isCut = false) {prop : Property} (h : property required name items = .ok prop) :
    ∃ list, property required name (listSchema items) = .ok list ∧ list.type = prop.type ∧
      list.isArray = true ∧ list.format = none := by
  obtain ⟨type, htype, h⟩ := bind_eq_ok_iff.1 h
  obtain ⟨isRequired, hholds, h⟩ := bind_eq_ok_iff.1 h
  obtain ⟨hname, htype', _⟩ := Property.check_eq_ok_iff.1 h
  rw [objectOrEmpty_of_isObject hobject, ← schemaType_listSchema hcut hobject] at htype
  refine ⟨⟨prop.name, prop.type, none, !isRequired || false, true, none, .null⟩, ?_, rfl, rfl, rfl⟩
  refine bind_eq_ok_iff.2 ⟨type, htype, bind_eq_ok_iff.2 ⟨isRequired, hholds, ?_⟩⟩
  exact Property.check_eq_ok_iff.2 ⟨hname, htype', rfl, rfl, rfl, rfl, rfl⟩

end Api

namespace Model

theorem elementType_of_plain {schema type : Value} (h : schemaType schema = .ok type)
    (hplain : type.isText "array" = false) : elementType schema = .ok (type, false) := by
  rw [elementType, h]
  change (if type.isText "array" = true then _ else _) = _
  rw [hplain]
  rfl

theorem elementType_of_array {schema type : Value} (h : schemaType schema = .ok type)
    (harray : type.isText "array" = true) : elementType schema =
      if (Api.memberOrNull schema "items").isGiven then
        (schemaType (Api.memberOrNull schema "items")).map fun type => (type, true)
      else .ok (anyType, true) := by
  rw [elementType, h, Api.memberOrNull]
  change (if type.isText "array" = true then _ else _) = _
  rw [if_pos harray]
  cases schemaType ((schema.member? "items").getD .null) <;> rfl

theorem elementType_listSchema {items : Value} (hobject : items.isObject = true) :
    elementType (listSchema items) = (schemaType items).map fun type => (type, true) := by
  have hmember : Api.memberOrNull (listSchema items) "items" = items := rfl
  rw [elementType_of_array rfl rfl, hmember]
  split
  · rfl
  · rename_i hgiven
    rw [eq_empty_of_isObject hobject hgiven]
    rfl

/-- Whether a schema is that of an array is told by its type. -/
theorem schemaType_of_elementType {schema type : Value} {isArray : Bool}
    (h : elementType schema = .ok (type, isArray)) :
    schemaType schema = .ok (if isArray then .str "array" else type) := by
  obtain ⟨declared, hdeclared, _⟩ := bind_eq_ok_iff.1 h
  rw [hdeclared]
  cases harray : declared.isText "array" with
  | false =>
      rw [elementType_of_plain hdeclared harray] at h
      cases h
      rfl
  | true =>
      have hisArray : isArray = true := by
        rw [elementType_of_array hdeclared harray] at h
        split at h
        · cases htype : schemaType (Api.memberOrNull schema "items") with
          | error f =>
              rw [htype] at h
              cases h
          | ok type' =>
              rw [htype] at h
              cases h
              rfl
        · cases h
          rfl
      rw [hisArray, if_pos rfl]
      cases declared with
      | str s => rw [← beq_iff_eq.1 harray]
      | _ => cases harray

theorem schemaProperty_listSchema {required name items : Value} (hobject : items.isObject = true)
    {prop : Property} (h : schemaProperty required name items = .ok prop) :
    ∃ list, schemaProperty required name (listSchema items) = .ok list ∧
      list.type = (if prop.isArray then "array" else prop.type) ∧ list.isArray = true ∧
      list.format = none := by
  obtain ⟨isRequired, hholds, h⟩ := bind_eq_ok_iff.1 h
  obtain ⟨⟨type, isArray⟩, htype, h⟩ := bind_eq_ok_iff.1 h
  obtain ⟨hname, htype', _, _, _, rfl, _⟩ := Property.check_eq_ok_iff.1 h
  rw [if_pos hobject] at htype
  -- of items that are a list only that is known, not what is in it
  have hlist : elementType (listSchema items) =
      .ok (if prop.isArray then .str "array" else type, true) := by
    rw [elementType_listSchema hobject, schemaType_of_elementType htype]
    rfl
  have htext : Shape.text (if prop.isArray then .str "array" else type) =
      .ok (if prop.isArray then "array" else prop.type) := by
    split
    · rfl
    · exact htype'
  refine ⟨⟨prop.name, _, none, !isRequired || false, true, none, .null⟩, ?_, rfl, rfl, rfl⟩
  refine bind_eq_ok_iff.2 ⟨isRequired, hholds, bind_eq_ok_iff.2 ⟨_, hlist, ?_⟩⟩
  exact Property.check_eq_ok_iff.2 ⟨hname, htext, rfl, rfl, rfl, rfl, rfl⟩

end Model

/-- The spelling of a property whose format does not count. -/
theorem Property.spelling_eq {prop : Property} {p : Platform}
    (hformat : TypeName.hasFormat p prop.type prop.format = false) :
    prop.spelling p = TypeName.field p prop.type prop.isArray none :=
  TypeName.field_eq_field_none_iff.2 hformat

/-- A list of items that are read as a property is read as one too. If the items are no lists, it is
spelled as the list of what the items are spelled as, provided that their format does not count. A
list of lists is spelled like its items by the reading of interfaces, and as a list of lists of
anything by that of JSON Schema. What is cut stands only far inside a value that holds itself, and
no document begins there. -/
theorem list_spelled (required name : Value) {items : Value} (hobject : items.isObject = true) :
    (items.isCut = false → ∀ prop, Api.property required name items = .ok prop →
      ∃ list, Api.property required name (listSchema items) = .ok list ∧ ∀ p,
        TypeName.hasFormat p prop.type prop.format = false →
          (prop.isArray = false → list.spelling p = TypeName.collection p (prop.spelling p)) ∧
          (prop.isArray = true → list.spelling p = prop.spelling p)) ∧
    (∀ prop, Model.schemaProperty required name items = .ok prop →
      ∃ list, Model.schemaProperty required name (listSchema items) = .ok list ∧ ∀ p,
        (prop.isArray = false → TypeName.hasFormat p prop.type prop.format = false →
          list.spelling p = TypeName.collection p (prop.spelling p)) ∧
        (prop.isArray = true →
          list.spelling p = TypeName.collection p (TypeName.schema p "array" none))) := by
  constructor
  · intro hcut prop h
    obtain ⟨list, hlist, htype, harray, hformat⟩ := Api.property_listSchema hobject hcut h
    refine ⟨list, hlist, fun p hplain => ?_⟩
    rw [Property.spelling, htype, harray, hformat, prop.spelling_eq hplain]
    constructor
    · intro hitem
      rw [hitem]
      rfl
    · intro hitem
      rw [hitem]
  · intro prop h
    obtain ⟨list, hlist, htype, harray, hformat⟩ := Model.schemaProperty_listSchema hobject h
    refine ⟨list, hlist, fun p => ?_⟩
    rw [Property.spelling, htype, harray, hformat]
    constructor
    · intro hitem hplain
      rw [prop.spelling_eq hplain, hitem]
      rfl
    · intro hitem
      rw [hitem]
      rfl

/-- A text. -/
def textSchema : Value := .record [("type", .str "string")]

/-- A moment, which is a text with a format. -/
def momentSchema : Value := .record [("type", .str "string"), ("format", .str "date-time")]

/-- The spelling of a property that has been read. -/
def spelled (p : Platform) (read : Outcome Property) : Option String :=
  read.toOption.map (·.spelling p)

theorem list_spelled_textSchema :
    ∃ prop list, Api.property (.list []) (.str "tags") textSchema = .ok prop ∧
      Api.property (.list []) (.str "tags") (listSchema textSchema) = .ok list ∧
      ∀ p, prop.spelling p = TypeName.schema p "string" none ∧
        list.spelling p = TypeName.collection p (prop.spelling p) := by
  have htype : Api.schemaType textSchema = .ok (.str "string") := Api.schemaType_declared rfl rfl
  have hprop : Api.property (.list []) (.str "tags") textSchema =
      .ok ⟨"tags", "string", none, true, false, none, .null⟩ :=
    bind_eq_ok_iff.2 ⟨_, htype, rfl⟩
  obtain ⟨list, hlist, hspelling⟩ := (list_spelled _ _ rfl).1 rfl _ hprop
  exact ⟨_, list, hprop, hlist, fun p => ⟨rfl, (hspelling p rfl).1 rfl⟩⟩

/-- A list of lists of texts is no list of lists of texts on iOS, in neither of the two readings, and
a list of moments is none of dates. -/
theorem not_list_spelled_nested :
    spelled .ios (Api.property (.list []) (.str "rows") (listSchema textSchema)) =
      some "[String]" ∧
    spelled .ios (Api.property (.list []) (.str "rows") (listSchema (listSchema textSchema))) =
      some "[String]" ∧
    spelled .ios (Model.schemaProperty (.list []) (.str "rows") (listSchema textSchema)) =
      some "[String]" ∧
    spelled .ios
      (Model.schemaProperty (.list []) (.str "rows") (listSchema (listSchema textSchema))) =
      some "[[AnyCodable]]" ∧
    spelled .ios (Api.property (.list []) (.str "rows") momentSchema) = some "Date" ∧
    spelled .ios (Api.property (.list []) (.str "rows") (listSchema momentSchema)) =
      some "[String]" ∧
    spelled .ios (Model.schemaProperty (.list []) (.str "rows") momentSchema) = some "Date" ∧
    spelled .ios (Model.schemaProperty (.list []) (.str "rows") (listSchema momentSchema)) =
      some "[String]" := by
  decide +kernel

end SpecForge
