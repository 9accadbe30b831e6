import SpecForge.Proofs.Api.Kotlin
import SpecForge.Proofs.Api.Printed
import SpecForge.Proofs.Text.KotlinLiteral
import SpecForge.Proofs.Theme.Kotlin

/-!
# Texts in Kotlin code

Keys and defaults of models, paths, parameters and addresses of clients, and some tokens of themes
are texts that go into the code as string literals. Each of these literals has a place in a line of
the code. What is read there is the text again exactly if the text is plain: line breaks and
templates are not kept apart from other characters when a literal is written.
-/

namespace SpecForge

namespace Kotlin

/-- A literal in a line of code: what stands in front of it, and the text that it is for. -/
structure Literal where
  front : String
  text : String

/-- A literal stands in a line of the code. There it is read, by the rules of the language, as a
plain literal for its text if the text is plain, and not as one otherwise. -/
def Literal.StandsIn (l : Literal) (a : Alphabet) (lines : Lines) : Prop :=
  ∃ back, l.front ++ quoted l.text ++ back ∈ lines ∧
    a.literal? (quoted l.text ++ back).toList =
      if a.isPlain l.text.toList then some (l.text.toList, back.toList) else none

namespace Literal

variable {l : Literal} {a : Alphabet} {lines lines' : Lines}

theorem standsIn_of_mem {line : String} (back : String) (hmem : line ∈ lines)
    (hline : line = l.front ++ quoted l.text ++ back) (hback : back.toList.head? ≠ some '"') :
    l.StandsIn a lines := by
  refine ⟨back, hline ▸ hmem, ?_⟩
  rw [String.toList_append]
  exact a.literal?_quoted l.text hback

theorem StandsIn.of_subset (h : l.StandsIn a lines) (hin : lines ⊆ lines') :
    l.StandsIn a lines' := by
  obtain ⟨back, hmem, hread⟩ := h
  exact ⟨back, hin hmem, hread⟩

end Literal

theorem head?_comma {comma : String} (h : comma = "" ∨ comma = ",") :
    comma.toList.head? ≠ some '"' := by
  rcases h with rfl | rfl <;> decide

end Kotlin

/-! ### Models -/

namespace Model.Kotlin

open SpecForge.Kotlin

/-- The texts in the code of a model: the keys of the fields that are renamed, and the defaults that
are texts. -/
inductive Embeds (m : Model) : Literal → Prop
  | key {f : CodeField} (hf : f ∈ m.fields .android) (hr : f.isRenamed = true) :
      Embeds m ⟨"    @SerialName(", f.key⟩
  | default {prop : Property} {name s : String}
      (hprop : (prop, name) ∈ m.properties.zip m.identifiers) (hoptional : prop.isOptional = false)
      (harray : prop.isArray = false) (hs : prop.default = .str s) :
      Embeds m ⟨"    val " ++ name ++ ": " ++ prop.spelling .android ++ " = ", s⟩

theorem Embeds.standsIn {m : Model} {l : Literal} (h : Embeds m l) (a : Alphabet) :
    l.StandsIn a (dataClass m) := by
  cases h with
  | @key f hf hr =>
      obtain ⟨comma, _, hpart⟩ := exists_infix_declarations hf
      have hline : s!"@SerialName({quoted f.key})" ∈ annotations f ++ [declaration f ++ comma] := by
        simp [annotations, hr]
      have hmem := mem_dataClass hf (hpart.subset hline) (by simp [toString])
      refine Literal.standsIn_of_mem ")" hmem ?_ (by decide)
      simp [← String.toList_inj, toString]
  | @default prop name s hprop hoptional harray hs =>
      have hf := mem_fields hprop .android
      obtain ⟨comma, hcomma, hpart⟩ := exists_infix_declarations hf
      have hmem := mem_dataClass hf (hpart.subset (List.mem_append_right _ List.mem_cons_self))
        (by simp [declaration, toString])
      refine Literal.standsIn_of_mem comma hmem ?_ (head?_comma hcomma)
      simp [← String.toList_inj, declaration, fieldType, CodeField.ofProperty, hoptional, harray,
        hs, defaultLiteral, toString]

theorem dataClass_subset_file (m : Model) (source : String) : dataClass m ⊆ file m source :=
  List.subset_append_right _ _

end Model.Kotlin

/-! ### Clients -/

namespace Api.Kotlin

open SpecForge.Kotlin

/-- What stands in front of the path in the line of a route. -/
def routeOpening (e : Endpoint) : String :=
  if deletesWithBody e then "@HTTP(method = \"DELETE\", path = " else "@" ++ e.method ++ "("

/-- The texts in the code of a client: its address, the path of each endpoint and the names of its
parameters, and those of its models. -/
inductive Embeds (api : Api) : Literal → Prop
  | url : Embeds api ⟨"        const val BASE_URL = ", slashedUrl api⟩
  | route {e : Endpoint} (he : e ∈ api.endpoints) : Embeds api ⟨"    " ++ routeOpening e, path e⟩
  | parameter {e : Endpoint} {place : Location} {param : Parameter} (he : e ∈ api.endpoints)
      (hparam : param ∈ e.paramsAt place) :
      Embeds api ⟨"        @" ++ placeMarker place ++ "(", param.name⟩
  | model {m : Model} {l : Literal} (hm : m ∈ api.models) (hl : Model.Kotlin.Embeds m l) :
      Embeds api l

theorem standsIn_route (e : Endpoint) (a : Alphabet) :
    Literal.StandsIn ⟨"    " ++ routeOpening e, path e⟩ a (Lines.indent (function e) 1) := by
  have hmem : "    " ++ Api.Kotlin.route e ∈ Lines.indent (function e) 1 := by
    rw [indent_function]
    simp
  by_cases h : deletesWithBody e = true
  · refine Literal.standsIn_of_mem ", hasBody = true)" hmem ?_ (by decide)
    simp [← String.toList_inj, Api.Kotlin.route, routeOpening, h, toString]
  · refine Literal.standsIn_of_mem ")" hmem ?_ (by decide)
    simp [← String.toList_inj, Api.Kotlin.route, routeOpening, h, toString]

theorem standsIn_parameter {e : Endpoint} {place : Location} {param : Parameter}
    (h : param ∈ e.paramsAt place) (a : Alphabet) :
    Literal.StandsIn ⟨"        @" ++ placeMarker place ++ "(", param.name⟩ a
      (Lines.indent (function e) 1) := by
  obtain ⟨comma, _, hmem⟩ := exists_mem_function (argumentOf_mem h)
  have hback : (") " ++ (argumentOf (placeMarker place) (place != .path) param).declaration ++
      comma).toList.head? ≠ some '"' := by simp
  refine Literal.standsIn_of_mem _ hmem ?_ hback
  rw [Argument.text_eq]
  simp [← String.toList_inj, Argument.behindMarker, argumentOf]

theorem standsIn_url (api : Api) (a : Alphabet) :
    Literal.StandsIn ⟨"        const val BASE_URL = ", slashedUrl api⟩ a (companion api) := by
  have hmem : s!"        const val BASE_URL = {quoted (slashedUrl api)}" ∈ companion api := by
    simp [companion]
  refine Literal.standsIn_of_mem "" hmem ?_ (by decide)
  simp [toString]

theorem Embeds.standsIn {api : Api} {l : Literal} (h : Embeds api l) (a : Alphabet)
    (source : String) : l.StandsIn a (api.code .android source) := by
  cases h with
  | url =>
      refine (standsIn_url api a).of_subset ?_
      exact (List.infix_append _ _ _).subset
  | route he => exact (standsIn_route _ a).of_subset (methodBlock_isInfix he .android source).subset
  | parameter he hparam =>
      exact (standsIn_parameter hparam a).of_subset (methodBlock_isInfix he .android source).subset
  | model hm hl => exact (hl.standsIn a).of_subset (modelBlock_isInfix hm .android source).subset

end Api.Kotlin

/-! ### Themes -/

namespace Theme.Kotlin

open SpecForge.Kotlin

/-- The texts in the code of a theme: the names of its fonts, and its shadows. -/
inductive Embeds (theme : Theme) : Literal → Prop
  | family {t : FontFamily} (h : t ∈ theme.typography.fontFamilies) :
      Embeds theme ⟨"        const val " ++ constantName t.name ++ " = ", t.value⟩
  | shadow {t : ValueToken} (h : t ∈ theme.shadows) :
      Embeds theme ⟨"        const val " ++ constantName t.name ++ " = ", t.value⟩

/-- A constant stands in the block of its group. -/
theorem mem_lines_block (theme : Theme) (g : Group) {constants : List Constant} {c : Constant}
    (hc : c ∈ constants) :
    "        " ++ s!"{c.keyword} {c.name} = {c.value}" ∈ (block theme g constants).lines := by
  have hline : s!"{c.keyword} {c.name} = {c.value}" ∈ constants.flatMap Constant.lines :=
    List.mem_flatMap.2 ⟨c, hc, by simp [Constant.lines]⟩
  have hindent := Lines.mem_shifted (Lines.indentation 2) hline (by simp [toString])
  have hne : ¬ constants.isEmpty = true := by
    rw [List.isEmpty_iff]
    exact List.ne_nil_of_mem hc
  rw [lines_block, nonEmptySection, if_neg hne, List.flatMap_singleton]
  simp only [Section.lines, List.mem_append]
  exact .inr (.inl (.inr hindent))

theorem mem_file {theme : Theme} {source : String} {lines : Lines}
    (h : file theme source = .ok lines) : ∃ constants : Group → List Constant,
      constants .fontFamilies = theme.typography.fontFamilies.map familyConstant ∧
      constants .shadows = theme.shadows.map shadowConstant ∧
      ∀ g, (block theme g (constants g)).lines ⊆ lines := by
  obtain ⟨constants, _, hfamilies, hshadows, rfl⟩ := exists_constants h
  refine ⟨constants, hfamilies, hshadows, fun g line hline => ?_⟩
  have hblock := infix_flatMap (fun g => (block theme g (constants g)).lines) (Group.mem_all g)
  exact List.mem_append_right _ (List.mem_append_left _ (hblock.subset hline))

theorem Embeds.standsIn {theme : Theme} {l : Literal} (h : Embeds theme l) (a : Alphabet)
    {source : String} {lines : Lines} (hfile : file theme source = .ok lines) :
    l.StandsIn a lines := by
  obtain ⟨constants, hfamilies, hshadows, hblocks⟩ := mem_file hfile
  cases h with
  | family h =>
      have hmem := mem_lines_block theme .fontFamilies (hfamilies ▸ List.mem_map_of_mem h)
      refine Literal.standsIn_of_mem "" (hblocks _ hmem) ?_ (by decide)
      simp [← String.toList_inj, familyConstant, toString]
  | shadow h =>
      have hmem := mem_lines_block theme .shadows (hshadows ▸ List.mem_map_of_mem h)
      refine Literal.standsIn_of_mem "" (hblocks _ hmem) ?_ (by decide)
      simp [← String.toList_inj, shadowConstant, toString]

end Theme.Kotlin

/-- Every text that goes into Kotlin code as a literal has its place there. The literal is read as a
plain one for the text exactly if the text has no line break and no template in it. -/
theorem kotlin_literals_read_iff (a : Kotlin.Alphabet) :
    (∀ m source l, Model.Kotlin.Embeds m l → l.StandsIn a (m.code .android source)) ∧
      (∀ api source l, Api.Kotlin.Embeds api l → l.StandsIn a (api.code .android source)) ∧
      (∀ theme source lines l, Theme.Kotlin.file theme source = .ok lines →
        Theme.Kotlin.Embeds theme l → l.StandsIn a lines) ∧
      ∀ cs, a.isPlain cs = true ↔ (∀ c ∈ cs, Kotlin.isLineBreak c = false) ∧
        ∀ u d v, cs = u ++ '$' :: d :: v → a.opensTemplate d = false := by
  refine ⟨?_, ?_, ?_, fun cs => a.isPlain_iff⟩
  · intro m source l h
    exact (h.standsIn a).of_subset (Model.Kotlin.dataClass_subset_file m source)
  · intro api source l h
    exact h.standsIn a source
  · intro theme source lines l hfile h
    exact h.standsIn a hfile

/-- A model with a field that is renamed. -/
def itemModel : Model := ⟨"Item", none, [⟨"created_at", "string", none, true, false, none, .null⟩]⟩

/-- A document with one operation, which has a parameter of the query with a dollar sign. -/
def filterDocument : Value :=
  .record [("info", .record [("title", .str "Items"), ("version", .str "1")]),
    ("paths", .record [("/items", .record [("get", .record [("parameters", .list [
      .record [("name", .str "$filter"), ("in", .str "query")]])])])])]

/-- A theme with one font. -/
def fontTheme : Theme :=
  ⟨"Theme", [], ⟨[⟨"body", "Open Sans", []⟩], [], [], [], []⟩, [], [], [], []⟩

theorem embeds_filterDocument : ∃ api, Api.ofDocument filterDocument = .ok api ∧
    Api.Kotlin.Embeds api ⟨"        @Query(", "$filter"⟩ := by
  obtain ⟨api, hok, hnames⟩ : ∃ api, Api.ofDocument filterDocument = .ok api ∧
      api.endpoints.map (fun e => e.queryParams.map (·.name)) = [["$filter"]] :=
    exists_ok_of_any (by decide +kernel)
  obtain ⟨e, hendpoints, hparams⟩ := List.map_eq_singleton_iff.1 hnames
  obtain ⟨param, hquery, hname⟩ := List.map_eq_singleton_iff.1 hparams
  have he : e ∈ api.endpoints := by simp [hendpoints]
  have hparam : param ∈ e.paramsAt .query := by simp [Endpoint.paramsAt, hquery]
  exact ⟨api, hok, hname ▸ .parameter he hparam⟩

theorem kotlin_literals_read_filterDocument :
    Kotlin.Literal.StandsIn ⟨"    @SerialName(", "created_at"⟩ Kotlin.ascii
        (itemModel.code .android "item.json") ∧
      (∃ api, Api.ofDocument filterDocument = .ok api ∧
        Kotlin.Literal.StandsIn ⟨"        @Query(", "$filter"⟩ Kotlin.ascii
          (api.code .android "items.json")) ∧
      ∃ lines, Theme.Kotlin.file fontTheme "tokens.json" = .ok lines ∧
        Kotlin.Literal.StandsIn ⟨"        const val Body = ", "Open Sans"⟩ Kotlin.ascii lines := by
  obtain ⟨hmodel, hclient, htheme, _⟩ := kotlin_literals_read_iff Kotlin.ascii
  refine ⟨?_, ?_, ?_⟩
  · have hfields : itemModel.fields .android =
        [⟨"created_at", "createdAt", "String", true, none, none⟩] := by rfl
    refine hmodel _ _ _ (.key (f := ⟨"created_at", "createdAt", "String", true, none, none⟩) ?_ ?_)
    · rw [hfields]
      exact List.mem_singleton_self _
    · rfl
  · obtain ⟨api, hapi, hembeds⟩ := embeds_filterDocument
    exact ⟨api, hapi, hclient _ _ _ hembeds⟩
  · have hlines : (Theme.Kotlin.file fontTheme "tokens.json").toOption.isSome = true := by
      decide +kernel
    obtain ⟨lines, hlines⟩ := Option.isSome_iff_exists.1 hlines
    have hembeds : Theme.Kotlin.Embeds fontTheme ⟨_, "Open Sans"⟩ :=
      .family (t := ⟨"body", "Open Sans", []⟩) List.mem_cons_self
    have hfront : "        const val " ++ Theme.Kotlin.constantName "body" ++ " = " =
        "        const val Body = " := by decide +kernel
    rw [hfront] at hembeds
    exact ⟨lines, eq_ok_of_toOption hlines, htheme _ _ _ _ (eq_ok_of_toOption hlines) hembeds⟩

/-- The name of a parameter may begin with a dollar sign. What is read in its place is a template,
whatever the alphabet of names is. -/
theorem not_literal_filterDocument : ∃ api, Api.ofDocument filterDocument = .ok api ∧
    ∃ l, Api.Kotlin.Embeds api l ∧ ∀ (a : Kotlin.Alphabet) (source back : String),
      l.front ++ quoted l.text ++ back ∈ api.code .android source →
        a.literal? (quoted l.text ++ back).toList ≠ some (l.text.toList, back.toList) := by
  obtain ⟨api, hapi, hembeds⟩ := embeds_filterDocument
  refine ⟨api, hapi, _, hembeds, ?_⟩
  intro a source back _ hread
  rw [String.toList_append] at hread
  have hplain := a.isPlain_of_literal? hread
  have hf : a.begins 'f' = true := a.letter 'f' (by decide)
  simp [Kotlin.Alphabet.isPlain, Kotlin.Alphabet.opensTemplate, hf] at hplain

end SpecForge
