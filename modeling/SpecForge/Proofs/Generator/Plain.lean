import SpecForge.Component.Spec
import SpecForge.Plugin.Spec
import SpecForge.Proofs.Api.Spot
import SpecForge.Proofs.Document.Plain
import SpecForge.Proofs.Shape.Tokens
import SpecForge.Proofs.Theme.Printable

/-!
# What plain documents become

A plain document becomes a model, an interface, a theme, a component or a plugin all of whose
numbers are plain. So whatever its code writes can be spelled, the weights of fonts apart: these are
numbers too, but not all plain numbers are finite.
-/

namespace SpecForge

open Decimal

theorem exists_of_mem_mapM {α β : Type} {f : α → Outcome β} {l : List α} {bs : List β}
    (h : l.mapM f = .ok bs) : ∀ b ∈ bs, ∃ a ∈ l, f a = .ok b := by
  rw [mapM_eq_ok_iff_forall₂] at h
  induction h with
  | nil => exact fun b hb => absurd hb List.not_mem_nil
  | cons ha _ ih =>
      refine List.forall_mem_cons.2 ⟨⟨_, List.mem_cons_self, ha⟩, fun b hb => ?_⟩
      obtain ⟨a, hmem, hfa⟩ := ih b hb
      exact ⟨a, List.mem_cons_of_mem _ hmem, hfa⟩

theorem hasSpellableLiteral_of_isPlain {v : Value} (h : v.IsPlain) :
    hasSpellableLiteral v = true := by
  cases v with
  | list items => rfl
  | object members => rfl
  | loop number v => rfl
  | _ => exact h.isSpellable

theorem Value.isPlain_of_mem_membersOf {v : Value} (h : v.IsPlain) :
    ∀ m ∈ Api.membersOf v, m.1.IsPlain ∧ m.2.IsPlain := by
  rw [Api.membersOf]
  split
  · rename_i ms hms
    exact h.members hms
  · exact fun m hm => absurd hm List.not_mem_nil

/-! ## Models -/

namespace Model

/-- Are all defaults of a model plain? -/
def IsPlain (m : Model) : Prop := ∀ prop ∈ m.properties, prop.default.IsPlain

theorem IsPlain.isSpellable {m : Model} (h : m.IsPlain) : m.isSpellable = true := by
  rw [Model.isSpellable, List.all_eq_true]
  intro prop hprop
  rw [hasSpellableLiteral_of_isPlain (h prop hprop), Bool.or_true]

theorem isPlain_of_schemaProperty {required name schema : Value} {prop : Property}
    (hschema : schema.IsPlain) (h : schemaProperty required name schema = .ok prop) :
    prop.default.IsPlain := by
  have hobject : (if schema.isObject then schema else .object []).IsPlain := by
    split
    · exact hschema
    · exact Value.isPlain_emptyObject
  obtain ⟨isRequired, _, h⟩ := bind_eq_ok_iff.1 h
  obtain ⟨type, _, h⟩ := bind_eq_ok_iff.1 h
  obtain ⟨_, _, _, _, _, _, hdefault⟩ := Property.check_eq_ok_iff.1 h
  rw [hdefault]
  exact hobject.memberOrNull "default"

theorem isPlain_of_ofSchema {schema : Value} {m : Model} (hschema : schema.IsPlain)
    (h : ofSchema schema = .ok m) : m.IsPlain := by
  intro prop hprop
  obtain ⟨member, hmember, hread⟩ := exists_of_mem_mapM (properties_of_ofSchema h) prop hprop
  have hproperties := Value.isPlain_of_mem_membersOf (hschema.memberOrNull "properties")
  exact isPlain_of_schemaProperty (hproperties member hmember).2 hread

end Model

/-! ## Interfaces -/

namespace Api

theorem isPlain_objectOrEmpty {v : Value} (h : v.IsPlain) : (objectOrEmpty v).IsPlain := by
  rw [objectOrEmpty]
  split
  · exact h
  · exact Value.isPlain_emptyObject

theorem isPlain_of_property {required name schema : Value} {prop : Property}
    (hschema : schema.IsPlain) (h : property required name schema = .ok prop) :
    prop.default.IsPlain := by
  obtain ⟨type, _, h⟩ := bind_eq_ok_iff.1 h
  obtain ⟨isRequired, _, h⟩ := bind_eq_ok_iff.1 h
  obtain ⟨_, _, _, _, _, _, hdefault⟩ := Property.check_eq_ok_iff.1 h
  rw [hdefault]
  exact (isPlain_objectOrEmpty hschema).memberOrNull "default"

theorem isPlain_of_model {name schema : Value} {m : Model} (hschema : schema.IsPlain)
    (h : model name schema = .ok m) : m.IsPlain := by
  intro prop hprop
  obtain ⟨member, hmember, required, hread⟩ :
      ∃ member ∈ membersOf (memberOrNull schema "properties"),
        ∃ required, property required member.1 member.2 = .ok prop := by
    obtain ⟨members, hmembers, h⟩ := bind_eq_ok_iff.1 h
    obtain ⟨properties, hproperties, h⟩ := bind_eq_ok_iff.1 h
    rw [Model.properties_of_check h] at hprop
    obtain ⟨member, hmember, hread⟩ := exists_of_mem_mapM hproperties prop hprop
    rw [← memberOrNull_objectOrEmpty, membersOf_of_allMembers hmembers]
    exact ⟨member, hmember, _, hread⟩
  have hproperties := Value.isPlain_of_mem_membersOf (hschema.memberOrNull "properties")
  exact isPlain_of_property (hproperties member hmember).2 hread

theorem isPlain_of_ofDocument {doc : Value} {api : Api} (hdoc : doc.IsPlain)
    (h : ofDocument doc = .ok api) : ∀ m ∈ api.models, m.IsPlain := by
  intro m hm
  obtain ⟨component, hcomponent, hread⟩ :=
    exists_of_mem_mapM (isReadFrom_of_ofDocument h).models m hm
  have hschemas := (hdoc.memberOrNull "components").memberOrNull "schemas"
  exact isPlain_of_model (Value.isPlain_of_mem_membersOf hschemas component hcomponent).2 hread

end Api

/-! ## Themes -/

theorem Quantity.isPlain_numberOf (n : Numeral) : (numberOf n).IsPlain := by
  have hdouble : (Number.float n.toFloat).IsPlain := Binary64.isDouble_ofDecimal _ _ _
  exact hdouble.normalize

theorem Quantity.isPlain_of_withUnit? {cs : List Char} {q : Quantity} (h : withUnit? cs = some q) :
    q.number.IsPlain := by
  rw [withUnit?.eq_def] at h
  dsimp only at h
  split at h
  -- with a sign and without one
  all_goals
    obtain ⟨⟨n, unit⟩, _, h⟩ := Option.bind_eq_some_iff.1 h
    rcases ite_eq_iff.1 h with ⟨_, h⟩ | ⟨_, h⟩
    · cases h
      exact isPlain_numberOf n
    · cases h

theorem Quantity.isPlain_of_leading? {cs : List Char} {q : Quantity} (h : leading? cs = some q) :
    q.number.IsPlain := by
  rw [leading?.eq_def] at h
  dsimp only at h
  split at h
  -- with either sign and without one
  all_goals
    obtain ⟨⟨n, unit⟩, _, h⟩ := Option.bind_eq_some_iff.1 h
    cases h
    exact isPlain_numberOf n

theorem Quantity.isPlain_ofText (s : String) : (ofText s).number.IsPlain := by
  rw [ofText]
  generalize Text.trim Text.isBlank s.toList = cs
  cases hunit : withUnit? cs with
  | some q => exact isPlain_of_withUnit? hunit
  | none =>
      cases hleading : leading? cs with
      | some q => exact isPlain_of_leading? hleading
      | none => exact @isSpellable_ofDigits [0] (by decide) (by decide)

theorem Quantity.isPlain_of_ofValue {v : Value} {q : Quantity} (hv : v.IsPlain)
    (h : ofValue v = .ok q) : q.number.IsPlain := by
  rw [ofValue] at h
  split at h
  · rename_i n hn
    cases h
    exact (hv.number? hn).normalize
  · rw [Value.spelled, if_pos hv.isSpellable] at h
    cases h
    exact isPlain_ofText _

/-- Is the weight of a font plain if it is a number? -/
def Weight.IsPlain : Weight → Prop
  | .number n => n.IsPlain
  | .named _ => True

theorem Weight.gives_ofValue : Shape.Gives ofValue IsPlain := by
  intro v w hv h
  rw [ofValue.eq_def] at h
  split at h
  · cases h
    trivial
  · split at h
    · cases h
      split
      · rename_i n hn
        exact Tolerant.isPlain_of_number? hn
      · trivial
    · cases h
  · split at h
    · rename_i n hn
      cases h
      exact hv.number? hn
    · cases h

namespace Theme

theorem isPlain_weightValue {v w : Value} (hv : v.IsPlain) (h : weightValue v = .ok w) :
    w.IsPlain := by
  rw [weightValue.eq_def] at h
  split at h
  · rename_i s
    dsimp only at h
    split at h
    · rw [digitsNumber] at h
      split at h
      · rename_i ds hds
        split at h
        · cases h
        · rename_i hlimit
          cases h
          have hlt := lt_of_mapM_eq_some (fun _ _ => decimalValue?_lt) hds
          exact .int (isSpellable_ofDigits hlt (Nat.le_of_not_lt hlimit))
      · cases h
    · cases h
      exact hv
  · cases h
    exact hv

theorem isPlain_entryParts {entry value description : Value} (hentry : entry.IsPlain)
    (h : entryParts entry = .ok (value, description)) : value.IsPlain := by
  obtain ⟨rfl, _⟩ := entryParts_eq_ok h
  rw [entryValue]
  split
  · exact hentry.memberOrNull "value"
  · exact hentry

theorem isPlain_of_dimensionToken {key entry : Value} {t : DimensionToken} (hentry : entry.IsPlain)
    (h : dimensionToken key entry = .ok t) : t.value.IsPlain := by
  obtain ⟨⟨value, description⟩, hparts, h⟩ := bind_eq_ok_iff.1 h
  obtain ⟨q, hq, h⟩ := bind_eq_ok_iff.1 h
  obtain ⟨name, _, h⟩ := bind_eq_ok_iff.1 h
  obtain ⟨text, _, h⟩ := bind_eq_ok_iff.1 h
  cases h
  exact Quantity.isPlain_of_ofValue (isPlain_entryParts hentry hparts) hq

theorem isPlain_of_fontWeight {key entry : Value} {t : FontWeight} (hentry : entry.IsPlain)
    (h : fontWeight key entry = .ok t) : t.value.IsPlain := by
  obtain ⟨⟨value, description⟩, hparts, h⟩ := bind_eq_ok_iff.1 h
  obtain ⟨value', hvalue, h⟩ := bind_eq_ok_iff.1 h
  obtain ⟨name, _, h⟩ := bind_eq_ok_iff.1 h
  obtain ⟨w, hw, h⟩ := bind_eq_ok_iff.1 (checked_eq_ok_iff.1 h)
  cases h
  have hplain := isPlain_weightValue (isPlain_entryParts hentry hparts) hvalue
  exact Weight.gives_ofValue hplain (Shape.under_eq_ok_iff.1 hw)

theorem isPlain_of_group {tokens : Value} {key : String} {ms : List (Value × Value)}
    (htokens : tokens.IsPlain) (h : group tokens key = .ok ms) :
    ∀ m ∈ ms, m.1.IsPlain ∧ m.2.IsPlain := by
  rw [← membersOf_of_group h]
  exact Value.isPlain_of_mem_membersOf (htokens.memberOrNull key)

theorem forall_of_tokensOf {α : Type} {read : Value → Value → Outcome α} {P : α → Prop}
    (hread : ∀ {key entry a}, entry.IsPlain → read key entry = .ok a → P a) {tokens : Value}
    {key : String} {as : List α} (htokens : tokens.IsPlain)
    (h : tokensOf read tokens key = .ok as) :
    ∀ a ∈ as, P a := by
  intro a ha
  obtain ⟨ms, hms, h⟩ := bind_eq_ok_iff.1 h
  obtain ⟨m, hm, hread'⟩ := exists_of_mem_mapM h a ha
  exact hread (isPlain_of_group htokens hms m hm).2 hread'

/-- Are all numbers of a theme plain? -/
structure IsPlain (theme : Theme) : Prop where
  dimensions : ∀ t ∈ theme.dimensions, t.value.IsPlain
  weights : ∀ t ∈ theme.typography.fontWeights, t.value.IsPlain

theorem isPlain_of_ofTokens {tokens : Value} {name : String} {theme : Theme}
    (htokens : tokens.IsPlain) (h : ofTokens tokens name = .ok theme) : theme.IsPlain := by
  have hread := isReadFrom_of_ofTokens h
  have htypography : (typographyOf tokens).IsPlain := by
    have hmembers := Value.isPlain_of_mem_membersOf (htokens.memberOrNull "typography")
    exact .object (fun m hm => (hmembers m hm).1) fun m hm => (hmembers m hm).2
  refine ⟨forall_dimensions.2 ⟨?_, ?_, ?_, ?_, ?_, ?_⟩, ?_⟩
  · exact forall_of_tokensOf isPlain_of_dimensionToken htypography hread.fontSizes
  · exact forall_of_tokensOf isPlain_of_dimensionToken htypography hread.lineHeights
  · exact forall_of_tokensOf isPlain_of_dimensionToken htypography hread.letterSpacing
  · exact forall_of_tokensOf isPlain_of_dimensionToken htokens hread.spacing
  · exact forall_of_tokensOf isPlain_of_dimensionToken htokens hread.borderRadius
  · exact forall_of_tokensOf isPlain_of_dimensionToken htokens hread.breakpoints
  · exact forall_of_tokensOf isPlain_of_fontWeight htypography hread.fontWeights

end Theme

/-! ## Components -/

/-- Are all four sides plain? -/
structure Padding.IsPlain (p : Padding) : Prop where
  top : p.top.IsPlain
  bottom : p.bottom.IsPlain
  leading : p.leading.IsPlain
  trailing : p.trailing.IsPlain

/-- Are all numbers of a style plain? -/
structure ComponentStyle.IsPlain (s : ComponentStyle) : Prop where
  borderWidth : ∀ n ∈ s.borderWidth, n.IsPlain
  cornerRadius : ∀ n ∈ s.cornerRadius, n.IsPlain
  padding : s.padding.IsPlain
  minHeight : ∀ n ∈ s.minHeight, n.IsPlain

namespace Component

/-- Are the defaults and the style of a component plain? The numbers of its states are doubles. -/
structure IsPlain (c : Component) : Prop where
  defaults : ∀ prop ∈ c.properties, prop.default.IsPlain
  style : c.style.IsPlain

theorem isSpellable_getD {found : Option Number} (h : ∀ n ∈ found, n.IsPlain) :
    (found.map Number.isSpellable).getD true = true := by
  cases found with
  | none => rfl
  | some n => exact (h n rfl).isSpellable

theorem hasSpellableNumbers_of_isPlain {s : ComponentStyle} (h : s.IsPlain) :
    Swift.hasSpellableNumbers s = true := by
  have hwidth : ∀ n ∈ if (Swift.textLine s.borderColor id).isEmpty then none else s.borderWidth,
      n.IsPlain := by
    split
    · exact fun n hn => absurd hn (Option.not_mem_none n)
    · exact h.borderWidth
  simp only [Swift.hasSpellableNumbers, List.all_cons, List.all_nil, Bool.and_true,
    Bool.and_eq_true]
  exact ⟨h.padding.top.isSpellable, h.padding.leading.isSpellable, isSpellable_getD h.cornerRadius,
    isSpellable_getD hwidth, isSpellable_getD h.minHeight⟩

theorem IsPlain.isSpellable {c : Component} (h : c.IsPlain) : Swift.isSpellable c = true := by
  rw [Swift.isSpellable, Bool.and_eq_true, List.all_eq_true]
  refine ⟨fun prop hprop => ?_, hasSpellableNumbers_of_isPlain h.style⟩
  rw [Swift.hasSpellableDefault, (h.defaults prop hprop).isSpellable, Bool.or_true]

open Shape

theorem gives_readProperty :
    Gives readProperty fun prop : ComponentProperty => prop.default.IsPlain := by
  intro v prop hv h
  obtain ⟨ms, hms, h⟩ := bind_eq_ok_iff.1 h
  obtain ⟨name, _, h⟩ := bind_eq_ok_iff.1 h
  obtain ⟨type, _, h⟩ := bind_eq_ok_iff.1 h
  obtain ⟨isRequired, _, h⟩ := bind_eq_ok_iff.1 h
  obtain ⟨default, hdefault, h⟩ := bind_eq_ok_iff.1 h
  obtain ⟨description, _, h⟩ := bind_eq_ok_iff.1 h
  cases h
  exact gives_any.given (isPlain_of_record hv hms) .null hdefault

theorem isPlain_defaultPadding : defaultPadding.IsPlain :=
  @isSpellable_ofDigits [1, 6] (by decide) (by decide)

theorem isPlain_side {found : Option Number} (h : ∀ n ∈ found, n.IsPlain) :
    (found.getD defaultPadding).IsPlain := by
  cases found with
  | none => exact isPlain_defaultPadding
  | some n => exact h n rfl

theorem gives_readSides : Gives readSides Padding.IsPlain := by
  intro v p hv h
  obtain ⟨ms, hms, h⟩ := bind_eq_ok_iff.1 h
  obtain ⟨top, htop, h⟩ := bind_eq_ok_iff.1 h
  obtain ⟨bottom, hbottom, h⟩ := bind_eq_ok_iff.1 h
  obtain ⟨leading, hleading, h⟩ := bind_eq_ok_iff.1 h
  obtain ⟨trailing, htrailing, h⟩ := bind_eq_ok_iff.1 h
  cases h
  have hmembers := isPlain_of_record hv hms
  exact ⟨isPlain_side (gives_number.possible hmembers htop),
    isPlain_side (gives_number.possible hmembers hbottom),
    isPlain_side (gives_number.possible hmembers hleading),
    isPlain_side (gives_number.possible hmembers htrailing)⟩

theorem gives_readPadding : Gives readPadding Padding.IsPlain := by
  intro v p hv h
  rw [readPadding] at h
  split at h
  · split at h
    · rename_i sides hsides
      cases h
      exact gives_readSides hv hsides
    · cases h
  · cases hn : number v with
    | error i =>
        rw [hn] at h
        cases h
    | ok n =>
        rw [hn] at h
        cases h
        have hplain := gives_number hv hn
        exact ⟨hplain, hplain, hplain, hplain⟩

theorem isPlain_plainPadding : plainPadding.IsPlain :=
  ⟨isPlain_defaultPadding, isPlain_defaultPadding, isPlain_defaultPadding, isPlain_defaultPadding⟩

theorem isPlain_plainStyle : plainStyle.IsPlain where
  borderWidth n hn := absurd hn (Option.not_mem_none n)
  cornerRadius n hn := absurd hn (Option.not_mem_none n)
  padding := isPlain_plainPadding
  minHeight n hn := absurd hn (Option.not_mem_none n)

theorem gives_readStyle : Gives readStyle ComponentStyle.IsPlain := by
  intro v s hv h
  simp only [readStyle, bind_eq_ok_iff] at h
  obtain ⟨ms, hms, _, _, _, _, _, _, width, hwidth, radius, hradius, padding, hpadding, _, _, _, _,
    height, hheight, _, _, h⟩ := h
  cases h
  have hmembers := isPlain_of_record hv hms
  refine ⟨gives_number.possible hmembers hwidth, gives_number.possible hmembers hradius, ?_,
    gives_number.possible hmembers hheight⟩
  have hsides := gives_readPadding.possible hmembers hpadding
  cases padding with
  | none => exact isPlain_plainPadding
  | some p => exact hsides p rfl

theorem isPlain_of_read {doc : Value} {c : Component} {states : List (String × StateSpec)}
    (hdoc : doc.IsPlain) (h : read doc = .ok (c, states)) : c.IsPlain := by
  simp only [read, bind_eq_ok_iff] at h
  obtain ⟨ms, hms, _, _, _, _, _, _, properties, hproperties, style, hstyle, _, _, _, _, _, _, h⟩ :=
    h
  cases h
  have hmembers := isPlain_of_record hdoc hms
  refine ⟨gives_readProperty.list.given hmembers ?_ hproperties, ?_⟩
  · exact fun prop hprop => absurd hprop List.not_mem_nil
  · have hplain := gives_readStyle.possible hmembers hstyle
    cases style with
    | none => exact isPlain_plainStyle
    | some s => exact hplain s rfl

theorem isPlain_of_ofSpec {doc : Value} {c : Component} (hdoc : doc.IsPlain)
    (h : ofSpec doc = .ok c) : c.IsPlain := by
  rw [ofSpec] at h
  split at h
  · cases h
  · rename_i component states hread
    obtain ⟨states', _, h⟩ := bind_eq_ok_iff.1 (checked_eq_ok_iff.1 h)
    cases h
    exact ⟨(isPlain_of_read hdoc hread).defaults, (isPlain_of_read hdoc hread).style⟩

end Component

/-! ## Plugins -/

namespace Plugin

open Shape

/-- Are the defaults of all settings of a plugin plain? -/
def IsPlain (p : Plugin) : Prop := ∀ prop ∈ p.configuration, prop.default.IsPlain

theorem gives_readConfigProperty :
    Gives readConfigProperty fun prop : ConfigProperty => prop.default.IsPlain := by
  intro v prop hv h
  obtain ⟨ms, hms, h⟩ := bind_eq_ok_iff.1 h
  obtain ⟨name, _, h⟩ := bind_eq_ok_iff.1 h
  obtain ⟨type, _, h⟩ := bind_eq_ok_iff.1 h
  obtain ⟨description, _, h⟩ := bind_eq_ok_iff.1 h
  obtain ⟨isRequired, _, h⟩ := bind_eq_ok_iff.1 h
  obtain ⟨default, hdefault, h⟩ := bind_eq_ok_iff.1 h
  cases h
  exact gives_any.given (isPlain_of_record hv hms) .null hdefault

theorem gives_readConfiguration :
    Gives readConfiguration fun props : List ConfigProperty =>
      ∀ prop ∈ props, prop.default.IsPlain := by
  intro v props hv h
  obtain ⟨ms, hms, h⟩ := bind_eq_ok_iff.1 h
  refine gives_readConfigProperty.list.given (isPlain_of_record hv hms) ?_ h
  exact fun prop hprop => absurd hprop List.not_mem_nil

theorem isPlain_of_read {doc : Value} {p : Plugin} (hdoc : doc.IsPlain) (h : read doc = .ok p) :
    p.IsPlain := by
  simp only [read, bind_eq_ok_iff] at h
  obtain ⟨ms, hms, _, _, _, _, _, _, _, _, _, _, _, _, configuration, hconfiguration, _, _, _, _, _,
    _, h⟩ := h
  cases h
  have hplain := gives_readConfiguration.possible (isPlain_of_record hdoc hms) hconfiguration
  cases configuration with
  | none => exact List.forall_mem_singleton.2 (.bool false)
  | some props => exact hplain props rfl

theorem isPlain_of_ofSpec {doc : Value} {p : Plugin} (hdoc : doc.IsPlain)
    (h : ofSpec doc = .ok p) : p.IsPlain := by
  rw [ofSpec] at h
  split at h
  · rename_i plugin hread
    cases h
    exact isPlain_of_read hdoc hread
  · cases h

end Plugin

end SpecForge
