import Mathlib.Tactic.MkIffOfInductiveProp
import SpecForge.Proofs.Shape.Fits
import SpecForge.Theme.Tokens

/-!
# The shape of a document of design tokens

Groups that are no objects and entries without a value are refused in words. What remains to be
wanted is that the values can be read and spelled, and that descriptions and the like are texts.
-/

namespace SpecForge.Theme

open Value
open Api (memberOrNull membersOf)

/-- The value of an entry: its member `value` if it is an object, and otherwise the entry itself. -/
def entryValue (entry : Value) : Value :=
  if entry.isObject then memberOrNull entry "value" else entry

/-- An entry without a value can be shown, which the words for it do. -/
def IsEntry (entry : Value) : Prop :=
  entry.isObject = true → entry.member? "value" = none → entry.isSpellable = true

theorem fits_entryParts (entry : Value) : Fits (IsEntry entry) (entryParts entry) := by
  rw [IsEntry, entryParts, Value.isObject, Value.member?]
  cases entry.content with
  | object members =>
      dsimp only
      cases Value.lookup "value" members with
      | some value => exact (fits_ok _).congr (by simp)
      | none =>
          refine Fits.congr (P := entry.isSpellable = true ∧ True) ?_ (by simp)
          exact fits_spelled.bind fun text _ => fits_spec True _
  | _ => exact (fits_ok _).congr (by simp)

theorem entryParts_eq_ok {entry value description : Value}
    (h : entryParts entry = .ok (value, description)) :
    entryValue entry = value ∧ memberOrNull entry "description" = description := by
  rw [entryParts] at h
  rw [entryValue, memberOrNull, memberOrNull, Value.isObject, Value.member?, Value.member?]
  generalize entry.content = content at h ⊢
  cases content with
  | object members =>
      dsimp only at h ⊢
      cases hvalue : Value.lookup "value" members with
      | some v =>
          rw [hvalue] at h
          cases h
          exact ⟨rfl, rfl⟩
      | none =>
          rw [hvalue] at h
          obtain ⟨text, _, h⟩ := bind_eq_ok_iff.1 h
          cases h
  | _ =>
      cases h
      exact ⟨rfl, rfl⟩

/-- A reading that goes on with the parts of an entry. -/
theorem fits_bind_entryParts {α : Type} {entry : Value} {P : Prop} {f : Value × Value → Outcome α}
    (hf : Fits P (f (entryValue entry, memberOrNull entry "description"))) :
    Fits (IsEntry entry ∧ P) (entryParts entry >>= f) := by
  refine (fits_entryParts entry).bind fun parts hparts => ?_
  obtain ⟨value, description⟩ := parts
  obtain ⟨rfl, rfl⟩ := entryParts_eq_ok hparts
  exact hf

theorem fits_tokenName (key : Value) : Fits key.IsPlainText (tokenName key) := by
  rw [IsPlainText]
  cases key with
  | str s => exact (fits_ok _).congr (by simp)
  | _ => exact (fits_error _).congr (by simp)

/-- The shape of an entry whose value is read in some way. -/
@[mk_iff]
structure EntryShape (reads : Value → Prop) (key entry : Value) : Prop where
  complete : IsEntry entry
  value : reads (entryValue entry)
  key : key.IsPlainText

/-- The shape of an entry that may also have a description. -/
@[mk_iff]
structure DescribedShape (reads : Value → Prop) (key entry : Value) : Prop where
  complete : IsEntry entry
  value : reads (entryValue entry)
  key : key.IsPlainText
  description : (memberOrNull entry "description").IsTextOrNull

/-- A value that can be spelled. -/
def IsSpelled (v : Value) : Prop := v.isSpellable = true

/-- A number, or a value that can be spelled. -/
def IsDimension (v : Value) : Prop := v.number? = none → v.isSpellable = true

theorem fits_valueToken (key entry : Value) :
    Fits (DescribedShape IsSpelled key entry) (valueToken key entry) := by
  rw [describedShape_iff, valueToken]
  refine fits_bind_entryParts ?_
  refine ((fits_tokenName key).bind fun name _ => fits_spelled.bind fun text _ =>
    fits_textOrNull.bind fun described _ => fits_ok _).congr ?_
  simp [IsSpelled, and_left_comm]

theorem fits_ofValue (v : Value) : Fits (IsDimension v) (Quantity.ofValue v) := by
  rw [IsDimension, Quantity.ofValue]
  cases v.number? with
  | some n => exact (fits_ok _).congr (by simp)
  | none => exact fits_spelled.map.congr (by simp)

theorem fits_dimensionToken (key entry : Value) :
    Fits (DescribedShape IsDimension key entry) (dimensionToken key entry) := by
  rw [describedShape_iff, dimensionToken]
  refine fits_bind_entryParts ?_
  refine ((fits_ofValue _).bind fun quantity _ => (fits_tokenName key).bind fun name _ =>
    fits_textOrNull.bind fun described _ => fits_ok _).congr ?_
  simp

/-- The shape of a font with the fonts to fall back on. -/
@[mk_iff]
structure FamilyShape (key entry : Value) : Prop where
  token : EntryShape IsSpelled key entry
  fallback : (memberOrNull entry "fallback").IsTextList

theorem fits_fontFamily (key entry : Value) :
    Fits (FamilyShape key entry) (fontFamily key entry) := by
  rw [familyShape_iff, entryShape_iff, fontFamily]
  dsimp only
  simp only [and_assoc]
  refine fits_bind_entryParts ?_
  refine ((fits_tokenName key).bind fun name _ => fits_spelled.bind fun text _ =>
    fits_textList.bind fun fallback _ => fits_ok _).congr ?_
  simp [IsSpelled, memberOrNull, and_left_comm]

/-- A weight: a text, which writes a number if it consists of digits, or what is read as one. -/
def IsWeight : Value → Prop
  | .str s =>
    !(Text.trim Text.isBlank s.toList).isEmpty &&
      (Text.trim Text.isBlank s.toList).all Text.isDigitLike →
    ∃ n, digitsNumber s.toList = .ok n
  | v => ∃ weight, Weight.ofValue v = .ok weight

theorem isWeight_iff {v : Value} :
    IsWeight v ↔
      ∃ value, weightValue v = .ok value ∧ ∃ weight, Weight.ofValue value = .ok weight := by
  cases v with
  | str s =>
      rw [IsWeight, weightValue]
      split
      · rename_i hdigits
        cases digitsNumber s.toList with
        | error e => simp [hdigits, Except.map]
        | ok n => simp [Except.map, Weight.ofValue, Value.number?]
      · rename_i hdigits
        simp [hdigits, Weight.ofValue]
  | _ => simp [IsWeight, weightValue]

theorem fits_check {name : String} {value : Value} :
    Fits (∃ weight, Weight.ofValue value = .ok weight) (FontWeight.check name value) := by
  rw [FontWeight.check]
  simp only [checked_bind]
  refine ((fits_checked Iff.rfl).bind fun weight _ => fits_ok _).congr ?_
  simp [Shape.under_eq_ok_iff]

theorem fits_fontWeight (key entry : Value) :
    Fits (EntryShape IsWeight key entry) (fontWeight key entry) := by
  rw [entryShape_iff, fontWeight]
  refine fits_bind_entryParts ?_
  rw [isWeight_iff]
  refine (Fits.bind_ok fun value _ => (fits_tokenName key).bind fun name _ => fits_check).congr ?_
  constructor
  · rintro ⟨value, hvalue, hkey, hweight⟩
    exact ⟨⟨value, hvalue, hweight⟩, hkey⟩
  · rintro ⟨⟨value, hvalue, hweight⟩, hkey⟩
    exact ⟨value, hvalue, hkey, hweight⟩

theorem fits_group (tokens : Value) (key : String) : Fits True (group tokens key) := by
  rw [group]
  split
  · exact fits_ok []
  · exact fits_ok _
  · exact fits_spec _ _

theorem membersOf_of_group {tokens : Value} {key : String} {members : List (Value × Value)}
    (h : group tokens key = .ok members) : membersOf (memberOrNull tokens key) = members := by
  rw [group] at h
  rw [membersOf, memberOrNull]
  split at h
  · rename_i hnull
    cases h
    rw [hnull]
  · rename_i hobject
    cases h
    rw [hobject]
  · cases h

/-- The entries of a group, each of which must have a shape. -/
def GroupShape (shape : Value → Value → Prop) (tokens : Value) (key : String) : Prop :=
  ∀ m ∈ membersOf (memberOrNull tokens key), shape m.1 m.2

theorem fits_tokensOf {α : Type} {read : Value → Value → Outcome α} {shape : Value → Value → Prop}
    (hread : ∀ key entry, Fits (shape key entry) (read key entry)) (tokens : Value) (key : String) :
    Fits (GroupShape shape tokens key) (tokensOf read tokens key) := by
  refine Fits.congr (P := True ∧ GroupShape shape tokens key) ?_ (iff_of_eq (true_and _))
  refine (fits_group tokens key).bind fun members hmembers => ?_
  rw [GroupShape, membersOf_of_group hmembers]
  exact Fits.mapM fun m _ => hread m.1 m.2

/-- The group of typography, which holds groups of its own. -/
def typographyOf (tokens : Value) : Value := .object (membersOf (memberOrNull tokens "typography"))

/-- The shape of a document of design tokens. -/
@[mk_iff]
structure TokensShape (tokens : Value) : Prop where
  colors : GroupShape (DescribedShape IsSpelled) tokens "colors"
  fontFamilies : GroupShape FamilyShape (typographyOf tokens) "fontFamilies"
  fontSizes : GroupShape (DescribedShape IsDimension) (typographyOf tokens) "fontSizes"
  fontWeights : GroupShape (EntryShape IsWeight) (typographyOf tokens) "fontWeights"
  lineHeights : GroupShape (DescribedShape IsDimension) (typographyOf tokens) "lineHeights"
  letterSpacing : GroupShape (DescribedShape IsDimension) (typographyOf tokens) "letterSpacing"
  spacing : GroupShape (DescribedShape IsDimension) tokens "spacing"
  borderRadius : GroupShape (DescribedShape IsDimension) tokens "borderRadius"
  shadows : GroupShape (DescribedShape IsSpelled) tokens "shadows"
  breakpoints : GroupShape (DescribedShape IsDimension) tokens "breakpoints"

theorem fits_ofTokens (tokens : Value) (name : String) :
    Fits (TokensShape tokens) (ofTokens tokens name) := by
  rw [tokensShape_iff, ofTokens]
  split
  · exact fits_spec _ _
  · refine Fits.congr (P := True ∧ _) ?_ (iff_of_eq (true_and _))
    refine (fits_group tokens "typography").bind fun typography htypography => ?_
    rw [typographyOf, membersOf_of_group htypography]
    refine (fits_tokensOf fits_valueToken _ _).bind fun _ _ => ?_
    refine (fits_tokensOf fits_fontFamily _ _).bind fun _ _ => ?_
    refine (fits_tokensOf fits_dimensionToken _ _).bind fun _ _ => ?_
    refine (fits_tokensOf fits_fontWeight _ _).bind fun _ _ => ?_
    refine (fits_tokensOf fits_dimensionToken _ _).bind fun _ _ => ?_
    refine (fits_tokensOf fits_dimensionToken _ _).bind fun _ _ => ?_
    refine (fits_tokensOf fits_dimensionToken _ _).bind fun _ _ => ?_
    refine (fits_tokensOf fits_dimensionToken _ _).bind fun _ _ => ?_
    refine (fits_tokensOf fits_valueToken _ _).bind fun _ _ => ?_
    refine ((fits_tokensOf fits_dimensionToken _ _).bind fun _ _ => fits_ok _).congr ?_
    rw [and_true]

/-- What the parts of the theme with a name are read from. -/
structure IsReadFrom (tokens : Value) (name : String) (theme : Theme) : Prop where
  named : theme.name = name
  colors : tokensOf valueToken tokens "colors" = .ok theme.colors
  fontFamilies : tokensOf fontFamily (typographyOf tokens) "fontFamilies" =
    .ok theme.typography.fontFamilies
  fontSizes : tokensOf dimensionToken (typographyOf tokens) "fontSizes" =
    .ok theme.typography.fontSizes
  fontWeights : tokensOf fontWeight (typographyOf tokens) "fontWeights" =
    .ok theme.typography.fontWeights
  lineHeights : tokensOf dimensionToken (typographyOf tokens) "lineHeights" =
    .ok theme.typography.lineHeights
  letterSpacing : tokensOf dimensionToken (typographyOf tokens) "letterSpacing" =
    .ok theme.typography.letterSpacing
  spacing : tokensOf dimensionToken tokens "spacing" = .ok theme.spacing
  borderRadius : tokensOf dimensionToken tokens "borderRadius" = .ok theme.borderRadius
  shadows : tokensOf valueToken tokens "shadows" = .ok theme.shadows
  breakpoints : tokensOf dimensionToken tokens "breakpoints" = .ok theme.breakpoints

theorem isReadFrom_of_ofTokens {tokens : Value} {name : String} {theme : Theme}
    (h : ofTokens tokens name = .ok theme) : IsReadFrom tokens name theme := by
  rw [ofTokens] at h
  split at h
  · cases h
  · obtain ⟨typography, htypography, h⟩ := bind_eq_ok_iff.1 h
    rw [← membersOf_of_group htypography] at h
    obtain ⟨colors, hcolors, h⟩ := bind_eq_ok_iff.1 h
    obtain ⟨families, hfamilies, h⟩ := bind_eq_ok_iff.1 h
    obtain ⟨sizes, hsizes, h⟩ := bind_eq_ok_iff.1 h
    obtain ⟨weights, hweights, h⟩ := bind_eq_ok_iff.1 h
    obtain ⟨heights, hheights, h⟩ := bind_eq_ok_iff.1 h
    obtain ⟨distances, hdistances, h⟩ := bind_eq_ok_iff.1 h
    obtain ⟨spacing, hspacing, h⟩ := bind_eq_ok_iff.1 h
    obtain ⟨radii, hradii, h⟩ := bind_eq_ok_iff.1 h
    obtain ⟨shadows, hshadows, h⟩ := bind_eq_ok_iff.1 h
    obtain ⟨breakpoints, hbreakpoints, h⟩ := bind_eq_ok_iff.1 h
    cases h
    exact ⟨rfl, hcolors, hfamilies, hsizes, hweights, hheights, hdistances, hspacing, hradii,
      hshadows, hbreakpoints⟩

end SpecForge.Theme
