import SpecForge.Proofs.Shape.Tokens

/-!
# Groups of tokens

A document of design tokens has ten groups, five of them within typography. Each key of a group
names one token, and all generators write the groups in the same order.
-/

namespace SpecForge.Theme

open Api

/-- A group of tokens. -/
inductive Group where
  | colors
  | fontFamilies
  | fontSizes
  | fontWeights
  | lineHeights
  | letterSpacing
  | spacing
  | borderRadius
  | shadows
  | breakpoints
deriving DecidableEq

namespace Group

/-- The groups in the order in which they are written. -/
def all : List Group :=
  [colors, fontFamilies, fontSizes, fontWeights, lineHeights, letterSpacing, spacing, borderRadius,
    shadows, breakpoints]

theorem mem_all (g : Group) : g ∈ all := by
  cases g <;> decide

/-- The key of a group in a document. -/
def key : Group → String
  | colors => "colors"
  | fontFamilies => "fontFamilies"
  | fontSizes => "fontSizes"
  | fontWeights => "fontWeights"
  | lineHeights => "lineHeights"
  | letterSpacing => "letterSpacing"
  | spacing => "spacing"
  | borderRadius => "borderRadius"
  | shadows => "shadows"
  | breakpoints => "breakpoints"

/-- Does the group stand within typography? -/
def isInner : Group → Bool
  | fontFamilies => true
  | fontSizes => true
  | fontWeights => true
  | lineHeights => true
  | letterSpacing => true
  | _ => false

/-- The entries of a group in a document. -/
def entries (tokens : Value) (g : Group) : List (Value × Value) :=
  membersOf (memberOrNull (if g.isInner then typographyOf tokens else tokens) g.key)

/-- The names of the tokens of a group in a theme. -/
def names (theme : Theme) : Group → List String
  | colors => theme.colors.map (·.name)
  | fontFamilies => theme.typography.fontFamilies.map (·.name)
  | fontSizes => theme.typography.fontSizes.map (·.name)
  | fontWeights => theme.typography.fontWeights.map (·.name)
  | lineHeights => theme.typography.lineHeights.map (·.name)
  | letterSpacing => theme.typography.letterSpacing.map (·.name)
  | spacing => theme.spacing.map (·.name)
  | borderRadius => theme.borderRadius.map (·.name)
  | shadows => theme.shadows.map (·.name)
  | breakpoints => theme.breakpoints.map (·.name)

/-- The keys of a group that are texts. -/
def keys (tokens : Value) (g : Group) : List String :=
  (g.entries tokens).filterMap fun m => match m.1 with
    | .str s => some s
    | _ => none

/-- One of ten values, by the group that it is given for. -/
def choose {α : Type} (colors fontFamilies fontSizes fontWeights lineHeights letterSpacing spacing
    borderRadius shadows breakpoints : α) : Group → α
  | .colors => colors
  | .fontFamilies => fontFamilies
  | .fontSizes => fontSizes
  | .fontWeights => fontWeights
  | .lineHeights => lineHeights
  | .letterSpacing => letterSpacing
  | .spacing => spacing
  | .borderRadius => borderRadius
  | .shadows => shadows
  | .breakpoints => breakpoints

end Group

/-! ### Names of tokens -/

theorem tokenName_eq_ok {key : Value} {name : String} (h : tokenName key = .ok name) :
    ∃ s, key = .str s ∧ name = Name.toCamel s := by
  unfold tokenName at h
  split at h
  · cases h
    exact ⟨_, rfl, rfl⟩
  · cases h

theorem tokenName_of_valueToken {key entry : Value} {t : ValueToken}
    (h : valueToken key entry = .ok t) : tokenName key = .ok t.name := by
  obtain ⟨⟨value, description⟩, _, h⟩ := bind_eq_ok_iff.1 h
  obtain ⟨name, hname, h⟩ := bind_eq_ok_iff.1 h
  obtain ⟨text, _, h⟩ := bind_eq_ok_iff.1 h
  obtain ⟨description', _, h⟩ := bind_eq_ok_iff.1 h
  cases h
  exact hname

theorem tokenName_of_dimensionToken {key entry : Value} {t : DimensionToken}
    (h : dimensionToken key entry = .ok t) : tokenName key = .ok t.name := by
  obtain ⟨⟨value, description⟩, _, h⟩ := bind_eq_ok_iff.1 h
  obtain ⟨quantity, _, h⟩ := bind_eq_ok_iff.1 h
  obtain ⟨name, hname, h⟩ := bind_eq_ok_iff.1 h
  obtain ⟨description', _, h⟩ := bind_eq_ok_iff.1 h
  cases h
  exact hname

theorem tokenName_of_fontFamily {key entry : Value} {t : FontFamily}
    (h : fontFamily key entry = .ok t) : tokenName key = .ok t.name := by
  obtain ⟨⟨value, description⟩, _, h⟩ := bind_eq_ok_iff.1 h
  obtain ⟨name, hname, h⟩ := bind_eq_ok_iff.1 h
  obtain ⟨text, _, h⟩ := bind_eq_ok_iff.1 h
  obtain ⟨fallback, _, h⟩ := bind_eq_ok_iff.1 h
  cases h
  exact hname

theorem tokenName_of_fontWeight {key entry : Value} {t : FontWeight}
    (h : fontWeight key entry = .ok t) : tokenName key = .ok t.name := by
  obtain ⟨⟨value, description⟩, _, h⟩ := bind_eq_ok_iff.1 h
  obtain ⟨value', _, h⟩ := bind_eq_ok_iff.1 h
  obtain ⟨name, hname, h⟩ := bind_eq_ok_iff.1 h
  rw [FontWeight.check, checked_eq_ok_iff] at h
  obtain ⟨weight, _, h⟩ := bind_eq_ok_iff.1 h
  cases h
  exact hname

/-- All keys of some entries are texts, and the names are these texts in camel case. -/
def NamedBy (entries : List (Value × Value)) (names : List String) : Prop :=
  List.Forall₂ (fun m name => ∃ s, m.1 = .str s ∧ name = Name.toCamel s) entries names

section Items

variable {α γ : Type} {R : String → γ → Prop} {nameOf : α → String}

/-- What is written for tokens is written for their names, one by one. -/
theorem forall₂_names_of_mapM {write : α → Outcome γ}
    (h : ∀ t c, write t = .ok c → R (nameOf t) c) {ts : List α} {cs : List γ}
    (hl : ts.mapM write = .ok cs) : List.Forall₂ R (ts.map nameOf) cs := by
  rw [List.forall₂_map_left_iff]
  exact forall₂_of_mapM_eq_ok (fun t _ c => h t c) hl

theorem forall₂_names_of_map {write : α → γ} (h : ∀ t, R (nameOf t) (write t)) (ts : List α) :
    List.Forall₂ R (ts.map nameOf) (ts.map write) := by
  rw [List.forall₂_map_left_iff, List.forall₂_map_right_iff, List.forall₂_same]
  exact fun t _ => h t

end Items

theorem namedBy_of_tokensOf {α : Type} {read : Value → Value → Outcome α} {nameOf : α → String}
    (hread : ∀ key entry t, read key entry = .ok t → tokenName key = .ok (nameOf t))
    {tokens : Value} {key : String} {ts : List α} (h : tokensOf read tokens key = .ok ts) :
    NamedBy (membersOf (memberOrNull tokens key)) (ts.map nameOf) := by
  obtain ⟨members, hmembers, h⟩ := bind_eq_ok_iff.1 h
  rw [membersOf_of_group hmembers, NamedBy, List.forall₂_map_right_iff]
  exact forall₂_of_mapM_eq_ok (fun m _ t ht => tokenName_eq_ok (hread m.1 m.2 t ht)) h

/-- The tokens of an accepted document are named by the keys of their group. -/
theorem namedBy_of_ofTokens {tokens : Value} {name : String} {theme : Theme}
    (h : ofTokens tokens name = .ok theme) (g : Group) :
    NamedBy (g.entries tokens) (g.names theme) := by
  have hread := isReadFrom_of_ofTokens h
  rw [Group.entries]
  cases g with
  | colors => exact namedBy_of_tokensOf (fun _ _ _ => tokenName_of_valueToken) hread.colors
  | fontFamilies =>
      exact namedBy_of_tokensOf (fun _ _ _ => tokenName_of_fontFamily) hread.fontFamilies
  | fontSizes =>
      exact namedBy_of_tokensOf (fun _ _ _ => tokenName_of_dimensionToken) hread.fontSizes
  | fontWeights =>
      exact namedBy_of_tokensOf (fun _ _ _ => tokenName_of_fontWeight) hread.fontWeights
  | lineHeights =>
      exact namedBy_of_tokensOf (fun _ _ _ => tokenName_of_dimensionToken) hread.lineHeights
  | letterSpacing =>
      exact namedBy_of_tokensOf (fun _ _ _ => tokenName_of_dimensionToken) hread.letterSpacing
  | spacing => exact namedBy_of_tokensOf (fun _ _ _ => tokenName_of_dimensionToken) hread.spacing
  | borderRadius =>
      exact namedBy_of_tokensOf (fun _ _ _ => tokenName_of_dimensionToken) hread.borderRadius
  | shadows => exact namedBy_of_tokensOf (fun _ _ _ => tokenName_of_valueToken) hread.shadows
  | breakpoints =>
      exact namedBy_of_tokensOf (fun _ _ _ => tokenName_of_dimensionToken) hread.breakpoints

theorem NamedBy.keys {tokens : Value} {g : Group} {names : List String}
    (h : NamedBy (g.entries tokens) names) :
    (g.entries tokens).map Prod.fst = (g.keys tokens).map .str ∧
      names = (g.keys tokens).map Name.toCamel := by
  rw [Group.keys]
  generalize g.entries tokens = entries at h ⊢
  induction h with
  | nil => exact ⟨rfl, rfl⟩
  | cons hm _ ih =>
      obtain ⟨s, hs, rfl⟩ := hm
      rw [List.map_cons, List.filterMap_cons, hs, ih.1, ih.2]
      exact ⟨rfl, rfl⟩

end SpecForge.Theme
