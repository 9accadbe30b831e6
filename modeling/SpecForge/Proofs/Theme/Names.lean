import SpecForge.Proofs.Name.Hyphens
import SpecForge.Proofs.Theme.Kotlin
import SpecForge.Proofs.Theme.Printable
import SpecForge.Proofs.Theme.Swift
import SpecForge.Proofs.Theme.TypeScript

/-!
# Keys of tokens and the names in a theme

A key is turned into camel case, and then into an identifier in Swift and Kotlin. Some groups also
get a custom property for each token, written with hyphens. None of this keeps different keys apart,
and nothing in a theme looks for a name that is taken. Different keys have different names where
each key is in camel case already, and no two capitals stand side by side in it.
-/

namespace SpecForge.Theme

/-! ### Names of constants and keys -/

/-- Two keys whose tokens are called the same on a platform. In TypeScript a name may be any text.
-/
def CalledAlike (p : Platform) (s t : String) : Prop :=
  match p with
  | .web => Name.toCamel s = Name.toCamel t
  | _ => Name.SpelledAlike (Name.toCamel s) (Name.toCamel t)

theorem calledOn_toCamel_eq_iff (p : Platform) (s t : String) :
    calledOn p (Name.toCamel s) = calledOn p (Name.toCamel t) ↔ CalledAlike p s t := by
  cases p with
  | ios => exact Name.toIdentifier_eq_iff
  | android => exact Name.capitalize_toIdentifier_inj.trans Name.toIdentifier_eq_iff
  | web => exact Iff.rfl

theorem nodup_calledOn_iff (p : Platform) (keys : List String) :
    (keys.map fun s => calledOn p (Name.toCamel s)).Nodup ↔
      keys.Pairwise fun s t => ¬ CalledAlike p s t := by
  rw [List.Nodup, List.pairwise_map]
  simp only [ne_eq, calledOn_toCamel_eq_iff]

theorem eq_of_calledAlike {p : Platform} {s t : String} (hs : Name.IsCamel s.toList)
    (ht : Name.IsCamel t.toList) (h : CalledAlike p s t) : s = t := by
  rw [← calledOn_toCamel_eq_iff, Name.toCamel_of_isCamel hs, Name.toCamel_of_isCamel ht] at h
  cases p with
  | ios => rwa [calledOn, calledOn, Name.toIdentifier_of_isCamel hs,
      Name.toIdentifier_of_isCamel ht] at h
  | android =>
      have hidentifier := Name.capitalize_toIdentifier_inj.1 h
      rwa [Name.toIdentifier_of_isCamel hs, Name.toIdentifier_of_isCamel ht] at hidentifier
  | web => exact h

theorem names_code {p : Platform} {theme : Theme} {source : String} {lines : Lines}
    (h : theme.code p source = .ok lines) (g : Group) :
    Reader.names p g lines = (g.names theme).map (calledOn p) := by
  cases p with
  | ios => exact Swift.names_file h g
  | android => exact Kotlin.names_file h g
  | web => exact TypeScript.names_file h g

/-- The names in a theme, and the keys that they are made from. -/
theorem names_code_of_ofTokens {tokens : Value} {name : String} {theme : Theme}
    (h : ofTokens tokens name = .ok theme) {p : Platform} {source : String} {lines : Lines}
    (hlines : theme.code p source = .ok lines) (g : Group) :
    Reader.names p g lines = (g.keys tokens).map fun s => calledOn p (Name.toCamel s) := by
  rw [names_code hlines, (namedBy_of_ofTokens h g).keys.2, List.map_map]
  rfl

theorem sourceFile_of_code {p : Platform} {theme : Theme} {source : String} {lines : Lines}
    (h : theme.code p source = .ok lines) :
    theme.sourceFile p source = .ok ⟨theme.fileName p, lines.joined⟩ := by
  cases p <;> exact congrArg (· >>= _) h

theorem givenIf_code (theme : Theme) (p : Platform) (source : String) :
    GivenIf (theme.IsPrintable p) (theme.code p source) := by
  cases p with
  | ios => exact givenIf_swift theme source
  | android => exact givenIf_kotlin theme source
  | web => exact givenIf_typeScript theme source

/-! ### Custom properties -/

/-- The groups whose tokens are custom properties of the style sheet. -/
def Group.styled : List Group := [.colors, .spacing, .borderRadius]

/-- What the custom properties of a group begin with. -/
def Group.propertyPrefix : Group → String
  | .colors => "--color-"
  | .borderRadius => "--border-radius-"
  | g => "--" ++ g.key ++ "-"

/-- The custom property for the token with a name. -/
def Group.property (g : Group) (name : String) : String := g.propertyPrefix ++ Name.toKebab name

/-- The custom properties of a style sheet are those of its groups. -/
theorem TypeScript.styleVariables_eq (theme : Theme) : TypeScript.styleVariables theme =
    Group.styled.flatMap fun g => (g.names theme).map fun name =>
      ⟨g.property name, g.key, name⟩ := by
  have hcolor : ∀ token, TypeScript.variableOf "color" "colors" token =
      ⟨Group.colors.property token, Group.colors.key, token⟩ := fun _ => rfl
  have hspacing : ∀ token, TypeScript.variableOf "spacing" "spacing" token =
      ⟨Group.spacing.property token, Group.spacing.key, token⟩ := fun _ => rfl
  have hradius : ∀ token, TypeScript.variableOf "border-radius" "borderRadius" token =
      ⟨Group.borderRadius.property token, Group.borderRadius.key, token⟩ := fun _ => rfl
  simp [TypeScript.styleVariables, Group.styled, Group.names, Function.comp_def, hcolor, hspacing,
    hradius]

theorem map_name_styleVariables (theme : Theme) :
    (TypeScript.styleVariables theme).map (·.name) =
      Group.styled.flatMap fun g => (g.names theme).map g.property := by
  rw [TypeScript.styleVariables_eq, List.map_flatMap]
  refine congrArg (List.flatMap · Group.styled) (funext fun g => ?_)
  rw [List.map_map]
  rfl

/-- The custom properties in a style sheet, and the keys that they are made from. -/
theorem propertyNames_code {tokens : Value} {name : String} {theme : Theme}
    (h : ofTokens tokens name = .ok theme) {source : String} {lines : Lines}
    (hlines : theme.code .web source = .ok lines) :
    Reader.propertyNames lines =
      Group.styled.flatMap fun g => (g.keys tokens).map fun s => g.property (Name.toCamel s) := by
  rw [TypeScript.propertyNames_file hlines, map_name_styleVariables]
  refine congrArg (List.flatMap · Group.styled) (funext fun g => ?_)
  rw [(namedBy_of_ofTokens h g).keys.2, List.map_map]
  rfl

theorem property_inj {g : Group} {s t : String} :
    g.property s = g.property t ↔ Name.toKebab s = Name.toKebab t := by
  rw [Group.property, Group.property, String.append_right_inj]

/-- No custom property of a group is one of another group. -/
theorem pairwise_property_ne :
    Group.styled.Pairwise fun g g' => ∀ s t, g.property s ≠ g'.property t := by
  simp [Group.styled, Group.property, Group.propertyPrefix, Group.key, ← String.toList_inj]

/-- Custom properties are different if and only if those of each group are. -/
theorem nodup_properties_iff (keys : Group → List String) :
    (Group.styled.flatMap fun g => (keys g).map fun s => g.property (Name.toCamel s)).Nodup ↔
      ∀ g ∈ Group.styled, (keys g).Pairwise fun s t =>
        Name.toKebab (Name.toCamel s) ≠ Name.toKebab (Name.toCamel t) := by
  have hapart : Group.styled.Pairwise fun g g' =>
      List.Disjoint ((keys g).map fun s => g.property (Name.toCamel s))
        ((keys g').map fun s => g'.property (Name.toCamel s)) := by
    refine pairwise_property_ne.imp fun hne name hname hname' => ?_
    obtain ⟨s, _, rfl⟩ := List.mem_map.1 hname
    obtain ⟨t, _, ht⟩ := List.mem_map.1 hname'
    exact hne _ _ ht.symm
  rw [List.nodup_flatMap, and_iff_left hapart]
  simp only [List.Nodup, List.pairwise_map, ne_eq, property_inj]

/-! ### Different names for different keys -/

/-- Keys that are kept apart by all names: in camel case, with no two capitals side by side. -/
def IsPlainKey (s : String) : Prop := Name.IsCamel s.toList ∧ Name.CapitalsAlone s.toList

theorem IsPlainKey.eq_of_toKebab {s t : String} (hs : IsPlainKey s) (ht : IsPlainKey t)
    (h : Name.toKebab (Name.toCamel s) = Name.toKebab (Name.toCamel t)) : s = t := by
  rw [Name.toCamel_of_isCamel hs.1, Name.toCamel_of_isCamel ht.1] at h
  rw [← Name.toCamel_toKebab hs.1 hs.2, h, Name.toCamel_toKebab ht.1 ht.2]

/-- What the code of a theme declares for the tokens of a document, and when the names of each group
and the custom properties are different. -/
structure NamesTokens (tokens : Value) (p : Platform) (lines : Lines) : Prop where
  names : ∀ g : Group, Reader.names p g lines =
    (g.keys tokens).map fun s => calledOn p (Name.toCamel s)
  nodup_names_iff : ∀ g : Group, (Reader.names p g lines).Nodup ↔
    (g.keys tokens).Pairwise fun s t => ¬ CalledAlike p s t
  properties : p = .web → Reader.propertyNames lines = Group.styled.flatMap fun g =>
    (g.keys tokens).map fun s => g.property (Name.toCamel s)
  nodup_properties_iff : p = .web → ((Reader.propertyNames lines).Nodup ↔
    ∀ g ∈ Group.styled, (g.keys tokens).Pairwise fun s t =>
      Name.toKebab (Name.toCamel s) ≠ Name.toKebab (Name.toCamel t))

theorem namesTokens_of_ofTokens {tokens : Value} {name : String} {theme : Theme}
    (h : ofTokens tokens name = .ok theme) {p : Platform} {source : String} {lines : Lines}
    (hlines : theme.code p source = .ok lines) : NamesTokens tokens p lines where
  names := names_code_of_ofTokens h hlines
  nodup_names_iff g := by
    rw [names_code_of_ofTokens h hlines g]
    exact nodup_calledOn_iff p (g.keys tokens)
  properties := by
    rintro rfl
    exact propertyNames_code h hlines
  nodup_properties_iff := by
    rintro rfl
    rw [propertyNames_code h hlines]
    exact nodup_properties_iff fun g => g.keys tokens

theorem NamesTokens.nodup_of_isPlainKey {tokens : Value} {p : Platform} {lines : Lines}
    (h : NamesTokens tokens p lines)
    (hplain : ∀ g : Group, (g.keys tokens).Nodup ∧ ∀ s ∈ g.keys tokens, IsPlainKey s) :
    (∀ g, (Reader.names p g lines).Nodup) ∧
      (p = .web → (Reader.propertyNames lines).Nodup) := by
  refine ⟨fun g => ?_, fun hweb => ?_⟩
  · obtain ⟨hnodup, hkeys⟩ := hplain g
    exact (h.nodup_names_iff g).2 (hnodup.imp_of_mem fun hs ht hne halike =>
      hne (eq_of_calledAlike (hkeys _ hs).1 (hkeys _ ht).1 halike))
  · refine (h.nodup_properties_iff hweb).2 fun g _ => ?_
    obtain ⟨hnodup, hkeys⟩ := hplain g
    exact hnodup.imp_of_mem fun hs ht hne hsame =>
      hne ((hkeys _ hs).eq_of_toKebab (hkeys _ ht) hsame)

/-- In an accepted document all keys of tokens are texts, and a theme declares for each group the
names that are made from its keys. They are different if and only if no two keys are called alike on
the platform, and custom properties are different if and only if those of each group are spelled
differently with hyphens. Neither can fail where the keys are in camel case and no two capitals
stand side by side. -/
theorem names_nodup_iff {tokens : Value} {name : String} {theme : Theme}
    (h : ofTokens tokens name = .ok theme) (p : Platform) (source : String) :
    (∀ g : Group, (g.entries tokens).map Prod.fst = (g.keys tokens).map .str) ∧
    GivenIf (theme.IsPrintable p) (theme.code p source) ∧
    ∀ lines, theme.code p source = .ok lines →
      theme.sourceFile p source = .ok ⟨theme.fileName p, lines.joined⟩ ∧
      NamesTokens tokens p lines ∧
      ((∀ g : Group, (g.keys tokens).Nodup ∧ ∀ s ∈ g.keys tokens, IsPlainKey s) →
        (∀ g, (Reader.names p g lines).Nodup) ∧
          (p = .web → (Reader.propertyNames lines).Nodup)) := by
  refine ⟨fun g => (namedBy_of_ofTokens h g).keys.1, givenIf_code theme p source,
    fun lines hlines => ?_⟩
  have hnames := namesTokens_of_ofTokens h hlines
  exact ⟨sourceFile_of_code hlines, hnames, hnames.nodup_of_isPlainKey⟩

/-- A document with keys that stand in two groups, one of them written with a hyphen. -/
def shadesDocument : Value :=
  .record [("colors", .record [("primary", .str "#336699"), ("primary-dark", .str "#000000")]),
    ("spacing", .record [("primary", .str "8px")])]

theorem names_nodup_shadesDocument :
    ∃ theme lines, ofTokens shadesDocument "Theme" = .ok theme ∧
      theme.code .web "tokens.json" = .ok lines ∧
      Reader.names .web .colors lines = ["primary", "primaryDark"] ∧
      Reader.propertyNames lines =
        ["--color-primary", "--color-primary-dark", "--spacing-primary"] ∧
      (Reader.propertyNames lines).Nodup := by
  have hprinted : ((ofTokens shadesDocument "Theme").toOption.bind fun theme =>
      (theme.code .web "tokens.json").toOption).isSome = true := by
    decide +kernel
  obtain ⟨lines, hlines⟩ := Option.isSome_iff_exists.1 hprinted
  obtain ⟨theme, htheme, hlines⟩ := Option.bind_eq_some_iff.1 hlines
  have hok := eq_ok_of_toOption htheme
  have hcode := eq_ok_of_toOption hlines
  obtain ⟨_, _, hall⟩ := names_nodup_iff hok .web "tokens.json"
  obtain ⟨_, hnames, _⟩ := hall lines hcode
  have hkeys : (Group.keys shadesDocument .colors).map Name.toCamel =
      ["primary", "primaryDark"] := by
    decide +kernel
  have hproperties : (Group.styled.flatMap fun g =>
      (g.keys shadesDocument).map fun s => g.property (Name.toCamel s)) =
        ["--color-primary", "--color-primary-dark", "--spacing-primary"] := by
    decide +kernel
  have happart : ∀ g ∈ Group.styled, (g.keys shadesDocument).Pairwise fun s t =>
      Name.toKebab (Name.toCamel s) ≠ Name.toKebab (Name.toCamel t) := by
    decide +kernel
  exact ⟨theme, lines, hok, hcode, (hnames.names .colors).trans hkeys,
    (hnames.properties rfl).trans hproperties, (hnames.nodup_properties_iff rfl).2 happart⟩

/-- A document with two keys for a color, which are spelled with and without a hyphen. -/
def hyphenDocument : Value :=
  .record [("colors", .record [("primary-dark", .str "#000000"), ("primaryDark", .str "#111111")])]

/-- The document is accepted, and the two colors have the same name on each platform and the same
custom property. -/
theorem not_nodup_hyphenDocument :
    ∃ theme, ofTokens hyphenDocument "Theme" = .ok theme ∧
      (Group.keys hyphenDocument .colors).Nodup ∧
      (∀ p, ∃ lines, theme.code p "tokens.json" = .ok lines ∧
        ¬ (Reader.names p .colors lines).Nodup) ∧
      ∃ lines, theme.code .web "tokens.json" = .ok lines ∧
        Reader.propertyNames lines = ["--color-primary-dark", "--color-primary-dark"] := by
  obtain ⟨theme, hok, hprinted⟩ : ∃ theme, ofTokens hyphenDocument "Theme" = .ok theme ∧
      ∀ p ∈ Platform.all, (theme.code p "tokens.json").toOption.isSome = true :=
    exists_ok_of_any (by decide +kernel)
  have hcode (p : Platform) := exists_ok_of_isSome (hprinted p (Platform.mem_all p))
  have hnames : ∀ p, ¬ ((Group.keys hyphenDocument .colors).map fun s =>
      calledOn p (Name.toCamel s)).Nodup := by
    intro p
    cases p <;> decide +kernel
  have hproperties : (Group.styled.flatMap fun g =>
      (g.keys hyphenDocument).map fun s => g.property (Name.toCamel s)) =
        ["--color-primary-dark", "--color-primary-dark"] := by
    decide +kernel
  refine ⟨theme, hok, by decide +kernel, fun p => ?_, ?_⟩
  · obtain ⟨lines, hlines⟩ := hcode p
    refine ⟨lines, hlines, ?_⟩
    rw [names_code_of_ofTokens hok hlines]
    exact hnames p
  · obtain ⟨lines, hlines⟩ := hcode .web
    exact ⟨lines, hlines, (propertyNames_code hok hlines).trans hproperties⟩

end SpecForge.Theme
