import SpecForge.Proofs.Theme.Reader

/-!
# The names in Kotlin themes

Each group is an object with one constant for each token. The comment over the groups of typography
stands there also if it is followed by none of them.
-/

namespace SpecForge.Theme.Kotlin

open Model.Reader Text

/-- A constant for the token with a name, perhaps with a comment above it. -/
structure Constant.IsFor (name : String) (c : Constant) : Prop where
  keyword : c.keyword = "val" ∨ c.keyword = "const val"
  name : c.name = constantName name
  doc : ∃ text, c.doc = Lines.docComment .block text

/-- The lines above the block of a group. -/
def comment : Group → Lines
  | .colors => ["    // Colors"]
  | .spacing => ["    // Spacing"]
  | .borderRadius => ["    // Border Radius"]
  | .shadows => ["    // Shadows"]
  | .breakpoints => ["    // Breakpoints"]
  | _ => []

/-- The block of a group. -/
def block (theme : Theme) (g : Group) (constants : List Constant) : Lines.Block where
  before := if g = .fontFamilies then typographyComment theme.typography else []
  above := comment g
  head := g.head .android
  body := Lines.indent (constants.flatMap Constant.lines) 2
  closing := "    \x7d"
  below := [""]

theorem lines_block (theme : Theme) (g : Group) (constants : List Constant) :
    (block theme g constants).lines = (block theme g constants).before ++
      (nonEmptySection (comment g) g.heading constants).flatMap Section.lines := by
  have hbody : (block theme g constants).body = [] ↔ constants = [] := by
    cases constants with
    | nil => exact iff_of_true rfl rfl
    | cons c constants => simp [block, Constant.lines, Lines.indent, Lines.shifted]
  rw [nonEmptySection, Lines.Block.lines]
  by_cases h : constants = []
  · rw [if_pos (List.isEmpty_iff.2 h), if_pos (hbody.2 h)]
    rfl
  · rw [if_neg (mt hbody.1 h), if_neg (by simpa using h)]
    simp [Section.lines, block, Group.head_android, toString]

theorem allWord_constantName (name : String) : Name.AllWord (constantName name).toList := by
  rw [constantName, Name.capitalize, String.toList_ofList]
  exact (Name.allWord_toIdentifier name).capitalizeChars

/-- The line that declares a constant. -/
theorem exists_declaration (c : Constant) : ∃ rest : String, Lines.indent c.lines 2 =
    Lines.indent c.doc 2 ++ ["        " ++ c.keyword ++ " " ++ c.name ++ (" " ++ rest)] := by
  refine ⟨"= " ++ c.value, ?_⟩
  have hline : s!"{c.keyword} {c.name} = {c.value}" ≠ "" := by
    simp [toString]
  rw [Constant.lines, Lines.indent_append, Lines.indent_two_singleton hline]
  simp [← String.toList_inj, toString]

/-- With either keyword, the name of a constant is read. -/
theorem name?_declaration {keyword : String} (hk : keyword = "val" ∨ keyword = "const val")
    {name : String} (hn : Name.AllWord name.toList) (rest : String) :
    Reader.Kotlin.name? ("        " ++ keyword ++ " " ++ name ++ (" " ++ rest)) = some name := by
  have hread : ∀ front, named? front (· == ' ') (front ++ name ++ (" " ++ rest)) =
      some (name, (" " ++ rest).toList) :=
    fun front => named?_word front hn (by decide) (by simp)
  rcases hk with rfl | rfl
  · rw [Reader.Kotlin.name?]
    have hval : "        " ++ "val" ++ " " = "        val " := by decide
    rw [hval, hread]
  · have hval : "        " ++ "const val" ++ " " = "        const val " := by decide
    have hnone : named? "        val " (· == ' ') ("        const val " ++ name ++ (" " ++ rest)) =
        none := by
      simp [named?, after?]
    rw [Reader.Kotlin.name?, hval, hnone, hread]
    rfl

/-- In the lines of a constant its name is read, and no other. -/
theorem name?_lines {name : String} {c : Constant} (h : c.IsFor name) :
    (Lines.indent c.lines 2).filterMap Reader.Kotlin.name? = [constantName name] := by
  obtain ⟨text, hdoc⟩ := h.doc
  have hcomment : (Lines.indent c.doc 2).filterMap Reader.Kotlin.name? = [] := by
    rw [hdoc]
    rcases Lines.docComment_eq .block text with hnil | ⟨rest, hline⟩
    · rw [hnil]
      rfl
    · rw [hline]
      simp [Lines.indent, Lines.shifted, Lines.CommentStyle.opening, Lines.indentation,
        Reader.Kotlin.name?, named?, after?]
  obtain ⟨rest, hlines⟩ := exists_declaration c
  have hread := name?_declaration h.keyword (allWord_constantName name) rest
  rw [hlines, List.filterMap_append, hcomment, List.filterMap_cons, h.name, hread]
  rfl

/-- The constants of a group are read by their names. -/
theorem declares_block (theme : Theme) {g : Group} {names : List String}
    {constants : List Constant} (h : List.Forall₂ Constant.IsFor names constants) :
    Declares .android g (block theme g constants).body names := by
  rw [block, Lines.indent_flatMap]
  exact declares_flatMap name?_lines h

theorem isBlock (theme : Theme) {g : Group} {names : List String} {constants : List Constant}
    (h : List.Forall₂ Constant.IsFor names constants) :
    IsBlock .android g names (block theme g constants) where
  head := rfl
  closing := rfl
  declares := declares_block theme h
  closed := by
    have hclose : "    \x7d" ∉ (block theme g constants).body :=
      not_mem_shifted "        " _ (by decide) (by decide)
    exact hclose
  lacks other := by
    have hbody : other.head .android ∉ (block theme g constants).body :=
      not_mem_shifted "        " _ (by simp [Group.head_android])
        (by simp [Group.head_android, begins, after?])
    have hbefore : other.head .android ∉ (block theme g constants).before := by
      simp only [block, typographyComment]
      split
      · split
        · exact List.not_mem_nil
        · simp [Group.head_android, ← String.toList_inj]
      · exact List.not_mem_nil
    have habove : other.head .android ∉ comment g := by
      cases g <;> simp [comment, Group.head_android, ← String.toList_inj]
    simp only [Lines.Block.Lacks, List.mem_append, List.mem_cons, not_or]
    refine ⟨⟨⟨hbefore, habove⟩, hbody⟩, ?_⟩
    simp [block, Group.head_android, ← String.toList_inj]

/-! ### The file -/

theorem isFor_colorConstant (t : ValueToken) : (colorConstant t).IsFor t.name :=
  ⟨.inl rfl, rfl, t.description, rfl⟩

theorem isFor_shadowConstant (t : ValueToken) : (shadowConstant t).IsFor t.name :=
  ⟨.inr rfl, rfl, t.description, rfl⟩

theorem isFor_familyConstant (t : FontFamily) : (familyConstant t).IsFor t.name :=
  ⟨.inr rfl, rfl, none, rfl⟩

theorem isFor_dimensionConstant {unit : String} {t : DimensionToken} {c : Constant}
    (h : dimensionConstant unit t = .ok c) : c.IsFor t.name := by
  obtain ⟨text, _, h⟩ := bind_eq_ok_iff.1 h
  cases h
  exact ⟨.inl rfl, rfl, none, rfl⟩

theorem isFor_weightConstant {t : FontWeight} {c : Constant} (h : weightConstant t = .ok c) :
    c.IsFor t.name := by
  obtain ⟨text, _, h⟩ := bind_eq_ok_iff.1 h
  cases h
  exact ⟨.inl rfl, rfl, none, rfl⟩

/-- A file consists of a block for each group, with constants for the tokens of the group. -/
theorem exists_constants {theme : Theme} {source : String} {lines : Lines}
    (h : file theme source = .ok lines) : ∃ constants : Group → List Constant,
      (∀ g, List.Forall₂ Constant.IsFor (g.names theme) (constants g)) ∧
      constants .fontFamilies = theme.typography.fontFamilies.map familyConstant ∧
      constants .shadows = theme.shadows.map shadowConstant ∧
      lines = (Lines.header source ++ opening theme source) ++
        (Group.all.flatMap (fun g => (block theme g (constants g)).lines) ++
          (["\x7d", ""] ++ materialTypography theme)) := by
  obtain ⟨typography, htypography, h⟩ := bind_eq_ok_iff.1 h
  obtain ⟨layout, hlayout, h⟩ := bind_eq_ok_iff.1 h
  cases h
  obtain ⟨sizes, hsizes, htypography⟩ := bind_eq_ok_iff.1 htypography
  obtain ⟨weights, hweights, htypography⟩ := bind_eq_ok_iff.1 htypography
  obtain ⟨heights, hheights, htypography⟩ := bind_eq_ok_iff.1 htypography
  obtain ⟨distances, hdistances, htypography⟩ := bind_eq_ok_iff.1 htypography
  cases htypography
  obtain ⟨spacing, hspacing, hlayout⟩ := bind_eq_ok_iff.1 hlayout
  obtain ⟨radii, hradii, hlayout⟩ := bind_eq_ok_iff.1 hlayout
  obtain ⟨breakpoints, hbreakpoints, hlayout⟩ := bind_eq_ok_iff.1 hlayout
  cases hlayout
  let constants : Group → List Constant := Group.choose (theme.colors.map colorConstant)
    (theme.typography.fontFamilies.map familyConstant) sizes weights heights distances spacing radii
    (theme.shadows.map shadowConstant) breakpoints
  refine ⟨constants, fun g => ?_, rfl, rfl, ?_⟩
  · cases g with
    | colors => exact forall₂_names_of_map isFor_colorConstant theme.colors
    | fontFamilies => exact forall₂_names_of_map isFor_familyConstant theme.typography.fontFamilies
    | fontSizes => exact forall₂_names_of_mapM (fun _ _ => isFor_dimensionConstant) hsizes
    | fontWeights => exact forall₂_names_of_mapM (fun _ _ => isFor_weightConstant) hweights
    | lineHeights => exact forall₂_names_of_mapM (fun _ _ => isFor_dimensionConstant) hheights
    | letterSpacing => exact forall₂_names_of_mapM (fun _ _ => isFor_dimensionConstant) hdistances
    | spacing => exact forall₂_names_of_mapM (fun _ _ => isFor_dimensionConstant) hspacing
    | borderRadius => exact forall₂_names_of_mapM (fun _ _ => isFor_dimensionConstant) hradii
    | shadows => exact forall₂_names_of_map isFor_shadowConstant theme.shadows
    | breakpoints => exact forall₂_names_of_mapM (fun _ _ => isFor_dimensionConstant) hbreakpoints
  · simp only [Group.all, List.flatMap_cons, List.flatMap_nil, List.append_nil, lines_block,
      titledSection, List.flatMap_append, List.append_assoc]
    rfl

theorem exists_blocks {theme : Theme} {source : String} {lines : Lines}
    (h : file theme source = .ok lines) : ∃ constants : Group → List Constant,
      (∀ g, List.Forall₂ Constant.IsFor (g.names theme) (constants g)) ∧
      lines = (Lines.header source ++ opening theme source) ++
        (Group.all.flatMap (fun g => (block theme g (constants g)).lines) ++
          (["\x7d", ""] ++ materialTypography theme)) := by
  obtain ⟨constants, hconstants, _, _, hlines⟩ := exists_constants h
  exact ⟨constants, hconstants, hlines⟩

theorem head_not_mem_opening (theme : Theme) (source : String) (g : Group) :
    g.head .android ∉ Lines.header source ++ opening theme source := by
  simp [opening, Lines.header, Lines.provenance, Group.head_android, ← String.toList_inj, toString]

/-- The lines of the type scale stand as far to the right as those of the groups, but no name of the
scale begins as an object does. -/
theorem head_not_mem_ending (theme : Theme) (g : Group) :
    g.head .android ∉ ["\x7d", ""] ++ materialTypography theme := by
  have hnames : ∀ name ∈ scaleNames, name.toList.head? ≠ some 'o' := by decide
  have hentries : g.head .android ∉
      Lines.commaSeparated (theme.typeScale.map (scaleEntry theme)) := by
    intro hmem
    obtain ⟨line, hl, hhead⟩ := Lines.mem_commaSeparated hmem
    obtain ⟨entry, hentry, rfl⟩ := List.mem_map.1 hl
    obtain ⟨name, hname, hsize⟩ := List.mem_filterMap.1 hentry
    obtain ⟨size, _, rfl⟩ := Option.map_eq_some_iff.1 hsize
    have hline : ∃ comma, g.head .android = scaleEntry theme (name, size) ++ comma := by
      rcases hhead with hhead | hhead
      · exact ⟨"", by rw [hhead, String.append_empty]⟩
      · exact ⟨",", hhead⟩
    obtain ⟨comma, hline⟩ := hline
    cases hcs : name.toList with
    | nil => simp [Group.head_android, scaleEntry, ← String.toList_inj, toString, hcs] at hline
    | cons c rest =>
        have hne : c ≠ 'o' := by
          rintro rfl
          exact hnames name hname (by rw [hcs, List.head?_cons])
        simp [Group.head_android, scaleEntry, ← String.toList_inj, toString, hcs, hne.symm] at hline
  have hend : g.head .android ∉ ["\x7d", ""] := by
    simp [Group.head_android, ← String.toList_inj]
  rw [List.mem_append, not_or, materialTypography]
  refine ⟨hend, ?_⟩
  split
  · exact List.not_mem_nil
  · simp only [List.mem_append, not_or]
    refine ⟨⟨?_, hentries⟩, ?_⟩
    · simp [Group.head_android, ← String.toList_inj, toString]
    · simp [Group.head_android, ← String.toList_inj]

/-- The names of the constants in the object of each group. -/
theorem names_file {theme : Theme} {source : String} {lines : Lines}
    (h : file theme source = .ok lines) (g : Group) :
    Reader.names .android g lines = (g.names theme).map (calledOn .android) := by
  obtain ⟨constants, hconstants, rfl⟩ := exists_blocks h
  exact names_of_isBlock (fun g => isBlock theme (hconstants g))
    (head_not_mem_opening theme source) (head_not_mem_ending theme) g

end SpecForge.Theme.Kotlin
