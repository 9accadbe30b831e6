import SpecForge.Proofs.Api.TypeScript
import SpecForge.Proofs.Theme.Reader

/-!
# The names in TypeScript themes

Each group is an object with one key for each token; those of typography stand within an object of
their own. Style sheets get a custom property for each color, each distance and each radius.
-/

namespace SpecForge.Theme.TypeScript

open Model.Reader Text

/-- An entry for the token with a name. Outside typography all values stand between quotes. -/
structure Entry.IsFor (g : Group) (name : String) (e : Entry) : Prop where
  name : e.name = name
  value : g.isInner = false → ∃ text, e.value = singleQuoted text

/-- What stands before the block of a group: the lines that open and close typography. -/
def around (t : Typography) (g : Group) : Lines :=
  if t.isEmpty then []
  else match g with
    | .fontFamilies => ["  typography: \x7b"]
    | .spacing => ["  \x7d,", ""]
    | _ => []

/-- The block of a group. -/
def block (theme : Theme) (g : Group) (entries : List Entry) : Lines.Block where
  before := around theme.typography g
  above := []
  head := g.head .web
  body := entryLines g.level entries
  closing := g.closing .web
  below := if g.isInner then [] else [""]

theorem entryLines_eq_nil_iff {level : Nat} {entries : List Entry} :
    entryLines level entries = [] ↔ entries = [] := by
  induction entries using entryLines.induct with
  | case1 => simp [entryLines]
  | case2 e => simp [entryLines]
  | case3 e rest hrest _ => simp [entryLines.eq_3 level e rest hrest]

theorem body_eq_nil_iff {theme : Theme} {g : Group} {entries : List Entry} :
    (block theme g entries).body = [] ↔ entries = [] := entryLines_eq_nil_iff

theorem lines_block_inner (theme : Theme) {g : Group} (h : g.isInner = true)
    (entries : List Entry) : (block theme g entries).lines =
      around theme.typography g ++ groupLines 2 g.key entries := by
  rw [Lines.Block.lines, groupLines]
  by_cases hnil : entries = []
  · rw [if_pos (body_eq_nil_iff.2 hnil), if_pos (List.isEmpty_iff.2 hnil)]
    rfl
  · rw [if_neg (mt body_eq_nil_iff.1 hnil), if_neg (by simpa using hnil)]
    simp [block, Group.head_web, Group.closing, Group.level, h, toString]

theorem lines_block_outer (theme : Theme) {g : Group} (h : g.isInner = false)
    (entries : List Entry) : (block theme g entries).lines =
      around theme.typography g ++ outerGroup g.key entries := by
  rw [Lines.Block.lines, outerGroup, groupLines]
  by_cases hnil : entries = []
  · rw [if_pos (body_eq_nil_iff.2 hnil), if_pos (List.isEmpty_iff.2 hnil)]
    rfl
  · rw [if_neg (mt body_eq_nil_iff.1 hnil), if_neg (by simpa using hnil),
      if_neg (by simpa using hnil)]
    simp [block, Group.head_web, Group.closing, Group.level, h, toString]

/-! ### Entries -/

/-- A key stands between quotes, or none of its characters is a sign. -/
theorem key_cases (name : String) : key name = singleQuoted name ∨
    (key name = name ∧ ∀ c ∈ name.toList, c ∉ Model.TypeScript.keySigns) := by
  rw [key]
  split
  · rename_i h
    exact .inr ⟨rfl, Model.TypeScript.not_mem_keySigns_of_isIdentifier h⟩
  · exact .inl rfl

/-- No key begins as a comment does. -/
theorem begins_key (name rest : String) : begins "/**" (key name ++ (": " ++ rest)) = false := by
  rcases key_cases name with h | ⟨h, hsigns⟩
  · rw [h]
    simp [begins, after?, singleQuoted, Quoted.write]
  · rw [h]
    cases hcs : name.toList with
    | nil => simp [begins, after?, hcs]
    | cons c cs =>
        have hslash : '/' ≠ c := by
          rintro rfl
          exact hsigns '/' (by rw [hcs]; exact List.mem_cons_self) (by decide)
        simp [begins, after?, hcs, hslash]

/-- The key of an entry is read, whatever its value is. -/
theorem name?_line (blanks name rest : String) :
    Reader.TypeScript.name? blanks (blanks ++ (key name ++ (": " ++ rest))) = some name := by
  have hcomment : begins (blanks ++ "/**") (blanks ++ (key name ++ (": " ++ rest))) = false := by
    have hkey := begins_key name rest
    rw [begins] at hkey ⊢
    rw [String.toList_append, String.toList_append, after?_append_append]
    exact hkey
  have hread := Api.TypeScript.key?_append (key_cases name) (c := ':') (.inr rfl)
    (" " ++ rest).toList
  have hline : (key name ++ (": " ++ rest)).toList =
      (key name).toList ++ ':' :: (" " ++ rest).toList := by
    simp
  rw [Reader.TypeScript.name?, if_neg (by rw [hcomment]; decide), String.toList_append,
    after?_append, Option.bind_eq_bind, Option.bind_some, hline, hread]
  rfl

/-- The comment above an entry is known by what it begins with. -/
theorem filterMap_comment {β : Type} {read : String → Option β} {level : Nat}
    (hread : ∀ line, begins (pad (level + 1) ++ "/**") line = true → read line = none)
    (e : Entry) : (e.comment level).filterMap read = [] := by
  rw [Entry.comment]
  rcases Lines.docComment_eq .block e.description with hnil | ⟨rest, hline⟩
  · rw [hnil]
    rfl
  · have hbegins : begins (pad (level + 1) ++ "/**") (pad (level + 1) ++ ("/** " ++ rest)) =
        true := by
      rw [begins, String.toList_append, String.toList_append, after?_append_append]
      simp [after?]
    rw [hline, List.map_singleton, Lines.CommentStyle.opening, List.filterMap_cons,
      hread _ hbegins]
    rfl

/-- A comment has no key. -/
theorem name?_of_begins {blanks line : String} (h : begins (blanks ++ "/**") line = true) :
    Reader.TypeScript.name? blanks line = none := by
  rw [Reader.TypeScript.name?, if_pos h]

theorem line_eq (level : Nat) (e : Entry) :
    e.line level = pad (level + 1) ++ (key e.name ++ (": " ++ e.value)) := by
  simp [Entry.line, toString, String.append_assoc]

/-- What is read from the entries, where nothing is read from comments and something is read from
each key, whatever its value is. -/
theorem filterMap_entryLines {β : Type} {read : String → Option β} {found : String → β}
    {level : Nat}
    (hcomment : ∀ line, begins (pad (level + 1) ++ "/**") line = true → read line = none)
    (hline : ∀ name rest, read (pad (level + 1) ++ (key name ++ (": " ++ rest))) =
      some (found name)) (entries : List Entry) :
    (entryLines level entries).filterMap read = entries.map fun e => found e.name := by
  induction entries using entryLines.induct with
  | case1 => rfl
  | case2 e =>
      rw [entryLines, List.filterMap_append, filterMap_comment hcomment e, line_eq,
        List.filterMap_cons, hline]
      rfl
  | case3 e rest hrest ih =>
      have hcomma : e.line level ++ "," =
          pad (level + 1) ++ (key e.name ++ (": " ++ (e.value ++ ","))) := by
        rw [line_eq]
        simp [String.append_assoc]
      rw [entryLines.eq_3 level e rest hrest, List.filterMap_append, List.filterMap_append,
        filterMap_comment hcomment e, ih, hcomma, List.filterMap_cons, hline]
      rfl

/-- A line of entries is a comment, or it has a value behind a key. -/
theorem of_mem_entryLines {level : Nat} {entries : List Entry} {line : String}
    (h : line ∈ entryLines level entries) :
    (∃ rest, line = pad (level + 1) ++ ("/** " ++ rest)) ∨
      ∃ e ∈ entries, line = e.line level ∨ line = e.line level ++ "," := by
  have hcomment : ∀ e : Entry, line ∈ e.comment level →
      ∃ rest, line = pad (level + 1) ++ ("/** " ++ rest) := by
    intro e hl
    obtain ⟨text, ht, rfl⟩ := List.mem_map.1 hl
    obtain ⟨rest, rfl⟩ := Lines.mem_docComment ht
    exact ⟨rest, rfl⟩
  induction entries using entryLines.induct with
  | case1 => exact absurd h List.not_mem_nil
  | case2 e =>
      rw [entryLines, List.mem_append, List.mem_singleton] at h
      rcases h with h | h
      · exact .inl (hcomment e h)
      · exact .inr ⟨e, List.mem_cons_self, .inl h⟩
  | case3 e rest hrest ih =>
      rw [entryLines.eq_3 level e rest hrest, List.mem_append, List.mem_append,
        List.mem_singleton] at h
      rcases h with (h | h) | h
      · exact .inl (hcomment e h)
      · exact .inr ⟨e, List.mem_cons_self, .inr h⟩
      · rcases ih h with hfound | ⟨other, ho, hother⟩
        · exact .inl hfound
        · exact .inr ⟨other, List.mem_cons_of_mem e ho, hother⟩

/-! ### Blocks -/

/-- A line that does not stand as far to the right as the entries is none of them. -/
theorem not_mem_entryLines {level : Nat} {line : String}
    (h : begins (pad (level + 1)) line = false) (entries : List Entry) :
    line ∉ entryLines level entries := by
  intro hmem
  have hdeep : ∃ rest, line = pad (level + 1) ++ rest := by
    rcases of_mem_entryLines hmem with ⟨rest, hl⟩ | ⟨e, _, hl | hl⟩
    · exact ⟨_, hl⟩
    · exact ⟨_, hl.trans (line_eq level e)⟩
    · refine ⟨key e.name ++ (": " ++ (e.value ++ ",")), ?_⟩
      rw [hl, line_eq]
      simp [String.append_assoc]
  obtain ⟨rest, rfl⟩ := hdeep
  rw [begins, String.toList_append, after?_append] at h
  cases h

theorem getLast?_singleQuoted (front text : String) :
    (front ++ singleQuoted text).toList.getLast? = some '\'' := by
  have hquoted : (singleQuoted text).toList =
      ('\'' :: Quoted.escape '\'' text.toList) ++ ['\''] := by
    rw [singleQuoted, Quoted.write, String.toList_ofList]
  rw [String.toList_append, hquoted, ← List.append_assoc, List.getLast?_concat]

/-- No entry outside typography is a line that opens a block, for it ends with a quote or a comma.
-/
theorem head_not_mem_entryLines {entries : List Entry}
    (hvalues : ∀ e ∈ entries, ∃ text, e.value = singleQuoted text) (g : Group) :
    g.head .web ∉ entryLines 1 entries := by
  have hlast : (g.head .web).toList.getLast? = some '\x7b' := by
    cases g <;> decide
  intro hmem
  rcases of_mem_entryLines hmem with ⟨rest, hl⟩ | ⟨e, hmem, hl⟩
  · cases g <;> simp [Group.head_web, Group.level, Group.isInner, Group.key, pad,
      ← String.toList_inj] at hl
  · obtain ⟨text, hvalue⟩ := hvalues e hmem
    rcases hl with hl | hl
    · rw [hl, line_eq, hvalue, ← String.append_assoc, ← String.append_assoc,
        getLast?_singleQuoted] at hlast
      exact absurd hlast (by decide)
    · rw [hl, String.toList_append] at hlast
      have hcomma : ",".toList = [','] := by decide
      rw [hcomma, List.getLast?_concat] at hlast
      exact absurd hlast (by decide)

/-- A line that is neither one of those around the entries nor one of those for the entries. -/
theorem lacks_of_not_mem (theme : Theme) {g : Group} {entries : List Entry} {line : String}
    (hbody : line ∉ entryLines g.level entries)
    (hplain : line ∉ ["  typography: \x7b", "  \x7d,", "    \x7d,", ""]) :
    (block theme g entries).Lacks line := by
  simp only [List.mem_cons, List.not_mem_nil, or_false, not_or] at hplain
  obtain ⟨hopen, houter, hinner, hempty⟩ := hplain
  have hbefore : line ∉ (block theme g entries).before := by
    simp only [block, around]
    split
    · exact List.not_mem_nil
    · cases g <;> simp [hopen, houter, hempty]
  have hclosing : line ≠ (block theme g entries).closing := by
    cases g <;> simp [block, Group.closing, Group.level, Group.isInner, pad] <;> assumption
  have hbelow : line ∉ (block theme g entries).below := by
    cases g <;> simp [block, Group.isInner, hempty]
  simp only [Lines.Block.Lacks, List.mem_append, List.mem_cons, not_or]
  exact ⟨⟨⟨hbefore, List.not_mem_nil⟩, hbody⟩, hclosing, hbelow⟩

/-- The block of a group of typography is opened as far to the right as the entries of the other
groups stand. All other lines that open a block stand further to the left than any entry that could
be in their way. -/
theorem lacks_block (theme : Theme) {g : Group} {names : List String} {entries : List Entry}
    (h : List.Forall₂ (Entry.IsFor g) names entries) (other : Group) :
    (block theme g entries).Lacks (other.head .web) := by
  have hplain : other.head .web ∉ ["  typography: \x7b", "  \x7d,", "    \x7d,", ""] := by
    cases other <;> decide +kernel
  refine lacks_of_not_mem theme ?_ hplain
  cases hg : g.isInner with
  | true =>
      have hleft : begins (pad (g.level + 1)) (other.head .web) = false := by
        rw [Group.level, hg]
        cases other <;> decide +kernel
      exact not_mem_entryLines hleft entries
  | false =>
      have hvalues : ∀ e ∈ entries, ∃ text, e.value = singleQuoted text := by
        intro e he
        obtain ⟨name, _, hfor⟩ := exists_of_forall₂_of_mem h he
        exact hfor.value hg
      rw [Group.level, hg]
      exact head_not_mem_entryLines hvalues other

/-- The entries are named by the tokens they are for. -/
theorem map_name_of_isFor {g : Group} {names : List String} {entries : List Entry}
    (h : List.Forall₂ (Entry.IsFor g) names entries) : entries.map (·.name) = names := by
  have hsame : List.Forall₂ (fun name (e : Entry) => e.name = id name) names entries :=
    h.imp fun _ _ hfor => hfor.name
  rw [map_eq_map_of_forall₂ hsame, List.map_id]

theorem isBlock (theme : Theme) {g : Group} {names : List String} {entries : List Entry}
    (h : List.Forall₂ (Entry.IsFor g) names entries) :
    IsBlock .web g names (block theme g entries) where
  head := rfl
  closing := rfl
  declares := by
    have hcalled : names.map (calledOn .web) = names := List.map_id names
    rw [Declares, hcalled, ← map_name_of_isFor h]
    exact filterMap_entryLines (fun _ => name?_of_begins) (name?_line _) entries
  closed := by
    have hleft : begins (pad (g.level + 1)) (g.closing .web) = false := by
      cases g <;> decide +kernel
    exact not_mem_entryLines hleft entries
  lacks := lacks_block theme h

/-! ### The file -/

theorem isFor_valueEntry (g : Group) (t : ValueToken) : (valueEntry t).IsFor g t.name :=
  ⟨rfl, fun _ => ⟨t.value, rfl⟩⟩

theorem isFor_familyEntry (g : Group) (t : FontFamily) : (familyEntry t).IsFor g t.name :=
  ⟨rfl, fun _ => ⟨_, rfl⟩⟩

theorem isFor_dimensionEntry (g : Group) {t : DimensionToken} {e : Entry}
    (h : dimensionEntry t = .ok e) : e.IsFor g t.name := by
  obtain ⟨text, _, h⟩ := bind_eq_ok_iff.1 h
  cases h
  exact ⟨rfl, fun _ => ⟨text, rfl⟩⟩

/-- The number of a weight stands there without quotes. -/
theorem isFor_weightEntry {t : FontWeight} {e : Entry} (h : weightEntry t = .ok e) :
    e.IsFor .fontWeights t.name := by
  have hinner : Group.fontWeights.isInner ≠ false := by decide
  rw [weightEntry] at h
  split at h
  · obtain ⟨text, _, h⟩ := bind_eq_ok_iff.1 h
    cases h
    exact ⟨rfl, fun houter => absurd houter hinner⟩
  · cases h
    exact ⟨rfl, fun houter => absurd houter hinner⟩

/-- What stands in a file behind the blocks of the groups. -/
def ending (theme : Theme) : Lines :=
  ["\x7d as const;", ""] ++ typeLines theme ++ variableLines theme ++ hookLines theme

/-- What stands in a file before the blocks of the groups. -/
def opening (theme : Theme) (source : String) : Lines :=
  Lines.header source ++
    ["",
      "/**",
      s!" * Design system theme generated from {source}",
      " */",
      s!"export const {constantName theme} = \x7b"]

/-- The blocks of typography with the lines around them. -/
theorem typographyLines_eq {theme : Theme} {typography : Lines}
    (h : typographyLines theme.typography = .ok typography) :
    ∃ sizes weights heights distances,
      theme.typography.fontSizes.mapM dimensionEntry = .ok sizes ∧
      theme.typography.fontWeights.mapM weightEntry = .ok weights ∧
      theme.typography.lineHeights.mapM dimensionEntry = .ok heights ∧
      theme.typography.letterSpacing.mapM dimensionEntry = .ok distances ∧
      typography = around theme.typography .fontFamilies ++
        groupLines 2 "fontFamilies" (theme.typography.fontFamilies.map familyEntry) ++
        groupLines 2 "fontSizes" sizes ++ groupLines 2 "fontWeights" weights ++
        groupLines 2 "lineHeights" heights ++ groupLines 2 "letterSpacing" distances ++
        around theme.typography .spacing := by
  obtain ⟨sizes, hsizes, h⟩ := bind_eq_ok_iff.1 h
  obtain ⟨weights, hweights, h⟩ := bind_eq_ok_iff.1 h
  obtain ⟨heights, hheights, h⟩ := bind_eq_ok_iff.1 h
  obtain ⟨distances, hdistances, h⟩ := bind_eq_ok_iff.1 h
  refine ⟨sizes, weights, heights, distances, hsizes, hweights, hheights, hdistances, ?_⟩
  split at h
  · rename_i hempty
    cases h
    simp only [Typography.isEmpty, Bool.and_eq_true, List.isEmpty_iff] at hempty
    obtain ⟨⟨⟨⟨hf, hs⟩, hw⟩, hh⟩, hd⟩ := hempty
    rw [hs] at hsizes
    rw [hw] at hweights
    rw [hh] at hheights
    rw [hd] at hdistances
    cases hsizes
    cases hweights
    cases hheights
    cases hdistances
    simp [around, Typography.isEmpty, groupLines, hf, hs, hw, hh, hd]
  · rename_i hempty
    cases h
    simp [around, hempty]

/-- A file consists of a block for each group, with entries for the tokens of the group. -/
theorem exists_blocks {theme : Theme} {source : String} {lines : Lines}
    (h : file theme source = .ok lines) : ∃ entries : Group → List Entry,
      (∀ g, List.Forall₂ (Entry.IsFor g) (g.names theme) (entries g)) ∧
      lines = opening theme source ++
        (Group.all.flatMap (fun g => (block theme g (entries g)).lines) ++ ending theme) := by
  obtain ⟨object, hobject, h⟩ := bind_eq_ok_iff.1 h
  cases h
  obtain ⟨typography, htypography, hobject⟩ := bind_eq_ok_iff.1 hobject
  obtain ⟨spacing, hspacing, hobject⟩ := bind_eq_ok_iff.1 hobject
  obtain ⟨radii, hradii, hobject⟩ := bind_eq_ok_iff.1 hobject
  obtain ⟨breakpoints, hbreakpoints, hobject⟩ := bind_eq_ok_iff.1 hobject
  cases hobject
  obtain ⟨sizes, weights, heights, distances, hsizes, hweights, hheights, hdistances, rfl⟩ :=
    typographyLines_eq htypography
  let entries : Group → List Entry := Group.choose (theme.colors.map valueEntry)
    (theme.typography.fontFamilies.map familyEntry) sizes weights heights distances spacing radii
    (theme.shadows.map valueEntry) breakpoints
  refine ⟨entries, fun g => ?_, ?_⟩
  · cases g with
    | colors => exact forall₂_names_of_map (isFor_valueEntry _) theme.colors
    | fontFamilies =>
        exact forall₂_names_of_map (isFor_familyEntry _) theme.typography.fontFamilies
    | fontSizes => exact forall₂_names_of_mapM (fun _ _ => isFor_dimensionEntry _) hsizes
    | fontWeights => exact forall₂_names_of_mapM (fun _ _ => isFor_weightEntry) hweights
    | lineHeights => exact forall₂_names_of_mapM (fun _ _ => isFor_dimensionEntry _) hheights
    | letterSpacing => exact forall₂_names_of_mapM (fun _ _ => isFor_dimensionEntry _) hdistances
    | spacing => exact forall₂_names_of_mapM (fun _ _ => isFor_dimensionEntry _) hspacing
    | borderRadius => exact forall₂_names_of_mapM (fun _ _ => isFor_dimensionEntry _) hradii
    | shadows => exact forall₂_names_of_map (isFor_valueEntry _) theme.shadows
    | breakpoints =>
        exact forall₂_names_of_mapM (fun _ _ => isFor_dimensionEntry _) hbreakpoints
  · have hplain : ∀ g : Group, g ≠ .fontFamilies → g ≠ .spacing →
        around theme.typography g = [] := by
      intro g hf hs
      cases g with
      | fontFamilies => exact absurd rfl hf
      | spacing => exact absurd rfl hs
      | _ => exact ite_self _
    simp only [Group.all, List.flatMap_cons, List.flatMap_nil]
    rw [lines_block_outer theme (g := .colors) rfl,
      lines_block_inner theme (g := .fontFamilies) rfl,
      lines_block_inner theme (g := .fontSizes) rfl,
      lines_block_inner theme (g := .fontWeights) rfl,
      lines_block_inner theme (g := .lineHeights) rfl,
      lines_block_inner theme (g := .letterSpacing) rfl,
      lines_block_outer theme (g := .spacing) rfl, lines_block_outer theme (g := .borderRadius) rfl,
      lines_block_outer theme (g := .shadows) rfl, lines_block_outer theme (g := .breakpoints) rfl]
    simp [hplain, opening, ending, entries, Group.choose, Group.key]

/-- How the lines that open blocks begin, and how other lines as far to the right do not. -/
theorem head_eq_cons (g : Group) :
    (∃ c rest, (g.head .web).toList = ' ' :: ' ' :: c :: rest ∧
      c ≠ ' ' ∧ c ≠ 'r' ∧ c ≠ 'i' ∧ c ≠ '\x7d') ∨
    ∃ c rest, (g.head .web).toList = ' ' :: ' ' :: ' ' :: ' ' :: c :: rest ∧
      c ≠ '\'' ∧ c ≠ ' ' ∧ c ≠ 'c' ∧ c ≠ 'O' ∧ c ≠ '\x7d' := by
  cases g with
  | colors => exact .inl ⟨'c', _, rfl, by decide⟩
  | fontFamilies => exact .inr ⟨'f', _, rfl, by decide⟩
  | fontSizes => exact .inr ⟨'f', _, rfl, by decide⟩
  | fontWeights => exact .inr ⟨'f', _, rfl, by decide⟩
  | lineHeights => exact .inr ⟨'l', _, rfl, by decide⟩
  | letterSpacing => exact .inr ⟨'l', _, rfl, by decide⟩
  | spacing => exact .inl ⟨'s', _, rfl, by decide⟩
  | borderRadius => exact .inl ⟨'b', _, rfl, by decide⟩
  | shadows => exact .inl ⟨'s', _, rfl, by decide⟩
  | breakpoints => exact .inl ⟨'b', _, rfl, by decide⟩

/-- No line of the opening stands to the right. -/
theorem not_mem_opening (theme : Theme) (source : String) {line : String} {rest : List Char}
    (h : line.toList = ' ' :: ' ' :: rest) : line ∉ opening theme source := by
  simp [opening, Lines.header, Lines.provenance, ← String.toList_inj, toString, h]

theorem not_mem_typeLines (theme : Theme) {line : String} {rest : List Char}
    (h : line.toList = ' ' :: ' ' :: rest) : line ∉ typeLines theme := by
  have htype : ∀ isEmpty type group, line ∉ tokenType theme isEmpty type group := by
    intro isEmpty type group
    rw [tokenType]
    split
    · exact List.not_mem_nil
    · simp [← String.toList_inj, toString, h]
  simp only [typeLines, List.mem_append, not_or]
  refine ⟨⟨⟨⟨?_, htype _ _ _⟩, htype _ _ _⟩, htype _ _ _⟩, ?_⟩ <;>
    simp [← String.toList_inj, toString, h]

/-- The lines of the style sheet stand as far to the right as those of typography, and begin with
quotes. -/
theorem head_not_mem_variableLines (theme : Theme) (g : Group) :
    g.head .web ∉ variableLines theme := by
  simp only [variableLines, List.mem_append, List.mem_map, not_or]
  rcases head_eq_cons g with ⟨c, rest, hhead, hc⟩ | ⟨c, rest, hhead, hc⟩ <;>
    refine ⟨⟨?_, ?_⟩, ?_⟩ <;>
      simp [← String.toList_inj, toString, hhead, hc, hc.1.symm, Variable.line, singleQuoted,
        Quoted.write]

theorem head_not_mem_hookLines (theme : Theme) (g : Group) : g.head .web ∉ hookLines theme := by
  rw [hookLines]
  split
  · exact List.not_mem_nil
  · rcases head_eq_cons g with ⟨c, rest, hhead, hc⟩ | ⟨c, rest, hhead, hc⟩ <;>
      simp [← String.toList_inj, toString, hhead, hc]

theorem exists_head_eq_cons (g : Group) : ∃ rest, (g.head .web).toList = ' ' :: ' ' :: rest := by
  rcases head_eq_cons g with ⟨c, rest, hhead, _⟩ | ⟨c, rest, hhead, _⟩ <;> exact ⟨_, hhead⟩

theorem head_not_mem_ending (theme : Theme) (g : Group) : g.head .web ∉ ending theme := by
  obtain ⟨rest, hhead⟩ := exists_head_eq_cons g
  have hclose : g.head .web ∉ ["\x7d as const;", ""] := by
    simp [← String.toList_inj, hhead]
  simp only [ending, List.mem_append, not_or]
  exact ⟨⟨⟨hclose, not_mem_typeLines theme hhead⟩, head_not_mem_variableLines theme g⟩,
    head_not_mem_hookLines theme g⟩

theorem head_not_mem_opening (theme : Theme) (source : String) (g : Group) :
    g.head .web ∉ opening theme source := by
  obtain ⟨rest, hhead⟩ := exists_head_eq_cons g
  exact not_mem_opening theme source hhead

/-- The names of the keys in the object of each group. -/
theorem names_file {theme : Theme} {source : String} {lines : Lines}
    (h : file theme source = .ok lines) (g : Group) :
    Reader.names .web g lines = (g.names theme).map (calledOn .web) := by
  obtain ⟨entries, hentries, rfl⟩ := exists_blocks h
  exact names_of_isBlock (fun g => isBlock theme (hentries g)) (head_not_mem_opening theme source)
    (head_not_mem_ending theme) g

/-- The entries of each group stand in its block. -/
theorem exists_inside_eq {theme : Theme} {source : String} {lines : Lines}
    (h : file theme source = .ok lines) (g : Group) : ∃ entries : List Entry,
      entries.map (·.name) = g.names theme ∧
      lines.inside (g.head .web) (g.closing .web) = entryLines g.level entries := by
  obtain ⟨entries, hentries, rfl⟩ := exists_blocks h
  exact ⟨entries g, map_name_of_isFor (hentries g),
    inside_of_isBlock (fun g => isBlock theme (hentries g)) (head_not_mem_opening theme source)
      (head_not_mem_ending theme) g⟩

/-! ### The style sheet -/

/-- The name of a custom property is read, whatever token it shows. -/
theorem propertyName?_line (theme : Theme) (v : Variable) :
    Reader.propertyName? (v.line theme) = some v.name := by
  have hline : (v.line theme).toList = "    '".toList ++
      (Quoted.escape '\'' v.name.toList ++
        '\'' :: s!": {constantName theme}.{v.group}{access v.token},".toList) := by
    simp [Variable.line, toString, singleQuoted, Quoted.write]
  rw [Reader.propertyName?, hline, after?_append, Option.bind_eq_bind, Option.bind_some,
    Quoted.read?_escape (by decide)]
  simp

theorem return_not_mem_block (theme : Theme) (g : Group) (entries : List Entry) :
    "  return \x7b" ∉ (block theme g entries).lines := by
  have hleft : begins (pad (g.level + 1)) "  return \x7b" = false := by
    cases g <;> decide +kernel
  have hlacks := lacks_of_not_mem theme (not_mem_entryLines hleft entries) (by decide)
  have hne : g.head .web ≠ "  return \x7b" := by
    cases g <;> decide
  exact Lines.Block.not_mem_lines hlacks hne

/-- What the function of the style sheet returns. -/
theorem inside_return_file {theme : Theme} {source : String} {lines : Lines}
    (h : file theme source = .ok lines) :
    lines.inside "  return \x7b" "  \x7d;" = (styleVariables theme).map (Variable.line theme) := by
  obtain ⟨entries, _, rfl⟩ := exists_blocks h
  let head := ["/**",
    " * Export theme as CSS custom properties",
    " */",
    s!"export function {constantName theme}ToCSSVariables(): Record<string, string> \x7b"]
  let blocks := Group.all.flatMap fun g => (block theme g (entries g)).lines
  let front := opening theme source ++ blocks ++ ["\x7d as const;", ""] ++ typeLines theme ++ head
  have hlines : opening theme source ++ (blocks ++ ending theme) =
      front ++ "  return \x7b" :: ((styleVariables theme).map (Variable.line theme) ++
        "  \x7d;" :: (["\x7d", ""] ++ hookLines theme)) := by
    simp [front, head, ending, variableLines]
  have hreturn : "  return \x7b".toList = ' ' :: ' ' :: "return \x7b".toList := rfl
  have hfront : "  return \x7b" ∉ front := by
    have hblocks : "  return \x7b" ∉ blocks := by
      intro hmem
      obtain ⟨g, _, hmem⟩ := List.mem_flatMap.1 hmem
      exact return_not_mem_block theme g (entries g) hmem
    have hhead : "  return \x7b" ∉ head := by
      simp [head, ← String.toList_inj, toString]
    simp only [front, List.mem_append, not_or]
    exact ⟨⟨⟨⟨not_mem_opening theme source hreturn, hblocks⟩, by decide⟩,
      not_mem_typeLines theme hreturn⟩, hhead⟩
  have hbody : "  \x7d;" ∉ (styleVariables theme).map (Variable.line theme) := by
    intro hmem
    obtain ⟨v, _, hv⟩ := List.mem_map.1 hmem
    have hchars := congrArg String.toList hv
    simp [Variable.line, toString, singleQuoted, Quoted.write] at hchars
  rw [hlines, Lines.inside_block hfront hbody]

/-- The custom properties of the style sheet. -/
theorem propertyNames_file {theme : Theme} {source : String} {lines : Lines}
    (h : file theme source = .ok lines) :
    Reader.propertyNames lines = (styleVariables theme).map (·.name) := by
  have hread : Reader.propertyName? ∘ Variable.line theme = some ∘ (·.name) := by
    funext v
    exact propertyName?_line theme v
  rw [Reader.propertyNames, inside_return_file h, List.filterMap_map, hread,
    List.filterMap_eq_map]

end SpecForge.Theme.TypeScript
