import SpecForge.Proofs.Theme.TypeScale

/-!
# References in themes

The code of a theme refers to what it declares itself: the type scale refers to constants of font
sizes, and the style sheet to members of the groups that it shows. What is declared and what refers
to it is written in different places, each with a spelling of its own, and the two always agree.
-/

namespace SpecForge.Theme

open Model.Reader Text

namespace Reader

/-- An access to a member of a group, for a custom property. The member is named in quotes and
brackets, or behind a point. -/
structure Access where
  property : String
  group : String
  token : String
  isQuoted : Bool
deriving DecidableEq

/-- The member that is accessed at the end of a line, and whether it is quoted. -/
def member? (cs : List Char) : Option (String × Bool) :=
  match after? ['[', '\''] cs with
  | some rest => do
    let (token, rest) ← Quoted.read? '\'' rest
    let _ ← after? "],".toList rest
    return (String.ofList token, true)
  | none => do
    let (token, rest) ← named? "." (· == ',') (String.ofList cs)
    let _ ← after? [','] rest
    return (token, false)

/-- The access in a line of a style sheet, where all groups are members of one constant. -/
def access? (constant line : String) : Option Access := do
  let (property, rest) ← Quoted.read? '\'' (← after? "    '".toList line.toList)
  let (group, rest) ←
    named? (": " ++ constant ++ ".") (fun c => c == '.' || c == '[') (String.ofList rest)
  let (token, isQuoted) ← member? rest
  return ⟨String.ofList property, group, token, isQuoted⟩

/-- The accesses of the style sheet, if all its lines have one. -/
def accesses? (constant : String) (lines : Lines) : Option (List Access) :=
  (lines.inside "  return \x7b" "  \x7d;").mapM (access? constant)

/-- The key that a line of an object declares, and whether it is quoted. -/
def declared? (blanks line : String) : Option (String × Bool) :=
  (TypeScript.name? blanks line).map fun name => (name, begins (blanks ++ "'") line)

/-- The keys that the object of a group declares, and whether they are quoted. -/
def declarations (g : Group) (lines : Lines) : List (String × Bool) :=
  (lines.inside (g.head .web) (g.closing .web)).filterMap
    (declared? (TypeScript.pad (g.level + 1)))

end Reader

namespace TypeScript

/-! ### Keys and accesses -/

theorem allWord_of_isIdentifier {name : String} (h : Name.isIdentifier name = true) :
    Name.AllWord name.toList := by
  rw [Name.isIdentifier, beq_iff_eq] at h
  rw [← h]
  exact Name.allWord_toIdentifier name

/-- A key is quoted if and only if it is no identifier. -/
theorem begins_quote_key (blanks name rest : String) :
    begins (blanks ++ "'") (blanks ++ (key name ++ (": " ++ rest))) = !Name.isIdentifier name := by
  rw [begins, String.toList_append, String.toList_append, after?_append_append, key]
  cases h : Name.isIdentifier name with
  | false => simp [after?, singleQuoted, Quoted.write]
  | true =>
      have hsigns := Model.TypeScript.not_mem_keySigns_of_isIdentifier h
      cases hcs : name.toList with
      | nil => simp [after?, hcs]
      | cons c cs =>
          have hquote : '\'' ≠ c := by
            rintro rfl
            exact hsigns '\'' (by rw [hcs]; exact List.mem_cons_self) (by decide)
          simp [after?, hcs, hquote]

theorem declared?_line (blanks name rest : String) :
    Reader.declared? blanks (blanks ++ (key name ++ (": " ++ rest))) =
      some (name, !Name.isIdentifier name) := by
  rw [Reader.declared?, name?_line, begins_quote_key]
  rfl

theorem declared?_of_begins {blanks line : String} (h : begins (blanks ++ "/**") line = true) :
    Reader.declared? blanks line = none := by
  rw [Reader.declared?, name?_of_begins h]
  rfl

/-- The object of a group declares all tokens, those that are no identifiers in quotes. -/
theorem declarations_file {theme : Theme} {source : String} {lines : Lines}
    (h : file theme source = .ok lines) (g : Group) :
    Reader.declarations g lines =
      (g.names theme).map fun name => (name, !Name.isIdentifier name) := by
  obtain ⟨entries, hnames, hinside⟩ := exists_inside_eq h g
  rw [Reader.declarations, hinside, ← hnames, List.map_map]
  exact filterMap_entryLines (fun _ => declared?_of_begins) (declared?_line _) entries

/-- A member is accessed in quotes if and only if it is no identifier. -/
theorem member?_access (name : String) :
    Reader.member? (access name ++ ",").toList = some (name, !Name.isIdentifier name) := by
  rw [Reader.member?, access]
  cases h : Name.isIdentifier name with
  | false =>
      have hread : Quoted.read? '\'' (Quoted.escape '\'' name.toList ++ '\'' :: "],".toList) =
          some (name.toList, "],".toList) :=
        Quoted.read?_escape (by decide) _ _
      have hline : (("[" ++ singleQuoted name ++ "]") ++ ",").toList = ['[', '\''] ++
          (Quoted.escape '\'' name.toList ++ '\'' :: "],".toList) := by
        simp [singleQuoted, Quoted.write]
      rw [if_neg (by decide), hline, after?_append]
      simp only [hread, Option.bind_eq_bind, Option.bind_some]
      simp [after?]
  | true =>
      have hread : Model.Reader.named? "." (· == ',') ("." ++ name ++ ",") =
          some (name, ",".toList) :=
        named?_word "." (allWord_of_isIdentifier h) (by decide) (by simp)
      have hnone : after? ['[', '\''] ("." ++ name ++ ",").toList = none := by
        simp [after?]
      rw [if_pos rfl, hnone, String.ofList_toList]
      simp only [hread, Option.bind_eq_bind, Option.bind_some]
      simp [after?]

/-! ### The style sheet -/

/-- What is read of a custom property. -/
def Variable.access (v : Variable) : Reader.Access :=
  ⟨v.name, v.group, v.token, !Name.isIdentifier v.token⟩

theorem access?_line (theme : Theme) {v : Variable} (hgroup : Name.AllWord v.group.toList) :
    Reader.access? (constantName theme) (v.line theme) = some v.access := by
  let reference :=
    ": " ++ constantName theme ++ "." ++ v.group ++ (TypeScript.access v.token ++ ",")
  have hline : (v.line theme).toList =
      "    '".toList ++ (Quoted.escape '\'' v.name.toList ++ '\'' :: reference.toList) := by
    simp [Variable.line, reference, toString, singleQuoted, Quoted.write]
  have hproperty : Quoted.read? '\''
      (Quoted.escape '\'' v.name.toList ++ '\'' :: reference.toList) =
        some (v.name.toList, reference.toList) :=
    Quoted.read?_escape (by decide) _ _
  have hword : ∀ c ∈ v.group.toList, (c == '.' || c == '[') = false := by
    intro c hc
    have hc := hgroup c hc
    rw [Bool.or_eq_false_iff, beq_eq_false_iff_ne, beq_eq_false_iff_ne]
    constructor
    · rintro rfl
      exact absurd hc (by decide)
    · rintro rfl
      exact absurd hc (by decide)
  have hstop : ∀ c ∈ (TypeScript.access v.token ++ ",").toList.head?,
      (c == '.' || c == '[') = true := by
    rw [TypeScript.access]
    split <;> simp
  have hnamed := named?_append (": " ++ constantName theme ++ ".") hword hstop
  rw [Reader.access?, hline, after?_append]
  simp only [Option.bind_eq_bind, Option.bind_some, hproperty, String.ofList_toList, reference,
    hnamed, member?_access]
  simp [Variable.access]

theorem allWord_key (g : Group) : Name.AllWord g.key.toList := by
  cases g <;> decide

theorem accesses?_file {theme : Theme} {source : String} {lines : Lines}
    (h : file theme source = .ok lines) :
    Reader.accesses? (constantName theme) lines =
      some ((styleVariables theme).map Variable.access) := by
  rw [Reader.accesses?, inside_return_file h]
  refine mapM_map_eq_some fun v hv => access?_line theme ?_
  rw [styleVariables_eq, List.mem_flatMap] at hv
  obtain ⟨g, _, hv⟩ := hv
  obtain ⟨name, _, rfl⟩ := List.mem_map.1 hv
  exact allWord_key g

end TypeScript

/-! ### All references -/

/-- The line that declares the object by whose name others refer to what is in it. -/
def qualifier (theme : Theme) : Platform → String
  | .ios => "public enum " ++ theme.name ++ " \x7b"
  | .android => "object " ++ theme.name ++ " \x7b"
  | .web => "export const " ++ TypeScript.constantName theme ++ " = \x7b"

theorem qualifier_mem_code {p : Platform} {theme : Theme} {source : String} {lines : Lines}
    (h : theme.code p source = .ok lines) : theme.qualifier p ∈ lines := by
  cases p with
  | ios =>
      obtain ⟨constants, _, rfl⟩ := Swift.exists_blocks h
      refine List.mem_append_left _ ?_
      simp only [qualifier, Swift.opening, toString, List.mem_append, List.mem_cons, true_or,
        or_true]
  | android =>
      obtain ⟨constants, _, rfl⟩ := Kotlin.exists_blocks h
      refine List.mem_append_left _ ?_
      simp only [qualifier, Kotlin.opening, toString, List.mem_append, List.mem_cons, true_or,
        or_true]
  | web =>
      obtain ⟨entries, _, rfl⟩ := TypeScript.exists_blocks h
      refine List.mem_append_left _ ?_
      simp only [qualifier, TypeScript.opening, toString, List.mem_append, List.mem_cons, true_or,
        or_true]

/-- The accesses of a style sheet: they show all tokens of some groups, and each of them names a key
that is declared in its group, in quotes if and only if it is declared in quotes. -/
structure AccessesRefer (theme : Theme) (lines : Lines) (accesses : List Reader.Access) : Prop where
  tokens : accesses.map (fun a => (a.group, a.token)) =
    Group.styled.flatMap fun g => (g.names theme).map fun name => (g.key, name)
  declared : ∀ a ∈ accesses, ∃ g ∈ Group.styled, a.group = g.key ∧
    ∀ isQuoted, (a.token, isQuoted) ∈ Reader.declarations g lines ↔ isQuoted = a.isQuoted

theorem accessesRefer_styleVariables {theme : Theme} {source : String} {lines : Lines}
    (h : TypeScript.file theme source = .ok lines) :
    AccessesRefer theme lines
      ((TypeScript.styleVariables theme).map TypeScript.Variable.access) := by
  constructor
  · rw [TypeScript.styleVariables_eq, List.map_map, List.map_flatMap]
    refine congrArg (List.flatMap · Group.styled) (funext fun g => ?_)
    rw [List.map_map]
    rfl
  · intro a ha
    obtain ⟨v, hv, rfl⟩ := List.mem_map.1 ha
    rw [TypeScript.styleVariables_eq, List.mem_flatMap] at hv
    obtain ⟨g, hg, hv⟩ := hv
    obtain ⟨name, hname, rfl⟩ := List.mem_map.1 hv
    refine ⟨g, hg, rfl, fun isQuoted => ?_⟩
    simp only [TypeScript.Variable.access]
    rw [TypeScript.declarations_file h, List.mem_map]
    constructor
    · rintro ⟨other, _, heq⟩
      obtain ⟨htoken, hquoted⟩ := Prod.mk.inj heq
      rw [← hquoted, htoken]
    · intro hquoted
      rw [hquoted]
      exact ⟨name, hname, rfl⟩

/-- All references in the code of a theme are to what the code declares. On two platforms there is a
type scale, which has those of its names that a font size has as well, each once and in order, and
refers to the constant that is declared for the last such size. Style sheets access all tokens that
they show by the keys of their groups, as these are declared there. -/
theorem references_code (theme : Theme) (p : Platform) (source : String) :
    GivenIf (theme.IsPrintable p) (theme.code p source) ∧
    ∀ lines, theme.code p source = .ok lines →
      theme.sourceFile p source = .ok ⟨theme.fileName p, lines.joined⟩ ∧
      theme.qualifier p ∈ lines ∧
      (p ≠ .web → ∃ entries, Reader.scale? p theme.name lines = some entries ∧
        ScaleRefers theme p lines entries) ∧
      (p = .web → ∃ accesses,
        Reader.accesses? (TypeScript.constantName theme) lines = some accesses ∧
          AccessesRefer theme lines accesses) := by
  refine ⟨givenIf_code theme p source, fun lines hlines => ?_⟩
  refine ⟨sourceFile_of_code hlines, qualifier_mem_code hlines, fun hp => ?_, fun hp => ?_⟩
  · have hscale := scaleRefers_scaleOn hlines
    cases p with
    | ios => exact ⟨_, Swift.scale?_file hlines, hscale⟩
    | android => exact ⟨_, Kotlin.scale?_file hlines, hscale⟩
    | web => exact absurd rfl hp
  · cases hp
    exact ⟨_, TypeScript.accesses?_file hlines, accessesRefer_styleVariables hlines⟩

/-- A document with two font sizes for one name of the type scale, and a color whose name needs
quotes. -/
def rivalDocument : Value :=
  .record [("colors", .record [("primary", .str "#336699"), ("2x", .str "#000000")]),
    ("typography", .record [("fontSizes", .record
      [("bodyLarge", .str "16px"), ("bodylarge", .str "17px"), ("tiny", .int 9)])])]

theorem references_rivalDocument : ∃ theme, ofTokens rivalDocument "Theme" = .ok theme ∧
    (∃ lines, theme.code .android "tokens.json" = .ok lines ∧
      Reader.scale? .android theme.name lines = some [("bodyLarge", "Bodylarge")] ∧
      ScaleRefers theme .android lines [("bodyLarge", "Bodylarge")]) ∧
    ∃ lines accesses, theme.code .web "tokens.json" = .ok lines ∧
      Reader.accesses? (TypeScript.constantName theme) lines = some accesses ∧
      accesses.map (fun a => (a.token, a.isQuoted)) = [("primary", false), ("2x", true)] ∧
      AccessesRefer theme lines accesses := by
  have hscale : ((ofTokens rivalDocument "Theme").toOption.bind fun theme =>
      (theme.code .android "tokens.json").toOption.bind fun lines =>
        Reader.scale? .android theme.name lines) = some [("bodyLarge", "Bodylarge")] := by
    decide +kernel
  have haccesses : ((ofTokens rivalDocument "Theme").toOption.bind fun theme =>
      (theme.code .web "tokens.json").toOption.bind fun lines =>
        (Reader.accesses? (TypeScript.constantName theme) lines).map
          (List.map fun a => (a.token, a.isQuoted))) = some [("primary", false), ("2x", true)] := by
    decide +kernel
  obtain ⟨theme, htheme, hscale⟩ := Option.bind_eq_some_iff.1 hscale
  rw [htheme, Option.bind_some] at haccesses
  obtain ⟨kotlin, hkotlin, hscale⟩ := Option.bind_eq_some_iff.1 hscale
  obtain ⟨sheet, hsheet, haccesses⟩ := Option.bind_eq_some_iff.1 haccesses
  obtain ⟨accesses, haccesses, htokens⟩ := Option.map_eq_some_iff.1 haccesses
  have hkotlin := eq_ok_of_toOption hkotlin
  have hsheet := eq_ok_of_toOption hsheet
  obtain ⟨_, hall⟩ := references_code theme .android "tokens.json"
  obtain ⟨_, _, hentries, _⟩ := hall kotlin hkotlin
  obtain ⟨entries, hread, hrefers⟩ := hentries (by decide)
  obtain ⟨_, hall⟩ := references_code theme .web "tokens.json"
  obtain ⟨_, _, _, hmembers⟩ := hall sheet hsheet
  obtain ⟨accesses', hread', hrefers'⟩ := hmembers rfl
  rw [hscale] at hread
  rw [haccesses] at hread'
  cases hread
  cases hread'
  exact ⟨theme, eq_ok_of_toOption htheme, ⟨kotlin, hkotlin, hscale, hrefers⟩,
    sheet, accesses, hsheet, haccesses, htokens, hrefers'⟩

end SpecForge.Theme
