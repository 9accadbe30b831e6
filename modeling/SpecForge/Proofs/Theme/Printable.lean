import SpecForge.Generator
import SpecForge.Proofs.Outcome

/-!
# Themes that can be written

A theme becomes a file on a platform if and only if its dimensions can be spelled and so can the
weights of its fonts. Two platforms want whole numbers for the weights, which numbers that are not
finite do not give.
-/

namespace SpecForge

theorem givenIf_ofLines (isSpellable : Bool) (name : String) (lines : Lines) :
    GivenIf (isSpellable = true) (SourceFile.ofLines isSpellable name lines) := by
  rw [SourceFile.ofLines]
  cases isSpellable with
  | true => exact (givenIf_ok _).congr (by simp)
  | false => exact (givenIf_error rfl).congr (by simp)

theorem Decimal.Number.givenIf_spelled (n : Decimal.Number) :
    GivenIf (n.isSpellable = true) n.spelled := by
  rw [Decimal.Number.spelled]
  cases hn : n.isSpellable with
  | true => exact (givenIf_ok _).congr (by simp)
  | false => exact (givenIf_error rfl).congr (by simp)

/-- Is the number none of the infinite ones and not the one that is none? -/
def Decimal.Number.IsFinite : Decimal.Number → Prop
  | .int _ => True
  | .float (.finite _ _ _) => True
  | .float _ => False

namespace Weight

/-- Can the weight be written for the platform? -/
def CanPrint : Platform → Weight → Prop
  | .ios, .number n => n.IsFinite
  | .android, .number n => ∃ k, whole n = .ok k ∧ (Decimal.Number.int k).isSpellable = true
  | .web, .number n => n.isSpellable = true
  | _, .named _ => True

theorem givenIf_whole (n : Decimal.Number) : GivenIf n.IsFinite (whole n) := by
  cases n with
  | int n => exact givenIf_ok n
  | float x =>
      cases x with
      | nan => exact givenIf_error rfl
      | infinite negative => exact givenIf_error rfl
      | finite negative m e => exact givenIf_ok _

theorem givenIf_swift (w : Weight) : GivenIf (w.CanPrint .ios) (Theme.Swift.weight w) := by
  cases w with
  | named s => exact givenIf_ok _
  | number n => exact (givenIf_whole n).map

theorem givenIf_kotlin (w : Weight) : GivenIf (w.CanPrint .android) (Theme.Kotlin.weight w) := by
  cases w with
  | named s => exact givenIf_ok _
  | number n =>
      exact (givenIf_whole n).bind_exists fun k => (Decimal.Number.int k).givenIf_spelled.bind_ok

theorem givenIf_typeScript (t : FontWeight) :
    GivenIf (t.value.CanPrint .web) (Theme.TypeScript.weightEntry t) := by
  obtain ⟨name, w⟩ := t
  cases w with
  | named s => exact givenIf_ok _
  | number n => exact n.givenIf_spelled.bind_ok

end Weight

namespace Theme

/-- The dimensions of a theme. -/
def dimensions (theme : Theme) : List DimensionToken :=
  theme.typography.fontSizes ++ theme.typography.lineHeights ++ theme.typography.letterSpacing ++
    theme.spacing ++ theme.borderRadius ++ theme.breakpoints

/-- Can the theme be written for the platform? -/
structure IsPrintable (p : Platform) (theme : Theme) : Prop where
  dimensions : ∀ t ∈ theme.dimensions, t.value.isSpellable = true
  weights : ∀ t ∈ theme.typography.fontWeights, t.value.CanPrint p

theorem forall_dimensions {theme : Theme} {P : DimensionToken → Prop} :
    (∀ t ∈ theme.dimensions, P t) ↔
      (∀ t ∈ theme.typography.fontSizes, P t) ∧ (∀ t ∈ theme.typography.lineHeights, P t) ∧
        (∀ t ∈ theme.typography.letterSpacing, P t) ∧ (∀ t ∈ theme.spacing, P t) ∧
          (∀ t ∈ theme.borderRadius, P t) ∧ ∀ t ∈ theme.breakpoints, P t := by
  simp only [dimensions, List.forall_mem_append, and_assoc]

/-- The conditions in the order in which all three platforms come to the tokens. -/
theorem isPrintable_iff {p : Platform} {theme : Theme} :
    ((∀ t ∈ theme.typography.fontSizes, t.value.isSpellable = true) ∧
      (∀ t ∈ theme.typography.fontWeights, t.value.CanPrint p) ∧
        (∀ t ∈ theme.typography.lineHeights, t.value.isSpellable = true) ∧
          (∀ t ∈ theme.typography.letterSpacing, t.value.isSpellable = true)) ∧
      (∀ t ∈ theme.spacing, t.value.isSpellable = true) ∧
        (∀ t ∈ theme.borderRadius, t.value.isSpellable = true) ∧
          (∀ t ∈ theme.breakpoints, t.value.isSpellable = true) ↔ theme.IsPrintable p := by
  constructor
  · rintro ⟨⟨hsizes, hweights, hheights, hdistances⟩, hspacing, hradii, hbreakpoints⟩
    exact ⟨forall_dimensions.2 ⟨hsizes, hheights, hdistances, hspacing, hradii, hbreakpoints⟩,
      hweights⟩
  · intro h
    obtain ⟨hsizes, hheights, hdistances, hspacing, hradii, hbreakpoints⟩ :=
      forall_dimensions.1 h.dimensions
    exact ⟨⟨hsizes, h.weights, hheights, hdistances⟩, hspacing, hradii, hbreakpoints⟩

theorem givenIf_swift (theme : Theme) (source : String) :
    GivenIf (theme.IsPrintable .ios) (Swift.file theme source) := by
  have hdimension : ∀ t, GivenIf (t.value.isSpellable = true) (Swift.dimensionConstant t) :=
    fun t => t.value.givenIf_spelled.bind_ok
  have hweight : ∀ t, GivenIf (t.value.CanPrint .ios) (Swift.weightConstant t) :=
    fun t => t.value.givenIf_swift.bind_ok
  have hsections : GivenIf _ (Swift.sections theme) :=
    (givenIf_mapM hdimension theme.typography.fontSizes).bind fun _ =>
      (givenIf_mapM hweight theme.typography.fontWeights).bind fun _ =>
        (givenIf_mapM hdimension theme.typography.lineHeights).bind fun _ =>
          (givenIf_mapM hdimension theme.typography.letterSpacing).bind fun _ =>
            (givenIf_mapM hdimension theme.spacing).bind fun _ =>
              (givenIf_mapM hdimension theme.borderRadius).bind fun _ =>
                (givenIf_mapM hdimension theme.breakpoints).bind_ok
  have hfile : GivenIf _ (Swift.file theme source) := hsections.bind_ok
  refine hfile.congr ?_
  rw [← isPrintable_iff, and_assoc, and_assoc, and_assoc]

theorem givenIf_kotlin (theme : Theme) (source : String) :
    GivenIf (theme.IsPrintable .android) (Kotlin.file theme source) := by
  have hdimension : ∀ unit t,
      GivenIf (t.value.isSpellable = true) (Kotlin.dimensionConstant unit t) :=
    fun _ t => t.value.givenIf_spelled.bind_ok
  have hweight : ∀ t, GivenIf (t.value.CanPrint .android) (Kotlin.weightConstant t) :=
    fun t => t.value.givenIf_kotlin.bind_ok
  have htypography : GivenIf _ (Kotlin.typographySections theme.typography) :=
    (givenIf_mapM (hdimension "sp") theme.typography.fontSizes).bind fun _ =>
      (givenIf_mapM hweight theme.typography.fontWeights).bind fun _ =>
        (givenIf_mapM (hdimension "sp") theme.typography.lineHeights).bind fun _ =>
          (givenIf_mapM (hdimension "sp") theme.typography.letterSpacing).bind_ok
  have hlayout : GivenIf _ (Kotlin.layoutSections theme) :=
    (givenIf_mapM (hdimension "dp") theme.spacing).bind fun _ =>
      (givenIf_mapM (hdimension "dp") theme.borderRadius).bind fun _ =>
        (givenIf_mapM (hdimension "dp") theme.breakpoints).bind_ok
  have hfile : GivenIf _ (Kotlin.file theme source) :=
    htypography.bind fun _ => hlayout.bind_ok
  exact hfile.congr isPrintable_iff

theorem givenIf_typeScript (theme : Theme) (source : String) :
    GivenIf (theme.IsPrintable .web) (TypeScript.file theme source) := by
  have hdimension : ∀ t, GivenIf (t.value.isSpellable = true) (TypeScript.dimensionEntry t) :=
    fun t => t.value.givenIf_spelled.map.bind_ok
  have htypography : GivenIf _ (TypeScript.typographyLines theme.typography) :=
    (givenIf_mapM hdimension theme.typography.fontSizes).bind fun _ =>
      (givenIf_mapM Weight.givenIf_typeScript theme.typography.fontWeights).bind fun _ =>
        (givenIf_mapM hdimension theme.typography.lineHeights).bind fun _ =>
          (givenIf_mapM hdimension theme.typography.letterSpacing).bind fun _ => by
            split
            · exact givenIf_ok _
            · exact givenIf_ok _
  have hobject : GivenIf _ (TypeScript.objectLines theme) :=
    htypography.bind fun _ => (givenIf_mapM hdimension theme.spacing).bind fun _ =>
      (givenIf_mapM hdimension theme.borderRadius).bind fun _ =>
        (givenIf_mapM hdimension theme.breakpoints).bind_ok
  have hfile : GivenIf _ (TypeScript.file theme source) := hobject.bind_ok
  refine hfile.congr ?_
  rw [← isPrintable_iff, and_true]

/-- The file of a theme is given if and only if the theme can be written. -/
theorem givenIf_sourceFile (p : Platform) (theme : Theme) (source : String) :
    GivenIf (theme.IsPrintable p) (theme.sourceFile p source) := by
  cases p with
  | ios => exact (givenIf_swift theme source).bind_ok
  | android => exact (givenIf_kotlin theme source).bind_ok
  | web => exact (givenIf_typeScript theme source).bind_ok

end Theme

end SpecForge
