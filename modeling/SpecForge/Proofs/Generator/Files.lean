import SpecForge.Proofs.Generator.Plain
import SpecForge.Proofs.Plugin.Files

/-!
# Which documents generators take

What a parser accepts a generator writes, with one exception: a theme for a mobile platform with a
font weight that is an infinite number or none at all. A number with too many digits to be spelled
would be another one, but plain documents have none, and documents in JSON are plain.
-/

namespace SpecForge

theorem SpecKind.name_injective {kind kind' : SpecKind} (h : kind.name = kind'.name) :
    kind = kind' := by
  revert h
  cases kind <;> cases kind' <;> decide

/-- What is registered for a kind is of this kind. -/
theorem Generator.kind_of_get {kind : SpecKind} {platform : String} {g : Generator}
    (h : builtin.get kind.name platform = .ok g) : g.kind = kind := by
  rw [Registry.get] at h
  split at h
  · rename_i g' hg
    cases h
    have hmem := mem_of_lookup_eq_some hg
    obtain ⟨g'', _, heq⟩ := List.mem_map.1 hmem
    obtain ⟨hnames, rfl⟩ := Prod.mk.inj heq
    exact SpecKind.name_injective (Prod.mk.inj hnames).1
  · cases h

namespace Weight

/-- Is the weight a finite number or a name? -/
def IsFinite : Weight → Prop
  | .number n => n.IsFinite
  | .named _ => True

theorem canPrint_of_isFinite {w : Weight} (hplain : w.IsPlain) (hfinite : w.IsFinite)
    (p : Platform) : w.CanPrint p := by
  cases w with
  | named s => cases p <;> trivial
  | number n =>
      cases p with
      | ios => exact hfinite
      | web => exact hplain.isSpellable
      | android =>
          cases n with
          | int n => exact ⟨n, rfl, hplain⟩
          | float x =>
              cases x with
              | nan => exact hfinite.elim
              | infinite negative => exact hfinite.elim
              | finite negative m e =>
                  have hdouble : (Decimal.Binary64.finite negative m e).IsDouble := hplain
                  exact ⟨_, rfl, hdouble.isSpellable_of_truncate rfl⟩

theorem isFinite_of_canPrint {w : Weight} {p : Platform} (hp : p ≠ .web) (h : w.CanPrint p) :
    w.IsFinite := by
  cases w with
  | named s => trivial
  | number n =>
      cases p with
      | ios => exact h
      | web => exact absurd rfl hp
      | android =>
          obtain ⟨k, hk, _⟩ := h
          exact (givenIf_whole n).ok_iff.1 ⟨k, hk⟩

theorem canPrint_web {w : Weight} (h : w.IsPlain) : w.CanPrint .web := by
  cases w with
  | named s => trivial
  | number n => exact h.isSpellable

end Weight

/-- On the mobile platforms the weights of fonts must be finite. -/
theorem Theme.IsPlain.isPrintable_iff {theme : Theme} (h : theme.IsPlain) (p : Platform) :
    theme.IsPrintable p ↔ p = .web ∨ ∀ t ∈ theme.typography.fontWeights, t.value.IsFinite := by
  constructor
  · intro hprint
    by_cases hp : p = .web
    · exact .inl hp
    · exact .inr fun t ht => Weight.isFinite_of_canPrint hp (hprint.weights t ht)
  · intro hweights
    refine ⟨fun t ht => (h.dimensions t ht).isSpellable, fun t ht => ?_⟩
    rcases hweights with rfl | hfinite
    · exact Weight.canPrint_web (h.weights t ht)
    · exact Weight.canPrint_of_isFinite (h.weights t ht) (hfinite t ht) p

/-- What an accepted document has become. -/
inductive Representation where
  | model (m : Model)
  | client (api : Api)
  | theme (theme : Theme)
  | component (c : Component)
  | plugin (p : Plugin)

namespace Representation

/-- What a document of some kind becomes; design tokens give no name to their theme. -/
def ofDocument (kind : SpecKind) (doc : Value) (name : String) : Outcome Representation :=
  match kind with
  | .model => (Model.ofSchema doc).map model
  | .apiClient => (Api.ofDocument doc).map client
  | .theme => (Theme.ofTokens doc name).map theme
  | .component => (Component.ofSpec doc).map component
  | .plugin => (Plugin.ofSpec doc).map plugin

/-- The files for a platform. Those of a plugin do not name their source. -/
def files (p : Platform) (source : String) : Representation → Outcome (List SourceFile)
  | model m => (m.sourceFile p source).map ([·])
  | client api => (api.sourceFile p source).map ([·])
  | theme t => (t.sourceFile p source).map ([·])
  | component c => (c.sourceFile source).map ([·])
  | plugin p => p.sourceFiles

/-- Can everything that the files for the platform hold be written? -/
def IsPrintable (p : Platform) : Representation → Prop
  | model m => p = .web ∨ m.isSpellable = true
  | client api => p = .web ∨ ∀ m ∈ api.models, m.isSpellable = true
  | theme t => t.IsPrintable p
  | component c => Component.Swift.isSpellable c = true
  | plugin p => ∀ prop ∈ p.configuration, hasSpellableLiteral prop.default = true

/-- Are the weights of all fonts finite, if there are any? -/
def HasFiniteWeights : Representation → Prop
  | theme t => ∀ weight ∈ t.typography.fontWeights, weight.value.IsFinite
  | _ => True

theorem givenIf_files (r : Representation) (p : Platform) (source : String) :
    GivenIf (r.IsPrintable p) (r.files p source) := by
  cases r with
  | model m =>
      refine (givenIf_ofLines _ _ _).map.congr ?_
      rw [IsPrintable, Bool.or_eq_true, beq_iff_eq]
  | client api =>
      refine (givenIf_ofLines _ _ _).map.congr ?_
      rw [IsPrintable, Bool.or_eq_true, beq_iff_eq, List.all_eq_true]
  | theme t => exact (t.givenIf_sourceFile p source).map
  | component c => exact (givenIf_ofLines _ _ _).map
  | plugin plugin =>
      refine (givenIf_mapM
        (fun file : String × Lines => givenIf_ofLines _ file.1 file.2) _).congr ?_
      constructor
      · intro h
        obtain ⟨file, hfile⟩ := List.exists_mem_of_ne_nil _ (Plugin.files_ne_nil plugin)
        exact List.all_eq_true.1 (h file hfile)
      · exact fun h _ _ => List.all_eq_true.2 h

/-- A plain document becomes something that can be written, if the weights allow it. -/
theorem isPrintable_iff_of_isPlain {kind : SpecKind} {doc : Value} {name : String}
    {r : Representation} (hdoc : doc.IsPlain) (hr : ofDocument kind doc name = .ok r)
    (p : Platform) : r.IsPrintable p ↔ p = .web ∨ r.HasFiniteWeights := by
  have hmap : ∀ {α : Type} {x : Outcome α} {f : α → Representation}, x.map f = .ok r →
      ∃ a, x = .ok a ∧ f a = r := by
    intro α x f h
    cases x with
    | error e => cases h
    | ok a =>
        cases h
        exact ⟨a, rfl, rfl⟩
  cases kind with
  | model =>
      obtain ⟨m, hm, rfl⟩ := hmap hr
      exact iff_of_true (.inr (Model.isPlain_of_ofSchema hdoc hm).isSpellable) (.inr trivial)
  | apiClient =>
      obtain ⟨api, hapi, rfl⟩ := hmap hr
      refine iff_of_true (.inr fun m hm => ?_) (.inr trivial)
      exact (Api.isPlain_of_ofDocument hdoc hapi m hm).isSpellable
  | theme =>
      obtain ⟨t, ht, rfl⟩ := hmap hr
      exact (Theme.isPlain_of_ofTokens hdoc ht).isPrintable_iff p
  | component =>
      obtain ⟨c, hc, rfl⟩ := hmap hr
      exact iff_of_true (Component.isPlain_of_ofSpec hdoc hc).isSpellable (.inr trivial)
  | plugin =>
      obtain ⟨plugin, hplugin, rfl⟩ := hmap hr
      refine iff_of_true (fun prop hprop => ?_) (.inr trivial)
      exact hasSpellableLiteral_of_isPlain (Plugin.isPlain_of_ofSpec hdoc hplugin prop hprop)

/-- Whatever becomes of a document of some kind, every generator of this kind writes its files if
and only if all of it can be printed. Of a plain document, such as one in JSON, all can be printed
for the web, and for another platform if the weights of its fonts are finite, if it has any. -/
theorem files_given_iff {kind : SpecKind} {doc : Value} {name platform : String}
    {r : Representation} {g : Generator} (hr : ofDocument kind doc name = .ok r)
    (hg : Generator.builtin.get kind.name platform = .ok g) (source : String) :
    g.kind = kind ∧ ((∃ files, r.files g.platform source = .ok files) ↔ r.IsPrintable g.platform) ∧
      ((doc.IsPlain ∨ ∃ text, Json.read text = .ok doc) →
        (r.IsPrintable g.platform ↔ g.platform = .web ∨ r.HasFiniteWeights)) := by
  refine ⟨Generator.kind_of_get hg, (r.givenIf_files g.platform source).ok_iff, fun hdoc => ?_⟩
  have hplain : doc.IsPlain := hdoc.elim id fun ⟨_, htext⟩ => Json.isPlain_of_read htext
  exact isPrintable_iff_of_isPlain hplain hr g.platform

/-- Design tokens with one font weight by number and one by name. -/
def lightTokens : Value :=
  .record [("typography", .record [("fontWeights",
    .record [("bold", .str "700"), ("thin", .str "Thin")])])]

/-- The theme of these tokens. -/
def lightTheme : Theme where
  name := "Theme"
  colors := []
  typography := ⟨[], [], [⟨"bold", .number (.int 700)⟩, ⟨"thin", .named "Thin"⟩], [], []⟩
  spacing := []
  borderRadius := []
  shadows := []
  breakpoints := []

theorem isPlain_lightTokens : lightTokens.IsPlain := by
  refine Value.isPlain_record (List.forall_mem_singleton.2 ?_)
  refine Value.isPlain_record (List.forall_mem_singleton.2 ?_)
  refine Value.isPlain_record (List.forall_mem_cons.2 ⟨.str "700", ?_⟩)
  exact List.forall_mem_singleton.2 (.str "Thin")

/-- Both weights are finite, so there is a theme for Android. -/
theorem files_given_lightTokens :
    ofDocument .theme lightTokens "Theme" = .ok (.theme lightTheme) ∧
      Generator.builtin.get SpecKind.theme.name "Android" = .ok ⟨.theme, .android⟩ ∧
      lightTokens.IsPlain ∧
      ∃ files, (theme lightTheme).files .android "tokens.json" = .ok files := by
  have hr : ofDocument .theme lightTokens "Theme" = .ok (.theme lightTheme) := rfl
  have hg : Generator.builtin.get SpecKind.theme.name "Android" = .ok ⟨.theme, .android⟩ := by
    rfl
  obtain ⟨_, hfiles, hprint⟩ := files_given_iff hr hg "tokens.json"
  refine ⟨hr, hg, isPlain_lightTokens, hfiles.2 ((hprint (.inl isPlain_lightTokens)).2 (.inr ?_))⟩
  exact List.forall_mem_cons.2 ⟨trivial, List.forall_mem_singleton.2 trivial⟩

/-- Design tokens with a font weight that is heavier than any double. -/
def heavyText : String :=
  "\x7b\"typography\": \x7b\"fontWeights\": \x7b\"black\": 1e999\x7d\x7d\x7d"

/-- Are there files for iOS of the theme that a text in JSON describes? Nothing is said of a text
that is refused. -/
def hasSwiftTheme? (text : String) : Option Bool := do
  let doc ← (Json.read text).toOption
  let r ← (ofDocument .theme doc "Theme").toOption
  return (r.files .ios "tokens.json").toOption.isSome

theorem not_files_of_hasSwiftTheme? {text : String} (h : hasSwiftTheme? text = some false) :
    ∃ doc r, Json.read text = .ok doc ∧ ofDocument .theme doc "Theme" = .ok r ∧
      ¬ ∃ files, r.files .ios "tokens.json" = .ok files := by
  rw [hasSwiftTheme?] at h
  obtain ⟨doc, hdoc, h⟩ := Option.bind_eq_some_iff.1 h
  obtain ⟨r, hr, h⟩ := Option.bind_eq_some_iff.1 h
  refine ⟨doc, r, eq_ok_of_toOption hdoc, eq_ok_of_toOption hr, ?_⟩
  rintro ⟨files, hfiles⟩
  rw [hfiles] at h
  cases h

/-- The tokens are accepted, but there is no theme for them on iOS. -/
theorem not_files_heavyText :
    ∃ doc r g, Json.read heavyText = .ok doc ∧ ofDocument .theme doc "Theme" = .ok r ∧
      Generator.builtin.get SpecKind.theme.name "ios" = .ok g ∧
      ¬ ∃ files, r.files g.platform "tokens.json" = .ok files := by
  have hfails : hasSwiftTheme? heavyText = some false := by decide +kernel
  obtain ⟨doc, r, hdoc, hr, hnone⟩ := not_files_of_hasSwiftTheme? hfails
  exact ⟨doc, r, ⟨.theme, .ios⟩, hdoc, hr, rfl, hnone⟩

end Representation

end SpecForge
