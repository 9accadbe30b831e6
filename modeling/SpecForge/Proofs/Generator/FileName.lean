import SpecForge.Proofs.Api.Endpoints
import SpecForge.Proofs.Name
import SpecForge.Proofs.Project.Target

/-!
# Names of source files

The name of a source file ends as files of its platform do. The files of clients and of themes are
named by word characters, so they stand in the directory that they are written to.
-/

namespace SpecForge

namespace Name

open Text

theorem AllWord.append {cs ds : List Char} (hcs : AllWord cs) (hds : AllWord ds) :
    AllWord (cs ++ ds) := by
  intro c hc
  rcases List.mem_append.1 hc with hc | hc
  · exact hcs c hc
  · exact hds c hc

theorem AllWord.lowerFrom {cs : List Char} (h : AllWord cs) (before : List Char) :
    AllWord (lowerFrom before cs) := by
  induction cs generalizing before with
  | nil => exact fun _ hc => absurd hc List.not_mem_nil
  | cons c cs ih =>
      have hc := h c List.mem_cons_self
      have hsigma : c ≠ 'Σ' := by
        rintro rfl
        exact absurd hc (by decide)
      rw [Text.lowerFrom, if_neg hsigma]
      refine AllWord.append (fun d hd => isWordChar_of_mem_lowerChar hc hd) ?_
      exact ih (fun d hd => h d (List.mem_cons_of_mem c hd)) _

theorem allWord_lower {s : String} (h : AllWord s.toList) : AllWord (lower s).toList := by
  rw [lower, String.toList_ofList]
  exact h.lowerFrom []

theorem allWord_sanitize (s : String) : AllWord (sanitize s).toList := by
  rw [sanitize, String.toList_ofList]
  intro c hc
  rw [isWordChar, (List.mem_filter.1 hc).2, Bool.true_or]

end Name

namespace Project.Path

/-- A name of word characters with the ending of source files does not lead back. -/
theorem up_not_mem_stepsOf {stem : String} (h : Name.AllWord stem.toList) (p : Platform) :
    up ∉ stepsOf (stem ++ p.fileExtension) := by
  have hslash : '/' ∉ (stem ++ p.fileExtension).toList := by
    rw [String.toList_append, List.mem_append, not_or]
    refine ⟨fun hmem => absurd (h _ hmem) (by decide), ?_⟩
    cases p <;> decide
  have hup : stem ++ p.fileExtension ≠ up := by
    intro heq
    have hlength := congrArg (fun s => s.toList.length) heq
    have hlong : 2 < p.fileExtension.toList.length := by
      cases p <;> decide
    have htwo : up.toList.length = 2 := rfl
    simp only [String.toList_append, List.length_append] at hlength
    omega
  rw [stepsOf, Text.split, Text.splitChars_of_not_mem hslash]
  intro hmem
  have hstep := List.mem_of_mem_filter hmem
  rw [List.map_singleton, List.mem_singleton, String.ofList_toList] at hstep
  exact hup hstep.symm

end Project.Path

/-! ## Files of each kind -/

theorem Model.exists_fileName {p : Platform} {m : Model} {source : String} {file : SourceFile}
    (h : m.sourceFile p source = .ok file) : ∃ stem, file.name = stem ++ p.fileExtension := by
  rw [SourceFile.eq_of_ofLines h]
  exact ⟨m.name, rfl⟩

theorem Api.title_of_heading {doc title version : Value}
    (h : heading doc = .ok (title, version)) :
    memberOrNull (memberOrNull doc "info") "title" = title := by
  rw [heading] at h
  split at h
  · cases h
  obtain ⟨title', htitle, h⟩ := bind_eq_ok_iff.1 h
  split at h
  · cases h
  obtain ⟨version', _, h⟩ := bind_eq_ok_iff.1 h
  rw [← memberOrNull_orElse, memberOrNull_of_part htitle]
  cases version' with
  | null => cases h
  | _ =>
      cases h
      rfl

/-- The title of a document is a text, and the interface is named for it. -/
theorem Api.exists_title {doc : Value} {api : Api} (h : Api.ofDocument doc = .ok api) :
    ∃ title, memberOrNull (memberOrNull doc "info") "title" = .str title ∧
      api.name = Name.sanitize title := by
  obtain ⟨title, version, hheading, hname⟩ := (isReadFrom_of_ofDocument h).named
  have htitle := title_of_heading hheading
  cases title with
  | str s => exact ⟨s, htitle, (Except.ok.inj hname).symm⟩
  | _ => cases hname

theorem Api.allWord_clientName {doc : Value} {api : Api} (h : Api.ofDocument doc = .ok api) :
    Name.AllWord api.clientName.toList := by
  obtain ⟨title, _, hname⟩ := exists_title h
  rw [clientName, hname, String.toList_append]
  exact (Name.allWord_sanitize title).append (by decide)

theorem Api.exists_fileName {doc : Value} {api : Api} (hdoc : Api.ofDocument doc = .ok api)
    {p : Platform} {source : String} {file : SourceFile} (h : api.sourceFile p source = .ok file) :
    ∃ stem, file.name = stem ++ p.fileExtension ∧ Name.AllWord stem.toList := by
  rw [SourceFile.eq_of_ofLines h]
  exact ⟨api.clientName, rfl, allWord_clientName hdoc⟩

theorem Theme.exists_fileName {p : Platform} {theme : Theme} {source : String} {file : SourceFile}
    (hname : Name.AllWord theme.name.toList) (h : theme.sourceFile p source = .ok file) :
    ∃ stem, file.name = stem ++ p.fileExtension ∧ Name.AllWord stem.toList := by
  cases p with
  | ios =>
      obtain ⟨lines, _, h⟩ := bind_eq_ok_iff.1 h
      cases h
      exact ⟨theme.name, rfl, hname⟩
  | android =>
      obtain ⟨lines, _, h⟩ := bind_eq_ok_iff.1 h
      cases h
      exact ⟨theme.name, rfl, hname⟩
  | web =>
      obtain ⟨lines, _, h⟩ := bind_eq_ok_iff.1 h
      cases h
      exact ⟨Theme.TypeScript.constantName theme, rfl, Name.allWord_lower hname⟩

theorem Project.Config.allWord_themeName (c : Project.Config) :
    Name.AllWord c.themeName.toList := by
  rw [themeName]
  split
  · decide
  · exact Name.allWord_sanitize _

end SpecForge
