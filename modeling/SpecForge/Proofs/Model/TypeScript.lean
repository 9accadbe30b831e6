import SpecForge.Generator
import SpecForge.Proofs.Model.Kotlin

/-!
# Reading TypeScript models

The reader finds in the code of an interface exactly its fields. A key that stands without quotes is
an identifier, and none of the signs that end a key occurs in it.
-/

namespace SpecForge.Model.TypeScript

open Reader Text

/-- The signs at which a reader of keys stops or turns. -/
def keySigns : List Char := ['?', ':', '\'', '/', ' ']

theorem not_mem_keySigns {p : Char → Bool} (hp : keySigns.any p = false) {c : Char}
    (h : p c = true) : c ∉ keySigns := by
  intro hc
  exact List.any_eq_false.1 hp c hc h

theorem not_mem_keySigns_of_isIdentifier {name : String} (h : Name.isIdentifier name = true) :
    ∀ c ∈ name.toList, c ∉ keySigns := by
  have hname : Name.toIdentifier name = name := by
    simpa [Name.isIdentifier] using h
  intro c hc
  have hword := Name.allWord_toIdentifier name
  rw [hname] at hword
  exact not_mem_keySigns (by decide) (hword c hc)

theorem not_mem_keySigns_of_isUnicodeIdentifier {name : String}
    (h : isUnicodeIdentifier name = true) : ∀ c ∈ name.toList, c ∉ keySigns := by
  have hstart : keySigns.any identifierStartRanges.covers = false := by
    decide +kernel
  have hcontinue : keySigns.any identifierContinueRanges.covers = false := by
    decide +kernel
  rw [isUnicodeIdentifier] at h
  split at h
  · exact Bool.noConfusion h
  · rename_i c rest heq
    rw [Bool.and_eq_true, List.all_eq_true] at h
    rw [heq]
    intro d hd
    rcases List.mem_cons.1 hd with rfl | hd
    · exact not_mem_keySigns hstart h.1
    · exact not_mem_keySigns hcontinue (h.2 d hd)

/-- A key stands between quotes, or none of its characters is a sign. -/
theorem key_cases (name : String) :
    key name = singleQuoted name ∨ (key name = name ∧ ∀ c ∈ name.toList, c ∉ keySigns) := by
  rw [key]
  split
  · rename_i h
    right
    refine ⟨rfl, ?_⟩
    rcases Bool.or_eq_true_iff.1 h with h | h
    · exact not_mem_keySigns_of_isIdentifier h
    · exact not_mem_keySigns_of_isUnicodeIdentifier h
  · exact Or.inl rfl

/-- What stands behind a key. -/
def tail (prop : Property) : String :=
  optionalMark prop.isOptional ++ (": " ++ (prop.spelling .web ++ ";"))

/-- The line of a property. -/
def line (prop : Property) : String := "  " ++ key prop.name ++ tail prop

theorem tail_eq_cons (prop : Property) :
    ∃ c cs, (tail prop).toList = c :: cs ∧ (c = '?' ∨ c = ':') := by
  rw [tail, String.toList_append]
  cases prop.isOptional with
  | true => exact ⟨'?', _, rfl, Or.inl rfl⟩
  | false => exact ⟨':', _, by simp [optionalMark]; rfl, Or.inr rfl⟩

theorem member_eq_append (prop : Property) : member prop =
    (Lines.docComment .block prop.description).map ("  " ++ ·) ++ [line prop] := by
  have hline : s!"  {key prop.name}{optionalMark prop.isOptional}: {prop.spelling .web};" =
      line prop := by
    unfold line tail
    simp [toString, String.append_assoc]
  rw [member, hline]

theorem member_eq (prop : Property) :
    member prop = [line prop] ∨ ∃ text, member prop = ["  " ++ ("/** " ++ text), line prop] := by
  rw [member_eq_append]
  rcases Lines.docComment_eq .block prop.description with h | ⟨text, h⟩
  · left
    rw [h]
    rfl
  · right
    exact ⟨text, by rw [h]; rfl⟩

/-- Behind the blanks of a line stands a quote, or no sign that a comment or a quoted text begins
with. -/
theorem line_cases (prop : Property) :
    (line prop).toList = "  '".toList ++ (Quoted.escape '\'' prop.name.toList ++
        '\'' :: (tail prop).toList) ∨
      ((∀ c ∈ prop.name.toList, c ∉ keySigns) ∧ line prop = "  " ++ prop.name ++ tail prop ∧
        ∃ c cs, (line prop).toList = ' ' :: ' ' :: c :: cs ∧ c ≠ '\'' ∧ c ≠ '/') := by
  rcases key_cases prop.name with h | ⟨h, hsigns⟩
  · left
    unfold line
    rw [h, singleQuoted, Quoted.write]
    simp
  · right
    have hline : line prop = "  " ++ prop.name ++ tail prop := by
      rw [line, h]
    refine ⟨hsigns, hline, ?_⟩
    obtain ⟨d, ds, htail, hd⟩ := tail_eq_cons prop
    rw [hline]
    cases hname : prop.name.toList with
    | nil =>
        refine ⟨d, ds, by simp [hname, htail], ?_⟩
        rcases hd with rfl | rfl
        · decide
        · decide
    | cons c cs =>
        refine ⟨c, cs ++ (tail prop).toList, by simp [hname], ?_⟩
        have hc := hsigns c (by rw [hname]; exact List.mem_cons_self ..)
        simp only [keySigns, List.mem_cons, not_or] at hc
        exact ⟨hc.2.2.1, hc.2.2.2.1⟩

theorem begins_comment_line (prop : Property) : begins "  /**" (line prop) = false := by
  rcases line_cases prop with h | ⟨_, _, c, cs, h, _, hc⟩
  · simp [begins, h, after?]
  · simp [begins, h, after?, Ne.symm hc]

theorem line_ne (prop : Property) : line prop ≠ "\x7d" := by
  intro heq
  have hl := congrArg String.toList heq
  rcases line_cases prop with h | ⟨_, _, c, cs, h, _, _⟩
  · rw [h] at hl
    simp at hl
  · rw [h] at hl
    simp at hl

/-- A field as the reader sees it. -/
def printed (prop : Property) : PrintedField := ⟨prop.name, (tail prop).toList⟩

theorem field?_line (prop : Property) :
    Reader.TypeScript.field? (line prop) = some (printed prop) := by
  rcases line_cases prop with h | ⟨hsigns, hline, c, cs, h, hc, _⟩
  · have hread : Quoted.read? '\'' (Quoted.escape '\'' prop.name.toList ++
        '\'' :: (tail prop).toList) = some (prop.name.toList, (tail prop).toList) :=
      Quoted.read?_escape (by decide) _ _
    rw [Reader.TypeScript.field?, h, after?_append]
    simp [hread, printed]
  · have hquote : after? "  '".toList (line prop).toList = none := by
      simp [h, after?, Ne.symm hc]
    have hname : named? "  " (fun c => c == '?' || c == ':') (line prop) =
        some (prop.name, (tail prop).toList) := by
      rw [hline]
      refine named?_append "  " (fun d hd => ?_) (fun d hd => ?_)
      · have hd := hsigns d hd
        simp only [keySigns, List.mem_cons, not_or] at hd
        simp [hd.1, hd.2.1]
      · obtain ⟨e, es, htail, he⟩ := tail_eq_cons prop
        rw [htail, List.head?_cons, Option.mem_some_iff] at hd
        simpa [← hd] using he
    rw [Reader.TypeScript.field?, hquote, hname]
    rfl

theorem filter_members (props : List Property) :
    (props.flatMap member).filter (fun l => !begins "  /**" l) = props.map line := by
  induction props with
  | nil => rfl
  | cons prop props ih =>
      have hline := begins_comment_line prop
      rw [List.flatMap_cons, List.filter_append, ih, List.map_cons]
      rcases member_eq prop with h | ⟨text, h⟩
      · simp [h, hline]
      · have htext : begins "  /**" ("  " ++ ("/** " ++ text)) = true := by
          simp [begins, after?]
        simp [h, hline, htext]

theorem of_mem_members {props : List Property} {l : String} (h : l ∈ props.flatMap member) :
    l ≠ "\x7d" := by
  obtain ⟨prop, _, hl⟩ := List.mem_flatMap.1 h
  rcases member_eq prop with hm | ⟨text, hm⟩
  · rw [hm, List.mem_singleton] at hl
    rw [hl]
    exact line_ne prop
  · rw [hm, List.mem_pair] at hl
    rcases hl with rfl | rfl
    · intro heq
      have hl := congrArg String.toList heq
      simp at hl
    · exact line_ne prop

theorem file_eq (m : Model) (source : String) : file m source = Lines.header source ++
    (Kotlin.classComment m.description ++ s!"export interface {m.name} \x7b" ::
      (m.properties.flatMap member ++ "\x7d" :: [""])) := by
  simp [file, interface]

theorem linesAfter_file (m : Model) (source : String) :
    linesAfter "export interface " (file m source) =
      m.properties.flatMap member ++ "\x7d" :: [""] := by
  have hheader : ∀ l ∈ Lines.header source, begins "export interface " l = false := by
    simp [Lines.header, Lines.provenance, begins, after?]
  have hfront : ∀ l ∈ Lines.header source ++ Kotlin.classComment m.description,
      begins "export interface " l = false := by
    intro l hl
    rcases List.mem_append.1 hl with hl | hl
    · exact hheader l hl
    · obtain ⟨rest, rfl | rfl⟩ := Kotlin.of_mem_classComment hl
      · simp [begins, after?]
      · simp [begins, after?]
  have hhead : begins "export interface " s!"export interface {m.name} \x7b" = true := by
    simp [begins, after?, toString]
  rw [file_eq, ← List.append_assoc, linesAfter_append hfront, linesAfter_cons hhead]

theorem fields?_file (m : Model) (source : String) :
    Reader.TypeScript.fields? (file m source) = some (m.properties.map printed) := by
  rw [Reader.TypeScript.fields?, linesAfter_file]
  simp only [takeWhile_append_stop (fun _ => of_mem_members), filter_members]
  exact mapM_map_eq_some fun prop _ => field?_line prop

theorem isOptional?_printed {prop : Property} (h : IsType prop.type) :
    isOptional? .web (printed prop).rest = some prop.isOptional := by
  have htype := TypeName.isType_field h .web prop.isArray prop.format
  have hend : EndsType [';'] := by decide
  have hread := type?_append htype (List.forall_mem_nil _) hend
  have htyped : goesOn "?" (": " ++ (prop.spelling .web ++ ";")).toList = false := by
    simp [goesOn, after?]
  rw [List.nil_append] at hread
  have hmark : ∀ isOptional : Bool,
      goesOn "?" ((optionalMark isOptional).toList ++ (": " ++ (prop.spelling .web ++ ";")).toList) =
        isOptional ∧
      skip "?" ((optionalMark isOptional).toList ++ (": " ++ (prop.spelling .web ++ ";")).toList) =
        (": " ++ (prop.spelling .web ++ ";")).toList := by
    intro isOptional
    cases isOptional with
    | true => exact ⟨goesOn_append "?" _, skip_append "?" _⟩
    | false => exact ⟨htyped, skip_eq_self htyped⟩
  obtain ⟨hgoes, hskip⟩ := hmark prop.isOptional
  rw [printed, tail, String.toList_append, isOptional?]
  simp only [hgoes, hskip]
  rw [String.toList_append, after?_append, Option.bind_eq_bind, Option.bind_some,
    String.toList_append]
  change (type? ((TypeName.field .web prop.type prop.isArray prop.format).toList ++ [';'])).bind _ =
    _
  rw [hread]
  rfl

/-- The comment above a property ends with its line, and no key begins a comment. -/
theorem commentsEnd_members {props : List Property}
    (h : ∀ prop ∈ props,
      Lines.Balanced (Lines.marks false (prop.description.getD "").toList)) :
    commentsEnd false "  /**" (props.flatMap member) = true := by
  have hblanks : ∀ c ∈ "  ".toList, c = ' ' := by simp
  induction props with
  | nil => rfl
  | cons prop props ih =>
      have hline : Without "  /**" [line prop] :=
        without_cons.2 ⟨begins_comment_line prop, without_nil⟩
      rw [List.flatMap_cons, commentsEnd_append, member_eq_append, commentsEnd_append,
        commentsEnd_docComment hblanks (h prop List.mem_cons_self), commentsEnd_of_without hline,
        ih fun other ho => h other (List.mem_cons_of_mem prop ho)]
      rfl

theorem isWhole_file {m : Model} (h : m.IsLegible .web) (source : String) :
    isWhole .web (file m source) = true := by
  have hhead : isFront s!"export interface {m.name} \x7b" = false := by
    simp [isFront, begins, after?, toString]
  have hne : s!"export interface {m.name} \x7b" ≠ "/**" := by
    simp [toString, ← String.toList_inj]
  have hbehind := Kotlin.behindComment?_classComment false
    (h.balanced_description (by decide)) (isFront_header source) hhead hne
    (m.properties.flatMap member ++ "\x7d" :: [""])
  have hname : isHead "export interface " " \x7b" s!"export interface {m.name} \x7b" = true := by
    simpa [toString] using isHead_append "export interface " " \x7b" h.name
  have hends := commentsEnd_members fun prop hprop => h.balanced_property (by decide) hprop
  have hcomments : commentsEnd false "  /**"
      (m.properties.flatMap member ++ "\x7d" :: [""]) = true := by
    rw [commentsEnd_append, hends, Bool.true_and]
    decide
  have hclose : "\x7d" ∉ m.properties.flatMap member := fun hmem => of_mem_members hmem rfl
  rw [← file_eq] at hbehind
  rw [isWhole, hbehind]
  simp [hname, hcomments, Lines.dropWhile_ne_append hclose]

/-- The fields of the interface are those of the model. -/
theorem read?_file {m : Model} (h : m.IsLegible .web) (source : String) :
    read? .web (file m source) = some m.readFields := by
  rw [read?_of_isWhole (isWhole_file h source) (fields?_file m source),
    mapM_isOptional? fun prop hprop => isOptional?_printed (h.type prop hprop)]
  rfl

end SpecForge.Model.TypeScript
