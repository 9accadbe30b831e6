import SpecForge.Proofs.Name
import SpecForge.Proofs.Text.Blank
import SpecForge.Proofs.Text.Read
import SpecForge.TypeName.Component
import SpecForge.TypeName.Schema

/-!
# Types as they are spelled

Two questions decide how a schema type is spelled. The first is whether the tables know the name: if
they do not, the name is kept, whatever its format. The second is whether the tables have an entry
for the name with its format: if they do, the spelling is another one than without the format.

The type of a component is a text. What it spells is found by taking it apart from the outside, and
a binding is looked for before a list, and a list before an optional. Where a text was written for
an expression, this finds the expression again, whatever blanks stand around its parts: the last
sign of a text tells how it was put together last. So the spelling for a platform follows the
expression.
-/

namespace SpecForge.TypeName

/-- The schema types that have a spelling on every platform. -/
def plainNames : List String :=
  ["string", "integer", "number", "boolean", "object", "array", "any", "void", "null"]

theorem map_fst_plainTable (p : Platform) : (plainTable p).map Prod.fst = plainNames := by
  cases p <;> rfl

theorem lower_of_mem_plainNames : ∀ name ∈ plainNames, Text.lower name = name := by
  decide +kernel

/-- A format counts only with a type that has a spelling without it. -/
theorem mem_plainNames_of_mem_formatTable (p : Platform) :
    ∀ entry ∈ formatTable p, entry.1.1 ∈ plainNames := by
  cases p <;> decide

theorem lookup_plainTable {name : String} (h : name ∉ plainNames) (p : Platform) :
    (plainTable p).lookup name = none := by
  rw [Option.eq_none_iff_forall_ne_some]
  intro spelling hs
  rw [← map_fst_plainTable p] at h
  exact h (List.mem_map.2 ⟨_, mem_of_lookup_eq_some hs, rfl⟩)

/-- A name that no table knows is kept. -/
theorem schema_eq_self {name : String} (h : Text.lower name ∉ plainNames) (p : Platform)
    (format : Option String) : schema p name format = name := by
  have hname : name ∉ plainNames := by
    intro hmem
    rw [lower_of_mem_plainNames name hmem] at h
    exact h hmem
  have hformat : (format.bind fun f => (formatTable p).lookup (name, f)) = none := by
    rw [Option.eq_none_iff_forall_ne_some]
    intro spelling hs
    obtain ⟨f, _, hf⟩ := Option.bind_eq_some_iff.1 hs
    exact hname (mem_plainNames_of_mem_formatTable p _ (mem_of_lookup_eq_some hf))
  rw [schema, schema?, hformat]
  dsimp only
  rw [lookup_plainTable hname, lookup_plainTable h]
  rfl

/-- The spelling of a type with a format is another one than that of the type. -/
theorem ne_schema_of_mem_formatTable (p : Platform) :
    ∀ entry ∈ formatTable p, entry.2 ≠ schema p entry.1.1 none := by
  cases p <;> decide +kernel

/-- Has a type with a format a spelling of its own? -/
def hasFormat (p : Platform) (type : String) (format : Option String) : Bool :=
  (format.bind fun f => (formatTable p).lookup (type, f)).isSome

theorem schema_eq_schema_none_iff {p : Platform} {type : String} {format : Option String} :
    schema p type format = schema p type none ↔ hasFormat p type format = false := by
  cases hlookup : format.bind fun f => (formatTable p).lookup (type, f) with
  | none => simp [schema, schema?, hasFormat, hlookup]
  | some spelling =>
      obtain ⟨f, _, hf⟩ := Option.bind_eq_some_iff.1 hlookup
      have hne := ne_schema_of_mem_formatTable p _ (mem_of_lookup_eq_some hf)
      have hschema : schema p type format = spelling := by
        simp [schema, schema?, hlookup]
      rw [hschema, hasFormat, hlookup]
      simp [hne]

/-- On the web a format never counts; elsewhere different elements make different lists. -/
theorem field_eq_field_none_iff {p : Platform} {type : String} {isArray : Bool}
    {format : Option String} :
    field p type isArray format = field p type isArray none ↔ hasFormat p type format = false := by
  rw [← schema_eq_schema_none_iff]
  cases isArray with
  | false => exact Iff.rfl
  | true =>
      cases p with
      | ios => simp [field, collection]
      | android => simp [field, collection]
      | web => cases format <;> exact iff_of_true rfl rfl

/-- Whatever the tables have for a type is a type on the platform. -/
theorem isType_schema {type : String} (h : Text.IsType type) (p : Platform)
    (format : Option String) : Text.IsType (schema p type format) := by
  have hplain : ∀ entry ∈ plainTable p, Text.IsType entry.2 := by cases p <;> decide
  have hformat : ∀ entry ∈ formatTable p, Text.IsType entry.2 := by cases p <;> decide
  cases hs : schema? p type format with
  | none => simpa [schema, hs] using h
  | some spelling =>
      rw [schema, hs, Option.getD_some]
      rw [schema?] at hs
      split at hs
      · rename_i other hother
        obtain ⟨f, _, hf⟩ := Option.bind_eq_some_iff.1 hother
        cases hs
        exact hformat _ (mem_of_lookup_eq_some hf)
      · cases hlookup : (plainTable p).lookup type with
        | some plain =>
            rw [hlookup] at hs
            cases hs
            exact hplain _ (mem_of_lookup_eq_some hlookup)
        | none =>
            rw [hlookup] at hs
            exact hplain _ (mem_of_lookup_eq_some hs)

theorem isType_field {type : String} (h : Text.IsType type) (p : Platform) (isArray : Bool)
    (format : Option String) : Text.IsType (field p type isArray format) := by
  have hschema := isType_schema h p format
  cases isArray with
  | false => exact hschema
  | true =>
      cases p with
      | ios => exact hschema.between "[" "]" rfl rfl ⟨']', rfl, by decide⟩
      | android => exact hschema.between "List<" ">" rfl rfl ⟨'>', rfl, by decide⟩
      | web =>
          rw [field, if_pos rfl, collection]
          split
          · exact hschema.between "Array<" ">" rfl rfl ⟨'>', rfl, by decide⟩
          · exact hschema.between "" "[]" rfl rfl ⟨']', rfl, by decide⟩

end SpecForge.TypeName

namespace SpecForge.TypeExpr

open Text

/-- The signs that bindings, lists and optionals are written with. -/
def signs : List Char := ['<', '>', '[', ']', '?']

/-- A name is not empty and has neither blanks nor signs in it. -/
structure IsName (cs : List Char) : Prop where
  ne_nil : cs ≠ []
  isBlank : ∀ c ∈ cs, isBlank c = false
  notMem_signs : ∀ c ∈ cs, c ∉ signs

/-- Letters, digits and underscores make a name. -/
theorem isName_of_allWord {cs : List Char} (hne : cs ≠ []) (h : Name.AllWord cs) : IsName cs := by
  have hall : ∀ c ∈ cs, isBlank c = false ∧ c ∉ signs := by
    intro c hc
    refine Name.forall_isWordChar (P := fun c => isBlank c = false ∧ c ∉ signs) ?_ (h c hc)
    decide
  exact ⟨hne, fun c hc => (hall c hc).1, fun c hc => (hall c hc).2⟩

/-- The texts that an expression is written as. Around each part, and around the whole, there may be
blanks. -/
inductive Written : TypeExpr → List Char → Prop
  | name {s : String} (h : IsName s.toList) : Written (.name s) s.toList
  | binding {t : TypeExpr} {cs : List Char} (h : Written t cs) :
      Written (.binding t) ("Binding<".toList ++ cs ++ ['>'])
  | list {t : TypeExpr} {cs : List Char} (h : Written t cs) : Written (.list t) (cs ++ ['[', ']'])
  | maybe {t : TypeExpr} {cs : List Char} (h : Written t cs) : Written (.maybe t) (cs ++ ['?'])
  | blanks {t : TypeExpr} {cs front back : List Char} (hfront : ∀ c ∈ front, isBlank c = true)
      (hback : ∀ c ∈ back, isBlank c = true) (h : Written t cs) : Written t (front ++ cs ++ back)

/-! ### Endings of texts -/

theorem beginsWith_append (head cs : List Char) : beginsWith head (head ++ cs) = true := by
  induction head with
  | nil => rfl
  | cons c head ih => rw [List.cons_append, beginsWith, beq_self_eq_true, Bool.true_and, ih]

theorem unwrap?_binding (cs : List Char) :
    unwrap? ("Binding<".toList ++ cs ++ ['>']) = some cs := by
  have hlast : ("Binding<".toList ++ cs ++ ['>']).getLast? = some '>' := List.getLast?_concat
  rw [unwrap?, List.append_assoc, beginsWith_append, ← List.append_assoc, hlast,
    List.append_assoc, List.drop_left, List.dropLast_concat]
  rfl

/-- Nothing that ends with another sign is a binding. -/
theorem unwrap?_eq_none {cs : List Char} {c : Char} (hlast : cs.getLast? = some c) (hc : c ≠ '>') :
    unwrap? cs = none := by
  rw [unwrap?, hlast, if_neg]
  simp [hc]

theorem beforeEnding?_append (ending cs : List Char) :
    beforeEnding? ending (cs ++ ending) = some cs := by
  rw [beforeEnding?, List.reverse_append, beginsWith_append, List.length_append,
    Nat.add_sub_cancel, List.take_left]
  rfl

/-- Nothing that ends with another sign has the ending. -/
theorem beforeEnding?_eq_none {cs ending : List Char} {c d : Char} (hlast : cs.getLast? = some c)
    (hending : ending.getLast? = some d) (hcd : c ≠ d) : beforeEnding? ending cs = none := by
  obtain ⟨front, rfl⟩ := List.getLast?_eq_some_iff.1 hlast
  obtain ⟨head, rfl⟩ := List.getLast?_eq_some_iff.1 hending
  rw [beforeEnding?, List.reverse_concat, List.reverse_concat, beginsWith, if_neg]
  simp [Ne.symm hcd]

/-! ### Reading what was written -/

/-- What a text spells, told by its last part alone. -/
theorem read_eq (cs : List Char) :
    read cs = match unwrap? (trim isBlank cs) with
      | some inner => .binding (read inner)
      | none => match beforeEnding? ['[', ']'] (trim isBlank cs) with
        | some element => .list (read element)
        | none => match beforeEnding? ['?'] (trim isBlank cs) with
          | some inner => .maybe (read inner)
          | none => .name (String.ofList (trim isBlank cs)) := by
  rw [read]
  split
  · rename_i inner h
    rw [h]
  · rename_i h
    rw [h]
    split
    · rename_i element hl
      rw [hl]
    · rename_i hl
      rw [hl]
      split
      · rename_i inner hm
        rw [hm]
      · rename_i hm
        rw [hm]

/-- Blanks at the ends do not matter. -/
theorem read_congr {a b : List Char} (h : trim isBlank a = trim isBlank b) : read a = read b := by
  rw [read_eq, read_eq b, h]

theorem read_binding (cs : List Char) :
    read ("Binding<".toList ++ cs ++ ['>']) = .binding (read cs) := by
  have hfirst : ("Binding<".toList ++ cs).dropWhile isBlank = "Binding<".toList ++ cs :=
    List.dropWhile_cons_of_neg (by decide)
  rw [read_eq, trim_append_singleton _ (by decide), hfirst, unwrap?_binding]

theorem read_list (cs : List Char) : read (cs ++ ['[', ']']) = .list (read cs) := by
  have htrim : trim isBlank (cs ++ ['[', ']']) = cs.dropWhile isBlank ++ ['[', ']'] := by
    have hcut := trim_append_singleton (cs ++ ['[']) (by decide : isBlank ']' = false)
    rw [dropWhile_append_stop cs (by decide), List.append_assoc, List.append_assoc] at hcut
    exact hcut
  have hlast : (cs.dropWhile isBlank ++ ['[', ']']).getLast? = some ']' := by
    rw [List.getLast?_append]
    rfl
  rw [read_eq, htrim, unwrap?_eq_none hlast (by decide), beforeEnding?_append]
  exact congrArg TypeExpr.list (read_congr (trim_dropWhile cs))

theorem read_maybe (cs : List Char) : read (cs ++ ['?']) = .maybe (read cs) := by
  have htrim := trim_append_singleton cs (by decide : isBlank '?' = false)
  have hlast : (cs.dropWhile isBlank ++ ['?']).getLast? = some '?' := List.getLast?_concat
  rw [read_eq, htrim, unwrap?_eq_none hlast (by decide),
    beforeEnding?_eq_none hlast (by rfl : ['[', ']'].getLast? = some ']') (by decide),
    beforeEnding?_append]
  exact congrArg TypeExpr.maybe (read_congr (trim_dropWhile cs))

theorem read_name {s : String} (h : IsName s.toList) : read s.toList = .name s := by
  obtain ⟨c, hlast⟩ := Option.ne_none_iff_exists'.1 (mt List.getLast?_eq_none_iff.1 h.ne_nil)
  have hsign : ∀ d ∈ signs, c ≠ d := by
    rintro d hd rfl
    exact h.notMem_signs c (List.mem_of_getLast? hlast) hd
  rw [read_eq, trim_eq_self h.isBlank, unwrap?_eq_none hlast (hsign _ (by decide)),
    beforeEnding?_eq_none hlast (by rfl : ['[', ']'].getLast? = some ']') (hsign _ (by decide)),
    beforeEnding?_eq_none hlast (by rfl : ['?'].getLast? = some '?') (hsign _ (by decide)),
    String.ofList_toList]

/-- What was written is read again. -/
theorem Written.read_eq {t : TypeExpr} {cs : List Char} (h : Written t cs) : read cs = t := by
  induction h with
  | name h => exact read_name h
  | binding _ ih => rw [read_binding, ih]
  | list _ ih => rw [read_list, ih]
  | maybe _ ih => rw [read_maybe, ih]
  | @blanks t cs front back hfront hback _ ih =>
      rw [← ih]
      apply read_congr
      rw [trim_append_right _ hback, trim_append_left hfront]

end SpecForge.TypeExpr

namespace SpecForge.TypeName

/-- The translation of an expression, part by part. A name is looked up in the table of the
platform; what becomes of a name that is not there is given. -/
def translation (p : Platform) (unknown : String → Except SpecFault String) :
    TypeExpr → Except SpecFault String
  | .name s => ((componentTable p).lookup s).elim (unknown s) .ok
  | .binding t => translation p unknown t
  | .list t => (translation p unknown t).map (collection p)
  | .maybe t => (translation p unknown t).map (optional p)

/-- With unknown names as they are, every expression has a spelling. -/
theorem translation_ok (p : Platform) (t : TypeExpr) : translation p .ok t = .ok (spell p t) := by
  induction t with
  | name s =>
      rw [translation, spell]
      cases (componentTable p).lookup s <;> rfl
  | binding t ih => rw [translation, ih, spell]
  | list t ih =>
      rw [translation, ih, spell]
      rfl
  | maybe t ih =>
      rw [translation, ih, spell]
      rfl

/-- With unknown names refused, an expression has a spelling if the table knows its name. -/
theorem translation_typeName (p : Platform) (t : TypeExpr) :
    translation p (fun s => .error (.typeName s p.name)) t = spellStrict p t := by
  induction t with
  | name s =>
      rw [translation, spellStrict]
      cases (componentTable p).lookup s <;> rfl
  | binding t ih => rw [translation, ih, spellStrict]
  | list t ih => rw [translation, ih, spellStrict]
  | maybe t ih => rw [translation, ih, spellStrict]

/-- The spelling of what is written for an expression is the translation of the expression, for
both ways to deal with unknown names. -/
theorem component_of_written {t : TypeExpr} {s : String} (h : t.Written s.toList) (p : Platform) :
    .ok (component p s) = translation p .ok t ∧
      spellStrict p (.read s.toList) = translation p (fun s => .error (.typeName s p.name)) t := by
  constructor
  · rw [component, h.read_eq, translation_ok]
  · rw [h.read_eq, translation_typeName]

/-- A binding is not mistaken for a list, nor a list of optionals for an optional list. -/
theorem component_of_written_swatches :
    (TypeExpr.maybe (.list (.binding (.maybe (.name "Swatch"))))).Written
        " Binding< Swatch\t? > [] ?\n".toList ∧
      component .web " Binding< Swatch\t? > [] ?\n" =
        "Array<Swatch | undefined> | undefined" ∧
      spellStrict .ios (.read " Binding< Swatch\t? > [] ?\n".toList) =
        .error (.typeName "Swatch" "ios") := by
  have hwritten : (TypeExpr.maybe (.list (.binding (.maybe (.name "Swatch"))))).Written
      " Binding< Swatch\t? > [] ?\n".toList := by
    have hnone : ∀ c ∈ ([] : List Char), Text.isBlank c = true := List.forall_mem_nil _
    have hspace : ∀ c ∈ [' '], Text.isBlank c = true := List.forall_mem_singleton.2 (by decide)
    have htab : ∀ c ∈ ['\t'], Text.isBlank c = true := List.forall_mem_singleton.2 (by decide)
    have hbreak : ∀ c ∈ ['\n'], Text.isBlank c = true := List.forall_mem_singleton.2 (by decide)
    have hname : TypeExpr.Written (.name "Swatch") ([' '] ++ "Swatch".toList ++ ['\t']) :=
      .blanks hspace htab (.name (TypeExpr.isName_of_allWord (by decide) (by decide)))
    have hinner : TypeExpr.Written _ ([] ++ _ ++ [' ']) := .blanks hnone hspace hname.maybe
    have hbinding : TypeExpr.Written _ ([' '] ++ _ ++ [' ']) :=
      .blanks hspace hspace hinner.binding
    have hlist : TypeExpr.Written _ ([] ++ _ ++ [' ']) := .blanks hnone hspace hbinding.list
    have hwhole : TypeExpr.Written _ ([] ++ _ ++ ['\n']) := .blanks hnone hbreak hlist.maybe
    exact hwhole
  obtain ⟨hspelled, _⟩ := component_of_written hwritten .web
  obtain ⟨_, hstrict⟩ := component_of_written hwritten .ios
  refine ⟨hwritten, ?_, ?_⟩
  · have htranslated : translation .web .ok (.maybe (.list (.binding (.maybe (.name "Swatch"))))) =
        .ok "Array<Swatch | undefined> | undefined" := by rfl
    rw [htranslated] at hspelled
    exact Except.ok.inj hspelled
  · rw [hstrict]
    rfl

end SpecForge.TypeName
