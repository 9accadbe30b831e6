import SpecForge.Component.Spec
import SpecForge.Component.Swift
import SpecForge.Proofs.Decimal.Form

/-!
# Defaults of optional types

How the default of a property is spelled is decided by the name of its type. The name is looked for
behind a binding, but not before the mark of an optional type. So the default of an optional type is
spelled as if the type had no spelling of its own: a text without quotes, a color without its point,
and a value that is not a truth value as what it is where a truth value is wanted.

For the three types that have a spelling of their own the two differ, then, except where a truth
value is given as one, or as the text `true`.
-/

namespace SpecForge

namespace Text.Quoted

theorem length_le_escape (quote : Char) (cs : List Char) : cs.length ≤ (escape quote cs).length := by
  induction cs with
  | nil => exact Nat.le_refl 0
  | cons c cs ih =>
      rw [escape]
      split
      · simp only [List.length_cons]
        omega
      · simp only [List.length_cons]
        omega

end Text.Quoted

theorem quoted_ne (s : String) : quoted s ≠ s := by
  intro h
  have hlength := congrArg (fun t => t.toList.length) h
  have hescape := Text.Quoted.length_le_escape '"' s.toList
  simp only [quoted, Text.Quoted.write, String.toList_ofList, List.length_cons, List.length_append,
    List.length_nil] at hlength
  omega

namespace Value

/-! ### Texts of values -/

/-- Does a text begin, but not like a truth value? -/
def beginsOther (s : String) : Bool := s.toList.head?.any fun c => c != 't' && c != 'f'

theorem beginsOther_append {s : String} (h : beginsOther s = true) (t : String) :
    beginsOther (s ++ t) = true := by
  unfold beginsOther at h ⊢
  rw [String.toList_append]
  cases hs : s.toList with
  | nil => simp [hs] at h
  | cons c cs => simpa [hs] using h

theorem beginsOther_of_isDigit {s : String} {c : Char} {cs : List Char} (hs : s.toList = c :: cs)
    (hc : c = '-' ∨ c.isDigit = true) : beginsOther s = true := by
  have hne : c ≠ 't' ∧ c ≠ 'f' := by
    constructor <;> rintro rfl <;> simp at hc
  simp [beginsOther, hs, hne]

theorem beginsOther_of_form? {s : String} {form : Decimal.Form}
    (h : Decimal.form? s.toList = some form) : beginsOther s = true := by
  obtain ⟨c, cs, hs, hc⟩ := Decimal.head_of_form? h
  exact beginsOther_of_isDigit hs hc

theorem beginsOther_zeroFilled (width n : Nat) :
    beginsOther (Decimal.zeroFilled width n) = true := by
  obtain ⟨hne, hdigits⟩ := Decimal.isRow_iff.1 (Decimal.isRow_zeroFilled width n)
  obtain ⟨c, cs, hs⟩ := List.exists_cons_of_ne_nil hne
  exact beginsOther_of_isDigit hs (.inr (hdigits c (by rw [hs]; exact List.mem_cons_self)))

theorem beginsOther_date (d : Date) : beginsOther d.text = true := by
  simp only [Date.text, String.append_assoc]
  exact beginsOther_append (beginsOther_zeroFilled 4 d.year) _

theorem beginsOther_moment (m : Moment) (joint : String) :
    beginsOther (m.textWith joint) = true := by
  simp only [Moment.textWith, String.append_assoc]
  exact beginsOther_append (beginsOther_date m.date) _

theorem beginsOther_float (x : Decimal.Binary64) : beginsOther x.text = true := by
  cases x with
  | nan => decide
  | infinite negative => cases negative <;> decide
  | finite negative m e => exact beginsOther_of_form? (Decimal.form?_finite negative m e)

theorem beginsOther_shownDots (v : Value) : beginsOther v.shownDots = true := by
  cases v <;> simp [shownDots, beginsOther]

/-- Inside a list, words that begin like a truth value stand in quotes. -/
theorem beginsOther_shownIn (outer : List Nat) (v : Value) :
    beginsOther (shownIn outer v) = true := by
  cases v with
  | int n => exact beginsOther_of_form? (Decimal.form?_int n)
  | float x => exact beginsOther_float x
  | bool b => cases b <;> simp [shownIn, beginsOther]
  | str s =>
      rw [shownIn, Text.shown]
      split <;> simp [beginsOther]
  | set xs => cases xs <;> simp [shownIn, beginsOther]
  | loop n v =>
      rw [shownIn]
      split
      · exact beginsOther_shownDots v
      · exact beginsOther_shownIn (n :: outer) v
  | _ => simp [shownIn, shownParts, shownMoment, shownBytes, beginsOther]

/-- Only a text is spelled like a truth value. -/
theorem text_eq_truthText_iff {v : Value} {b : Bool} :
    v.text = Component.Swift.truthText b ↔ v = .str (Component.Swift.truthText b) := by
  have htruth : beginsOther (Component.Swift.truthText b) = false := by
    cases b <;> decide
  constructor
  · intro h
    have hother : ¬ beginsOther v.text = true := by
      rw [h, htruth]
      decide
    cases v with
    | str s => exact congrArg Value.str h
    | date d => exact absurd (beginsOther_date d) hother
    | moment m => exact absurd (beginsOther_moment m " ") hother
    | _ => exact absurd (beginsOther_shownIn [] _) hother
  · rintro rfl
    rfl

end Value

/-- The property with an optional type. -/
def ComponentProperty.optional (prop : ComponentProperty) : ComponentProperty :=
  { prop with type := prop.type ++ "?" }

namespace Component.Swift

/-- How a value is spelled where the type has no spelling of its own. -/
def bareText : Value → String
  | .bool b => truthText b
  | v => v.text

/-- The mark of an optional type hides a binding too. -/
theorem defaultBase_optional (type : String) : defaultBase (type ++ "?") = type ++ "?" := by
  have hunwrap : TypeName.unwrapBinding? (type ++ "?") = none := by
    have hlast : ((type ++ "?").toList.getLast? == some '>') = false := by
      simp
    rw [TypeName.unwrapBinding?, TypeExpr.unwrap?, hlast]
    simp
  rw [defaultBase, hunwrap]

/-- No type with a spelling of its own ends with the mark of an optional one. -/
theorem optional_ne {type name : String} (hname : name ∈ ["String", "Bool", "Color"]) :
    type ++ "?" ≠ name := by
  intro h
  have hlast : name.toList.getLast? = some '?' := by
    rw [← h]
    simp
  simp only [List.mem_cons, List.not_mem_nil, or_false] at hname
  rcases hname with rfl | rfl | rfl <;> exact absurd hlast (by decide)

/-- How a value is spelled for a type. -/
def spelledFor (base : String) (v : Value) : String :=
  if base == "String" then quoted v.text
  else if base == "Bool" then truthText v.isGiven
  else if base == "Color" then "." ++ v.text
  else bareText v

theorem defaultLiteral_eq {prop : ComponentProperty} (h : prop.default ≠ .null) :
    defaultLiteral prop = some (spelledFor (defaultBase prop.type) prop.default) := by
  unfold defaultLiteral
  split
  · rename_i hnull
    exact absurd hnull h
  · rename_i v hv
    simp only [spelledFor, bareText]
    split_ifs
    · rfl
    · rfl
    · rfl
    · cases prop.default <;> rfl

theorem spelledFor_optional (type : String) (v : Value) :
    spelledFor (defaultBase (type ++ "?")) v = bareText v := by
  have hne := @optional_ne type
  rw [defaultBase_optional, spelledFor]
  simp [hne]

theorem quoted_ne_bareText (v : Value) : quoted v.text ≠ bareText v := by
  cases v with
  | bool b => cases b <;> decide
  | _ => exact quoted_ne _

theorem point_ne_bareText (v : Value) : "." ++ v.text ≠ bareText v := by
  have hpoint : ∀ s : String, "." ++ s ≠ s := by
    intro s h
    have hlength := congrArg (fun t => t.toList.length) h
    simp at hlength
  cases v with
  | bool b => cases b <;> decide
  | _ => exact hpoint _

/-- A truth value is spelled as itself, and so is the text that spells the one that it counts as. -/
theorem truthText_eq_bareText_iff {v : Value} :
    truthText v.isGiven = bareText v ↔ (∃ b, v = .bool b) ∨ v = .str "true" := by
  have hplain : (∀ b, v ≠ .bool b) → bareText v = v.text := by
    intro h
    cases v with
    | bool b => exact absurd rfl (h b)
    | _ => rfl
  constructor
  · intro h
    by_cases hbool : ∃ b, v = .bool b
    · exact .inl hbool
    · rw [hplain fun b hb => hbool ⟨b, hb⟩, eq_comm, Value.text_eq_truthText_iff] at h
      cases hgiven : v.isGiven with
      | true => exact .inr (by rw [h, hgiven]; rfl)
      | false =>
          rw [hgiven] at h
          rw [h] at hgiven
          exact absurd hgiven (by decide)
  · rintro (⟨b, rfl⟩ | rfl)
    · rfl
    · rfl

/-- Of the types with a spelling of their own, only that of truth values spells some values as if it
had none. -/
theorem spelledFor_eq_bareText_iff {base : String} {v : Value} :
    spelledFor base v = bareText v ↔ base ∉ ["String", "Bool", "Color"] ∨
      base = "Bool" ∧ ((∃ b, v = .bool b) ∨ v = .str "true") := by
  by_cases hmem : base ∈ ["String", "Bool", "Color"]
  · simp only [hmem, not_true_eq_false, false_or]
    simp only [List.mem_cons, List.not_mem_nil, or_false] at hmem
    rcases hmem with rfl | rfl | rfl
    · exact iff_of_false (quoted_ne_bareText v) fun h => absurd h.1 (by decide)
    · simp only [true_and]
      exact truthText_eq_bareText_iff
    · exact iff_of_false (point_ne_bareText v) fun h => absurd h.1 (by decide)
  · refine iff_of_true ?_ (.inl hmem)
    simp only [List.mem_cons, List.not_mem_nil, or_false, not_or] at hmem
    simp [spelledFor, hmem]

/-- The default of a property whose type is made optional is spelled as if its type had no spelling
of its own. So it is spelled like that of the property exactly if the type of the property has none
either, or is that of truth values and the default is one of them, or the text `true`. -/
theorem defaultLiteral_optional_iff {prop : ComponentProperty} (h : prop.default ≠ .null) :
    defaultLiteral prop.optional = some (bareText prop.default) ∧
    (defaultLiteral prop.optional = defaultLiteral prop ↔
      defaultBase prop.type ∉ ["String", "Bool", "Color"] ∨
        defaultBase prop.type = "Bool" ∧
          ((∃ b, prop.default = .bool b) ∨ prop.default = .str "true")) := by
  have hbare : defaultLiteral prop.optional = some (bareText prop.default) := by
    have hoptional : prop.optional.default ≠ .null := h
    rw [defaultLiteral_eq hoptional]
    exact congrArg some (spelledFor_optional prop.type prop.default)
  refine ⟨hbare, ?_⟩
  rw [hbare, defaultLiteral_eq h, Option.some_inj, eq_comm]
  exact spelledFor_eq_bareText_iff

/-- A number of copies. -/
def copiesProperty : ComponentProperty :=
  { name := "copies", type := "Int", isRequired := false, default := .int 3,
    description := "copies" }

theorem defaultLiteral_optional_copies : copiesProperty.default ≠ .null ∧
    defaultLiteral copiesProperty.optional = defaultLiteral copiesProperty ∧
    defaultLiteral copiesProperty = some "3" := by
  have hdefault : copiesProperty.default ≠ .null := nofun
  exact ⟨hdefault, (defaultLiteral_optional_iff hdefault).2.2 (.inl (by decide)), by decide⟩

/-- A specification with two properties that have the same default, one with an optional type. -/
def tagSpec : Value :=
  .record [("component", .str "Tag"), ("properties", .list [
    .record [("name", .str "label"), ("type", .str "String"), ("defaultValue", .str "Hi")],
    .record [("name", .str "caption"), ("type", .str "String?"), ("defaultValue", .str "Hi")]])]

/-- The default of the optional property is a text without quotes. -/
theorem not_defaultLiteral_optional_tagSpec : ∃ c label caption, ofSpec tagSpec = .ok c ∧
    c.properties = [label, caption] ∧ caption.type = label.optional.type ∧
    caption.default = label.default ∧ label.default ≠ .null ∧
    (propertyParameter label).text = "label: String = \"Hi\"" ∧
    (propertyParameter caption).text = "caption: String? = Hi" ∧
    defaultLiteral caption ≠ defaultLiteral label := by
  refine ⟨_, _, _, rfl, rfl, rfl, rfl, nofun, ?_, ?_, ?_⟩
  · decide +kernel
  · decide +kernel
  · decide +kernel

end Component.Swift

end SpecForge
