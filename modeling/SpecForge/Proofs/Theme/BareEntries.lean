import SpecForge.Proofs.Shape.Schema
import SpecForge.Proofs.Theme.Group

/-!
# Entries without an object

An entry of a group may be a bare value, or an object with this value as a member. It makes no
difference which: a document in which any of its bare entries are written as objects has the same
theme, or is refused in the same words.
-/

namespace SpecForge

open Api (memberOrNull membersOf)

namespace Value

/-! ### Changes inside objects -/

/-- Changes the members of an object. Other values stay as they are. -/
def mapMembers (h : Value × Value → Value × Value) : Value → Value
  | .object ms => .object (ms.map h)
  | .loop number v => .loop number (mapMembers h v)
  | v => v

theorem content_mapMembers (h : Value × Value → Value × Value) (v : Value) :
    (mapMembers h v).content = mapMembers h v.content := by
  cases v <;> rfl

@[simp]
theorem isObject_mapMembers (h : Value × Value → Value × Value) (v : Value) :
    (mapMembers h v).isObject = v.isObject := by
  rw [isObject, isObject, content_mapMembers]
  cases v.content <;> rfl

theorem content_ne_object {v : Value} (hv : ¬ v.isObject = true) (ms : List (Value × Value)) :
    v.content ≠ .object ms := by
  intro hcontent
  rw [isObject, hcontent] at hv
  exact hv rfl

/-- Changes the value of a member with the given key, and leaves the other members alone. -/
def atKey (key : String) (f : Value → Value) (m : Value × Value) : Value × Value :=
  (m.1, if m.1.isText key then f m.2 else m.2)

theorem lookup_map_atKey_self (key : String) (f : Value → Value) (ms : List (Value × Value)) :
    lookup key (ms.map (atKey key f)) = (lookup key ms).map f := by
  induction ms with
  | nil => rfl
  | cons m ms ih =>
      rw [List.map_cons, atKey, lookup, lookup]
      split
      · rfl
      · exact ih

theorem lookup_map_atKey_of_ne {key other : String} (hne : other ≠ key) (f : Value → Value)
    (ms : List (Value × Value)) : lookup other (ms.map (atKey key f)) = lookup other ms := by
  induction ms with
  | nil => rfl
  | cons m ms ih =>
      rw [List.map_cons, atKey, lookup, lookup, ih]
      by_cases hother : m.1.isText other = true
      · have hkey : ¬ m.1.isText key = true := by
          intro hkey
          have htext := Model.isText_eq_true_iff.1 hkey
          rw [Model.isText_eq_true_iff.1 hother] at htext
          exact hne (str.inj htext)
        rw [if_neg hkey]
      · rw [if_neg hother, if_neg hother]

theorem member?_atKey_self (key : String) (f : Value → Value) (v : Value) :
    (mapMembers (atKey key f) v).member? key = (v.member? key).map f := by
  rw [member?, member?, content_mapMembers]
  cases v.content with
  | object ms => exact lookup_map_atKey_self key f ms
  | _ => rfl

theorem member?_atKey_of_ne {key other : String} (hne : other ≠ key) (f : Value → Value)
    (v : Value) : (mapMembers (atKey key f) v).member? other = v.member? other := by
  rw [member?, member?, content_mapMembers]
  cases v.content with
  | object ms => exact lookup_map_atKey_of_ne hne f ms
  | _ => rfl

end Value

namespace Theme

open Value (mapMembers atKey)

/-! ### Entries as objects -/

/-- A bare entry written as an object. -/
def asObject (entry : Value) : Value :=
  if entry.isObject then entry else .record [("value", entry)]

/-- Writes the chosen entries of a group as objects. -/
def withObject (chosen : Value → Bool) (m : Value × Value) : Value × Value :=
  if chosen m.1 then (m.1, asObject m.2) else m

/-- A reading of entries that does not tell a bare entry from an object. -/
def IgnoresForm {α : Type} (read : Value → Value → Outcome α) : Prop :=
  ∀ key entry, read key (asObject entry) = read key entry

theorem entryParts_asObject (entry : Value) : entryParts (asObject entry) = entryParts entry := by
  rw [asObject]
  split
  · rfl
  · rename_i hentry
    rw [entryParts.eq_def entry]
    split
    · rename_i ms hcontent
      exact absurd hcontent (Value.content_ne_object hentry ms)
    · rfl

theorem member?_fallback_asObject (entry : Value) :
    (asObject entry).member? "fallback" = entry.member? "fallback" := by
  rw [asObject]
  split
  · rfl
  · rename_i hentry
    rw [Value.member?.eq_def entry]
    split
    · rename_i ms hcontent
      exact absurd hcontent (Value.content_ne_object hentry ms)
    · rfl

theorem ignoresForm_valueToken : IgnoresForm valueToken := by
  intro key entry
  rw [valueToken, valueToken, entryParts_asObject]

theorem ignoresForm_dimensionToken : IgnoresForm dimensionToken := by
  intro key entry
  rw [dimensionToken, dimensionToken, entryParts_asObject]

theorem ignoresForm_fontFamily : IgnoresForm fontFamily := by
  intro key entry
  rw [fontFamily, fontFamily, entryParts_asObject, member?_fallback_asObject]

theorem ignoresForm_fontWeight : IgnoresForm fontWeight := by
  intro key entry
  rw [fontWeight, fontWeight, entryParts_asObject]

theorem IgnoresForm.withObject {α : Type} {read : Value → Value → Outcome α}
    (hread : IgnoresForm read) (chosen : Value → Bool) (m : Value × Value) :
    read (withObject chosen m).1 (withObject chosen m).2 = read m.1 m.2 := by
  rw [Theme.withObject]
  split
  · exact hread m.1 m.2
  · rfl

/-! ### Groups as parts of a document -/

theorem group_congr {v w : Value} {key : String} (h : w.member? key = v.member? key) :
    group w key = group v key := by
  rw [group, group, h]

theorem tokensOf_congr {α : Type} {read : Value → Value → Outcome α} {v w : Value} {key : String}
    (h : w.member? key = v.member? key) : tokensOf read w key = tokensOf read v key := by
  rw [tokensOf, tokensOf, group_congr h]

/-- A group whose entries are changed is the group with the changed entries, and it is refused if it
was refused before. -/
theorem group_atKey (key : String) (h : Value × Value → Value × Value) (v : Value) :
    group (mapMembers (atKey key (mapMembers h)) v) key = (group v key).map (List.map h) := by
  rw [group, group, Value.member?_atKey_self]
  cases v.member? key with
  | none => rfl
  | some w =>
      rw [Option.map_some, Option.getD_some, Option.getD_some, Value.content_mapMembers]
      cases w.content <;> rfl

theorem membersOf_atKey (key : String) (h : Value × Value → Value × Value) (v : Value) :
    membersOf (memberOrNull (mapMembers (atKey key (mapMembers h)) v) key) =
      (membersOf (memberOrNull v key)).map h := by
  rw [memberOrNull, memberOrNull, Value.member?_atKey_self]
  cases v.member? key with
  | none => rfl
  | some w =>
      rw [Option.map_some, Option.getD_some, Option.getD_some, membersOf, membersOf,
        Value.content_mapMembers]
      cases w.content <;> rfl

theorem mapM_withObject {α : Type} {read : Value → Value → Outcome α} (hread : IgnoresForm read)
    (chosen : Value → Bool) (ms : List (Value × Value)) :
    ((ms.map (withObject chosen)).mapM fun m => read m.1 m.2) =
      ms.mapM fun m => read m.1 m.2 := by
  rw [List.mapM_map]
  exact mapM_congr fun m _ => hread.withObject chosen m

/-- The tokens of the groups under the given keys are the same in two objects. -/
def SameTokens (keys : String → Prop) (v w : Value) : Prop :=
  ∀ {α : Type} {read : Value → Value → Outcome α}, IgnoresForm read →
    ∀ key, keys key → tokensOf read w key = tokensOf read v key

theorem sameTokens_withObject (keys : String → Prop) (key : String) (chosen : Value → Bool)
    (v : Value) :
    SameTokens keys v (mapMembers (atKey key (mapMembers (withObject chosen))) v) := by
  intro α read hread other _
  by_cases hother : other = key
  · rw [hother, tokensOf, tokensOf, group_atKey]
    cases group v key with
    | error e => rfl
    | ok ms => exact mapM_withObject hread chosen ms
  · exact tokensOf_congr (Value.member?_atKey_of_ne hother _ v)

/-- The theme of a document depends on the tokens of its groups only, those of typography being the
tokens of the groups within. -/
theorem ofTokens_congr {tokens tokens' : Value} {k : Value × Value → Value × Value}
    (hobject : tokens'.isObject = tokens.isObject)
    (htypography : group tokens' "typography" = (group tokens "typography").map (List.map k))
    (houter : SameTokens (· ≠ "typography") tokens tokens')
    (hinner : ∀ ms, SameTokens (fun _ => True) (.object ms) (.object (ms.map k))) (name : String) :
    ofTokens tokens' name = ofTokens tokens name := by
  rw [ofTokens, ofTokens, hobject, htypography]
  split
  · rfl
  · cases group tokens "typography" with
    | error e => rfl
    | ok ms =>
        -- past the group of typography, only the readings of the ten groups differ
        change (tokensOf valueToken tokens' "colors" >>= _) =
          (tokensOf valueToken tokens "colors" >>= _)
        rw [houter ignoresForm_valueToken "colors" (by decide),
          hinner ms ignoresForm_fontFamily "fontFamilies" trivial,
          hinner ms ignoresForm_dimensionToken "fontSizes" trivial,
          hinner ms ignoresForm_fontWeight "fontWeights" trivial,
          hinner ms ignoresForm_dimensionToken "lineHeights" trivial,
          hinner ms ignoresForm_dimensionToken "letterSpacing" trivial,
          houter ignoresForm_dimensionToken "spacing" (by decide),
          houter ignoresForm_dimensionToken "borderRadius" (by decide),
          houter ignoresForm_valueToken "shadows" (by decide),
          houter ignoresForm_dimensionToken "breakpoints" (by decide)]

/-! ### Documents with objects -/

namespace Group

theorem key_injective {g g' : Group} (h : g.key = g'.key) : g = g' := by
  have hall : ∀ g ∈ all, ∀ g' ∈ all, g.key = g'.key → g = g' := by decide
  exact hall g (mem_all g) g' (mem_all g') h

theorem key_ne_typography (g : Group) : g.key ≠ "typography" := by
  cases g <;> decide

/-- Changes the entries of a group in a document. -/
def mapEntries (h : Value × Value → Value × Value) (g : Group) (tokens : Value) : Value :=
  if g.isInner then mapMembers (atKey "typography" (mapMembers (atKey g.key (mapMembers h)))) tokens
  else mapMembers (atKey g.key (mapMembers h)) tokens

variable {g g' : Group} {tokens : Value}

@[simp]
theorem isObject_mapEntries (h : Value × Value → Value × Value) :
    (g.mapEntries h tokens).isObject = tokens.isObject := by
  rw [mapEntries]
  split <;> exact Value.isObject_mapMembers _ _

theorem typographyOf_mapEntries_of_isInner (hg : g.isInner = true)
    (h : Value × Value → Value × Value) :
    typographyOf (g.mapEntries h tokens) =
      mapMembers (atKey g.key (mapMembers h)) (typographyOf tokens) := by
  rw [mapEntries, if_pos hg, typographyOf, membersOf_atKey]
  rfl

theorem typographyOf_mapEntries_of_not_isInner (hg : ¬ g.isInner = true)
    (h : Value × Value → Value × Value) :
    typographyOf (g.mapEntries h tokens) = typographyOf tokens := by
  rw [mapEntries, if_neg hg, typographyOf, typographyOf, memberOrNull, memberOrNull,
    Value.member?_atKey_of_ne g.key_ne_typography.symm]

/-- The entries of the group are changed. -/
theorem entries_mapEntries_self (h : Value × Value → Value × Value) :
    g.entries (g.mapEntries h tokens) = (g.entries tokens).map h := by
  rw [entries, entries]
  by_cases hg : g.isInner = true
  · rw [if_pos hg, if_pos hg, typographyOf_mapEntries_of_isInner hg, membersOf_atKey]
  · rw [if_neg hg, if_neg hg, mapEntries, if_neg hg, membersOf_atKey]

/-- The entries of all other groups stay as they are. -/
theorem entries_mapEntries_of_ne (hne : g' ≠ g) (h : Value × Value → Value × Value) :
    g'.entries (g.mapEntries h tokens) = g'.entries tokens := by
  have hkey : g'.key ≠ g.key := fun hkey => hne (key_injective hkey)
  rw [entries, entries, memberOrNull, memberOrNull]
  by_cases hg' : g'.isInner = true
  · rw [if_pos hg', if_pos hg']
    by_cases hg : g.isInner = true
    · rw [typographyOf_mapEntries_of_isInner hg, Value.member?_atKey_of_ne hkey]
    · rw [typographyOf_mapEntries_of_not_isInner hg]
  · rw [if_neg hg', if_neg hg', mapEntries]
    split
    · rw [Value.member?_atKey_of_ne g'.key_ne_typography]
    · rw [Value.member?_atKey_of_ne hkey]

/-- The theme of a document stays the same when chosen entries of one group become objects. -/
theorem ofTokens_mapEntries (g : Group) (chosen : Value → Bool) (tokens : Value) (name : String) :
    ofTokens (g.mapEntries (withObject chosen) tokens) name = ofTokens tokens name := by
  have hobject : (g.mapEntries (withObject chosen) tokens).isObject = tokens.isObject :=
    isObject_mapEntries (withObject chosen)
  by_cases hg : g.isInner = true
  -- within typography no outer group changes, and outside of it typography does not
  · rw [mapEntries, if_pos hg] at hobject ⊢
    refine ofTokens_congr hobject (group_atKey _ _ tokens) ?_ (fun ms => ?_) name
    · intro α read _ key hkey
      exact tokensOf_congr (Value.member?_atKey_of_ne hkey _ tokens)
    · exact sameTokens_withObject _ g.key chosen (.object ms)
  · rw [mapEntries, if_neg hg] at hobject ⊢
    have htypography := group_congr
      (Value.member?_atKey_of_ne g.key_ne_typography.symm (mapMembers (withObject chosen)) tokens)
    refine ofTokens_congr (k := id) hobject ?_ (sameTokens_withObject _ g.key chosen tokens) ?_ name
    · rw [htypography, List.map_id_fun, Except.map_id]
      rfl
    · intro ms α read _ key _
      rw [List.map_id]

end Group

/-- Writes the chosen entries of some groups as objects. -/
def withObjectsIn (chosen : Group → Value → Bool) (gs : List Group) (tokens : Value) : Value :=
  gs.foldl (fun tokens g => g.mapEntries (withObject (chosen g)) tokens) tokens

theorem entries_withObjectsIn_of_not_mem (chosen : Group → Value → Bool) {gs : List Group}
    {g : Group} (hg : g ∉ gs) (tokens : Value) :
    g.entries (withObjectsIn chosen gs tokens) = g.entries tokens := by
  induction gs generalizing tokens with
  | nil => rfl
  | cons g' gs ih =>
      rw [List.mem_cons, not_or] at hg
      rw [withObjectsIn, List.foldl_cons, ← withObjectsIn, ih hg.2,
        Group.entries_mapEntries_of_ne hg.1]

theorem entries_withObjectsIn (chosen : Group → Value → Bool) {gs : List Group} (hgs : gs.Nodup)
    {g : Group} (hg : g ∈ gs) (tokens : Value) :
    g.entries (withObjectsIn chosen gs tokens) =
      (g.entries tokens).map (withObject (chosen g)) := by
  induction gs generalizing tokens with
  | nil => exact absurd hg List.not_mem_nil
  | cons g' gs ih =>
      rw [List.nodup_cons] at hgs
      rw [withObjectsIn, List.foldl_cons, ← withObjectsIn]
      rcases List.mem_cons.1 hg with rfl | hmem
      · rw [entries_withObjectsIn_of_not_mem chosen hgs.1, Group.entries_mapEntries_self]
      · have hne : g ≠ g' := by
          rintro rfl
          exact hgs.1 hmem
        rw [ih hgs.2 hmem, Group.entries_mapEntries_of_ne hne]

theorem ofTokens_withObjectsIn (chosen : Group → Value → Bool) (gs : List Group) (tokens : Value)
    (name : String) : ofTokens (withObjectsIn chosen gs tokens) name = ofTokens tokens name := by
  induction gs generalizing tokens with
  | nil => rfl
  | cons g gs ih =>
      rw [withObjectsIn, List.foldl_cons, ← withObjectsIn, ih, Group.ofTokens_mapEntries]

/-- The document in which all bare entries that are chosen by their groups and keys are written as
objects. -/
def withObjects (chosen : Group → Value → Bool) (tokens : Value) : Value :=
  withObjectsIn chosen Group.all tokens

/-- An accepted document has one token for each entry of a group, in the same order and named by the
key of the entry in camel case. If any bare entries of a document are written as objects, its theme
stays the same, or it is refused in the same words. -/
theorem ofTokens_withObjects (tokens : Value) (name : String) :
    (∀ theme, ofTokens tokens name = .ok theme →
      ∀ g : Group, NamedBy (g.entries tokens) (g.names theme)) ∧
    ∀ chosen : Group → Value → Bool,
      (∀ g : Group, g.entries (withObjects chosen tokens) =
        (g.entries tokens).map fun m => if chosen g m.1 then (m.1, asObject m.2) else m) ∧
      ofTokens (withObjects chosen tokens) name = ofTokens tokens name := by
  refine ⟨fun theme htheme => namedBy_of_ofTokens htheme, fun chosen => ⟨fun g => ?_, ?_⟩⟩
  · have hnodup : Group.all.Nodup := by decide
    exact entries_withObjectsIn chosen hnodup g.mem_all tokens
  · exact ofTokens_withObjectsIn chosen Group.all tokens name

/-- A document with bare entries and objects. -/
def mixedDocument : Value :=
  .record [("colors", .record [("brand color", .str "#fff"), ("on", .bool true)]),
    ("typography", .record [
      ("fontFamilies", .record [("body", .str "Inter"),
        ("code", .record [("value", .str "Mono"), ("fallback", .list [.str "Courier"])])]),
      ("fontWeights", .record [("bold", .str " 700 "), ("thin", .int 100)])]),
    ("spacing", .null)]

/-- The document with all but one of its bare entries written as objects. -/
def wrappedDocument : Value :=
  .record [("colors", .record [("brand color", .record [("value", .str "#fff")]),
      ("on", .record [("value", .bool true)])]),
    ("typography", .record [
      ("fontFamilies", .record [("body", .record [("value", .str "Inter")]),
        ("code", .record [("value", .str "Mono"), ("fallback", .list [.str "Courier"])])]),
      ("fontWeights", .record [("bold", .record [("value", .str " 700 ")]), ("thin", .int 100)])]),
    ("spacing", .null)]

theorem ofTokens_wrappedDocument :
    ∃ theme, ofTokens mixedDocument "Theme" = .ok theme ∧
      ofTokens wrappedDocument "Theme" = .ok theme ∧
      NamedBy [(.str "bold", .str " 700 "), (.str "thin", .int 100)]
        (Group.fontWeights.names theme) := by
  obtain ⟨theme, hok⟩ : ∃ theme, ofTokens mixedDocument "Theme" = .ok theme :=
    exists_ok_of_isSome (by decide +kernel)
  obtain ⟨hnamed, hall⟩ := ofTokens_withObjects mixedDocument "Theme"
  have hwrapped : withObjects (fun _ key => !key.isText "thin") mixedDocument = wrappedDocument :=
    rfl
  obtain ⟨_, hsame⟩ := hall fun _ key => !key.isText "thin"
  rw [hwrapped] at hsame
  exact ⟨theme, hok, hsame.trans hok, hnamed theme hok .fontWeights⟩

end Theme

end SpecForge
