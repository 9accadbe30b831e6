import SpecForge.Proofs.Generator.FileName
import SpecForge.Proofs.Project.OtherText
import SpecForge.Proofs.Project.Present
import SpecForge.Proofs.Project.Schemas
import SpecForge.Proofs.Shape.Members

/-!
# The platforms of a configuration

Two texts of a configuration that differ in the platforms alone give configurations that do. What is
read from them as a specification is the same: no kind of specification looks at platforms. So the
trees in which they stand hold the same specifications.
-/

namespace SpecForge

/-! ## Values that differ in one member -/

/-- Two values have the same members, but for those with the key. -/
structure Value.AgreeBut (key : String) (v w : Value) : Prop where
  isObject : v.isObject = w.isObject
  member : ∀ other, other ≠ key → v.member? other = w.member? other

section

variable {v w : Value} (h : Value.AgreeBut "platforms" v w)

include h

theorem Model.ofSchema_of_agreeBut : Model.ofSchema v = Model.ofSchema w := by
  rw [ofSchema, ofSchema, h.member "type" (by decide), h.member "required" (by decide),
    h.member "properties" (by decide), h.member "title" (by decide),
    h.member "description" (by decide)]

theorem Theme.group_of_agreeBut {key : String} (hkey : key ≠ "platforms") :
    Theme.group v key = Theme.group w key := by
  rw [group, group, h.member key hkey]

theorem Theme.tokensOf_of_agreeBut {α : Type} (read : Value → Value → Outcome α) {key : String}
    (hkey : key ≠ "platforms") : Theme.tokensOf read v key = Theme.tokensOf read w key := by
  rw [tokensOf, tokensOf, group_of_agreeBut h hkey]

theorem Theme.ofTokens_of_agreeBut (name : String) :
    Theme.ofTokens v name = Theme.ofTokens w name := by
  rw [ofTokens, ofTokens, h.isObject, group_of_agreeBut h (by decide : "typography" ≠ "platforms"),
    tokensOf_of_agreeBut h valueToken (by decide : "colors" ≠ "platforms"),
    tokensOf_of_agreeBut h dimensionToken (by decide : "spacing" ≠ "platforms"),
    tokensOf_of_agreeBut h dimensionToken (by decide : "borderRadius" ≠ "platforms"),
    tokensOf_of_agreeBut h valueToken (by decide : "shadows" ≠ "platforms"),
    tokensOf_of_agreeBut h dimensionToken (by decide : "breakpoints" ≠ "platforms")]

theorem Api.ofDocument_of_agreeBut : Api.ofDocument v = Api.ofDocument w := by
  have hmember : ∀ key, key ≠ "platforms" → memberOrNull v key = memberOrNull w key := by
    intro key hkey
    rw [memberOrNull, memberOrNull, h.member key hkey]
  rw [ofDocument, ofDocument, h.isObject, hmember "info" (by decide),
    hmember "servers" (by decide), hmember "components" (by decide), hmember "paths" (by decide)]

end

namespace Project

/-- A file to which a path leads stands under the last name of the path. -/
theorem Tree.get?_of_look {t : Tree} {p : Path} {place : List String} {text : String}
    (h : t.look p = .ok (some (place, .file text))) :
    t.get? place = some (.file text) ∧ place.getLast? = some p.name := by
  obtain ⟨_, hfind⟩ := look_eq_some_iff.1 h
  have hne : p.steps ≠ [] := by
    intro hnil
    rw [find, hnil] at hfind
    split at hfind
    · cases hfind
    · cases hfind
  obtain ⟨mid, _, hstep⟩ := find_parent hfind hne
  have hup : p.name ≠ Path.up := by
    intro hup
    rw [hup, follow_up] at hstep
    cases hstep
  obtain ⟨_, ⟨_, hrest⟩ | ⟨_, hget, _, rfl, he⟩⟩ := follow_cons_cases hup hstep
  · cases hrest
  · cases he
    exact ⟨hget, List.getLast?_concat⟩

theorem Tree.document_of_look {t : Tree} {p : Path} {place : List String} {text : String}
    (h : t.look p = .ok (some (place, .file text))) :
    t.document p = Document.ofFile p.name text := by
  rw [document, read_of_look h]
  dsimp only [bind, Except.bind]

namespace Config

open Shape

/-- A configuration that names platforms between other members. -/
def offering (front back : List (Value × Value)) (names : List String) : Value :=
  .object (front ++ (.str "platforms", .list (names.map .str)) :: back)

section

variable (front back : List (Value × Value)) (names names' : List String)

theorem lookup_offering {key : String} (hkey : key ≠ "platforms") :
    Value.lookup key (front ++ (.str "platforms", .list (names.map .str)) :: back) =
      (Value.lookup key front).or (Value.lookup key back) := by
  have hne : (Value.str "platforms").isText key = false := beq_eq_false_iff_ne.2 hkey
  rw [Value.lookup_append, Value.lookup, hne, if_neg Bool.false_ne_true]

theorem agreeBut_offering :
    (offering front back names).AgreeBut "platforms" (offering front back names') := by
  constructor
  · rfl
  · intro key hkey
    exact (lookup_offering front back names hkey).trans
      (lookup_offering front back names' hkey).symm

theorem unknown_offering :
    unknown knownMembers (front ++ (.str "platforms", .list (names.map .str)) :: back) =
      unknown knownMembers front ++ unknown knownMembers back := by
  have hknown : ¬ (!knownMembers.any fun key => (Value.str "platforms").isText key) = true := by
    decide
  rw [unknown, List.filter_append, List.filter_cons, if_neg hknown]
  rfl

theorem memberOr_offering {α : Type} {key : String} (hkey : key ≠ "platforms")
    (absent : Except Issue α) (r : Reader α) :
    memberOr [key, key] absent r (front ++ (.str "platforms", .list (names.map .str)) :: back) =
      memberOr [key, key] absent r
        (front ++ (.str "platforms", .list (names'.map .str)) :: back) := by
  simp only [memberOr, List.findSome?, lookup_offering front back _ hkey]

theorem given_offering {α : Type} {key : String} (hkey : key ≠ "platforms") (default : α)
    (r : Reader α) :
    given key key default r (front ++ (.str "platforms", .list (names.map .str)) :: back) =
      given key key default r (front ++ (.str "platforms", .list (names'.map .str)) :: back) :=
  memberOr_offering front back names names' hkey _ r

theorem required_offering {α : Type} {key : String} (hkey : key ≠ "platforms") (r : Reader α) :
    required key key r (front ++ (.str "platforms", .list (names.map .str)) :: back) =
      required key key r (front ++ (.str "platforms", .list (names'.map .str)) :: back) :=
  memberOr_offering front back names names' hkey _ r

variable {front} in
theorem platforms_offering (hfront : ∀ m ∈ front, m.1.isText "platforms" = false) :
    given "platforms" "platforms" [] (list text)
      (front ++ (.str "platforms", .list (names.map .str)) :: back) = .ok names := by
  have hfound : Value.lookup "platforms"
      (front ++ (.str "platforms", .list (names.map .str)) :: back) =
        some (.list (names.map .str)) := by
    rw [Value.lookup_append, Value.lookup_eq_none hfront, Value.lookup, Value.isText_self,
      if_pos rfl]
    rfl
  have hread : list text (.list (names.map .str)) = .ok (names.map id) := list_map fun _ _ => rfl
  rw [given, memberOr, List.findSome?_cons, hfound, Option.map_some]
  refine under_eq_ok_iff.2 ?_
  rw [hread, List.map_id]

variable {front} in
/-- Configurations that differ in the platforms alone are read alike. -/
theorem read_offering (hfront : ∀ m ∈ front, m.1.isText "platforms" = false) :
    read (offering front back names') =
      (read (offering front back names)).map fun c => { c with platforms := names' } := by
  have hread : ∀ ms, read (.object ms) = (do
      let name ← required "name" "name" text ms
      let version ← given "version" "version" firstVersion text ms
      let platforms ← given "platforms" "platforms" [] (list text) ms
      let specs ← possible "specs" "specs" readSpecs ms
      let generation ← possible "generation" "generation" readGenerations ms
      let plugins ← given "plugins" "plugins" [] (list readPlugin) ms
      return ⟨name, version, platforms, specs, generation, plugins, unknown knownMembers ms⟩) :=
    fun _ => rfl
  rw [offering, offering, hread, hread, platforms_offering back names' hfront,
    platforms_offering back names hfront, unknown_offering, unknown_offering,
    required_offering front back names' names (by decide), possible, possible, possible, possible,
    given_offering front back names' names (by decide : "version" ≠ "platforms"),
    given_offering front back names' names (by decide : "specs" ≠ "platforms"),
    given_offering front back names' names (by decide : "generation" ≠ "platforms"),
    given_offering front back names' names (by decide : "plugins" ≠ "platforms")]
  generalize front ++ (.str "platforms", .list (names.map .str)) :: back = ms
  cases required "name" "name" text ms with
  | error i => rfl
  | ok name =>
      cases given "version" "version" firstVersion text ms with
      | error i => rfl
      | ok version =>
          cases given "specs" "specs" none (optional readSpecs) ms with
          | error i => rfl
          | ok specs =>
              cases given "generation" "generation" none (optional readGenerations) ms with
              | error i => rfl
              | ok generation => cases given "plugins" "plugins" [] (list readPlugin) ms <;> rfl

end

/-! ## The file of a configuration -/

/-- The text of a configuration says what its file holds, whatever is read from it. -/
theorem ofFile_offering {text : String} {front back : List (Value × Value)} {names : List String}
    (h : Json.read (String.ofList (Text.unifyBreaks text.toList)) =
      .ok (offering front back names)) :
    Document.ofFile fileName text = .ok (offering front back names) := by
  have hyaml : Document.isYamlName fileName = false := by decide
  rw [Document.ofFile, Document.valueOf]
  simp only [hyaml, h]
  rfl

/-- Two texts that differ in the platforms alone are read alike. -/
theorem ofText_offering {text text' : String} {front back : List (Value × Value)}
    {names names' : List String} (hfront : ∀ m ∈ front, m.1.isText "platforms" = false)
    (h : Json.read (String.ofList (Text.unifyBreaks text.toList)) =
      .ok (offering front back names))
    (h' : Json.read (String.ofList (Text.unifyBreaks text'.toList)) =
      .ok (offering front back names')) :
    ofText text' = (ofText text).map fun c => { c with platforms := names' } := by
  rw [ofText, ofText, h, h']
  dsimp only
  rw [read_offering back names names' hfront]
  cases read (offering front back names) <;> rfl

theorem load_of_look {t : Tree} {directory : Path} {place : List String} {text : String}
    (h : t.look (directory.join fileName) = .ok (some (place, .file text))) :
    load t directory = ofText text := by
  rw [load, Tree.read_of_look h]
  rfl

/-! ## Other platforms in the configuration of a directory -/

/-- The tree is the first one with other platforms in the configuration of a directory. -/
inductive Offers (directory : Path) (t : Tree) (names names' : List String) : Tree → Prop
  | intro {place : List String} {old new : String} {front back : List (Value × Value)}
      (found : t.look (directory.join fileName) = .ok (some (place, .file old)))
      (other : ∀ m ∈ front, m.1.isText "platforms" = false)
      (before : Json.read (String.ofList (Text.unifyBreaks old.toList)) =
        .ok (offering front back names))
      (after : Json.read (String.ofList (Text.unifyBreaks new.toList)) =
        .ok (offering front back names')) :
      Offers directory t names names' (t.put place (.file new))

theorem name_join_fileName (directory : Path) : (directory.join fileName).name = fileName :=
  Tree.name_concat directory fileName

section

variable {directory : Path} {t u : Tree} {names names' : List String}
  (h : Offers directory t names names' u)

include h

/-- What is free in one tree is free in the other. -/
theorem Offers.get?_eq_none {place : List String} (hfree : u.get? place = none) :
    t.get? place = none := by
  obtain ⟨found, other, before, after⟩ := h
  rw [Tree.get?_withText _ (Tree.get?_of_look found).1] at hfree
  split at hfree
  · cases hfree
  · exact hfree

/-- The configurations differ in the platforms alone. -/
theorem Offers.load_eq : Config.load u directory =
    (Config.load t directory).map fun c => { c with platforms := names' } := by
  obtain ⟨found, other, before, after⟩ := h
  rename_i place old new front back
  have hnew : (t.put place (.file new)).look (directory.join fileName) =
      .ok (some (place, .file new)) := by
    rw [Tree.look_withText new (Tree.get?_of_look found).1, found]
    simp only [Except.map, Option.map_some, if_true]
  rw [load_of_look hnew, load_of_look found, ofText_offering other before after]

theorem Offers.platforms_eq {c : Config} (hc : Config.load t directory = .ok c) :
    c.platforms = names := by
  obtain ⟨found, other, before, after⟩ := h
  have hself := ofText_offering other before before
  rw [load_of_look found] at hc
  rw [hc] at hself
  exact congrArg Config.platforms (Except.ok.inj hself)

/-- Specifications are read alike from both trees. -/
theorem Offers.document_bind {α : Type} {f : Value → Outcome α}
    (hf : ∀ v w : Value, v.AgreeBut "platforms" w → f v = f w) (p : Path) :
    (u.document p).bind f = (t.document p).bind f := by
  obtain ⟨found, other, before, after⟩ := h
  rename_i place old new front back
  obtain ⟨hfile, hname⟩ := Tree.get?_of_look found
  rw [name_join_fileName] at hname
  have hlook := Tree.look_withText new hfile p
  cases hp : t.look p with
  | error i =>
      rw [Tree.document, Tree.document, Tree.read, Tree.read, hlook, hp]
      rfl
  | ok there =>
      rw [hp] at hlook
      obtain _ | ⟨here, _ | text⟩ := there
      · rw [Tree.document, Tree.document, Tree.read, Tree.read, hlook, hp]
        rfl
      · rw [Tree.document, Tree.document, Tree.read, Tree.read, hlook, hp]
        rfl
      · simp only [Except.map, Option.map_some] at hlook
        rw [Tree.document_of_look hlook, Tree.document_of_look hp]
        by_cases hplace : here = place
        · obtain ⟨hget, hlast⟩ := Tree.get?_of_look hp
          rw [hplace, hfile] at hget
          rw [hplace, hname] at hlast
          cases hget
          rw [if_pos hplace, ← Option.some.inj hlast, ofFile_offering before,
            ofFile_offering after]
          exact hf _ _ (agreeBut_offering front back names' names)
        · rw [if_neg hplace]

end

end Config

end Project

end SpecForge
