import SpecForge.Project.Config
import SpecForge.Proofs.Document.Alike
import SpecForge.Proofs.Project.Present
import SpecForge.Proofs.Shape.Members

/-!
# Configurations that are written and read again

A configuration that was read, or that of a new project, is proper: no unknown member has a key that
is known, and the tables in it have different keys. The value that is saved leaves out every member
that is null. What is read from it is the configuration again, without the unknown members that are
null: every other member that is left out is null by default.
-/

namespace SpecForge

/-! ## Texts that no file can hold -/

/-- Stands somewhere in the value a text that is kept as bytes? -/
inductive Value.HoldsBytes : Value → Prop
  | bytes (data : List UInt8) : HoldsBytes (.bytes data)
  | item {items : List Value} {v : Value} (hv : v ∈ items) (h : HoldsBytes v) :
      HoldsBytes (.list items)
  | key {members : List (Value × Value)} {m : Value × Value} (hm : m ∈ members)
      (h : HoldsBytes m.1) : HoldsBytes (.object members)
  | value {members : List (Value × Value)} {m : Value × Value} (hm : m ∈ members)
      (h : HoldsBytes m.2) : HoldsBytes (.object members)
  | element {items : List Value} {v : Value} (hv : v ∈ items) (h : HoldsBytes v) :
      HoldsBytes (.set items)
  | first {a : Value} (b : Value) (h : HoldsBytes a) : HoldsBytes (.pair a b)
  | second (a : Value) {b : Value} (h : HoldsBytes b) : HoldsBytes (.pair a b)
  | loop (number : Nat) {v : Value} (h : HoldsBytes v) : HoldsBytes (.loop number v)

/-- A text is kept as bytes if and only if there is one half of a surrogate pair in it. -/
theorem Json.holdsBytes_textOf_iff (signs : List Json.Sign) :
    (Json.textOf signs).HoldsBytes ↔ ∃ n, .half n ∈ signs := by
  have hnone : signs.mapM Json.Sign.char? = none ↔ ∃ n, .half n ∈ signs := by
    induction signs with
    | nil => exact iff_of_false nofun fun ⟨_, hn⟩ => absurd hn List.not_mem_nil
    | cons sign signs ih =>
        rw [List.mapM_cons]
        cases sign with
        | char c =>
            simp only [List.mem_cons, reduceCtorEq, false_or, ← ih]
            cases signs.mapM Json.Sign.char? <;> simp [Json.Sign.char?]
        | half n => exact iff_of_true rfl ⟨n, List.mem_cons_self⟩
  rw [← hnone, Json.textOf]
  cases signs.mapM Json.Sign.char? with
  | none => exact iff_of_true (.bytes _) rfl
  | some cs => exact iff_of_false nofun nofun

namespace Json

mutual

theorem isEncodable_iff (v : Value) : isEncodable v = true ↔ ¬ v.HoldsBytes := by
  cases v with
  | list items =>
      rw [isEncodable, areEncodable_iff]
      refine ⟨fun h => ?_, fun h v hv hbytes => h (.item hv hbytes)⟩
      rintro (_ | ⟨hv, hbytes⟩)
      exact h _ hv hbytes
  | set items =>
      rw [isEncodable, areEncodable_iff]
      refine ⟨fun h => ?_, fun h v hv hbytes => h (.element hv hbytes)⟩
      rintro (_ | _ | _ | _ | ⟨hv, hbytes⟩)
      exact h _ hv hbytes
  | object members =>
      rw [isEncodable, haveEncodable_iff]
      refine ⟨fun h => ?_, fun h m hm => ⟨fun hbytes => h (.key hm hbytes), fun hbytes =>
        h (.value hm hbytes)⟩⟩
      rintro (_ | _ | ⟨hm, hbytes⟩ | ⟨hm, hbytes⟩)
      · exact (h _ hm).1 hbytes
      · exact (h _ hm).2 hbytes
  | pair a b =>
      rw [isEncodable, Bool.and_eq_true, isEncodable_iff a, isEncodable_iff b]
      refine ⟨fun h => ?_, fun h => ⟨fun hbytes => h (.first b hbytes), fun hbytes =>
        h (.second a hbytes)⟩⟩
      rintro (_ | _ | _ | _ | _ | ⟨_, hbytes⟩ | ⟨_, hbytes⟩)
      · exact h.1 hbytes
      · exact h.2 hbytes
  | loop number v =>
      rw [isEncodable, isEncodable_iff v]
      refine ⟨fun h => ?_, fun h hbytes => h (.loop number hbytes)⟩
      rintro (_ | _ | _ | _ | _ | _ | _ | ⟨_, hbytes⟩)
      exact h hbytes
  | bytes data => exact iff_of_false Bool.false_ne_true fun h => h (.bytes data)
  | _ => exact iff_of_true rfl nofun

theorem areEncodable_iff (vs : List Value) :
    areEncodable vs = true ↔ ∀ v ∈ vs, ¬ v.HoldsBytes := by
  cases vs with
  | nil => exact iff_of_true rfl fun v hv => absurd hv List.not_mem_nil
  | cons v vs =>
      rw [areEncodable, Bool.and_eq_true, isEncodable_iff v, areEncodable_iff vs,
        List.forall_mem_cons]

theorem haveEncodable_iff (ms : List (Value × Value)) :
    haveEncodable ms = true ↔ ∀ m ∈ ms, ¬ m.1.HoldsBytes ∧ ¬ m.2.HoldsBytes := by
  cases ms with
  | nil => exact iff_of_true rfl fun m hm => absurd hm List.not_mem_nil
  | cons m ms =>
      obtain ⟨k, v⟩ := m
      rw [haveEncodable, Bool.and_eq_true, Bool.and_eq_true, isEncodable_iff k, isEncodable_iff v,
        haveEncodable_iff ms, List.forall_mem_cons]

end

end Json

namespace Project

/-- Has no unknown member one of the known keys? -/
def Extras.AreUnknown (extras : Extras) (known : List String) : Prop :=
  ∀ m ∈ extras, ∀ key ∈ known, m.1.isText key = false

/-- The unknown members that are not null, in their order. -/
def Extras.present (extras : Extras) : Extras := extras.filter fun m => m.2 ≠ .null

theorem Extras.present_eq (extras : Extras) :
    extras.present = extras.filter fun m => Config.isPresent m.2 := by
  refine List.filter_congr fun m _ => ?_
  cases m.2 <;> rfl

/-! ## Without unknown members that are null -/

/-- The same without unknown members that are null. -/
def Generation.withoutNulls (g : Generation) : Generation := { g with extras := g.extras.present }

/-- The same without unknown members that are null, for each kind as well. -/
def Generations.withoutNulls (g : Generations) : Generations where
  models := g.models.map Generation.withoutNulls
  api := g.api.map Generation.withoutNulls
  theme := g.theme.map Generation.withoutNulls
  extras := g.extras.present

/-- The same without unknown members that are null. -/
def UsedPlugin.withoutNulls (p : UsedPlugin) : UsedPlugin := { p with extras := p.extras.present }

/-- The same without unknown members that are null. -/
def Specs.withoutNulls (s : Specs) : Specs := { s with extras := s.extras.present }

/-- The same without unknown members that are null, at all levels of the configuration. Those inside
other unknown members, and inside the configuration of a plugin, stay. -/
def Config.withoutNulls (c : Config) : Config where
  name := c.name
  version := c.version
  platforms := c.platforms
  specs := c.specs.map Specs.withoutNulls
  generation := c.generation.map Generations.withoutNulls
  plugins := c.plugins.map UsedPlugin.withoutNulls
  extras := c.extras.present

/-! ## Proper configurations -/

/-- Are the platforms different to which output goes, and the unknown members really unknown? -/
structure Generation.IsProper (g : Generation) : Prop where
  output : ∀ ms ∈ g.output, (ms.map Prod.fst).Nodup
  extras : g.extras.AreUnknown ["enabled", "source", "output"]

/-- Is what is said of each kind proper? -/
structure Generations.IsProper (g : Generations) : Prop where
  models : ∀ generation ∈ g.models, generation.IsProper
  api : ∀ generation ∈ g.api, generation.IsProper
  theme : ∀ generation ∈ g.theme, generation.IsProper
  extras : g.extras.AreUnknown ["models", "api", "theme"]

/-- Are the settings different, and the unknown members really unknown? -/
structure UsedPlugin.IsProper (p : UsedPlugin) : Prop where
  config : ∀ ms ∈ p.config, (ms.map Prod.fst).Nodup
  extras : p.extras.AreUnknown ["name", "version", "config"]

/-- Are the unknown members really unknown? -/
def Specs.IsProper (s : Specs) : Prop := s.extras.AreUnknown ["repository", "branch", "local"]

/-- Are all parts of the configuration proper? -/
structure Config.IsProper (c : Config) : Prop where
  specs : ∀ s ∈ c.specs, s.IsProper
  generation : ∀ g ∈ c.generation, g.IsProper
  plugins : ∀ p ∈ c.plugins, p.IsProper
  extras : c.extras.AreUnknown knownMembers

namespace Config

open Shape

theorem areUnknown_unknown (known : List String) (ms : List (Value × Value)) :
    Extras.AreUnknown (unknown known ms) known := by
  intro m hm key hkey
  have hnone := (List.mem_filter.1 hm).2
  rw [Bool.not_eq_true', List.any_eq_false] at hnone
  exact Bool.eq_false_iff.2 (hnone key hkey)

theorem isProper_of_readGeneration {v : Value} {g : Generation} (h : readGeneration v = .ok g) :
    g.IsProper := by
  obtain ⟨ms, _, h⟩ := bind_eq_ok_iff.1 h
  obtain ⟨enabled, _, h⟩ := bind_eq_ok_iff.1 h
  obtain ⟨source, _, h⟩ := bind_eq_ok_iff.1 h
  obtain ⟨output, houtput, h⟩ := bind_eq_ok_iff.1 h
  cases h
  refine ⟨fun table htable => ?_, areUnknown_unknown _ _⟩
  obtain ⟨_, _, hread⟩ := exists_of_possible houtput table htable
  exact nodup_of_table hread

theorem isProper_of_readGenerations {v : Value} {g : Generations}
    (h : readGenerations v = .ok g) : g.IsProper := by
  obtain ⟨ms, _, h⟩ := bind_eq_ok_iff.1 h
  obtain ⟨models, hmodels, h⟩ := bind_eq_ok_iff.1 h
  obtain ⟨api, hapi, h⟩ := bind_eq_ok_iff.1 h
  obtain ⟨theme, htheme, h⟩ := bind_eq_ok_iff.1 h
  cases h
  have hkind : ∀ {key : String} {found : Option Generation},
      possible key key readGeneration ms = .ok found → ∀ g ∈ found, g.IsProper := by
    intro key found hfound g hg
    obtain ⟨_, _, hread⟩ := exists_of_possible hfound g hg
    exact isProper_of_readGeneration hread
  exact ⟨hkind hmodels, hkind hapi, hkind htheme, areUnknown_unknown _ _⟩

theorem isProper_of_readPlugin {v : Value} {p : UsedPlugin} (h : readPlugin v = .ok p) :
    p.IsProper := by
  obtain ⟨ms, _, h⟩ := bind_eq_ok_iff.1 h
  obtain ⟨name, _, h⟩ := bind_eq_ok_iff.1 h
  obtain ⟨version, _, h⟩ := bind_eq_ok_iff.1 h
  obtain ⟨config, hconfig, h⟩ := bind_eq_ok_iff.1 h
  cases h
  refine ⟨fun table htable => ?_, areUnknown_unknown _ _⟩
  obtain ⟨_, _, hread⟩ := exists_of_possible hconfig table htable
  exact nodup_of_table hread

theorem isProper_of_readSpecs {v : Value} {s : Specs} (h : readSpecs v = .ok s) : s.IsProper := by
  obtain ⟨ms, _, h⟩ := bind_eq_ok_iff.1 h
  obtain ⟨repository, _, h⟩ := bind_eq_ok_iff.1 h
  obtain ⟨branch, _, h⟩ := bind_eq_ok_iff.1 h
  obtain ⟨directory, _, h⟩ := bind_eq_ok_iff.1 h
  cases h
  exact areUnknown_unknown _ _

theorem isProper_of_read {v : Value} {c : Config} (h : read v = .ok c) : c.IsProper := by
  obtain ⟨ms, _, h⟩ := bind_eq_ok_iff.1 h
  obtain ⟨name, _, h⟩ := bind_eq_ok_iff.1 h
  obtain ⟨version, _, h⟩ := bind_eq_ok_iff.1 h
  obtain ⟨platforms, _, h⟩ := bind_eq_ok_iff.1 h
  obtain ⟨specs, hspecs, h⟩ := bind_eq_ok_iff.1 h
  obtain ⟨generation, hgeneration, h⟩ := bind_eq_ok_iff.1 h
  obtain ⟨plugins, hplugins, h⟩ := bind_eq_ok_iff.1 h
  cases h
  refine ⟨fun s hs => ?_, fun g hg => ?_, fun p hp => ?_, areUnknown_unknown _ _⟩
  · obtain ⟨_, _, hread⟩ := exists_of_possible hspecs s hs
    exact isProper_of_readSpecs hread
  · obtain ⟨_, _, hread⟩ := exists_of_possible hgeneration g hg
    exact isProper_of_readGenerations hread
  · rcases exists_of_given hplugins with rfl | ⟨_, _, hlist⟩
    · exact absurd hp List.not_mem_nil
    · obtain ⟨_, hread⟩ := exists_of_list hlist p hp
      exact isProper_of_readPlugin hread

theorem areUnknown_nil (known : List String) : Extras.AreUnknown [] known :=
  fun _ hm => absurd hm List.not_mem_nil

theorem isProper_new (name : String) (platforms : List String) (repository : Option String) :
    (new name platforms repository).IsProper := by
  have hkind : ∀ target : Target, Generation.IsProper ⟨true, some target.defaultSource, none, []⟩ :=
    fun _ => ⟨fun _ hms => absurd hms (Option.not_mem_none _), areUnknown_nil _⟩
  refine ⟨fun s hs => ?_, fun g hg => ?_, fun p hp => absurd hp List.not_mem_nil, areUnknown_nil _⟩
  · cases hs
    exact areUnknown_nil _
  · cases hg
    refine ⟨fun g hg => ?_, fun g hg => ?_, fun g hg => ?_, areUnknown_nil _⟩
    all_goals
      cases hg
      exact hkind _

/-! ## Members of saved values -/

section

variable {known : List (String × Value)} {extras : Extras}

/-- A known member is found if it is not null. -/
theorem lookup_known {key : String} {v : Value} (hkeys : (known.map Prod.fst).Nodup)
    (h : (key, v) ∈ known) :
    Value.lookup key ((known.map fun m => (.str m.1, m.2)).filter fun m => isPresent m.2) =
      if isPresent v then some v else none := by
  induction known with
  | nil => exact absurd h List.not_mem_nil
  | cons m known ih =>
      obtain ⟨key', v'⟩ := m
      rw [List.map_cons, List.nodup_cons] at hkeys
      rw [List.map_cons, List.filter_cons]
      rcases List.mem_cons.1 h with heq | hmem
      · cases heq
        cases hv : isPresent v with
        | true => rw [if_pos rfl, if_pos rfl, Value.lookup, Value.isText_self, if_pos rfl]
        | false =>
            rw [if_neg Bool.false_ne_true, if_neg Bool.false_ne_true]
            refine Value.lookup_eq_none fun m hm => ?_
            obtain ⟨m', hm', rfl⟩ := List.mem_map.1 (List.mem_of_mem_filter hm)
            rw [Value.isText, beq_eq_false_iff_ne]
            rintro rfl
            exact hkeys.1 (List.mem_map.2 ⟨m', hm', rfl⟩)
      · have hne : (Value.str key').isText key = false := by
          rw [Value.isText, beq_eq_false_iff_ne]
          rintro rfl
          exact hkeys.1 (List.mem_map.2 ⟨(_, v), hmem, rfl⟩)
        split
        · rw [Value.lookup, hne]
          exact ih hkeys.2 hmem
        · exact ih hkeys.2 hmem

variable {ms : List (Value × Value)}
  (hms : ms = (members known extras).filter fun m => isPresent m.2)
  (hkeys : (known.map Prod.fst).Nodup) (hextras : extras.AreUnknown (known.map Prod.fst))

include hms hkeys hextras

theorem lookup_saved {key : String} {v : Value} (h : (key, v) ∈ known) :
    Value.lookup key ms = if isPresent v then some v else none := by
  have hnone : Value.lookup key (extras.filter fun m => isPresent m.2) = none := by
    refine Value.lookup_eq_none fun m hm => ?_
    exact hextras m (List.mem_of_mem_filter hm) key (List.mem_map.2 ⟨_, h, rfl⟩)
  rw [hms, members, List.filter_append, Value.lookup_append, hnone, Option.or_none,
    lookup_known hkeys h]

omit hkeys in
theorem unknown_saved : unknown (known.map Prod.fst) ms = extras.present := by
  have hknown : ∀ m ∈ (known.map fun m => (Value.str m.1, m.2)).filter fun m => isPresent m.2,
      ¬ (!(known.map Prod.fst).any fun key => m.1.isText key) = true := by
    intro m hm
    obtain ⟨m', hm', rfl⟩ := List.mem_map.1 (List.mem_of_mem_filter hm)
    rw [Bool.not_eq_true', Bool.not_eq_false, List.any_eq_true]
    exact ⟨m'.1, List.mem_map.2 ⟨m', hm', rfl⟩, Value.isText_self⟩
  have hunknown : ∀ m ∈ extras.filter fun m => isPresent m.2,
      (!(known.map Prod.fst).any fun key => m.1.isText key) = true := by
    intro m hm
    rw [Bool.not_eq_true', List.any_eq_false]
    exact fun key hkey => Bool.eq_false_iff.1 (hextras m (List.mem_of_mem_filter hm) key hkey)
  rw [hms, members, List.filter_append, unknown, List.filter_append,
    List.filter_eq_nil_iff.2 hknown, List.filter_eq_self.2 hunknown, Extras.present_eq]
  rfl

/-- A member that is there is read again, whatever it is when it is absent. -/
theorem memberOr_saved {α : Type} {r : Reader α} {key : String} {v : Value}
    {absent : Except Issue α} {a : α} (h : (key, v) ∈ known) (hpresent : isPresent v = true)
    (hr : r v = .ok a) : memberOr [key, key] absent r ms = .ok a := by
  have hfound := lookup_saved hms hkeys hextras h
  rw [if_pos hpresent] at hfound
  rw [memberOr, List.findSome?_cons, hfound, Option.map_some]
  exact under_eq_ok_iff.2 hr

/-- A member that may be missing is read again, or it is missing. -/
theorem possible_saved {α β : Type} {r : Reader β} {f : α → Value} {g : α → β} {key : String}
    {found : Option α} (h : (key, valueOr f found) ∈ known)
    (hpresent : ∀ a, isPresent (f a) = true) (hr : ∀ a ∈ found, r (f a) = .ok (g a)) :
    possible key key r ms = .ok (found.map g) := by
  cases found with
  | none =>
      have hfound : Value.lookup key ms = none := lookup_saved hms hkeys hextras h
      rw [possible, given, memberOr]
      simp only [List.findSome?_cons, hfound, Option.map_none]
      rfl
  | some a =>
      have hvalue : optional r (f a) = (r (f a)).map some := by
        have hne := hpresent a
        generalize f a = v at hne
        cases v with
        | null => cases hne
        | _ => rfl
      refine memberOr_saved hms hkeys hextras h (hpresent a) ?_
      rw [valueOr, hvalue, hr a rfl]
      rfl

theorem possibleText_saved {key : String} {found : Option String}
    (h : (key, valueOr .str found) ∈ known) : possible key key text ms = .ok found := by
  have hread := possible_saved hms hkeys hextras h (fun _ => rfl)
    fun s _ => (rfl : text (.str s) = _)
  rwa [Option.map_id'] at hread

end

/-! ## Reading what was saved -/

theorem optional_eq (s : Option String) : Value.optional s = valueOr .str s := by
  cases s <;> rfl

theorem readSpecs_specsValue {s : Specs} (h : s.IsProper) :
    readSpecs (specsValue isPresent s) = .ok s.withoutNulls := by
  have hkeys : ["repository", "branch", "local"].Nodup := by decide
  rw [specsValue, optional_eq, optional_eq, optional_eq, objectOf]
  generalize hms : (members _ s.extras).filter (fun m => isPresent m.2) = ms
  have hrepository := possibleText_saved hms.symm hkeys h (.head _)
  have hbranch := possibleText_saved hms.symm hkeys h (.tail _ (.head _))
  have hdirectory := possibleText_saved hms.symm hkeys h (.tail _ (.tail _ (.head _)))
  refine bind_eq_ok_iff.2 ⟨ms, rfl, bind_eq_ok_iff.2 ⟨_, hrepository, bind_eq_ok_iff.2 ⟨_, hbranch,
    bind_eq_ok_iff.2 ⟨_, hdirectory, ?_⟩⟩⟩⟩
  have hunknown : unknown ["repository", "branch", "local"] ms = s.extras.present :=
    unknown_saved hms.symm h
  rw [hunknown]
  rfl

theorem readGeneration_generationValue {g : Generation} (h : g.IsProper) :
    readGeneration (generationValue isPresent g) = .ok g.withoutNulls := by
  have hkeys : ["enabled", "source", "output"].Nodup := by decide
  rw [generationValue, optional_eq, objectOf]
  generalize hms : (members _ g.extras).filter (fun m => isPresent m.2) = ms
  have henabled : given "enabled" "enabled" true truth ms = .ok g.enabled :=
    memberOr_saved hms.symm hkeys h.extras (.head _) rfl rfl
  have hsource := possibleText_saved hms.symm hkeys h.extras (.tail _ (.head _))
  have houtput : possible "output" "output" (table text) ms = .ok (g.output.map id) := by
    refine possible_saved hms.symm hkeys h.extras (.tail _ (.tail _ (.head _))) (fun _ => rfl) ?_
    exact fun output houtput => table_record (fun _ _ => rfl) (h.output output houtput)
  rw [Option.map_id] at houtput
  refine bind_eq_ok_iff.2 ⟨ms, rfl, bind_eq_ok_iff.2 ⟨_, henabled, bind_eq_ok_iff.2 ⟨_, hsource,
    bind_eq_ok_iff.2 ⟨_, houtput, ?_⟩⟩⟩⟩
  have hunknown : unknown ["enabled", "source", "output"] ms = g.extras.present :=
    unknown_saved hms.symm h.extras
  rw [hunknown]
  rfl

theorem readGenerations_generationsValue {g : Generations} (h : g.IsProper) :
    readGenerations (generationsValue isPresent g) = .ok g.withoutNulls := by
  have hkeys : ["models", "api", "theme"].Nodup := by decide
  rw [generationsValue, objectOf]
  generalize hms : (members _ g.extras).filter (fun m => isPresent m.2) = ms
  have hmodels := possible_saved hms.symm hkeys h.extras (.head _) (fun _ => rfl) fun _ hg =>
    readGeneration_generationValue (h.models _ hg)
  have hapi := possible_saved hms.symm hkeys h.extras (.tail _ (.head _)) (fun _ => rfl) fun _ hg =>
    readGeneration_generationValue (h.api _ hg)
  have htheme := possible_saved hms.symm hkeys h.extras (.tail _ (.tail _ (.head _)))
    (fun _ => rfl) fun _ hg => readGeneration_generationValue (h.theme _ hg)
  refine bind_eq_ok_iff.2 ⟨ms, rfl, bind_eq_ok_iff.2 ⟨_, hmodels, bind_eq_ok_iff.2 ⟨_, hapi,
    bind_eq_ok_iff.2 ⟨_, htheme, ?_⟩⟩⟩⟩
  have hunknown : unknown ["models", "api", "theme"] ms = g.extras.present :=
    unknown_saved hms.symm h.extras
  rw [hunknown]
  rfl

theorem readPlugin_pluginValue {p : UsedPlugin} (h : p.IsProper) :
    readPlugin (pluginValue isPresent p) = .ok p.withoutNulls := by
  have hkeys : ["name", "version", "config"].Nodup := by decide
  rw [pluginValue, objectOf]
  generalize hms : (members _ p.extras).filter (fun m => isPresent m.2) = ms
  have hname : required "name" "name" text ms = .ok p.name :=
    memberOr_saved hms.symm hkeys h.extras (.head _) rfl rfl
  have hversion : required "version" "version" text ms = .ok p.version :=
    memberOr_saved hms.symm hkeys h.extras (.tail _ (.head _)) rfl rfl
  have hconfig : possible "config" "config" (table any) ms = .ok (p.config.map id) := by
    refine possible_saved hms.symm hkeys h.extras (.tail _ (.tail _ (.head _))) (fun _ => rfl) ?_
    intro config hconfig
    have hread : table any (.record (config.map fun m => (m.1, id m.2))) = .ok config :=
      table_record (fun _ _ => rfl) (h.config config hconfig)
    rwa [List.map_id''] at hread
    exact fun _ => rfl
  rw [Option.map_id] at hconfig
  refine bind_eq_ok_iff.2 ⟨ms, rfl, bind_eq_ok_iff.2 ⟨_, hname, bind_eq_ok_iff.2 ⟨_, hversion,
    bind_eq_ok_iff.2 ⟨_, hconfig, ?_⟩⟩⟩⟩
  have hunknown : unknown ["name", "version", "config"] ms = p.extras.present :=
    unknown_saved hms.symm h.extras
  rw [hunknown]
  rfl

/-- What is read from the value that is saved. -/
theorem read_valueWith {c : Config} (h : c.IsProper) :
    read (c.valueWith isPresent) = .ok c.withoutNulls := by
  have hkeys : knownMembers.Nodup := by decide
  rw [valueWith, objectOf]
  generalize hms : (members _ c.extras).filter (fun m => isPresent m.2) = ms
  have hname : required "name" "name" text ms = .ok c.name :=
    memberOr_saved hms.symm hkeys h.extras (.head _) rfl rfl
  have hversion : given "version" "version" firstVersion text ms = .ok c.version :=
    memberOr_saved hms.symm hkeys h.extras (.tail _ (.head _)) rfl rfl
  have hplatforms : given "platforms" "platforms" [] (list text) ms = .ok (c.platforms.map id) :=
    memberOr_saved hms.symm hkeys h.extras (.tail _ (.tail _ (.head _))) rfl
      (list_map fun _ _ => rfl)
  have hspecs := possible_saved hms.symm hkeys h.extras (.tail _ (.tail _ (.tail _ (.head _))))
    (fun _ => rfl) fun _ hs => readSpecs_specsValue (h.specs _ hs)
  have hgeneration := possible_saved hms.symm hkeys h.extras
    (.tail _ (.tail _ (.tail _ (.tail _ (.head _))))) (fun _ => rfl) fun _ hg =>
      readGenerations_generationsValue (h.generation _ hg)
  have hplugins : given "plugins" "plugins" [] (list readPlugin) ms =
      .ok (c.plugins.map UsedPlugin.withoutNulls) :=
    memberOr_saved hms.symm hkeys h.extras
      (.tail _ (.tail _ (.tail _ (.tail _ (.tail _ (.head _)))))) rfl
      (list_map fun p hp => readPlugin_pluginValue (h.plugins p hp))
  rw [List.map_id] at hplatforms
  refine bind_eq_ok_iff.2 ⟨ms, rfl, bind_eq_ok_iff.2 ⟨_, hname, bind_eq_ok_iff.2 ⟨_, hversion,
    bind_eq_ok_iff.2 ⟨_, hplatforms, bind_eq_ok_iff.2 ⟨_, hspecs, bind_eq_ok_iff.2 ⟨_, hgeneration,
      bind_eq_ok_iff.2 ⟨_, hplugins, ?_⟩⟩⟩⟩⟩⟩⟩
  have hunknown : unknown knownMembers ms = c.extras.present := unknown_saved hms.symm h.extras
  rw [hunknown]
  rfl

/-! ## The text that is saved -/

theorem objectOf_present (known : List (String × Value)) (extras : Extras) :
    objectOf isPresent known extras.present = objectOf isPresent known extras := by
  rw [objectOf, objectOf, members, members, List.filter_append, List.filter_append,
    Extras.present_eq, List.filter_filter]
  simp only [Bool.and_self]

theorem valueOr_map {α : Type} {f : α → Value} {g : α → α} (h : ∀ a, f (g a) = f a)
    (found : Option α) : valueOr f (found.map g) = valueOr f found := by
  cases found with
  | none => rfl
  | some a => exact h a

theorem specsValue_withoutNulls (s : Specs) :
    specsValue isPresent s.withoutNulls = specsValue isPresent s :=
  objectOf_present _ _

theorem generationValue_withoutNulls (g : Generation) :
    generationValue isPresent g.withoutNulls = generationValue isPresent g :=
  objectOf_present _ _

theorem generationsValue_withoutNulls (g : Generations) :
    generationsValue isPresent g.withoutNulls = generationsValue isPresent g := by
  rw [generationsValue, Generations.withoutNulls, valueOr_map generationValue_withoutNulls,
    valueOr_map generationValue_withoutNulls, valueOr_map generationValue_withoutNulls]
  exact objectOf_present _ _

theorem pluginValue_withoutNulls (p : UsedPlugin) :
    pluginValue isPresent p.withoutNulls = pluginValue isPresent p :=
  objectOf_present _ _

theorem valueWith_withoutNulls (c : Config) :
    c.withoutNulls.valueWith isPresent = c.valueWith isPresent := by
  have hplugins : (c.plugins.map UsedPlugin.withoutNulls).map (pluginValue isPresent) =
      c.plugins.map (pluginValue isPresent) := by
    rw [List.map_map]
    exact List.map_congr_left fun p _ => pluginValue_withoutNulls p
  rw [valueWith, withoutNulls, valueOr_map specsValue_withoutNulls,
    valueOr_map generationsValue_withoutNulls, hplugins]
  exact objectOf_present _ _

/-- The text that is saved says nothing of unknown members that are null. -/
theorem fileText_withoutNulls (c : Config) : c.withoutNulls.fileText = c.fileText := by
  rw [fileText, fileText, valueWith_withoutNulls]

/-! ## Saving and loading -/

theorem parent_join_fileName (directory : Path) :
    (directory.join fileName).parent = directory := by
  rw [Path.parent]
  show { directory with steps := (directory.steps ++ [fileName]).dropLast } = directory
  rw [List.dropLast_concat]

/-- A configuration was read from a directory, or it is that of a new project. -/
def IsMade (c : Config) : Prop :=
  (∃ t directory, load t directory = .ok c) ∨
    ∃ name platforms repository, c = new name platforms repository

theorem isProper_of_ofText {text : String} {c : Config} (h : ofText text = .ok c) :
    c.IsProper := by
  rw [ofText] at h
  split at h
  · cases h
  · split at h
    · cases h
    · rename_i hread
      cases h
      exact isProper_of_read hread

theorem load_eq_ok {t : Tree} {directory : Path} {c : Config} (h : load t directory = .ok c) :
    ∃ place text, t.look (directory.join fileName) = .ok (some (place, .file text)) ∧
      ofText text = .ok c := by
  obtain ⟨found, hfound, h⟩ := bind_eq_ok_iff.1 h
  obtain ⟨there, hthere, hread⟩ := bind_eq_ok_iff.1 hfound
  split at hread
  · rename_i place text
    cases hread
    exact ⟨place, text, hthere, h⟩
  · cases hread
  · cases hread
    cases h

theorem IsMade.isProper {c : Config} (h : c.IsMade) : c.IsProper := by
  rcases h with ⟨t, directory, hload⟩ | ⟨name, platforms, repository, rfl⟩
  · obtain ⟨_, text, _, hread⟩ := load_eq_ok hload
    exact isProper_of_ofText hread
  · exact isProper_new name platforms repository

/-- Is a value read again from the text of a file into which it is written? -/
def IsReturned (v : Value) : Prop :=
  Json.read (String.ofList (Text.unifyBreaks (Json.indented v ++ "\n").toList)) = .ok v

/-- Can a configuration be written into the directory? There is one already, or there is nothing in
its place. -/
def CanHold (t : Tree) (directory : Path) : Prop :=
  (∃ place text, t.look (directory.join fileName) = .ok (some (place, .file text))) ∨
    ((directory.join fileName).hasNull = false ∧ t.isDirectory directory = true ∧
      t.find (directory.join fileName) = .missing)

theorem canHold_of_load {t : Tree} {directory : Path} {c : Config}
    (h : load t directory = .ok c) : CanHold t directory := by
  obtain ⟨place, text, hlook, _⟩ := load_eq_ok h
  exact .inl ⟨place, text, hlook⟩

theorem fault_write {t : Tree} {directory : Path} (h : CanHold t directory) (text : String) :
    (t.write (directory.join fileName) text).fault = none := by
  rcases h with ⟨place, old, hlook⟩ | ⟨hnull, hdirectory, hfind⟩
  · exact Tree.fault_write_of_file hlook text
  · rw [Tree.isDirectory] at hdirectory
    split at hdirectory
    · rename_i place hplace
      have hparent : t.find (directory.join fileName).parent = .entry place .directory := by
        rw [parent_join_fileName]
        exact hplace
      exact Tree.fault_write_of_missing hparent hnull hfind text
    · cases hdirectory

section

variable {c : Config} {t : Tree} {directory : Path}

theorem save_of_isEncodable (h : c.isEncodable = true) :
    c.save t directory = t.write (directory.join fileName) c.fileText := by
  rw [save, if_pos h]

/-- The file is empty already when it is noticed that its text cannot be encoded. -/
theorem save_of_not_isEncodable (h : c.isEncodable = false) (hcan : CanHold t directory) :
    c.save t directory = (t.write (directory.join fileName) "").tree.stopped .unencodable := by
  rw [save, if_neg (Bool.eq_false_iff.1 h), Tree.Change.andThen, fault_write hcan]

theorem fault_save (hcan : CanHold t directory) :
    (c.save t directory).fault = if c.isEncodable then none else some .unencodable := by
  cases h : c.isEncodable with
  | true =>
      rw [save_of_isEncodable h, fault_write hcan]
      rfl
  | false =>
      rw [save_of_not_isEncodable h hcan]
      rfl

theorem isEncodable_of_fault_save (h : (c.save t directory).fault = none) :
    c.isEncodable = true := by
  cases hencodable : c.isEncodable with
  | true => rfl
  | false =>
      rw [save, if_neg (Bool.eq_false_iff.1 hencodable)] at h
      -- either the empty file could not be written, or its text could not be encoded
      cases hfault : (t.write (directory.join fileName) "").fault <;>
        simp only [Tree.Change.andThen, hfault, Tree.stopped, reduceCtorEq] at h

end

theorem ofText_fileText {c : Config} (h : c.IsProper)
    (hreturned : IsReturned (c.valueWith isPresent)) : ofText c.fileText = .ok c.withoutNulls := by
  rw [ofText, fileText, hreturned]
  dsimp only
  rw [read_valueWith h]

theorem ofText_of_alike {text : String} {v : Value} {c : Config}
    (htext : (Json.read (String.ofList (Text.unifyBreaks text.toList))).toOption.any v.alike = true)
    (hread : read v = .ok c) : ofText text = .ok c := by
  rw [ofText, Value.eq_ok_of_alike htext]
  dsimp only
  rw [hread]

theorem save_withoutNulls (c : Config) (t : Tree) (directory : Path) :
    c.withoutNulls.save t directory = c.save t directory := by
  rw [save, save, isEncodable, isEncodable, valueWith_withoutNulls, fileText_withoutNulls]

theorem areEncodable_map_str (texts : List String) :
    Json.areEncodable (texts.map .str) = true := by
  induction texts with
  | nil => rfl
  | cons s texts ih => exact ih

theorem isEncodable_new (name : String) (platforms : List String) (repository : Option String) :
    (new name platforms repository).isEncodable = true := by
  have hplatforms := areEncodable_map_str platforms
  cases repository <;>
    simp [isEncodable, new, valueWith, specsValue, generationsValue, generationValue, objectOf,
      members, valueOr, Value.optional, isPresent, Json.isEncodable, Json.areEncodable,
      Json.haveEncodable, hplatforms]

theorem save_new (name : String) (platforms : List String) (repository : Option String) (t : Tree)
    (directory : Path) : (new name platforms repository).save t directory =
      t.write (directory.join fileName) (new name platforms repository).fileText :=
  save_of_isEncodable (isEncodable_new name platforms repository)

/-- A configuration that was read or is that of a new project can be saved where one is, and where
nothing is in a directory, if and only if all its texts are made of characters, as those of a new
project are. It is read again without the unknown members that are null, and saving it once more
does the same. If some text is not made of characters, the file is empty afterwards, and no
configuration is read from it. -/
theorem load_save_iff {c : Config} (hmade : c.IsMade) {t : Tree} (ht : t.WellFormed)
    {directory : Path} :
    (load t directory = .ok c ∨ CanHold t directory →
        ((c.save t directory).fault = none ↔ ¬ (c.valueWith isPresent).HoldsBytes) ∧
          ((c.valueWith isPresent).HoldsBytes →
            (c.save t directory).fault = some .unencodable ∧
              (c.save t directory).tree.read (directory.join fileName) = .ok (some "") ∧
              load (c.save t directory).tree directory =
                .error (.spec (.configUnreadable "Expecting value" 1)))) ∧
      ((c.save t directory).fault = none → IsReturned (c.valueWith isPresent) →
        load (c.save t directory).tree directory = .ok c.withoutNulls) ∧
      c.withoutNulls.fileText = c.fileText ∧
      (∀ t', c.withoutNulls.save t' directory = c.save t' directory) ∧
      ∀ name platforms repository,
        ¬ ((new name platforms repository).valueWith isPresent).HoldsBytes := by
  have hencodable : c.isEncodable = true ↔ ¬ (c.valueWith isPresent).HoldsBytes :=
    Json.isEncodable_iff _
  refine ⟨fun hcan => ?_, fun hsaved hreturned => ?_, fileText_withoutNulls c,
    fun t' => save_withoutNulls c t' directory, fun name platforms repository =>
      (Json.isEncodable_iff _).1 (isEncodable_new name platforms repository)⟩
  · have hhold : CanHold t directory := hcan.elim canHold_of_load id
    have hfault := fault_save (c := c) hhold
    refine ⟨?_, fun hbytes => ?_⟩
    · rw [hfault, ← hencodable]
      cases c.isEncodable <;> simp
    · have hfalse : c.isEncodable = false := by
        rw [← Bool.not_eq_true, hencodable, not_not]
        exact hbytes
      have hread : (c.save t directory).tree.read (directory.join fileName) = .ok (some "") := by
        rw [save_of_not_isEncodable hfalse hhold]
        exact Tree.read_of_look (Tree.look_write ht (fault_write hhold ""))
      have hload : load (c.save t directory).tree directory =
          .error (.spec (.configUnreadable "Expecting value" 1)) := by
        rw [load, hread]
        rfl
      exact ⟨by rw [hfault, hfalse]; rfl, hread, hload⟩
  · have htrue := isEncodable_of_fault_save hsaved
    rw [save_of_isEncodable htrue] at hsaved ⊢
    have hread := Tree.read_of_look (Tree.look_write ht hsaved)
    exact bind_eq_ok_iff.2 ⟨_, hread, ofText_fileText hmade.isProper hreturned⟩

/-- A project with nothing but the text of its configuration. -/
def projectOf (text : String) : Tree where
  entries := [(["work"], .directory), (["work", fileName], .file text)]

theorem wellFormed_projectOf (text : String) : (projectOf text).WellFormed := by
  refine Tree.wellFormed_of_entries fun entry hentry => ?_
  simp only [projectOf, List.mem_cons, List.not_mem_nil, or_false] at hentry
  rcases hentry with rfl | rfl <;> rfl

theorem load_projectOf (text : String) :
    load (projectOf text) (.ofSteps ["work"]) = ofText text :=
  rfl

/-- The text of a configuration with an unknown member at every level. -/
def markedText : String :=
  "\x7b\"name\":\"a\",\"specs\":\x7b\"x\":null\x7d," ++
    "\"generation\":\x7b\"x\":null,\"api\":\x7b\"x\":null\x7d\x7d," ++
    "\"plugins\":[\x7b\"name\":\"b\",\"version\":\"1\",\"x\":null\x7d]," ++
    "\"x\":null,\"y\":\x7b\"x\":null\x7d\x7d"

/-- The configuration that the text holds. -/
def marked : Config where
  name := "a"
  version := firstVersion
  platforms := []
  specs := some ⟨none, none, none, [(.str "x", .null)]⟩
  generation := some ⟨none, some ⟨true, none, none, [(.str "x", .null)]⟩, none, [(.str "x", .null)]⟩
  plugins := [⟨"b", "1", none, [(.str "x", .null)]⟩]
  extras := [(.str "x", .null), (.str "y", .record [("x", .null)])]

/-- The value between the two. -/
def markedValue : Value :=
  let x : String × Value := ("x", .null)
  .record
    [("name", .str "a"), ("specs", .record [x]), ("generation", .record [x, ("api", .record [x])]),
      ("plugins", .list [.record [("name", .str "b"), ("version", .str "1"), x]]), x,
      ("y", .record [x])]

theorem ofText_marked : ofText markedText = .ok marked := by
  have hread : read markedValue = .ok marked := rfl
  refine ofText_of_alike ?_ hread
  -- the characters are read as they are, without packing them into a text in between
  delta markedText
  simp only [Json.read, String.toList_ofList, String.toList_append]
  decide +kernel

theorem isReturned_marked : IsReturned (marked.valueWith isPresent) := by
  have hvalue : marked.valueWith isPresent = .record
      [("name", .str "a"), ("version", .str "1.0.0"), ("platforms", .list []),
        ("specs", .record []), ("generation", .record [("api", .record [("enabled", .bool true)])]),
        ("plugins", .list [.record [("name", .str "b"), ("version", .str "1")]]),
        ("y", .record [("x", .null)])] :=
    rfl
  refine Value.eq_ok_of_alike ?_
  rw [hvalue, Json.read, String.toList_ofList]
  simp only [Json.indented, Json.write, Json.writeMembers, Json.writeItems, Json.quoted,
    Value.record, List.map_cons, List.map_nil, String.toList_append]
  decide +kernel

/-- All unknown members that are null are gone when the configuration is read again. -/
theorem load_save_marked :
    (marked.IsMade ∧ IsReturned (marked.valueWith isPresent) ∧
        (projectOf markedText).WellFormed ∧ ¬ (marked.valueWith isPresent).HoldsBytes) ∧
      load (marked.save (projectOf markedText) (.ofSteps ["work"])).tree (.ofSteps ["work"]) =
        .ok marked.withoutNulls := by
  have hload : load (projectOf markedText) (.ofSteps ["work"]) = .ok marked :=
    (load_projectOf _).trans ofText_marked
  have hmade : marked.IsMade := .inl ⟨_, _, hload⟩
  have ht := wellFormed_projectOf markedText
  have hcharacters : ¬ (marked.valueWith isPresent).HoldsBytes := (Json.isEncodable_iff _).1 rfl
  obtain ⟨hsaved, hloaded, _⟩ := @load_save_iff _ hmade _ ht (.ofSteps ["work"])
  have hfault := (hsaved (.inl hload)).1.2 hcharacters
  exact ⟨⟨hmade, isReturned_marked, ht, hcharacters⟩, hloaded hfault isReturned_marked⟩

/-- The text of a configuration in which an unknown member has one half of a surrogate pair. -/
def halvedText : String := "\x7b\"name\":\"a\",\"x\":\"\\ud800\"\x7d"

/-- The configuration that the text holds. -/
def halved : Config where
  name := "a"
  version := firstVersion
  platforms := []
  specs := none
  generation := none
  plugins := []
  extras := [(.str "x", .bytes [0xed, 0xa0, 0x80])]

theorem ofText_halved : ofText halvedText = .ok halved := by
  have hread : read (.object [(.str "name", .str "a"), (.str "x", .bytes [0xed, 0xa0, 0x80])]) =
      .ok halved :=
    rfl
  refine ofText_of_alike ?_ hread
  decide +kernel

/-- The configuration is read from the project, but saving it there fails, and no configuration is
read from what is left. -/
theorem not_load_save_halved :
    load (projectOf halvedText) (.ofSteps ["work"]) = .ok halved ∧
      (halved.save (projectOf halvedText) (.ofSteps ["work"])).fault = some .unencodable ∧
      (load (halved.save (projectOf halvedText) (.ofSteps ["work"])).tree
        (.ofSteps ["work"])).toOption.isNone := by
  have hload : load (projectOf halvedText) (.ofSteps ["work"]) = .ok halved :=
    (load_projectOf _).trans ofText_halved
  exact ⟨hload, rfl, rfl⟩

end Config

end Project

end SpecForge
