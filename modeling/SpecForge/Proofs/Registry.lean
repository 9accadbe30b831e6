import Mathlib.Data.List.Induction
import Mathlib.Data.List.Nodup
import SpecForge.Generator

/-!
# Histories of a registry

A history is a registry at its start, without entries or with all generators there are, and the calls
that register more. The calls that succeed make up a log, and everything a registry answers can be
told from its log: what is found under a key is what was registered last under it, and the platforms
of a kind are listed in the order in which they were first registered. A look-up puts the platform in
lower case and a registration does not, so a platform that is listed is found under its own name
only where these two agree.
-/

namespace SpecForge

/-- A call that registers a value for a kind and a platform, and may replace an entry. -/
structure Registration (α : Type) where
  kind : String
  platform : String
  value : α
  replaces : Bool
deriving DecidableEq

namespace Registration

variable {α : Type}

/-- The key that the value is registered under. -/
def key (c : Registration α) : String × String := (c.kind, c.platform)

/-- The last registration under a key. -/
def latest? (key : String × String) (log : List (Registration α)) : Option (Registration α) :=
  (log.filter fun c => c.key == key).getLast?

/-- The platforms of a kind, in the order of their first registration. -/
def platforms (kind : String) (log : List (Registration α)) : List String :=
  ((log.filter fun c => c.kind == kind).map platform).eraseDups

theorem latest?_append_singleton (key : String × String) (log : List (Registration α))
    (c : Registration α) :
    latest? key (log ++ [c]) = if key = c.key then some c else latest? key log := by
  rw [latest?, List.filter_append, List.getLast?_append]
  by_cases hkey : key = c.key
  · simp [hkey]
  · simp [latest?, hkey, Ne.symm hkey]

theorem isSome_latest?_iff {key : String × String} {log : List (Registration α)} :
    (latest? key log).isSome ↔ ∃ c ∈ log, c.key = key := by
  rw [latest?, Option.isSome_iff_ne_none, Ne, List.getLast?_eq_none_iff,
    List.filter_eq_nil_iff]
  simp

/-- Only the first registration under a key adds a platform, and it adds it at the end. -/
theorem platforms_append_singleton (kind : String) (log : List (Registration α))
    (c : Registration α) :
    platforms kind (log ++ [c]) =
      if c.kind = kind ∧ c.platform ∉ platforms kind log then platforms kind log ++ [c.platform]
      else platforms kind log := by
  rw [platforms, List.filter_append, List.map_append, List.eraseDups_append]
  by_cases hkind : c.kind = kind
  · by_cases hmem : c.platform ∈ (log.filter fun c => c.kind == kind).map platform
    · simp [platforms, hkind, hmem, List.removeAll]
    · simp [platforms, hkind, hmem, List.removeAll, List.eraseDups_cons]
  · simp [platforms, hkind, List.removeAll]

theorem nodup_platforms (kind : String) (log : List (Registration α)) :
    (platforms kind log).Nodup := by
  induction log using List.reverseRecOn with
  | nil => exact List.nodup_nil
  | append_singleton log c ih =>
    rw [platforms_append_singleton]
    split
    · rename_i hnew
      exact List.concat_eq_append ▸ ih.concat hnew.2
    · exact ih

end Registration

namespace Registry

variable {α : Type}

/-! ## Entries -/

theorem lookup_cons_ite (key k : String × String) (v : α)
    (entries : List ((String × String) × α)) :
    ((k, v) :: entries).lookup key = if key = k then some v else entries.lookup key := by
  rw [List.lookup_cons]
  split
  · rename_i hkey
    rw [if_pos (eq_of_beq hkey)]
  · rename_i hkey
    rw [if_neg (ne_of_beq_false hkey)]

theorem put_cons_self (key : String × String) (value v : α)
    (entries : List ((String × String) × α)) :
    put key value ((key, v) :: entries) = (key, value) :: entries :=
  if_pos (beq_self_eq_true key)

theorem put_cons_of_ne {key k : String × String} (hk : k ≠ key) (value v : α)
    (entries : List ((String × String) × α)) :
    put key value ((k, v) :: entries) = (k, v) :: put key value entries :=
  if_neg (by simpa using hk)

theorem lookup_put (key key' : String × String) (value : α)
    (entries : List ((String × String) × α)) :
    (put key value entries).lookup key' =
      if key' = key then some value else entries.lookup key' := by
  induction entries with
  | nil => rw [put, lookup_cons_ite]
  | cons e entries ih =>
    obtain ⟨k, v⟩ := e
    by_cases hk : k = key
    · subst hk
      rw [put_cons_self, lookup_cons_ite, lookup_cons_ite]
      split <;> rfl
    · rw [put_cons_of_ne hk, lookup_cons_ite, lookup_cons_ite, ih]
      by_cases hkey : key' = key
      · simp [hkey, Ne.symm hk]
      · simp [hkey]

/-- The keys of the entries, in order. -/
def keys (entries : List ((String × String) × α)) : List (String × String) := entries.map Prod.fst

@[simp] theorem keys_cons (e : (String × String) × α) (entries : List ((String × String) × α)) :
    keys (e :: entries) = e.1 :: keys entries := rfl

theorem isSome_lookup_iff {key : String × String} {entries : List ((String × String) × α)} :
    (entries.lookup key).isSome ↔ key ∈ keys entries := by
  rw [List.lookup_isSome_iff, keys, List.mem_map]
  refine exists_congr fun e => and_congr_right fun _ => ?_
  rw [beq_iff_eq, eq_comm]

theorem put_of_notMem {key : String × String} {entries : List ((String × String) × α)}
    (h : key ∉ keys entries) (value : α) : put key value entries = entries ++ [(key, value)] := by
  induction entries with
  | nil => rfl
  | cons e entries ih =>
    rw [keys_cons, List.mem_cons, not_or] at h
    rw [put_cons_of_ne (Ne.symm h.1), ih h.2, List.cons_append]

/-- A key that is there stays where it is, and a key that is not there comes last. -/
theorem keys_put (key : String × String) (value : α) (entries : List ((String × String) × α)) :
    keys (put key value entries) =
      if key ∈ keys entries then keys entries else keys entries ++ [key] := by
  induction entries with
  | nil => rfl
  | cons e entries ih =>
    obtain ⟨k, v⟩ := e
    by_cases hk : k = key
    · subst hk
      rw [put_cons_self, if_pos (by simp)]
      rfl
    · rw [put_cons_of_ne hk, keys_cons, ih]
      by_cases hmem : key ∈ keys entries <;> simp [hmem, Ne.symm hk]

theorem platforms_eq_keys (r : Registry α) (kind : String) :
    r.platforms kind = ((keys r.entries).filter fun key => key.1 == kind).map Prod.snd := by
  rw [platforms, keys, List.filter_map, List.map_map]
  rfl

theorem mem_platforms {r : Registry α} {kind platform : String} :
    platform ∈ r.platforms kind ↔ (kind, platform) ∈ keys r.entries := by
  simp [platforms_eq_keys]

theorem platforms_put (key : String × String) (value : α)
    (entries : List ((String × String) × α)) (kind : String) :
    platforms ⟨put key value entries⟩ kind =
      if key.1 = kind ∧ key.2 ∉ platforms ⟨entries⟩ kind then platforms ⟨entries⟩ kind ++ [key.2]
      else platforms ⟨entries⟩ kind := by
  simp only [platforms_eq_keys, keys_put]
  by_cases hkind : key.1 = kind
  · subst hkind
    by_cases hmem : key ∈ keys entries <;> simp [hmem]
  · by_cases hmem : key ∈ keys entries <;> simp [hmem, hkind]

theorem get_eq_error_iff {r : Registry α} {kind platform : String} :
    r.get kind platform = .error (.unsupported kind platform) ↔
      r.supports kind platform = false := by
  rw [get, supports]
  cases r.find? kind platform <;> simp

theorem supports_iff {r : Registry α} {kind platform : String} :
    r.supports kind platform ↔ Text.lower platform ∈ r.platforms kind := by
  rw [supports, find?, isSome_lookup_iff, mem_platforms]

/-! ## Calls -/

/-- The outcome of a call: the registry with the entry, or why the call is refused. -/
def attempt (r : Registry α) (c : Registration α) : Except String (Registry α) :=
  match r.register c.kind c.platform c.value c.replaces with
  | some r' => .ok r'
  | none => .error (refusal c.kind c.platform)

/-- The registry after a call. A call that fails leaves it as it was. -/
def after (r : Registry α) (c : Registration α) : Registry α :=
  match r.attempt c with
  | .ok r' => r'
  | .error _ => r

/-- The registry after calls in a row. -/
def run (r : Registry α) (calls : List (Registration α)) : Registry α := calls.foldl after r

/-- The calls that succeed, in order. -/
def successes (r : Registry α) : List (Registration α) → List (Registration α)
  | [] => []
  | c :: calls =>
    match r.attempt c with
    | .ok r' => c :: successes r' calls
    | .error _ => successes r calls

@[simp] theorem run_nil (r : Registry α) : r.run [] = r := rfl

@[simp] theorem run_cons (r : Registry α) (c : Registration α) (calls : List (Registration α)) :
    r.run (c :: calls) = (r.after c).run calls := rfl

theorem attempt_eq (r : Registry α) (c : Registration α) :
    r.attempt c =
      if c.replaces = false ∧ c.key ∈ keys r.entries then .error (refusal c.kind c.platform)
      else .ok ⟨put c.key c.value r.entries⟩ := by
  rw [attempt, register, isTaken, ← Registration.key]
  simp only [← isSome_lookup_iff]
  cases c.replaces <;> cases (r.entries.lookup c.key).isSome <;> rfl

theorem attempt_eq_error_iff {r : Registry α} {c : Registration α} {message : String} :
    r.attempt c = .error message ↔
      (c.replaces = false ∧ c.key ∈ keys r.entries) ∧ message = refusal c.kind c.platform := by
  rw [attempt_eq]
  split
  · rename_i h
    simp [h, eq_comm]
  · rename_i h
    simp [h]

theorem eq_of_attempt_eq_ok {r r' : Registry α} {c : Registration α}
    (h : r.attempt c = .ok r') : r' = ⟨put c.key c.value r.entries⟩ := by
  rw [attempt_eq] at h
  split at h
  · cases h
  · cases h
    rfl

theorem attempt_of_notMem {r : Registry α} {c : Registration α} (h : c.key ∉ keys r.entries) :
    r.attempt c = .ok ⟨r.entries ++ [(c.key, c.value)]⟩ := by
  rw [attempt_eq, if_neg (fun hc => h hc.2), put_of_notMem h]

theorem after_of_error {r : Registry α} {c : Registration α} {message : String}
    (h : r.attempt c = .error message) : r.after c = r := by
  rw [after, h]

/-- A call under a key that is taken moves no platform, whether it replaces or is refused. -/
theorem platforms_after_of_taken {r : Registry α} {c : Registration α}
    (h : c.key ∈ keys r.entries) (kind : String) :
    (r.after c).platforms kind = r.platforms kind := by
  rw [after]
  cases hc : r.attempt c with
  | error message => rfl
  | ok r' =>
    rw [eq_of_attempt_eq_ok hc, platforms_put, if_neg]
    rintro ⟨rfl, hnew⟩
    exact hnew (mem_platforms.2 h)

/-- Calls under keys that are new and all different succeed, and put their entries in a row. -/
theorem run_of_nodup {r : Registry α} {calls : List (Registration α)}
    (h : (keys r.entries ++ calls.map Registration.key).Nodup) :
    r.run calls = ⟨r.entries ++ calls.map fun c => (c.key, c.value)⟩ ∧
      r.successes calls = calls := by
  induction calls generalizing r with
  | nil => exact ⟨by simp, rfl⟩
  | cons c calls ih =>
    have hnew : c.key ∉ keys r.entries := fun hold =>
      List.disjoint_of_nodup_append h hold (List.mem_cons_self ..)
    have hc := attempt_of_notMem hnew
    obtain ⟨hrun, hsuccesses⟩ := ih (r := ⟨r.entries ++ [(c.key, c.value)]⟩)
      (by simpa [keys] using h)
    rw [run_cons, after, successes, hc]
    exact ⟨by simpa using hrun, congrArg (c :: ·) hsuccesses⟩

/-! ## The log of a registry -/

/-- The registry answers what the calls in the log say. -/
structure Records (r : Registry α) (log : List (Registration α)) : Prop where
  lookup_eq : ∀ key, r.entries.lookup key = (Registration.latest? key log).map (·.value)
  platforms_eq : ∀ kind, r.platforms kind = Registration.platforms kind log

theorem records_empty : Records (empty : Registry α) [] :=
  ⟨fun _ => rfl, fun _ => rfl⟩

namespace Records

variable {r r' : Registry α} {log : List (Registration α)} {c : Registration α}

theorem mem_keys_iff (h : Records r log) {key : String × String} :
    key ∈ keys r.entries ↔ ∃ a ∈ log, a.key = key := by
  rw [← isSome_lookup_iff, h.lookup_eq, Option.isSome_map, Registration.isSome_latest?_iff]

theorem get_eq (h : Records r log) (kind platform : String) :
    r.get kind platform =
      match Registration.latest? (kind, Text.lower platform) log with
      | some a => .ok a.value
      | none => .error (.unsupported kind platform) := by
  rw [get, find?, h.lookup_eq]
  cases Registration.latest? (kind, Text.lower platform) log <;> rfl

/-- A call that succeeds is the next of the log. -/
theorem attempt (h : Records r log) (hc : r.attempt c = .ok r') : Records r' (log ++ [c]) := by
  have hr' := eq_of_attempt_eq_ok hc
  constructor
  · intro key
    rw [hr', lookup_put, Registration.latest?_append_singleton, h.lookup_eq]
    split <;> rfl
  · intro kind
    rw [hr', platforms_put, Registration.platforms_append_singleton, ← h.platforms_eq]
    rfl

/-- The log of calls in a row is that of the calls that succeed. -/
theorem run (h : Records r log) (calls : List (Registration α)) :
    Records (r.run calls) (log ++ r.successes calls) := by
  induction calls generalizing r log with
  | nil => rwa [successes, List.append_nil]
  | cons c calls ih =>
    rw [run_cons, after, successes]
    cases hc : r.attempt c with
    | error message => exact ih h
    | ok r' => simpa using ih (h.attempt hc)

end Records

/-! ## Histories -/

/-- What a history starts from: no entries, or all the generators there are. -/
inductive Origin (α : Type) where
  | empty
  | builtin (embed : Generator → α)

namespace Origin

/-- The registry at the start. -/
def registry : Origin α → Registry α
  | empty => Registry.empty
  | builtin embed => ⟨Generator.builtin.entries.map fun e => (e.1, embed e.2)⟩

/-- The calls that the registry at the start is made with. -/
def registrations : Origin α → List (Registration α)
  | empty => []
  | builtin embed => Generator.all.map fun g => ⟨g.kind.name, g.platform.name, embed g, false⟩

/-- The registry at the start is that of the calls, all of which succeed. -/
theorem run_registrations (o : Origin α) :
    Registry.empty.run o.registrations = o.registry ∧
      Registry.empty.successes o.registrations = o.registrations := by
  cases o with
  | empty => exact ⟨rfl, rfl⟩
  | builtin embed =>
    have hnames : (Generator.all.map fun g => (g.kind.name, g.platform.name)).Nodup := by decide
    have hkeys : (keys (Registry.empty : Registry α).entries ++
        (registrations (builtin embed)).map Registration.key).Nodup := by
      rw [registrations, List.map_map]
      exact hnames
    obtain ⟨hrun, hsuccesses⟩ := run_of_nodup hkeys
    refine ⟨hrun.trans ?_, hsuccesses⟩
    simp [registry, registrations, Registry.empty, Generator.builtin, Registration.key]

theorem records (o : Origin α) : Records o.registry o.registrations := by
  have h := records_empty.run o.registrations
  rwa [o.run_registrations.1, o.run_registrations.2] at h

end Origin

/-- A registry from its start on, and the calls in a row. -/
structure History (α : Type) where
  origin : Origin α
  calls : List (Registration α)

namespace History

/-- The registry at the end. -/
def registry (h : History α) : Registry α := h.origin.registry.run h.calls

/-- The registrations that succeeded, in order. -/
def log (h : History α) : List (Registration α) :=
  h.origin.registrations ++ h.origin.registry.successes h.calls

/-- The history that goes on with further calls. -/
def extend (h : History α) (calls : List (Registration α)) : History α :=
  ⟨h.origin, h.calls ++ calls⟩

theorem records (h : History α) : Records h.registry h.log := h.origin.records.run h.calls

theorem registry_extend (h : History α) (calls : List (Registration α)) :
    (h.extend calls).registry = h.registry.run calls :=
  List.foldl_append ..

/-- What a history leaves behind, told from the registrations that succeeded. A call is refused
exactly if its key is taken and it does not replace, and then it might as well not have been made. A
look-up gives what was registered last under the lower-case platform. The platforms of a kind are
listed once each, in the order of their first registration, and a replacement does not move them. -/
theorem answers_of_log (h : History α) :
    (∀ c message, h.registry.attempt c = .error message ↔
      (c.replaces = false ∧ ∃ a ∈ h.log, a.key = c.key) ∧
        message = refusal c.kind c.platform) ∧
    (∀ c message later, h.registry.attempt c = .error message →
      (h.extend (c :: later)).registry = (h.extend later).registry) ∧
    (∀ kind platform, h.registry.get kind platform =
      match Registration.latest? (kind, Text.lower platform) h.log with
      | some a => .ok a.value
      | none => .error (.unsupported kind platform)) ∧
    (∀ kind platform, h.registry.get kind platform = .error (.unsupported kind platform) ↔
      h.registry.supports kind platform = false) ∧
    (∀ kind, (h.registry.platforms kind).Nodup ∧
      h.registry.platforms kind = Registration.platforms kind h.log) ∧
    ∀ c kind, (∃ a ∈ h.log, a.key = c.key) →
      (h.extend [c]).registry.platforms kind = h.registry.platforms kind := by
  refine ⟨fun c message => ?_, fun c message later hc => ?_, fun kind platform => ?_,
    fun kind platform => ?_, fun kind => ⟨?_, h.records.platforms_eq kind⟩,
    fun c kind htaken => ?_⟩
  · rw [attempt_eq_error_iff, h.records.mem_keys_iff]
  · rw [registry_extend, registry_extend, run_cons, after_of_error hc]
  · exact h.records.get_eq kind platform
  · exact get_eq_error_iff
  · rw [h.records.platforms_eq]
    exact Registration.nodup_platforms kind h.log
  · rw [registry_extend, run_cons, run_nil]
    exact platforms_after_of_taken (h.records.mem_keys_iff.2 htaken) kind

/-- All generators and one for documentation; a second one for iOS is refused first and then put in
the place of the first. -/
def docsHistory : History String where
  origin := .builtin fun g => g.platform.name
  calls := [⟨"model", "docs", "Markdown", false⟩, ⟨"model", "ios", "Outline", false⟩,
    ⟨"model", "ios", "Outline", true⟩]

/-- One more for iOS, which does not replace. -/
def sketch : Registration String := ⟨"model", "ios", "Sketch", false⟩

theorem answers_of_log_docsHistory :
    docsHistory.registry.attempt sketch =
        .error "Generator already registered for model on ios" ∧
      (docsHistory.extend [sketch]).registry = (docsHistory.extend []).registry ∧
      docsHistory.registry.get "model" "IOS" = .ok "Outline" ∧
      docsHistory.registry.platforms "model" = ["ios", "android", "web", "docs"] := by
  have htaken : ∃ a ∈ docsHistory.log, a.key = sketch.key := by decide +kernel
  have hmessage : "Generator already registered for model on ios" = refusal "model" "ios" := by
    decide
  obtain ⟨hattempt, hrefused, hget, _, hplatforms, _⟩ := answers_of_log docsHistory
  have herror := (hattempt sketch _).2 ⟨⟨rfl, htaken⟩, hmessage⟩
  refine ⟨herror, hrefused sketch _ [] herror, ?_, ?_⟩
  · rw [hget]
    rfl
  · rw [(hplatforms "model").2]
    decide +kernel

/-- What was registered last for a listed platform is found under its name if and only if the same
was registered last for the lower-case form of the platform. It is always found if the platform is
in lower case. -/
theorem found_of_listed (h : History α) {kind platform : String}
    (hlisted : platform ∈ h.registry.platforms kind) :
    ∃ a, Registration.latest? (kind, platform) h.log = some a ∧
      (h.registry.supports kind platform = true ↔
        Text.lower platform ∈ h.registry.platforms kind) ∧
      (h.registry.get kind platform = .ok a.value ↔
        ∃ b, Registration.latest? (kind, Text.lower platform) h.log = some b ∧
          b.value = a.value) ∧
      (Text.lower platform = platform →
        h.registry.supports kind platform = true ∧ h.registry.get kind platform = .ok a.value) := by
  have hkey := h.records.mem_keys_iff.1 (mem_platforms.1 hlisted)
  obtain ⟨a, ha⟩ := Option.isSome_iff_exists.1 (Registration.isSome_latest?_iff.2 hkey)
  refine ⟨a, ha, supports_iff, ?_, fun hlower => ⟨?_, ?_⟩⟩
  · rw [h.records.get_eq]
    cases Registration.latest? (kind, Text.lower platform) h.log <;> simp
  · rwa [supports_iff, hlower]
  · rw [h.records.get_eq, hlower, ha]

theorem found_docsHistory :
    "docs" ∈ docsHistory.registry.platforms "model" ∧
      docsHistory.registry.supports "model" "docs" = true ∧
      docsHistory.registry.get "model" "docs" = .ok "Markdown" := by
  have hlisted : "docs" ∈ docsHistory.registry.platforms "model" := by decide +kernel
  have hlatest : Registration.latest? ("model", "docs") docsHistory.log =
      some ⟨"model", "docs", "Markdown", false⟩ := by
    decide +kernel
  obtain ⟨a, ha, _, _, hfound⟩ := found_of_listed docsHistory hlisted
  obtain rfl : _ = a := Option.some.inj (hlatest.symm.trans ha)
  exact ⟨hlisted, hfound (by decide +kernel)⟩

/-- One generator, for a platform that is not in lower case. -/
def capitalHistory : History String where
  origin := .empty
  calls := [⟨"model", "Docs", "Markdown", false⟩]

theorem not_found_capitalHistory :
    "Docs" ∈ capitalHistory.registry.platforms "model" ∧
      Registration.latest? ("model", "Docs") capitalHistory.log =
        some ⟨"model", "Docs", "Markdown", false⟩ ∧
      ¬ (capitalHistory.registry.supports "model" "Docs" = true ∧
        capitalHistory.registry.get "model" "Docs" = .ok "Markdown") := by
  have hsupports : capitalHistory.registry.supports "model" "Docs" = false := by decide +kernel
  exact ⟨by decide +kernel, by decide +kernel, fun h => by simp [hsupports] at h⟩

end History

end Registry

end SpecForge
