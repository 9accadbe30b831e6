import Mathlib.Logic.Relation
import SpecForge.Proofs.Api.Endpoints

/-!
# Operation ids that are made from paths

The id of an operation that declares none is its method with the steps of its path behind it, each
step with a capital. What is lost on the way can be said step by step: in a path some changes are of
no account, and on one method two paths have the same id exactly if one of them can be changed into
the other. A document without declared ids is therefore accepted, if it is in order otherwise,
exactly if it has no two such paths with the same method. Paths in small letters keep all their
steps.
-/

namespace SpecForge.Api

open Name Text

/-- A step of a path. -/
inductive Segment where
  | fixed (cs : List Char)
  | parameter (name : List Char)
deriving DecidableEq

namespace Segment

/-- The step that a text spells: in braces it is a parameter. -/
def ofText (s : String) : Segment :=
  match Text.between? "\x7b" "\x7d" s with
  | some name => parameter name.toList
  | none => fixed s.toList

/-- What an operation id has for a step. -/
def part : Segment → List Char
  | fixed cs => capitalizeChars cs
  | parameter name => "By".toList ++ capitalizeChars name

end Segment

/-- The steps of a path. What is between two slashes next to each other is none. -/
def segments (path : String) : List Segment :=
  ((Text.split '/' path).filter fun s => !s.isEmpty).map .ofText

/-- A change of the steps of a path that an operation id does not show. -/
inductive Rewording : List Segment → List Segment → Prop
  /-- The first letter may be a small one or a capital. -/
  | initial (u v : List Segment) {s t : List Char} (h : capitalizeChars s = capitalizeChars t) :
      Rewording (u ++ .fixed s :: v) (u ++ .fixed t :: v)
  /-- A parameter is as good as its name behind `By`. -/
  | parameter (u v : List Segment) (name : List Char) :
      Rewording (u ++ .parameter name :: v) (u ++ .fixed ("By".toList ++ capitalizeChars name) :: v)
  /-- The slash between two steps may go, and what follows it gets a capital. -/
  | slash (u v : List Segment) {s : List Char} (t : List Char) (hs : s ≠ []) :
      Rewording (u ++ .fixed s :: .fixed t :: v) (u ++ .fixed (s ++ capitalizeChars t) :: v)

/-- Two paths one of which can be changed into the other. -/
def PathsAlike (p q : String) : Prop := Relation.EqvGen Rewording (segments p) (segments q)

/-- A change of a method with the steps of a path that an operation id does not show. -/
inductive Merging : List Char × List Segment → List Char × List Segment → Prop
  | steps (m : List Char) {l l' : List Segment} (h : Rewording l l') : Merging (m, l) (m, l')
  /-- The slash between the method and the first step may go, and what follows it gets a capital. -/
  | slash (m s : List Char) (l : List Segment) :
      Merging (m, .fixed s :: l) (m ++ capitalizeChars s, l)

/-- A method and a path one of which can be changed into another method and another path. -/
def OperationsAlike (m p m' q : String) : Prop :=
  Relation.EqvGen Merging ((lower m).toList, segments p) ((lower m').toList, segments q)

/-! ### Parts of operation ids -/

theorem toList_idPart (s : String) : (idPart s).toList = (Segment.ofText s).part := by
  rw [idPart, Segment.ofText]
  cases Text.between? "\x7b" "\x7d" s with
  | none => rw [Name.capitalize, String.toList_ofList, Segment.part]
  | some name =>
      rw [String.toList_append, Name.capitalize, Segment.part]
      exact congrArg ("By".toList ++ ·) String.toList_ofList

theorem toList_operationId (method path : String) :
    (operationId method path).toList =
      (lower method).toList ++ (segments path).flatMap Segment.part := by
  rw [operationId, String.toList_append, String.toList_join, segments]
  simp only [List.flatMap_map, toList_idPart]

theorem capitalizeChars_append {s : List Char} (hs : s ≠ []) (t : List Char) :
    capitalizeChars (s ++ t) = capitalizeChars s ++ t := by
  cases s with
  | nil => exact absurd rfl hs
  | cons c s => exact (List.append_assoc _ _ _).symm

theorem capitalizeChars_ne_nil {s : List Char} (hs : s ≠ []) : capitalizeChars s ≠ [] := by
  cases s with
  | nil => exact absurd rfl hs
  | cons c s => exact fun h => upperChar_ne_nil c (List.append_eq_nil_iff.1 h).1

theorem capitalizeChars_by (name : List Char) :
    capitalizeChars ("By".toList ++ name) = "By".toList ++ name := by
  have hby : capitalizeChars "By".toList = "By".toList := by decide
  rw [capitalizeChars_append (by decide), hby]

/-! ### Changes of no account -/

theorem Rewording.flatMap_part_eq {l l' : List Segment} (h : Rewording l l') :
    l.flatMap Segment.part = l'.flatMap Segment.part := by
  cases h with
  | initial u v h => simp only [List.flatMap_append, List.flatMap_cons, Segment.part, h]
  | parameter u v name =>
      simp only [List.flatMap_append, List.flatMap_cons, Segment.part, capitalizeChars_by]
  | slash u v t hs =>
      simp only [List.flatMap_append, List.flatMap_cons, Segment.part,
        capitalizeChars_append hs, List.append_assoc]

theorem flatMap_part_eq_of_eqvGen {l l' : List Segment} (h : Relation.EqvGen Rewording l l') :
    l.flatMap Segment.part = l'.flatMap Segment.part := by
  induction h with
  | rel l l' h => exact h.flatMap_part_eq
  | refl l => rfl
  | symm l l' _ ih => exact ih.symm
  | trans l l' l'' _ _ ih ih' => exact ih.trans ih'

/-- Fixed steps are not empty. -/
def Segment.IsProper : Segment → Prop
  | fixed cs => cs ≠ []
  | parameter _ => True

theorem isProper_of_mem_segments {path : String} : ∀ x ∈ segments path, x.IsProper := by
  intro x hx
  obtain ⟨s, hs, rfl⟩ := List.mem_map.1 hx
  rw [Segment.ofText]
  split
  · trivial
  · simpa [Segment.IsProper] using (List.mem_filter.1 hs).2

/-- Every step can be changed into a fixed one. -/
theorem Segment.exists_fixed (x : Segment) :
    ∃ t, capitalizeChars t = x.part ∧ (x.IsProper → t ≠ []) ∧
      ∀ u v, Relation.EqvGen Rewording (u ++ x :: v) (u ++ .fixed t :: v) := by
  cases x with
  | fixed t => exact ⟨t, rfl, id, fun u v => .refl _⟩
  | parameter name =>
      refine ⟨"By".toList ++ capitalizeChars name, capitalizeChars_by _, fun _ => ?_,
        fun u v => .rel _ _ (.parameter u v name)⟩
      exact List.append_ne_nil_of_left_ne_nil (by decide) _

/-- The steps behind a fixed one are drawn into it one after the other. -/
theorem eqvGen_fixed {s : List Char} (hs : s ≠ []) (l : List Segment) :
    Relation.EqvGen Rewording (.fixed s :: l) [.fixed (s ++ l.flatMap Segment.part)] := by
  induction l generalizing s with
  | nil =>
      rw [List.flatMap_nil, List.append_nil]
      exact .refl _
  | cons x l ih =>
      obtain ⟨t, ht, _, hfixed⟩ := x.exists_fixed
      have hslash := Relation.EqvGen.rel _ _ (Rewording.slash [] l t hs)
      rw [List.flatMap_cons, ← ht, ← List.append_assoc]
      exact .trans _ _ _ (hfixed [.fixed s] l) (.trans _ _ _ hslash (ih (by simp [hs])))

/-- A path that has steps can be changed into one with a single fixed step. -/
theorem exists_eqvGen_fixed {x : Segment} (hx : x.IsProper) (l : List Segment) :
    ∃ s, s ≠ [] ∧ Relation.EqvGen Rewording (x :: l) [.fixed s] ∧
      capitalizeChars s = (x :: l).flatMap Segment.part := by
  obtain ⟨t, ht, hne, hfixed⟩ := x.exists_fixed
  refine ⟨t ++ l.flatMap Segment.part, ?_, ?_, ?_⟩
  · exact List.append_ne_nil_of_left_ne_nil (hne hx) _
  · exact .trans _ _ _ (hfixed [] l) (eqvGen_fixed (hne hx) l)
  · rw [capitalizeChars_append (hne hx), ht, List.flatMap_cons]

/-- Paths whose parts in an operation id are the same can be changed into each other. -/
theorem eqvGen_of_flatMap_part_eq {l l' : List Segment} (hl : ∀ x ∈ l, x.IsProper)
    (hl' : ∀ x ∈ l', x.IsProper) (h : l.flatMap Segment.part = l'.flatMap Segment.part) :
    Relation.EqvGen Rewording l l' := by
  have hne : ∀ {y : Segment} {k : List Segment}, y.IsProper →
      (y :: k).flatMap Segment.part ≠ [] := by
    intro y k hy
    obtain ⟨s, hs, _, heq⟩ := exists_eqvGen_fixed hy k
    rw [← heq]
    exact capitalizeChars_ne_nil hs
  cases l with
  | nil =>
      cases l' with
      | nil => exact .refl _
      | cons x' l' => exact absurd h.symm (hne (hl' _ List.mem_cons_self))
  | cons x l =>
      cases l' with
      | nil => exact absurd h (hne (hl _ List.mem_cons_self))
      | cons x' l' =>
          obtain ⟨s, _, hs, hpart⟩ := exists_eqvGen_fixed (hl x List.mem_cons_self) l
          obtain ⟨t, _, ht, hpart'⟩ := exists_eqvGen_fixed (hl' x' List.mem_cons_self) l'
          have hst : capitalizeChars s = capitalizeChars t := by rw [hpart, hpart', h]
          exact .trans _ _ _ hs (.trans _ _ _ (.rel _ _ (.initial [] [] hst)) (.symm _ _ ht))

theorem pathsAlike_iff (p q : String) :
    PathsAlike p q ↔ (segments p).flatMap Segment.part = (segments q).flatMap Segment.part :=
  ⟨flatMap_part_eq_of_eqvGen,
    eqvGen_of_flatMap_part_eq isProper_of_mem_segments isProper_of_mem_segments⟩

theorem Merging.append_eq {x y : List Char × List Segment} (h : Merging x y) :
    x.1 ++ x.2.flatMap Segment.part = y.1 ++ y.2.flatMap Segment.part := by
  cases h with
  | steps m h => rw [h.flatMap_part_eq]
  | slash m s l => rw [List.flatMap_cons, Segment.part, List.append_assoc]

theorem eqvGen_merging (m : List Char) {l l' : List Segment} (h : Relation.EqvGen Rewording l l') :
    Relation.EqvGen Merging (m, l) (m, l') := by
  induction h with
  | rel l l' h => exact .rel _ _ (.steps m h)
  | refl l => exact .refl _
  | symm l l' _ ih => exact .symm _ _ ih
  | trans l l' l'' _ _ ih ih' => exact .trans _ _ _ ih ih'

/-- All steps of a path can be drawn into the method. -/
theorem eqvGen_method (m : List Char) (l : List Segment) :
    Relation.EqvGen Merging (m, l) (m ++ l.flatMap Segment.part, []) := by
  induction l generalizing m with
  | nil =>
      rw [List.flatMap_nil, List.append_nil]
      exact .refl _
  | cons x l ih =>
      obtain ⟨t, ht, _, hfixed⟩ := x.exists_fixed
      have hslash := Relation.EqvGen.rel _ _ (Merging.slash m t l)
      rw [List.flatMap_cons, ← ht, ← List.append_assoc]
      exact .trans _ _ _ (eqvGen_merging m (hfixed [] l)) (.trans _ _ _ hslash (ih _))

theorem append_eq_of_eqvGen {x y : List Char × List Segment} (h : Relation.EqvGen Merging x y) :
    x.1 ++ x.2.flatMap Segment.part = y.1 ++ y.2.flatMap Segment.part := by
  induction h with
  | rel x y h => exact h.append_eq
  | refl x => rfl
  | symm x y _ ih => exact ih.symm
  | trans x y z _ _ ih ih' => exact ih.trans ih'

/-- Ids are the same exactly if method and path can be changed into each other together. -/
theorem operationId_eq_iff_alike (m m' p q : String) :
    operationId m p = operationId m' q ↔ OperationsAlike m p m' q := by
  rw [← String.toList_inj, toList_operationId, toList_operationId]
  constructor
  · intro h
    have hdrawn := eqvGen_method (lower m).toList (segments p)
    rw [h] at hdrawn
    exact .trans _ _ _ hdrawn (.symm _ _ (eqvGen_method (lower m').toList (segments q)))
  · exact append_eq_of_eqvGen

/-- On one method, paths have the same id if they are alike. -/
theorem operationId_eq_iff {m m' : String} (hm : lower m = lower m') (p q : String) :
    operationId m p = operationId m' q ↔ PathsAlike p q := by
  rw [← String.toList_inj, toList_operationId, toList_operationId, hm, List.append_right_inj,
    pathsAlike_iff]

/-! ### The five methods -/

/-- No key of a method is the beginning of another one. -/
theorem Verb.eq_of_isPrefix {v w : Verb} (h : v.key.toList <+: w.key.toList) : v = w := by
  revert h
  cases v <;> cases w <;> decide

theorem Verb.lower_key (v : Verb) : lower v.key = v.key := by
  cases v <;> decide +kernel

/-- The ids of different methods are different on all paths. -/
theorem operationId_key_eq_iff (v w : Verb) (p q : String) :
    operationId v.key p = operationId w.key q ↔ v = w ∧ PathsAlike p q := by
  constructor
  · intro h
    have hchars := congrArg String.toList h
    rw [toList_operationId, toList_operationId, v.lower_key, w.lower_key] at hchars
    have hvw : v = w := by
      have hv : v.key.toList <+: w.key.toList ++ (segments q).flatMap Segment.part :=
        ⟨_, hchars⟩
      rcases List.prefix_or_prefix_of_prefix hv (List.prefix_append _ _) with hkey | hkey
      · exact Verb.eq_of_isPrefix hkey
      · exact (Verb.eq_of_isPrefix hkey).symm
    subst hvw
    exact ⟨rfl, (operationId_eq_iff rfl p q).1 h⟩
  · rintro ⟨rfl, h⟩
    exact (operationId_eq_iff rfl p q).2 h

/-! ### Paths in small letters -/

/-- ASCII capitals. -/
def isCapital (c : Char) : Bool := 'A' ≤ c && c ≤ 'Z'

/-- A word that begins with a small letter and has no capitals in it. -/
def IsSmall (cs : List Char) : Prop :=
  ∃ c rest, cs = c :: rest ∧ ('a' ≤ c ∧ c ≤ 'z') ∧ ∀ d ∈ rest, isCapital d = false

theorem isSmall_cons {c : Char} {rest : List Char} (hc : 'a' ≤ c ∧ c ≤ 'z')
    (hrest : rest.any isCapital = false) : IsSmall (c :: rest) :=
  ⟨c, rest, rfl, hc, by simpa using hrest⟩

/-- A step in small letters that is not the word `by`. -/
def Segment.IsSmall : Segment → Prop
  | fixed cs => Api.IsSmall cs ∧ cs ≠ "by".toList
  | parameter name => Api.IsSmall name

/-- The words that a step is put together from. -/
def Segment.words : Segment → List (List Char)
  | fixed cs => [cs]
  | parameter name => ["by".toList, name]

theorem Segment.part_eq_words (x : Segment) : x.part = x.words.flatMap capitalizeChars := by
  cases x with
  | fixed cs => simp [part, words]
  | parameter name =>
      have hby : capitalizeChars "by".toList = "By".toList := by decide
      rw [words, List.flatMap_cons, hby, List.flatMap_singleton, part]

theorem Segment.IsSmall.words {x : Segment} (h : x.IsSmall) : ∀ w ∈ x.words, Api.IsSmall w := by
  cases x with
  | fixed cs => exact List.forall_mem_singleton.2 h.1
  | parameter name =>
      have hby : Api.IsSmall "by".toList := isSmall_cons (by decide) (by decide)
      exact List.forall_mem_cons.2 ⟨hby, List.forall_mem_singleton.2 h⟩

/-- A small letter has a capital of its own. -/
theorem exists_capital {c : Char} (h : 'a' ≤ c ∧ c ≤ 'z') :
    ∃ d, upperChar c = [d] ∧ isCapital d = true ∧ lowerChar d = [c] := by
  have hword : Name.isWordChar c = true := by simp [Name.isWordChar, isAsciiLetter, h.1, h.2]
  refine ⟨c.toUpper, ?_, ?_⟩
  · rw [upperChar, if_pos (toNat_lt_of_isWordChar hword)]
  · refine forall_isWordChar (P := fun c => 'a' ≤ c ∧ c ≤ 'z' →
      isCapital c.toUpper = true ∧ lowerChar c.toUpper = [c]) ?_ hword h
    decide

/-- A word ends where the next capital stands. -/
theorem takeWhile_words {rest : List Char} (hrest : ∀ d ∈ rest, isCapital d = false)
    {ws : List (List Char)} (hws : ∀ w ∈ ws, IsSmall w) :
    (rest ++ ws.flatMap capitalizeChars).takeWhile (fun c => !isCapital c) = rest := by
  rw [List.takeWhile_append_of_pos (by simpa using hrest)]
  cases ws with
  | nil => simp
  | cons w ws =>
      obtain ⟨c, tail, rfl, hc, _⟩ := hws w List.mem_cons_self
      obtain ⟨d, hupper, hd, _⟩ := exists_capital hc
      rw [List.flatMap_cons, capitalizeChars, hupper, List.singleton_append, List.cons_append,
        List.takeWhile_cons_of_neg (by simp [hd]), List.append_nil]

/-- Words in small letters are found again where they are put together with capitals. -/
theorem words_inj {ws ws' : List (List Char)} (hws : ∀ w ∈ ws, IsSmall w)
    (hws' : ∀ w ∈ ws', IsSmall w)
    (h : ws.flatMap capitalizeChars = ws'.flatMap capitalizeChars) : ws = ws' := by
  induction ws generalizing ws' with
  | nil =>
      cases ws' with
      | nil => rfl
      | cons w' ws' =>
          obtain ⟨c, rest, rfl, hc, _⟩ := hws' w' List.mem_cons_self
          obtain ⟨d, hupper, _⟩ := exists_capital hc
          simp [capitalizeChars, hupper] at h
  | cons w ws ih =>
      obtain ⟨c, rest, rfl, hc, hrest⟩ := hws w List.mem_cons_self
      obtain ⟨d, hupper, _, hlower⟩ := exists_capital hc
      have htail := fun w hw => hws w (List.mem_cons_of_mem _ hw)
      cases ws' with
      | nil => simp [capitalizeChars, hupper] at h
      | cons w' ws' =>
          obtain ⟨c', rest', rfl, hc', hrest'⟩ := hws' w' List.mem_cons_self
          obtain ⟨d', hupper', _, hlower'⟩ := exists_capital hc'
          have htail' := fun w hw => hws' w (List.mem_cons_of_mem _ hw)
          rw [List.flatMap_cons, List.flatMap_cons, capitalizeChars, capitalizeChars, hupper,
            hupper', List.singleton_append, List.singleton_append, List.cons_append,
            List.cons_append, List.cons.injEq] at h
          obtain ⟨rfl, h⟩ := h
          have hletter : [c] = [c'] := hlower.symm.trans hlower'
          have hsame : rest = rest' := by
            rw [← takeWhile_words hrest htail, h, takeWhile_words hrest' htail']
          subst hsame
          rw [List.append_right_inj] at h
          rw [(List.cons.inj hletter).1, ih htail htail' h]

/-- The word `by` tells the parameters from the other steps. -/
theorem segments_of_words {l l' : List Segment} (hl : ∀ x ∈ l, x.IsSmall)
    (hl' : ∀ x ∈ l', x.IsSmall) (h : l.flatMap Segment.words = l'.flatMap Segment.words) :
    l = l' := by
  induction l generalizing l' with
  | nil =>
      cases l' with
      | nil => rfl
      | cons x' l' => cases x' <;> cases h
  | cons x l ih =>
      have htail := fun y hy => hl y (List.mem_cons_of_mem x hy)
      cases l' with
      | nil => cases x <;> cases h
      | cons x' l' =>
          have htail' := fun y hy => hl' y (List.mem_cons_of_mem x' hy)
          have hx := hl x List.mem_cons_self
          have hx' := hl' x' List.mem_cons_self
          cases x with
          | fixed cs =>
              cases x' with
              | fixed cs' =>
                  obtain ⟨hcs, h⟩ := List.cons.inj h
                  rw [hcs, ih htail htail' h]
              | parameter name' => exact absurd (List.cons.inj h).1 hx.2
          | parameter name =>
              cases x' with
              | fixed cs' => exact absurd (List.cons.inj h).1.symm hx'.2
              | parameter name' =>
                  obtain ⟨hname, h⟩ := List.cons.inj (List.cons.inj h).2
                  rw [hname, ih htail htail' h]

/-- Alike paths in small letters have the same steps. -/
theorem PathsAlike.segments_eq {p q : String} (h : PathsAlike p q)
    (hp : ∀ x ∈ segments p, x.IsSmall) (hq : ∀ x ∈ segments q, x.IsSmall) :
    segments p = segments q := by
  have hwords : ∀ {l : List Segment}, (∀ x ∈ l, x.IsSmall) →
      ∀ w ∈ l.flatMap Segment.words, IsSmall w := by
    intro l hl w hw
    obtain ⟨x, hx, hw⟩ := List.mem_flatMap.1 hw
    exact (hl x hx).words w hw
  apply segments_of_words hp hq
  apply words_inj (hwords hp) (hwords hq)
  rw [List.flatMap_assoc, List.flatMap_assoc]
  simp only [← Segment.part_eq_words]
  exact (pathsAlike_iff p q).1 h

/-! ### Documents without declared ids -/

/-- The operation declares no id. -/
def Operation.IsUnnamed (o : Operation) : Prop :=
  (memberOrNull o.value "operationId").isGiven = false

/-- Two endpoints with different methods or with paths that are not alike. -/
def Apart (e e' : Endpoint) : Prop := ¬ (e.method = e'.method ∧ PathsAlike e.path e'.path)

theorem Verb.name_injective {v w : Verb} (h : v.name = w.name) : v = w := by
  revert h
  cases v <;> cases w <;> decide

/-- A document that describes an interface is accepted if the operation ids are different, and
refused for them otherwise. -/
theorem ofDocument_of_described {doc : Value} {api : Api} (h : described doc = .ok api) :
    ((api.endpoints.map (·.operationId)).Nodup → ofDocument doc = .ok api) ∧
      (¬ (api.endpoints.map (·.operationId)).Nodup →
        ∃ id, ofDocument doc = .error (.spec (.repeatedOperation id))) := by
  have hdoc : ofDocument doc = api.distinct := by
    rw [ofDocument_eq_described, h]
    rfl
  rw [hdoc, distinct]
  constructor
  · intro hnodup
    rw [(firstRepeated_eq_none_iff _ _).2 ⟨hnodup, by simp⟩]
  · intro hnodup
    cases hrep : firstRepeated [] (api.endpoints.map (·.operationId)) with
    | none => exact absurd ((firstRepeated_eq_none_iff _ _).1 hrep).1 hnodup
    | some id => exact ⟨id, rfl⟩

/-- Where no ids are declared they are different if the endpoints are apart. -/
theorem nodup_iff_apart {doc : Value} {api : Api} (h : described doc = .ok api)
    (hnone : ∀ o ∈ declaredOperations doc, o.IsUnnamed) :
    (api.endpoints.map (·.operationId)).Nodup ↔ api.endpoints.Pairwise Apart := by
  have hmade : ∀ e ∈ api.endpoints, ∃ v : Verb, e.method = v.name ∧
      e.operationId = operationId v.key e.path := by
    intro e he
    obtain ⟨o, ho, hread⟩ := exists_of_forall₂_of_mem (forall₂_endpoint h) he
    exact ⟨o.verb, (reads_of_endpoint hread).method, operationId_of_endpoint hread (hnone o ho)⟩
  rw [List.Nodup, List.pairwise_map]
  refine List.Pairwise.iff_of_mem fun {e e'} he he' => not_congr ?_
  obtain ⟨v, hv, hid⟩ := hmade e he
  obtain ⟨w, hw, hid'⟩ := hmade e' he'
  rw [hid, hid', operationId_key_eq_iff, hv, hw]
  exact and_congr_left fun _ => ⟨congrArg Verb.name, Verb.name_injective⟩

/-- Ids that are made from method and path are the same exactly if the two are alike together. For
the methods of a document that means that the methods are the same and the paths are alike, which
paths in small letters are only if they have the same steps. So a document that describes an
interface and declares no ids is accepted if its endpoints are apart, and refused for an operation
id that occurs twice if they are not. -/
theorem derived_ids_unique_iff :
    (∀ m m' p q, operationId m p = operationId m' q ↔ OperationsAlike m p m' q) ∧
      (∀ m m' p q, lower m = lower m' → (operationId m p = operationId m' q ↔ PathsAlike p q)) ∧
      (∀ (v w : Verb) (p q : String),
        operationId v.key p = operationId w.key q ↔ v = w ∧ PathsAlike p q) ∧
      (∀ p q, (∀ x ∈ segments p, x.IsSmall) → (∀ x ∈ segments q, x.IsSmall) →
        PathsAlike p q → segments p = segments q) ∧
      ∀ doc api, described doc = .ok api → (∀ o ∈ declaredOperations doc, o.IsUnnamed) →
        (ofDocument doc = .ok api ↔ api.endpoints.Pairwise Apart) ∧
          ((∃ id, ofDocument doc = .error (.spec (.repeatedOperation id))) ↔
            ¬ api.endpoints.Pairwise Apart) := by
  refine ⟨operationId_eq_iff_alike, fun m m' p q hm => operationId_eq_iff hm p q,
    operationId_key_eq_iff, fun p q hp hq h => h.segments_eq hp hq, ?_⟩
  intro doc api h hnone
  obtain ⟨haccepted, hrefused⟩ := ofDocument_of_described h
  rw [nodup_iff_apart h hnone] at haccepted hrefused
  by_cases hapart : api.endpoints.Pairwise Apart
  · simp [haccepted hapart, hapart]
  · obtain ⟨id, hid⟩ := hrefused hapart
    simp [hid, hapart]

/-- A document with one operation, a `get`, on each of two paths. -/
def twoPathsDocument (p q : String) : Value :=
  .record [("info", .record [("title", .str "Users"), ("version", .str "1")]),
    ("paths", .record [(p, .record [("get", .record [])]), (q, .record [("get", .record [])])])]

theorem described_twoPaths (p q : String) :
    ∃ api, described (twoPathsDocument p q) = .ok api ∧
      api.endpoints.map (fun e => (e.method, e.path)) = [("GET", p), ("GET", q)] :=
  ⟨_, rfl, rfl⟩

theorem isUnnamed_twoPaths (p q : String) :
    ∀ o ∈ declaredOperations (twoPathsDocument p q), o.IsUnnamed := by
  have hoperations : declaredOperations (twoPathsDocument p q) =
      [⟨.get, .str p, .record [], .null⟩, ⟨.get, .str q, .record [], .null⟩] := rfl
  rw [hoperations]
  exact List.forall_mem_cons.2 ⟨rfl, List.forall_mem_singleton.2 rfl⟩

theorem pairwise_apart_twoPaths {p q : String} {api : Api}
    (h : api.endpoints.map (fun e => (e.method, e.path)) = [("GET", p), ("GET", q)]) :
    api.endpoints.Pairwise Apart ↔ ¬ PathsAlike p q := by
  have hmap : api.endpoints.Pairwise Apart ↔
      (api.endpoints.map fun e => (e.method, e.path)).Pairwise
        fun x y => ¬ (x.1 = y.1 ∧ PathsAlike x.2 y.2) := by
    rw [List.pairwise_map]
    rfl
  rw [hmap, h]
  simp

/-- A parameter and a fixed step that is called `by` are taken for each other. -/
theorem derived_ids_byDocument :
    operationId "GET" "/users" = operationId "get" "users/" ∧
      segments "/users/{id}" = segments "users//{id}" ∧
      ∃ id, ofDocument (twoPathsDocument "/users/{id}" "/users/by/id") =
        .error (.spec (.repeatedOperation id)) := by
  obtain ⟨_, hmethods, _, hsmall, hdocuments⟩ := derived_ids_unique_iff
  refine ⟨?_, ?_, ?_⟩
  · refine (hmethods "GET" "get" _ _ (by decide +kernel)).2 ?_
    rw [pathsAlike_iff]
    decide +kernel
  · have hsegments :
        segments "/users/\x7bid\x7d" = [.fixed "users".toList, .parameter "id".toList] ∧
        segments "users//\x7bid\x7d" = [.fixed "users".toList, .parameter "id".toList] := by
      decide +kernel
    have husers : IsSmall "users".toList := isSmall_cons (by decide) (by decide)
    have hid : IsSmall "id".toList := isSmall_cons (by decide) (by decide)
    have hall : ∀ x ∈ [Segment.fixed "users".toList, .parameter "id".toList], x.IsSmall :=
      List.forall_mem_cons.2 ⟨⟨husers, by decide⟩, List.forall_mem_singleton.2 hid⟩
    refine hsmall _ _ (hsegments.1 ▸ hall) (hsegments.2 ▸ hall) ?_
    rw [pathsAlike_iff, hsegments.1, hsegments.2]
  · obtain ⟨api, hdescribed, hendpoints⟩ :=
      described_twoPaths "/users/{id}" "/users/by/id"
    obtain ⟨_, hrefused⟩ := hdocuments _ api hdescribed (isUnnamed_twoPaths _ _)
    rw [hrefused, pairwise_apart_twoPaths hendpoints, not_not, pathsAlike_iff]
    decide +kernel

/-- A slash at the end of a path is not seen in an operation id. So ids that are made from different
paths need not be different, and a document without declared ids may be refused for them. -/
theorem not_derived_ids_differ :
    (¬ ∀ m p m' p', (m ≠ m' ∨ p ≠ p') → operationId m p ≠ operationId m' p') ∧
      ¬ ∀ doc api, described doc = .ok api → (∀ o ∈ declaredOperations doc, o.IsUnnamed) →
        ∀ id, ofDocument doc ≠ .error (.spec (.repeatedOperation id)) := by
  have halike : PathsAlike "/users" "/users/" := by
    rw [pathsAlike_iff]
    decide +kernel
  constructor
  · intro h
    have hsame := (operationId_eq_iff (rfl : lower "get" = lower "get") _ _).2 halike
    exact h "get" "/users" "get" "/users/" (.inr (by decide)) hsame
  · intro h
    obtain ⟨api, hdescribed, hendpoints⟩ := described_twoPaths "/users" "/users/"
    have hnone := isUnnamed_twoPaths "/users" "/users/"
    have hrepeated : ¬ (api.endpoints.map (·.operationId)).Nodup := by
      rw [nodup_iff_apart hdescribed hnone, pairwise_apart_twoPaths hendpoints, not_not]
      exact halike
    obtain ⟨id, hid⟩ := (ofDocument_of_described hdescribed).2 hrepeated
    exact h _ api hdescribed hnone id hid

end SpecForge.Api
