import SpecForge.Document.Access
import SpecForge.Document.Json.Reader
import SpecForge.Proofs.Decimal.Range
import SpecForge.Proofs.Shape.Members

/-!
# Plain documents

A document is plain if no whole number in it has too many digits and every double in it is one that
a double can be. The parts of a plain document are plain, a plain document can be spelled, and every
document that a JSON text holds is plain: its reader refuses whole numbers with too many digits.

A reader that finds only plain numbers in a plain value does so in every member, in every item and
in every value that may be missing. So it is enough to look at the readers of single values.
-/

namespace SpecForge.Value

open Decimal

/-- Every number in the value is plain, wherever it stands. -/
inductive IsPlain : Value → Prop
  | null : IsPlain .null
  | bool (b : Bool) : IsPlain (.bool b)
  | int {n : Int} (h : Decimal.isSpellable n = true) : IsPlain (.int n)
  | float {x : Binary64} (h : x.IsDouble) : IsPlain (.float x)
  | str (s : String) : IsPlain (.str s)
  | list {items : List Value} (h : ∀ v ∈ items, IsPlain v) : IsPlain (.list items)
  | object {members : List (Value × Value)} (hkeys : ∀ m ∈ members, IsPlain m.1)
      (hvalues : ∀ m ∈ members, IsPlain m.2) : IsPlain (.object members)
  | date (d : Date) : IsPlain (.date d)
  | moment (m : Moment) : IsPlain (.moment m)
  | set {items : List Value} (h : ∀ v ∈ items, IsPlain v) : IsPlain (.set items)
  | bytes (data : List UInt8) : IsPlain (.bytes data)
  | pair {a b : Value} (ha : IsPlain a) (hb : IsPlain b) : IsPlain (.pair a b)
  | loop (number : Nat) {v : Value} (h : IsPlain v) : IsPlain (.loop number v)
  | dots : IsPlain .dots

/-! ## Parts -/

theorem IsPlain.content {v : Value} (h : v.IsPlain) : v.content.IsPlain := by
  cases h with
  | loop number h => exact h
  | null => exact .null
  | bool b => exact .bool b
  | int h => exact .int h
  | float h => exact .float h
  | str s => exact .str s
  | list h => exact .list h
  | object hkeys hvalues => exact .object hkeys hvalues
  | date d => exact .date d
  | moment m => exact .moment m
  | set h => exact .set h
  | bytes data => exact .bytes data
  | pair ha hb => exact .pair ha hb
  | dots => exact .dots

theorem IsPlain.lookup {key : String} {ms : List (Value × Value)} {v : Value}
    (hms : ∀ m ∈ ms, m.2.IsPlain) (h : lookup key ms = some v) : v.IsPlain := by
  obtain ⟨m, hm, rfl⟩ := mem_of_lookup h
  exact hms m hm

theorem IsPlain.members {v : Value} {ms : List (Value × Value)} (h : v.IsPlain)
    (hv : v.content = .object ms) : ∀ m ∈ ms, m.1.IsPlain ∧ m.2.IsPlain := by
  have hcontent := h.content
  rw [hv] at hcontent
  cases hcontent with
  | object hkeys hvalues => exact fun m hm => ⟨hkeys m hm, hvalues m hm⟩

theorem IsPlain.member? {v w : Value} {key : String} (h : v.IsPlain)
    (hw : v.member? key = some w) : w.IsPlain := by
  rw [Value.member?] at hw
  split at hw
  · rename_i ms hms
    exact IsPlain.lookup (fun m hm => (h.members hms m hm).2) hw
  · cases hw

theorem IsPlain.memberOrNull {v : Value} (h : v.IsPlain) (key : String) :
    ((v.member? key).getD .null).IsPlain := by
  cases hw : v.member? key with
  | none => exact .null
  | some w => exact h.member? hw

theorem isPlain_emptyObject : (Value.object []).IsPlain :=
  .object (fun _ h => absurd h List.not_mem_nil) fun _ h => absurd h List.not_mem_nil

theorem isPlain_emptyList : (Value.list []).IsPlain := .list fun _ h => absurd h List.not_mem_nil

theorem isPlain_record {members : List (String × Value)} (h : ∀ m ∈ members, m.2.IsPlain) :
    (record members).IsPlain := by
  refine .object (fun m hm => ?_) fun m hm => ?_
  · obtain ⟨member, _, rfl⟩ := List.mem_map.1 hm
    exact .str member.1
  · obtain ⟨member, hmember, rfl⟩ := List.mem_map.1 hm
    exact h member hmember

/-! ## Numbers -/

theorem IsPlain.number? {v : Value} {n : Number} (h : v.IsPlain) (hn : v.number? = some n) :
    n.IsPlain := by
  cases h with
  | int h =>
      cases hn
      exact h
  | float h =>
      cases hn
      exact h
  | bool b =>
      cases hn
      cases b with
      | false => exact @isSpellable_ofDigits [0] (by decide) (by decide)
      | true => exact @isSpellable_ofDigits [1] (by decide) (by decide)
  | null => cases hn
  | str s => cases hn
  | list h => cases hn
  | object hkeys hvalues => cases hn
  | date d => cases hn
  | moment m => cases hn
  | set h => cases hn
  | bytes data => cases hn
  | pair ha hb => cases hn
  | loop number h => cases hn
  | dots => cases hn

theorem areSpellable_iff {outer : List Nat} {items : List Value} :
    areSpellable outer items = true ↔ ∀ v ∈ items, isSpellableIn outer v = true := by
  induction items with
  | nil => simp [areSpellable]
  | cons v items ih => simp [areSpellable, ih]

theorem membersAreSpellable_iff {outer : List Nat} {members : List (Value × Value)} :
    membersAreSpellable outer members = true ↔
      ∀ m ∈ members, isSpellableIn outer m.1 = true ∧ isSpellableIn outer m.2 = true := by
  induction members with
  | nil => simp [membersAreSpellable]
  | cons m members ih =>
      obtain ⟨k, v⟩ := m
      simp [membersAreSpellable, ih, and_assoc]

/-- A plain value can be spelled wherever it stands. -/
theorem IsPlain.isSpellableIn {v : Value} (h : v.IsPlain) (outer : List Nat) :
    v.isSpellableIn outer = true := by
  induction h generalizing outer with
  | int h => exact h
  | list h ih => exact areSpellable_iff.2 fun v hv => ih v hv outer
  | set h ih => exact areSpellable_iff.2 fun v hv => ih v hv outer
  | object hkeys hvalues ihkeys ihvalues =>
      exact membersAreSpellable_iff.2 fun m hm => ⟨ihkeys m hm outer, ihvalues m hm outer⟩
  | pair ha hb iha ihb =>
      rw [Value.isSpellableIn, iha, ihb]
      rfl
  | loop number h ih =>
      rw [Value.isSpellableIn, ih, Bool.or_true]
  | null => rfl
  | bool b => rfl
  | float h => rfl
  | str s => rfl
  | date d => rfl
  | moment m => rfl
  | bytes data => rfl
  | dots => rfl

theorem IsPlain.isSpellable {v : Value} (h : v.IsPlain) : v.isSpellable = true :=
  h.isSpellableIn []

theorem isPlain_insert {key value : Value} {ms : List (Value × Value)} (hkey : key.IsPlain)
    (hvalue : value.IsPlain) (hms : ∀ m ∈ ms, m.1.IsPlain ∧ m.2.IsPlain) :
    ∀ m ∈ insert key value ms, m.1.IsPlain ∧ m.2.IsPlain := by
  induction ms with
  | nil => exact List.forall_mem_singleton.2 ⟨hkey, hvalue⟩
  | cons m ms ih =>
      obtain ⟨k, w⟩ := m
      rw [List.forall_mem_cons] at hms
      rw [insert]
      split
      · rw [List.forall_mem_cons]
        exact ⟨⟨hms.1.1, hvalue⟩, hms.2⟩
      · rw [List.forall_mem_cons]
        exact ⟨hms.1, ih hms.2⟩

end SpecForge.Value

namespace SpecForge.Json

open Decimal

/-! ## Documents in JSON -/

theorem lt_of_mem_takeDigits {cs : List Char} {d : Nat}
    (h : d ∈ (takeDigits Text.asciiDigit? cs).1) : d < 10 := by
  induction cs with
  | nil => exact absurd h List.not_mem_nil
  | cons c cs ih =>
      rw [takeDigits] at h
      split at h
      · rename_i digit hdigit
        rcases List.mem_cons.1 h with rfl | h
        · exact asciiDigit?_lt hdigit
        · exact ih h
      · exact absurd h List.not_mem_nil

theorem lt_of_wholePart? {cs rest : List Char} {ds : List Nat}
    (h : wholePart? cs = some (ds, rest)) : ∀ d ∈ ds, d < 10 := by
  unfold wholePart? at h
  split at h
  · cases h
    decide
  · split at h
    · cases h
    · intro d hd
      refine @lt_of_mem_takeDigits cs d ?_
      rw [Option.some.inj h]
      exact hd

theorem isSpellable_toInt {n : Numeral} (hds : ∀ d ∈ n.whole, d < 10)
    (hlength : n.whole.length ≤ digitLimit) : Decimal.isSpellable n.toInt = true := by
  have h := isSpellable_ofDigits hds hlength
  rw [Numeral.toInt]
  split
  · rw [isSpellable_neg]
    exact h
  · exact h

theorem isPlain_of_number? {cs rest : List Char} {v : Value}
    (h : number? cs = some (.ok (v, rest))) : v.IsPlain := by
  rw [number?.eq_def] at h
  simp only [Option.bind_eq_bind, Option.bind_eq_some_iff] at h
  obtain ⟨whole, hwhole, h⟩ := h
  rcases ite_eq_iff.1 h with ⟨_, h⟩ | ⟨_, h⟩
  · rcases ite_eq_iff.1 (Option.some.inj h) with ⟨_, h⟩ | ⟨hlength, h⟩
    · cases h
    · cases h
      exact .int (isSpellable_toInt (lt_of_wholePart? hwhole) (Nat.le_of_not_lt hlength))
  · cases Option.some.inj h
    exact .float (Binary64.isDouble_ofDecimal _ _ _)

theorem isPlain_of_mem_words {w : String × Value} (h : w ∈ words) : w.2.IsPlain := by
  simp only [words, List.mem_cons, List.not_mem_nil, or_false] at h
  rcases h with rfl | rfl | rfl | rfl | rfl | rfl
  · exact .null
  · exact .bool true
  · exact .bool false
  · exact .float trivial
  · exact .float trivial
  · exact .float trivial

theorem isPlain_of_atom? {cs rest : List Char} {v : Value} (h : atom? cs = some (.ok (v, rest))) :
    v.IsPlain := by
  rw [atom?] at h
  split at h
  · rename_i r hr
    cases h
    obtain ⟨w, hw, hword⟩ := List.exists_of_findSome?_eq_some hr
    obtain ⟨_, _, hv⟩ := Option.map_eq_some_iff.1 hword
    cases hv
    exact isPlain_of_mem_words hw
  · exact isPlain_of_number? h

theorem isPlain_textOf (signs : List Sign) : (textOf signs).IsPlain := by
  rw [textOf]
  split
  · exact .str _
  · exact .bytes _

/-- What the reader gives with some fuel is plain. -/
structure ReadsPlain (fuel : Nat) : Prop where
  value : ∀ room cs v rest, value fuel room cs = .ok (v, rest) → v.IsPlain
  items : ∀ room cs vs rest, items fuel room cs = .ok (vs, rest) → ∀ v ∈ vs, v.IsPlain
  members : ∀ room sofar cs ms rest, (∀ m ∈ sofar, m.1.IsPlain ∧ m.2.IsPlain) →
    members fuel room sofar cs = .ok (ms, rest) → ∀ m ∈ ms, m.1.IsPlain ∧ m.2.IsPlain

theorem readsPlain_zero : ReadsPlain 0 := by
  constructor
  · intro room cs v rest h
    cases h
  · intro room cs vs rest h
    cases h
  · intro room sofar cs ms rest _ h
    cases h

section

variable {fuel : Nat} (ih : ReadsPlain fuel)

include ih

theorem ReadsPlain.value_succ {room : Nat} {cs rest : List Char} {v : Value}
    (h : Json.value (fuel + 1) room cs = .ok (v, rest)) : v.IsPlain := by
  rw [Json.value.eq_def] at h
  dsimp only at h
  split at h
  · obtain ⟨⟨signs, _⟩, _, h⟩ := bind_eq_ok_iff.1 h
    cases h
    exact isPlain_textOf signs
  · split at h
    · cases h
    · split at h
      · cases h
        exact Value.isPlain_emptyList
      · obtain ⟨items, hitems, h⟩ := bind_eq_ok_iff.1 h
        cases h
        exact .list (ih.items _ _ _ _ hitems)
  · split at h
    · cases h
    · split at h
      · cases h
        exact Value.isPlain_emptyObject
      · obtain ⟨members, hmembers, h⟩ := bind_eq_ok_iff.1 h
        cases h
        have hms := ih.members _ _ _ _ _ (fun _ hm => absurd hm List.not_mem_nil) hmembers
        exact .object (fun m hm => (hms m hm).1) fun m hm => (hms m hm).2
  · cases hatom : atom? cs with
    | none =>
        rw [hatom] at h
        cases h
    | some result =>
        rw [hatom] at h
        obtain rfl : result = .ok (v, rest) := h
        exact isPlain_of_atom? hatom

theorem ReadsPlain.items_succ {room : Nat} {cs rest : List Char} {vs : List Value}
    (h : Json.items (fuel + 1) room cs = .ok (vs, rest)) : ∀ v ∈ vs, v.IsPlain := by
  rw [Json.items.eq_def] at h
  dsimp only at h
  obtain ⟨⟨first, left⟩, hfirst, h⟩ := bind_eq_ok_iff.1 h
  have hplain := ih.value _ _ _ _ hfirst
  dsimp only at h
  split at h
  · cases h
    exact List.forall_mem_singleton.2 hplain
  · obtain ⟨⟨vs', left'⟩, hrest, h⟩ := bind_eq_ok_iff.1 h
    cases h
    exact List.forall_mem_cons.2 ⟨hplain, ih.items _ _ _ _ hrest⟩
  · cases h

theorem ReadsPlain.members_succ {room : Nat} {sofar ms : List (Value × Value)}
    {cs rest : List Char} (hsofar : ∀ m ∈ sofar, m.1.IsPlain ∧ m.2.IsPlain)
    (h : Json.members (fuel + 1) room sofar cs = .ok (ms, rest)) :
    ∀ m ∈ ms, m.1.IsPlain ∧ m.2.IsPlain := by
  rw [Json.members.eq_def] at h
  dsimp only at h
  split at h
  · obtain ⟨⟨key, left⟩, _, h⟩ := bind_eq_ok_iff.1 h
    dsimp only at h
    split at h
    · obtain ⟨⟨v, left'⟩, hv, h⟩ := bind_eq_ok_iff.1 h
      have hall := Value.isPlain_insert (isPlain_textOf key) (ih.value _ _ _ _ hv) hsofar
      dsimp only at h
      split at h
      · cases h
        exact hall
      · exact ih.members _ _ _ _ _ hall h
      · cases h
    · cases h
  · cases h

end

theorem readsPlain (fuel : Nat) : ReadsPlain fuel := by
  induction fuel with
  | zero => exact readsPlain_zero
  | succ fuel ih =>
      exact ⟨fun _ _ _ _ => ih.value_succ, fun _ _ _ _ => ih.items_succ,
        fun _ _ _ _ _ => ih.members_succ⟩

/-- The document that a JSON text holds is plain. -/
theorem isPlain_of_read {s : String} {v : Value} (h : read s = .ok v) : v.IsPlain := by
  rw [read] at h
  dsimp only at h
  split at h
  · cases h
  · split at h
    · cases h
    · rename_i hvalue
      split at h
      · cases h
        exact (readsPlain _).value _ _ _ _ hvalue
      · cases h

end SpecForge.Json

/-! ## What is read from plain documents -/

namespace SpecForge.Shape

open Decimal

/-- Whatever the reader takes from a plain value has the property. -/
def Gives {α : Type} (r : Reader α) (P : α → Prop) : Prop :=
  ∀ ⦃v : Value⦄ ⦃a : α⦄, v.IsPlain → r v = .ok a → P a

section

variable {α : Type} {r : Reader α} {P : α → Prop}

theorem gives_any : Gives any Value.IsPlain := by
  intro v a hv h
  cases h
  exact hv

theorem isPlain_of_numberText {s : Option String} {n : Number} (h : numberText s = .ok n) :
    n.IsPlain := by
  rw [numberText] at h
  split at h
  · rename_i n' hn
    cases h
    obtain ⟨text, _, hnumber⟩ := Option.bind_eq_some_iff.1 hn
    exact Tolerant.isPlain_of_number? hnumber
  · cases h

theorem gives_number : Gives number Number.IsPlain := by
  intro v n hv h
  rw [number.eq_def] at h
  split at h
  · exact isPlain_of_numberText h
  · exact isPlain_of_numberText h
  · split at h
    · rename_i n' hn
      cases h
      exact hv.number? hn
    · cases h

theorem Gives.list (hr : Gives r P) : Gives (list r) fun as => ∀ a ∈ as, P a := by
  intro v as hv h
  have hall : ∀ vs i, (∀ w ∈ vs, w.IsPlain) → itemsFrom r i vs = .ok as → ∀ a ∈ as, P a := by
    intro vs i hvs hread a ha
    obtain ⟨w, hw, hread⟩ := exists_of_itemsFrom hread a ha
    exact hr (hvs w hw) hread
  have hcontent := hv.content
  rw [Shape.list] at h
  split at h
  · rename_i vs hvs
    rw [hvs] at hcontent
    cases hcontent with
    | list hitems => exact hall _ _ hitems h
  · rename_i vs hvs
    rw [hvs] at hcontent
    cases hcontent with
    | set hitems => exact hall _ _ hitems h
  · rename_i first second hpair
    rw [hpair] at hcontent
    cases hcontent with
    | pair hfirst hsecond =>
        refine hall _ _ (List.forall_mem_cons.2 ⟨hfirst, ?_⟩) h
        exact List.forall_mem_singleton.2 hsecond
  · cases h

theorem isPlain_of_record {name : String} {v : Value} {ms : List (Value × Value)} (hv : v.IsPlain)
    (h : record name v = .ok ms) : ∀ m ∈ ms, m.2.IsPlain := by
  rw [record] at h
  split at h
  · rename_i members hmembers
    cases h
    exact fun m hm => (hv.members hmembers m hm).2
  · cases h

/-! ### Members -/

variable {ms : List (Value × Value)} {key other : String}

theorem Gives.given (hr : Gives r P) (hms : ∀ m ∈ ms, m.2.IsPlain) {default a : α}
    (hdefault : P default) (h : given key other default r ms = .ok a) : P a := by
  rcases exists_of_given h with rfl | ⟨m, hm, hread⟩
  · exact hdefault
  · exact hr (hms m hm) hread

theorem Gives.possible (hr : Gives r P) (hms : ∀ m ∈ ms, m.2.IsPlain) {found : Option α}
    (h : possible key other r ms = .ok found) : ∀ a ∈ found, P a := by
  intro a ha
  obtain ⟨m, hm, hread⟩ := exists_of_possible h a ha
  exact hr (hms m hm) hread

end

end SpecForge.Shape
