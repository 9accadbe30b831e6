import Mathlib.Data.List.Forall2
import SpecForge.Proofs.Outcome
import SpecForge.Proofs.Text.Blank
import SpecForge.Proofs.Text.LetterCase
import SpecForge.Proofs.Text.Read
import SpecForge.Theme.Kotlin

/-!
# Colors in hexadecimal digits

A text is a color exactly if three, six or eight hexadecimal digits are left of it without the white
space at its ends and a number sign in front. The reader sees nothing of a character but its role: a
digit of some value, white space, the number sign, or none of these. A letter has the same role in
both cases, also beyond ASCII. So the case of letters does not matter, nor does the sign or the
white space. Each color is read back from its bytes in both orders: with the opaque byte last, as
colors are written in documents, and with the opaque byte first, as they are written in code.
-/

namespace SpecForge.Color

open Text

/-! ## The digits -/

/-- Three, six or eight hexadecimal digits. -/
def IsForm (cs : List Char) : Prop :=
  (cs.length = 3 ∨ cs.length = 6 ∨ cs.length = 8) ∧ ∀ c ∈ cs, isHex c = true

instance (cs : List Char) : Decidable (IsForm cs) :=
  have := List.decidableBAll (fun c => isHex c = true) cs
  inferInstanceAs (Decidable (_ ∧ _))

/-- The color of a row of digits. -/
def ofForm? (cs : List Char) : Option Color :=
  (cs.mapM hexValue?).bind fun ds => ofDigits? (eightDigits ds)

theorem ofHex?_eq (s : String) : ofHex? s = ofForm? (bare (trim isBlank s.toList)) := rfl

theorem isSome_ofDigits? (ds : List Nat) : (ofDigits? ds).isSome = true ↔ ds.length = 8 := by
  constructor
  · intro h
    rw [ofDigits?.eq_def] at h
    split at h
    · rfl
    · cases h
  · intro h
    match ds, h with
    | [_, _, _, _, _, _, _, _], _ => rfl

theorem length_eightDigits (ds : List Nat) : (eightDigits ds).length = 8 ↔
    ds.length = 3 ∨ ds.length = 6 ∨ ds.length = 8 := by
  rw [eightDigits.eq_def]
  split
  · simp
  · rename_i hthree
    have hlength : ds.length ≠ 3 := by
      intro h
      match ds, h with
      | [r, g, b], _ => exact hthree r g b rfl
    split
    · rename_i hsix
      rw [List.length_append, beq_iff_eq.1 hsix]
      simp
    · rename_i hsix
      rw [beq_iff_eq] at hsix
      omega

/-- The digits of a row have values if each of them has one. -/
theorem exists_values {cs : List Char} (h : ∀ c ∈ cs, isHex c = true) :
    ∃ ds, cs.mapM hexValue? = some ds := by
  induction cs with
  | nil => exact ⟨[], rfl⟩
  | cons c cs ih =>
      rw [List.forall_mem_cons] at h
      obtain ⟨d, hd⟩ := Option.isSome_iff_exists.1 h.1
      obtain ⟨ds, hds⟩ := ih h.2
      exact ⟨d :: ds, mapM_eq_some_iff_forall₂.2 (.cons hd (mapM_eq_some_iff_forall₂.1 hds))⟩

theorem isHex_of_values {cs : List Char} {ds : List Nat} (h : cs.mapM hexValue? = some ds) :
    ∀ c ∈ cs, isHex c = true := by
  have hvalues := mapM_eq_some_iff_forall₂.1 h
  clear h
  induction hvalues with
  | nil => exact List.forall_mem_nil _
  | cons hd _ ih => exact List.forall_mem_cons.2 ⟨Option.isSome_iff_exists.2 ⟨_, hd⟩, ih⟩

theorem isSome_ofForm? (cs : List Char) : (ofForm? cs).isSome = true ↔ IsForm cs := by
  have hlength : ∀ {ds}, cs.mapM hexValue? = some ds →
      ((ofForm? cs).isSome = true ↔ cs.length = 3 ∨ cs.length = 6 ∨ cs.length = 8) := by
    intro ds hds
    rw [ofForm?, hds, Option.bind_some, isSome_ofDigits?, length_eightDigits,
      (mapM_eq_some_iff_forall₂.1 hds).length_eq]
  constructor
  · intro h
    obtain ⟨color, hcolor⟩ := Option.isSome_iff_exists.1 h
    obtain ⟨ds, hds, _⟩ := Option.bind_eq_some_iff.1 hcolor
    exact ⟨(hlength hds).1 h, isHex_of_values hds⟩
  · rintro ⟨hform, hdigits⟩
    obtain ⟨ds, hds⟩ := exists_values hdigits
    exact (hlength hds).2 hform

theorem toNat_lt_of_isHex {c : Char} (h : isHex c = true) : c.toNat < 128 := by
  have hlow : ∀ {a b : Char}, (decide (a ≤ c) && decide (c ≤ b)) = true → b.toNat < 128 →
      c.toNat < 128 := by
    intro a b hc hb
    have hle : c ≤ b := of_decide_eq_true (Bool.and_eq_true_iff.1 hc).2
    exact Nat.lt_of_le_of_lt hle hb
  rw [isHex, hexValue?] at h
  split at h
  · exact hlow ‹_› (by decide)
  · split at h
    · exact hlow ‹_› (by decide)
    · split at h
      · exact hlow ‹_› (by decide)
      · cases h

/-- A digit is no white space and no number sign, and its value is below sixteen. -/
theorem hex_char {c : Char} (h : isHex c = true) :
    isBlank c = false ∧ c ≠ '#' ∧ (hexValue? c).getD 0 < 16 := by
  refine forall_ascii (P := fun c => isHex c = true →
    isBlank c = false ∧ c ≠ '#' ∧ (hexValue? c).getD 0 < 16) ?_ (toNat_lt_of_isHex h) h
  decide

theorem bare_cons {c : Char} (hc : c ≠ '#') (cs : List Char) : bare (c :: cs) = c :: cs := by
  rw [bare.eq_def]
  split
  · rename_i heq
    exact absurd (List.cons.inj heq).1 hc
  · rfl

/-- A row of digits by itself. -/
theorem ofHex?_ofList {cs : List Char} (h : ∀ c ∈ cs, isHex c = true) :
    ofHex? (String.ofList cs) = ofForm? cs := by
  rw [ofHex?_eq, String.toList_ofList, trim_eq_self fun c hc => (hex_char (h c hc)).1]
  cases cs with
  | nil => rfl
  | cons c cs => rw [bare_cons (hex_char (h c List.mem_cons_self)).2.1]

/-- A row of digits behind the number sign. -/
theorem ofHex?_ofList_sign {cs : List Char} (h : ∀ c ∈ cs, isHex c = true) :
    ofHex? (String.ofList ('#' :: cs)) = ofForm? cs := by
  have hblank : ∀ c ∈ '#' :: cs, isBlank c = false :=
    List.forall_mem_cons.2 ⟨by decide, fun c hc => (hex_char (h c hc)).1⟩
  rw [ofHex?_eq, String.toList_ofList, trim_eq_self hblank]
  rfl

/-! ## Shorter and longer forms -/

theorem eightDigits_of_six {ds : List Nat} (h : ds.length = 6) : eightDigits ds = ds ++ [15, 15] :=
  match ds, h with
  | [_, _, _, _, _, _], _ => rfl

theorem eightDigits_of_eight {ds : List Nat} (h : ds.length = 8) : eightDigits ds = ds :=
  match ds, h with
  | [_, _, _, _, _, _, _, _], _ => rfl

/-- Three digits stand for six. -/
theorem ofHex?_doubled {r g b : Char} (h : IsForm [r, g, b]) :
    ofHex? (String.ofList [r, g, b]) = ofHex? (String.ofList [r, r, g, g, b, b]) := by
  obtain ⟨hr, hg, hb⟩ : isHex r = true ∧ isHex g = true ∧ isHex b = true := by simpa using h.2
  obtain ⟨x, hx⟩ := Option.isSome_iff_exists.1 hr
  obtain ⟨y, hy⟩ := Option.isSome_iff_exists.1 hg
  obtain ⟨z, hz⟩ := Option.isSome_iff_exists.1 hb
  have hthree : [r, g, b].mapM hexValue? = some [x, y, z] :=
    mapM_eq_some_iff_forall₂.2 (.cons hx (.cons hy (.cons hz .nil)))
  have hsix : [r, r, g, g, b, b].mapM hexValue? = some [x, x, y, y, z, z] :=
    mapM_eq_some_iff_forall₂.2 (.cons hx (.cons hx (.cons hy (.cons hy (.cons hz (.cons hz .nil))))))
  rw [ofHex?_ofList h.2, ofHex?_ofList (isHex_of_values hsix), ofForm?, ofForm?, hthree, hsix]
  rfl

/-- Six digits are opaque. -/
theorem ofHex?_opaque {cs : List Char} (h : IsForm cs) (hlength : cs.length = 6) :
    ofHex? (String.ofList cs) = ofHex? (String.ofList (cs ++ ['F', 'F'])) := by
  obtain ⟨ds, hds⟩ := exists_values h.2
  have hvalues := mapM_eq_some_iff_forall₂.1 hds
  have hsix : ds.length = 6 := hvalues.length_eq.symm.trans hlength
  have height : (cs ++ ['F', 'F']).mapM hexValue? = some (ds ++ [15, 15]) :=
    mapM_eq_some_iff_forall₂.2 (List.rel_append hvalues (.cons rfl (.cons rfl .nil)))
  rw [ofHex?_ofList h.2, ofHex?_ofList (isHex_of_values height), ofForm?, ofForm?, hds, height,
    Option.bind_some, Option.bind_some, eightDigits_of_six hsix,
    eightDigits_of_eight (by rw [List.length_append, hsix]; rfl)]

/-! ## Letter case -/

/-- What a character is where digits are read: the value of a hexadecimal digit, white space, or the
number sign. -/
def role (c : Char) : Option Nat × Bool × Bool := (hexValue? c, isBlank c, c == '#')

/-- The characters that have a role. -/
def signs : Ranges :=
  [(0x9, 0xd), (0x1c, 0x20), (0x23, 0x23), (0x30, 0x39), (0x41, 0x46), (0x61, 0x66), (0x85, 0x85),
   (0xa0, 0xa0), (0x1680, 0x1680), (0x2000, 0x200a), (0x2028, 0x2029), (0x202f, 0x202f),
   (0x205f, 0x205f), (0x3000, 0x3000)]

theorem role_of_not_covers {c : Char} (h : signs.covers c = false) :
    role c = (none, false, false) := by
  have hout : ∀ r ∈ signs, ¬ (r.1 ≤ c.toNat ∧ c.toNat ≤ r.2) := by
    intro r hr hin
    rw [(Ranges.covers_iff signs c).2 ⟨r, hr, hin⟩] at h
    cases h
  simp only [signs, List.forall_mem_cons] at hout
  have hdigit : hexValue? c = none := by
    have hle : ∀ a b : Char, (decide (a ≤ c) && decide (c ≤ b)) = true ↔
        a.toNat ≤ c.toNat ∧ c.toNat ≤ b.toNat := by
      intro a b
      rw [Bool.and_eq_true, decide_eq_true_iff, decide_eq_true_iff]
      rfl
    rw [hexValue?, if_neg fun hc => ?_, if_neg fun hc => ?_, if_neg fun hc => ?_]
    · exact hout.2.2.2.2.1 ((hle _ _).1 hc)
    · exact hout.2.2.2.2.2.1 ((hle _ _).1 hc)
    · exact hout.2.2.2.1 ((hle _ _).1 hc)
  have hblank : isBlank c = false := by
    rw [← Bool.not_eq_true]
    intro hc
    simp only [isBlank, isWhiteSpace, Bool.or_eq_true, Bool.and_eq_true, decide_eq_true_eq,
      beq_iff_eq] at hc
    omega
  have hnumber : (c == '#') = false := by
    rw [beq_eq_false_iff_ne]
    rintro rfl
    exact hout.2.2.1 (by decide)
  rw [role, hdigit, hblank, hnumber]

/-- The form of a sign is a sign with the same role, and what has a sign as its form has the role of
this sign. -/
structure KeepsRole (form : Char → List Char) : Prop where
  of_sign : ∀ c, signs.covers c = true → ∃ x, form c = [x] ∧ signs.covers x = true ∧ role x = role c
  of_form : ∀ c x, form c = [x] → signs.covers x = true → role c = role x

theorem KeepsRole.role_eq {form : Char → List Char} (h : KeepsRole form) {c d : Char}
    (hsame : form c = form d) : role c = role d := by
  cases hc : signs.covers c with
  | true =>
      obtain ⟨x, hform, hx, hrole⟩ := h.of_sign c hc
      rw [← hrole, h.of_form d x (hsame ▸ hform) hx]
  | false =>
      cases hd : signs.covers d with
      | true =>
          obtain ⟨x, hform, hx, hrole⟩ := h.of_sign d hd
          rw [← hrole, h.of_form c x (hsame ▸ hform) hx]
      | false => rw [role_of_not_covers hc, role_of_not_covers hd]

/-- The ASCII part of a form is told by a function, the other one by tables. -/
theorem keepsRole_of_image {form : Char → List Char} {ascii : Char → Char} {runs : List Case.Run}
    {expansions : List (Nat × List Nat)}
    (hform : ∀ c, form c = if c.toNat < 128 then [ascii c] else Case.image runs expansions c)
    (hascii : ∀ n < 128, role (ascii (Char.ofNat n)) = role (Char.ofNat n) ∧
      (signs.covers (Char.ofNat n) = true → signs.covers (ascii (Char.ofNat n)) = true))
    (hfixed : ∀ r ∈ signs, ∀ k < r.2 + 1 - r.1, 128 ≤ r.1 + k →
      Case.image runs expansions (Char.ofNat (r.1 + k)) = [Char.ofNat (r.1 + k)])
    (hruns : ∀ r ∈ runs, r.Misses signs) (hexpansions : ∀ e ∈ expansions, e.2.length ≠ 1) :
    KeepsRole form := by
  have hsmall : ∀ c : Char, c.toNat < 128 →
      role (ascii c) = role c ∧ (signs.covers c = true → signs.covers (ascii c) = true) :=
    fun c => forall_ascii (P := fun c => role (ascii c) = role c ∧
      (signs.covers c = true → signs.covers (ascii c) = true)) hascii
  constructor
  · intro c hc
    rw [hform]
    split
    · rename_i hlow
      obtain ⟨hrole, hsign⟩ := hsmall c hlow
      exact ⟨_, rfl, hsign hc, hrole⟩
    · obtain ⟨r, hr, hlow, hhigh⟩ := (Ranges.covers_iff signs c).1 hc
      have hplace : r.1 + (c.toNat - r.1) = c.toNat := by omega
      have himage := hfixed r hr (c.toNat - r.1) (by omega) (by omega)
      rw [hplace, Char.ofNat_toNat] at himage
      exact ⟨c, himage, hc, rfl⟩
  · intro c x h hx
    rw [hform] at h
    split at h
    · rename_i hlow
      rw [← (List.cons.inj h).1]
      exact (hsmall c hlow).1.symm
    · rename_i hlarge
      have hmem : x ∈ Case.image runs expansions c := by
        rw [h]
        exact List.mem_singleton_self x
      rcases Case.eq_or_expanded (by decide) hruns (Nat.not_lt.1 hlarge) hx hmem with
        rfl | ⟨e, he, himage⟩
      · rfl
      · have hone := congrArg List.length (himage.symm.trans h)
        rw [List.length_map] at hone
        exact absurd hone (hexpansions e he)

theorem keepsRole_lowerChar : KeepsRole lowerChar :=
  keepsRole_of_image (fun _ => rfl) (by decide +kernel) (by decide +kernel) (by decide +kernel)
    (by decide)

theorem keepsRole_upperChar : KeepsRole upperChar :=
  keepsRole_of_image (fun _ => rfl) (by decide +kernel) (by decide +kernel) (by decide +kernel)
    (by decide)

/-- One letter has the same role in both cases. -/
theorem role_eq_of_sameLetter {c d : Char} (h : SameLetter c d) : role c = role d :=
  h.elim keepsRole_lowerChar.role_eq keepsRole_upperChar.role_eq

theorem roles_dropWhile (cs : List Char) :
    (cs.dropWhile isBlank).map role = (cs.map role).dropWhile fun r => r.2.1 := by
  rw [List.dropWhile_map]
  rfl

theorem roles_trim {cs ds : List Char} (h : cs.map role = ds.map role) :
    (trim isBlank cs).map role = (trim isBlank ds).map role := by
  simp only [trim, List.map_reverse, roles_dropWhile, h]

theorem roles_bare {cs ds : List Char} (h : cs.map role = ds.map role) :
    (bare cs).map role = (bare ds).map role := by
  cases cs with
  | nil => rw [List.map_eq_nil_iff.1 h.symm]
  | cons c cs =>
      obtain ⟨d, ds, rfl, hd, hds⟩ := List.map_eq_cons_iff.1 h.symm
      have hsign : (d == '#') = (c == '#') := congrArg (fun r => r.2.2) hd
      by_cases hc : c = '#'
      · rw [beq_iff_eq.2 hc, beq_iff_eq] at hsign
        rw [hc, hsign]
        exact hds.symm
      · rw [beq_false_of_ne hc, beq_eq_false_iff_ne] at hsign
        rw [bare_cons hc, bare_cons hsign, h]

theorem mapM_hexValue? (cs : List Char) : cs.mapM hexValue? = (cs.map role).mapM Prod.fst := by
  induction cs with
  | nil => rfl
  | cons c cs ih =>
      rw [List.mapM_cons, List.map_cons, List.mapM_cons, ih]
      rfl

/-- The color depends on the roles of the characters alone. -/
theorem ofHex?_eq_of_roles {s t : String} (h : s.toList.map role = t.toList.map role) :
    ofHex? s = ofHex? t := by
  rw [ofHex?_eq, ofHex?_eq, ofForm?, ofForm?, mapM_hexValue?, mapM_hexValue?,
    roles_bare (roles_trim h)]

theorem ofHex?_of_sameLetter {s t : String} (h : List.Forall₂ SameLetter s.toList t.toList) :
    ofHex? s = ofHex? t := by
  refine ofHex?_eq_of_roles ?_
  generalize s.toList = cs at h
  generalize t.toList = ds at h
  induction h with
  | nil => rfl
  | cons hsame _ ih => rw [List.map_cons, List.map_cons, role_eq_of_sameLetter hsame, ih]

/-! ## The number sign and white space -/

theorem ofHex?_sign {s : String} (h : (strip s).toList.head? ≠ some '#') :
    ofHex? ("#" ++ strip s) = ofHex? s := by
  have htext : ("#" ++ strip s).toList = '#' :: trim isBlank s.toList := by simp [strip]
  rw [strip, String.toList_ofList] at h
  rw [ofHex?_eq, ofHex?_eq, htext, trim_cons_trim (by decide)]
  cases hrest : trim isBlank s.toList with
  | nil => rfl
  | cons c cs =>
      rw [hrest] at h
      have hc : c ≠ '#' := fun heq => h (congrArg some heq)
      rw [bare_cons hc]
      rfl

theorem ofHex?_blanks (s : String) {before after : List Char}
    (hbefore : ∀ c ∈ before, isBlank c = true) (hafter : ∀ c ∈ after, isBlank c = true) :
    ofHex? (String.ofList before ++ s ++ String.ofList after) = ofHex? s := by
  rw [ofHex?_eq, String.toList_append, String.toList_append, String.toList_ofList,
    String.toList_ofList, trim_append_right _ hafter, trim_append_left hbefore, ofHex?_eq]

/-! ## Bytes -/

/-- Are the four parts bytes? -/
def IsBytes (c : Color) : Prop := c.red < 256 ∧ c.green < 256 ∧ c.blue < 256 ∧ c.alpha < 256

instance (c : Color) : Decidable c.IsBytes :=
  inferInstanceAs (Decidable (_ ∧ _))

theorem lt_of_values {cs : List Char} {ds : List Nat} (h : cs.mapM hexValue? = some ds) :
    ∀ d ∈ ds, d < 16 := by
  have hvalues := mapM_eq_some_iff_forall₂.1 h
  clear h
  induction hvalues with
  | nil => exact List.forall_mem_nil _
  | cons hd _ ih =>
      have hlow := (hex_char (Option.isSome_iff_exists.2 ⟨_, hd⟩)).2.2
      rw [hd, Option.getD_some] at hlow
      exact List.forall_mem_cons.2 ⟨hlow, ih⟩

theorem lt_of_mem_eightDigits {ds : List Nat} (h : ∀ d ∈ ds, d < 16) :
    ∀ d ∈ eightDigits ds, d < 16 := by
  rw [eightDigits.eq_def]
  split
  · simpa using h
  · split
    · exact List.forall_mem_append.2 ⟨h, by decide⟩
    · exact h

/-- The parts of a color that is read are bytes. -/
theorem isBytes_of_ofHex? {s : String} {c : Color} (h : ofHex? s = some c) : c.IsBytes := by
  rw [ofHex?_eq, ofForm?] at h
  obtain ⟨ds, hds, hdigits⟩ := Option.bind_eq_some_iff.1 h
  have hlow := lt_of_mem_eightDigits (lt_of_values hds)
  rw [ofDigits?.eq_def] at hdigits
  split at hdigits
  · rename_i height
    rw [height] at hlow
    simp only [List.forall_mem_cons] at hlow
    cases hdigits
    refine ⟨?_, ?_, ?_, ?_⟩ <;> dsimp only <;> omega
  · cases hdigits

/-- The two digits of a byte. -/
def hexChars (n : Nat) : List Char :=
  [(Nat.digitChar (n / 16 % 16)).toUpper, (Nat.digitChar (n % 16)).toUpper]

theorem hexByte_eq (n : Nat) : hexByte n = String.ofList (hexChars n) := rfl

theorem hexValue?_digitChar {d : Nat} (h : d < 16) :
    hexValue? (Nat.digitChar d).toUpper = some d := by
  revert d
  decide

theorem values_hexChars (n : Nat) :
    List.Forall₂ (fun c d => hexValue? c = some d) (hexChars n) [n / 16 % 16, n % 16] :=
  .cons (hexValue?_digitChar (Nat.mod_lt _ (by decide)))
    (.cons (hexValue?_digitChar (Nat.mod_lt _ (by decide))) .nil)

theorem byte_eq {n : Nat} (h : n < 256) : 16 * (n / 16 % 16) + n % 16 = n := by omega

/-- The color as a number sign and eight digits. -/
def text (c : Color) : String :=
  "#" ++ hexByte c.red ++ hexByte c.green ++ hexByte c.blue ++ hexByte c.alpha

theorem ofHex?_text {c : Color} (h : c.IsBytes) : ofHex? c.text = some c := by
  obtain ⟨r, g, b, a⟩ := c
  obtain ⟨hr, hg, hb, ha⟩ := h
  have htext : text ⟨r, g, b, a⟩ =
      String.ofList ('#' :: (hexChars r ++ (hexChars g ++ (hexChars b ++ hexChars a)))) := by
    simp [← String.toList_inj, text, hexByte_eq]
  have hvalues := mapM_eq_some_iff_forall₂.2 (List.rel_append (values_hexChars r)
    (List.rel_append (values_hexChars g) (List.rel_append (values_hexChars b) (values_hexChars a))))
  rw [htext, ofHex?_ofList_sign (isHex_of_values hvalues), ofForm?, hvalues]
  change some (Color.mk _ _ _ _) = _
  rw [byte_eq hr, byte_eq hg, byte_eq hb, byte_eq ha]

end SpecForge.Color

namespace SpecForge.Theme.Kotlin

open Text

/-- The color that a literal stands for, the opaque byte being the first one. -/
def readColor? (s : String) : Option Color :=
  match after? "Color(0x".toList s.toList with
  | some [a, a', r, r', g, g', b, b', ')'] => do
    return ⟨16 * (← hexValue? r) + (← hexValue? r'), 16 * (← hexValue? g) + (← hexValue? g'),
      16 * (← hexValue? b) + (← hexValue? b'), 16 * (← hexValue? a) + (← hexValue? a')⟩
  | _ => none

theorem readColor?_color {s : String} {c : Color} (h : Color.ofHex? s = some c) :
    readColor? (color s) = some c := by
  have hbytes := Color.isBytes_of_ofHex? h
  obtain ⟨r, g, b, a⟩ := c
  obtain ⟨hr, hg, hb, ha⟩ := hbytes
  have htext : (color s).toList = "Color(0x".toList ++ (Color.hexChars a ++ (Color.hexChars r ++
      (Color.hexChars g ++ (Color.hexChars b ++ [')'])))) := by
    rw [color, h]
    simp [Color.hexByte_eq]
  have hdigit : ∀ n, hexValue? (Nat.digitChar (n % 16)).toUpper = some (n % 16) := fun n =>
    Color.hexValue?_digitChar (Nat.mod_lt _ (by decide))
  rw [readColor?, htext, after?_append]
  simp only [Color.hexChars, List.cons_append, List.nil_append, hdigit]
  change some (Color.mk _ _ _ _) = _
  rw [Color.byte_eq hr, Color.byte_eq hg, Color.byte_eq hb, Color.byte_eq ha]

end SpecForge.Theme.Kotlin

namespace SpecForge.Color

open Text

theorem isSome_ofHex?_iff (s : String) : (ofHex? s).isSome = true ↔
    ∃ cs, IsForm cs ∧ (strip s = String.ofList cs ∨ strip s = String.ofList ('#' :: cs)) := by
  rw [ofHex?_eq, isSome_ofForm?, strip]
  simp only [String.ofList_inj]
  generalize trim isBlank s.toList = text
  constructor
  · intro h
    refine ⟨bare text, h, ?_⟩
    rw [bare.eq_def]
    split
    · exact .inr rfl
    · exact .inl rfl
  · rintro ⟨cs, hform, rfl | rfl⟩
    · cases text with
      | nil => exact hform
      | cons c cs => rwa [bare_cons (hex_char (hform.2 c List.mem_cons_self)).2.1]
    · exact hform

/-- Which texts are colors, what they have in common with other texts for the same color, and that
no byte is lost or changes its place. -/
theorem hex_colors :
    (∀ s, (ofHex? s).isSome = true ↔
      ∃ cs, IsForm cs ∧ (strip s = String.ofList cs ∨ strip s = String.ofList ('#' :: cs))) ∧
    (∀ s t, List.Forall₂ SameLetter s.toList t.toList → ofHex? s = ofHex? t) ∧
    (∀ s, (strip s).toList.head? ≠ some '#' → ofHex? ("#" ++ strip s) = ofHex? s) ∧
    (∀ s before after, (∀ c ∈ before, isBlank c = true) → (∀ c ∈ after, isBlank c = true) →
      ofHex? (String.ofList before ++ s ++ String.ofList after) = ofHex? s) ∧
    (∀ r g b, IsForm [r, g, b] →
      ofHex? (String.ofList [r, g, b]) = ofHex? (String.ofList [r, r, g, g, b, b])) ∧
    (∀ cs, IsForm cs → cs.length = 6 →
      ofHex? (String.ofList cs) = ofHex? (String.ofList (cs ++ ['F', 'F']))) ∧
    (∀ c : Color, c.IsBytes → ofHex? c.text = some c) ∧
    ∀ s c, ofHex? s = some c →
      c.IsBytes ∧ Theme.Kotlin.readColor? (Theme.Kotlin.color s) = some c :=
  ⟨isSome_ofHex?_iff, fun _ _ => ofHex?_of_sameLetter, fun _ => ofHex?_sign,
    fun s _ _ => ofHex?_blanks s, fun _ _ _ => ofHex?_doubled, fun _ => ofHex?_opaque,
    fun _ => ofHex?_text, fun _ _ h => ⟨isBytes_of_ofHex? h, Theme.Kotlin.readColor?_color h⟩⟩

/-- A color of three digits in both cases, and one with four different bytes. -/
theorem hex_colors_clay :
    (ofHex? " #da7\n").isSome = true ∧ ofHex? "da7" = ofHex? "DA7" ∧
      ofHex? "#da7" = ofHex? "\tda7 " ∧ ofHex? "\u00a0da7\n" = ofHex? "da7" ∧
      ofHex? "da7" = ofHex? "ddaa77" ∧ ofHex? "ddaa77" = ofHex? "ddaa77FF" ∧
      ofHex? "#DDAA77C8" = some ⟨0xdd, 0xaa, 0x77, 0xc8⟩ ∧
      Theme.Kotlin.readColor? (Theme.Kotlin.color "#DDAA77C8") = some ⟨0xdd, 0xaa, 0x77, 0xc8⟩ := by
  obtain ⟨haccepted, hcase, hsign, hblanks, hdoubled, hopaque, hbytes, hliteral⟩ := hex_colors
  have hclay : ofHex? "#DDAA77C8" = some ⟨0xdd, 0xaa, 0x77, 0xc8⟩ :=
    hbytes ⟨0xdd, 0xaa, 0x77, 0xc8⟩ (by decide +kernel)
  have hform : IsForm ['d', 'a', '7'] := by decide +kernel
  have hletters : List.Forall₂ SameLetter "da7".toList "DA7".toList :=
    .cons (by decide +kernel) (.cons (by decide +kernel) (.cons (by decide +kernel) .nil))
  have hsix : IsForm "ddaa77".toList := by decide +kernel
  exact ⟨(haccepted " #da7\n").2 ⟨['d', 'a', '7'], hform, .inr (by decide +kernel)⟩,
    hcase "da7" "DA7" hletters, hsign "\tda7 " (by decide +kernel),
    hblanks "da7" ['\u00a0'] ['\n'] (List.all_eq_true.1 rfl) (List.all_eq_true.1 rfl),
    hdoubled 'd' 'a' '7' hform, hopaque "ddaa77".toList hsix rfl, hclay,
    (hliteral "#DDAA77C8" _ hclay).2⟩

end SpecForge.Color
