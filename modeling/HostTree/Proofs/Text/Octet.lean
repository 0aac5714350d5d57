/-
This file reads texts through their octets in UTF-8.
-/

import Mathlib.Data.List.Basic
import Mathlib.Data.String.Basic

namespace HostTree.Text

/-- These are the octets of the text in UTF-8. -/
def octets (text : String) : List UInt8 :=
  text.toUTF8.data.toList

theorem octets_eq_flatMap (text : String) :
    octets text = text.toList.flatMap String.utf8EncodeChar := by
  rw [octets, ← String.ofList_toList (s := text), String.toUTF8_eq_toByteArray,
    String.toByteArray_ofList, String.toList_ofList, List.utf8Encode, List.data_toByteArray]

/-- No character of the text is blank, and all of them are in ASCII. -/
def Visible (text : String) : Prop :=
  ∀ character ∈ text.toList, 32 < character.toNat ∧ character.toNat < 127

-- The characters of the text are checked, and not all characters that there are.
instance (text : String) : Decidable (Visible text) :=
  List.decidableBAll _ text.toList

/-- A text is visible if each of its octets is one of a visible character of ASCII. -/
theorem visible_of_octets {text : String}
    (visible : ∀ octet ∈ octets text, 32 < octet.toNat ∧ octet.toNat < 127) : Visible text := by
  intro character among
  have part : ∀ octet ∈ String.utf8EncodeChar character, 32 < octet.toNat ∧ octet.toNat < 127 := by
    intro octet present
    refine visible octet ?_
    rw [octets_eq_flatMap]
    exact List.mem_flatMap.mpr ⟨character, among, present⟩
  rw [String.utf8EncodeChar, ← Char.toNat] at part
  -- The first octet of any other character is too small or too large.
  repeat' split at part
  all_goals
    have first := part _ List.mem_cons_self
    rw [UInt8.toNat_ofNat'] at first
    omega

/-- The octets behind decide only where the first ones are the same. -/
theorem cons_lt_cons_of_le {low high : Nat} (order : low ≤ high) (octet : high < 256)
    {left right : List UInt8} (behind : low = high → left < right) :
    UInt8.ofNat low :: left < UInt8.ofNat high :: right := by
  rw [List.cons_lt_cons_iff, UInt8.lt_iff_toNat_lt, ← UInt8.toNat_inj, UInt8.toNat_ofNat',
    UInt8.toNat_ofNat', Nat.mod_eq_of_lt octet, Nat.mod_eq_of_lt (Nat.lt_of_le_of_lt order octet)]
  exact (Nat.lt_or_eq_of_le order).imp_right fun same => ⟨same, behind same⟩

/-- A greater code point has greater octets, whatever follows. -/
theorem encode_lt_encode {first second : Char} (less : first < second)
    (left right : List UInt8) :
    String.utf8EncodeChar first ++ left < String.utf8EncodeChar second ++ right := by
  have codes : first.val.toNat < second.val.toNat := less
  have limit : second.val.toNat < 0x110000 := by
    rcases second.valid with low | high <;> omega
  -- A longer encoding begins with a greater octet, so only encodings of one length need more.
  fun_cases String.utf8EncodeChar first <;> fun_cases String.utf8EncodeChar second
  all_goals
    refine cons_lt_cons_of_le (by omega) (by omega) fun same => ?_
  all_goals try omega
  case case2.case2 =>
    refine cons_lt_cons_of_le (by omega) (by omega) fun same => ?_
    omega
  case case3.case3 =>
    refine cons_lt_cons_of_le (by omega) (by omega) fun same => ?_
    refine cons_lt_cons_of_le (by omega) (by omega) fun same => ?_
    omega
  case case4.case4 =>
    refine cons_lt_cons_of_le (by omega) (by omega) fun same => ?_
    refine cons_lt_cons_of_le (by omega) (by omega) fun same => ?_
    refine cons_lt_cons_of_le (by omega) (by omega) fun same => ?_
    omega

/-- The octets of characters are ordered as the characters are. -/
theorem encodeAll_lt_encodeAll {first second : List Char} (less : first < second) :
    first.flatMap String.utf8EncodeChar < second.flatMap String.utf8EncodeChar := by
  induction less with
  | @nil character rest =>
    obtain ⟨octet, others, split⟩ :=
      List.exists_cons_of_ne_nil (String.utf8EncodeChar_ne_nil (c := character))
    rw [List.flatMap_cons, split]
    exact List.nil_lt_cons _ _
  | rel less => exact encode_lt_encode less _ _
  | cons _ ih => exact List.append_left_lt ih

/-- The order of code points is the order of octets. -/
theorem octets_lt_octets {first second : String} (less : first < second) :
    octets first < octets second := by
  rw [octets_eq_flatMap, octets_eq_flatMap]
  exact encodeAll_lt_encodeAll (String.lt_iff.mp less)

/-- Texts have the same order as their octets. -/
theorem octets_lt_octets_iff {first second : String} :
    octets first < octets second ↔ first < second := by
  constructor
  · intro less
    rcases lt_trichotomy first second with ordered | same | reversed
    · exact ordered
    · exact absurd (same ▸ less) (List.lt_irrefl _)
    · exact absurd less (List.lt_asymm (octets_lt_octets reversed))
  · exact octets_lt_octets

end HostTree.Text
