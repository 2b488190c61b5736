import SheaSymphony.Codes
import SheaSymphony.Text

/-!
# Percent encoding

A byte is written as itself when it is unreserved, and as `%` with two
uppercase hexadecimal digits otherwise. Whatever the unreserved set, as long
as `%` is outside it, the words are self-delimiting and the encoding of a
text's UTF-8 bytes loses nothing.
-/

namespace PercentEncoding

open Codes

def hexDigits : List Char := "0123456789ABCDEF".toList

def hexDigit (n : Nat) : Char := hexDigits.getD n '0'

def encodeByte (unreserved : UInt8 → Bool) (b : UInt8) : List Char :=
  if unreserved b then [Char.ofNat b.toNat]
  else ['%', hexDigit (b.toNat / 16), hexDigit (b.toNat % 16)]

/-- The encoding of a text, byte by byte. -/
def encode (unreserved : UInt8 → Bool) (s : String) : List Char :=
  (Text.bytes s).flatMap (encodeByte unreserved)

theorem hexDigit_inj {m n : Nat} (hm : m < 16) (hn : n < 16) (h : hexDigit m = hexDigit n) :
    m = n := by
  have key : ∀ a b : Fin 16, hexDigit a = hexDigit b → a = b := by decide
  exact congrArg Fin.val (key ⟨m, hm⟩ ⟨n, hn⟩ h)

theorem hexDigit_mem {n : Nat} (h : n < 16) : hexDigit n ∈ hexDigits := by
  have key : ∀ a : Fin 16, hexDigit a ∈ hexDigits := by decide
  exact key ⟨n, h⟩

theorem toNat_byteChar (b : UInt8) : (Char.ofNat b.toNat).toNat = b.toNat := by
  have hb : b.toNat < 256 := UInt8.toNat_lt_size b
  have hvalid : b.toNat.isValidChar := Or.inl (by omega)
  rw [Char.ofNat, dif_pos hvalid]
  rfl

theorem byteChar_inj {a b : UInt8} (h : Char.ofNat a.toNat = Char.ofNat b.toNat) : a = b := by
  have hn := congrArg Char.toNat h
  rw [toNat_byteChar, toNat_byteChar] at hn
  exact UInt8.toNat_inj.mp hn

section

variable {unreserved : UInt8 → Bool}

theorem encodeByte_ne_nil (b : UInt8) : encodeByte unreserved b ≠ [] := by
  unfold encodeByte
  split <;> simp

theorem selfDelimiting_encodeByte (hpercent : unreserved 0x25 = false) :
    SelfDelimiting (encodeByte unreserved) := by
  have hne : ∀ b, unreserved b = true → Char.ofNat b.toNat ≠ '%' := by
    intro b hb he
    rw [show b = 0x25 from byteChar_inj he, hpercent] at hb
    cases hb
  intro a b r s h
  have ha : a.toNat < 256 := UInt8.toNat_lt_size a
  have hb : b.toNat < 256 := UInt8.toNat_lt_size b
  unfold encodeByte at h
  split at h <;> split at h
  · have hab : Char.ofNat a.toNat = Char.ofNat b.toNat := List.head_eq_of_cons_eq h
    exact ⟨byteChar_inj hab, List.tail_eq_of_cons_eq h⟩
  · next hu _ => exact absurd (List.head_eq_of_cons_eq h) (hne a hu)
  · next _ hu => exact absurd (List.head_eq_of_cons_eq h).symm (hne b hu)
  · simp only [List.cons_append, List.nil_append, List.cons.injEq, true_and] at h
    obtain ⟨hhigh, hlow, hrest⟩ := h
    have hdiv := hexDigit_inj (by omega) (by omega) hhigh
    have hmod := hexDigit_inj (by omega) (by omega) hlow
    exact ⟨UInt8.toNat_inj.mp (by omega), hrest⟩

theorem encode_injective (hpercent : unreserved 0x25 = false) :
    Function.Injective (encode unreserved) := fun _ _ h =>
  Text.bytes_injective
    ((selfDelimiting_encodeByte hpercent).flatMap_injective encodeByte_ne_nil h)

/-- A byte outside the unreserved set is not a character of any encoding,
unless it is `%` or a hexadecimal digit. -/
theorem not_mem_encode {b : UInt8} (hb : unreserved b = false)
    (hpercent : Char.ofNat b.toNat ≠ '%') (hhex : Char.ofNat b.toNat ∉ hexDigits) (s : String) :
    Char.ofNat b.toNat ∉ encode unreserved s := by
  refine not_mem_flatMap (fun a => ?_) _
  have ha : a.toNat < 256 := UInt8.toNat_lt_size a
  unfold encodeByte
  split
  · next hu =>
    intro hm
    rw [← byteChar_inj (List.mem_singleton.mp hm), hb] at hu
    cases hu
  · simp only [List.mem_cons, List.not_mem_nil, or_false, not_or]
    exact ⟨hpercent, fun h => hhex (h ▸ hexDigit_mem (by omega)),
      fun h => hhex (h ▸ hexDigit_mem (by omega))⟩

end

end PercentEncoding
