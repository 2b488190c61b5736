import Mathlib.Logic.Function.Basic
import Mathlib.Data.List.Basic
import Mathlib.Data.String.Basic

/-!
# Self-delimiting codes

When is a concatenation of variable-length pieces uniquely decodable? Each
piece must end where a reader can see it: before a separator it cannot
contain (`terminated_inj`), after a fixed width (`List.append_inj`), or where
the code itself says so (`SelfDelimiting`). A self-delimiting code of
non-empty words lifts to lists (`SelfDelimiting.flatMap_injective`), which is
how both percent encodings and length-prefixed records become injective.

Decimal numerals and their zero-padded fixed-width form are the two number
codes used; both are read back by `Nat.ofDigitChars`.
-/

namespace Codes

variable {α : Type*} {β : Type*}

/-- The words of `enc` can be read off the front of any continuation. -/
def SelfDelimiting (enc : α → List β) : Prop :=
  ∀ ⦃a b : α⦄ ⦃r s : List β⦄, enc a ++ r = enc b ++ s → a = b ∧ r = s

theorem terminated_inj {d : β} :
    ∀ {a b r s : List β}, d ∉ a → d ∉ b → a ++ d :: r = b ++ d :: s → a = b ∧ r = s
  | [], [], _, _, _, _, h => ⟨rfl, List.tail_eq_of_cons_eq h⟩
  | [], y :: b, _, _, _, hb, h => by
      have hy : d = y := List.head_eq_of_cons_eq h
      exact absurd (hy ▸ List.mem_cons_self) hb
  | x :: a, [], _, _, ha, _, h => by
      have hx : x = d := List.head_eq_of_cons_eq h
      exact absurd (hx ▸ List.mem_cons_self) ha
  | x :: a, y :: b, r, s, ha, hb, h => by
      have hxy : x = y := List.head_eq_of_cons_eq h
      have ht : a ++ d :: r = b ++ d :: s := List.tail_eq_of_cons_eq h
      obtain ⟨hab, hrs⟩ := terminated_inj (fun hm => ha (List.mem_cons_of_mem _ hm))
        (fun hm => hb (List.mem_cons_of_mem _ hm)) ht
      exact ⟨by rw [hxy, hab], hrs⟩

theorem terminated_inj_last {d : β} {a b r s : List β} (hr : d ∉ r) (hs : d ∉ s)
    (h : a ++ d :: r = b ++ d :: s) : a = b ∧ r = s := by
  have hreverse := congrArg List.reverse h
  simp only [List.reverse_append, List.reverse_cons, List.append_assoc, List.cons_append,
    List.nil_append] at hreverse
  obtain ⟨hrs, hab⟩ := terminated_inj (by simpa using hr) (by simpa using hs) hreverse
  exact ⟨List.reverse_injective hab, List.reverse_injective hrs⟩

/-- Where a separator may also occur inside the pieces, one text cut at two of
them has the shorter front, with the separator, at the front of the longer. -/
theorem cut_cases {d : β} {a b r s : List β} (h : a ++ d :: r = b ++ d :: s) :
    (a = b ∧ r = s) ∨ (∃ m, b = a ++ d :: m ∧ r = m ++ d :: s)
      ∨ ∃ m, a = b ++ d :: m ∧ s = m ++ d :: r := by
  rcases List.append_eq_append_iff.mp h with ⟨m, hb, hm⟩ | ⟨m, ha, hm⟩
  · cases m with
    | nil =>
        exact Or.inl ⟨by simpa using hb.symm, List.tail_eq_of_cons_eq hm⟩
    | cons c m =>
        obtain ⟨rfl, hr⟩ := List.cons.inj hm
        exact Or.inr (Or.inl ⟨m, hb, hr⟩)
  · cases m with
    | nil =>
        exact Or.inl ⟨by simpa using ha, (List.tail_eq_of_cons_eq hm).symm⟩
    | cons c m =>
        obtain ⟨rfl, hs⟩ := List.cons.inj hm
        exact Or.inr (Or.inr ⟨m, ha, hs⟩)

theorem SelfDelimiting.flatMap_injective {enc : α → List β} (h : SelfDelimiting enc)
    (hne : ∀ a, enc a ≠ []) : Function.Injective (List.flatMap enc) := by
  intro l
  induction l with
  | nil =>
      intro m hm
      cases m with
      | nil => rfl
      | cons b m =>
          rw [List.flatMap_nil, List.flatMap_cons] at hm
          exact absurd (List.append_eq_nil_iff.mp hm.symm).1 (hne b)
  | cons a l ih =>
      intro m hm
      cases m with
      | nil =>
          rw [List.flatMap_nil, List.flatMap_cons] at hm
          exact absurd (List.append_eq_nil_iff.mp hm).1 (hne a)
      | cons b m =>
          rw [List.flatMap_cons, List.flatMap_cons] at hm
          obtain ⟨rfl, hrest⟩ := h hm
          rw [ih hrest]

theorem not_mem_flatMap {enc : α → List β} {d : β} (h : ∀ a, d ∉ enc a) (l : List α) :
    d ∉ l.flatMap enc := by
  intro hm
  obtain ⟨a, -, ha⟩ := List.mem_flatMap.mp hm
  exact h a ha

/-! ## Numerals -/

def decimal (n : Nat) : List Char := Nat.toDigits 10 n

/-- The decimal numeral of `n`, zero-padded on the left to width `w`. -/
def padded (w n : Nat) : List Char :=
  List.replicate (w - (decimal n).length) '0' ++ decimal n

theorem decimal_injective : Function.Injective decimal := fun m n h => by
  rw [← Nat.ofDigitChars_ten_toDigits (n := m), ← Nat.ofDigitChars_ten_toDigits (n := n)]
  exact congrArg (Nat.ofDigitChars 10 · 0) h

theorem isDigit_of_mem_decimal {n : Nat} {c : Char} (h : c ∈ decimal n) : c.isDigit = true :=
  Nat.isDigit_of_mem_toDigits (by decide) (by decide) h

theorem not_mem_decimal {n : Nat} {c : Char} (h : c.isDigit = false) : c ∉ decimal n :=
  fun hm => by rw [isDigit_of_mem_decimal hm] at h; cases h

theorem ofDigitChars_padded (w n : Nat) : Nat.ofDigitChars 10 (padded w n) 0 = n := by
  rw [padded, Nat.ofDigitChars_append, Nat.ofDigitChars_replicate_zero, Nat.mul_zero]
  exact Nat.ofDigitChars_ten_toDigits

theorem padded_injective (w : Nat) : Function.Injective (padded w) := fun m n h => by
  rw [← ofDigitChars_padded w m, h, ofDigitChars_padded]

theorem length_padded {w n : Nat} (hw : 0 < w) (h : n < 10 ^ w) : (padded w n).length = w := by
  have hlen : (decimal n).length ≤ w := (Nat.length_toDigits_le_iff (by decide) hw).mpr h
  rw [padded, List.length_append, List.length_replicate]
  omega

theorem isDigit_of_mem_padded {w n : Nat} {c : Char} (h : c ∈ padded w n) : c.isDigit = true := by
  rcases List.mem_append.mp h with h | h
  · rw [List.eq_of_mem_replicate h]
    rfl
  · exact isDigit_of_mem_decimal h

theorem padded_append_inj {w m n : Nat} {r s : List Char} (hw : 0 < w) (hm : m < 10 ^ w)
    (hn : n < 10 ^ w) (h : padded w m ++ r = padded w n ++ s) : m = n ∧ r = s := by
  obtain ⟨hmn, hrs⟩ := List.append_inj h
    (by rw [length_padded hw hm, length_padded hw hn])
  exact ⟨padded_injective w hmn, hrs⟩

/-- The last `w` hexadecimal digits of `n`. -/
def hexDigits : Nat → Nat → List Char
  | 0, _ => []
  | w + 1, n => hexDigits w (n / 16) ++ [Nat.digitChar (n % 16)]

theorem length_hexDigits (w n : Nat) : (hexDigits w n).length = w := by
  induction w generalizing n with
  | zero => rfl
  | succ w ih => rw [hexDigits, List.length_append, ih, List.length_singleton]

theorem digitChar_inj {m n : Nat} (hm : m < 16) (hn : n < 16)
    (h : Nat.digitChar m = Nat.digitChar n) : m = n := by
  have hall : ∀ i j : Fin 16, Nat.digitChar i = Nat.digitChar j → i = j := by decide
  exact Fin.val_eq_of_eq (hall ⟨m, hm⟩ ⟨n, hn⟩ h)

theorem hexDigits_inj {w m n : Nat} (h : hexDigits w m = hexDigits w n) :
    m % 16 ^ w = n % 16 ^ w := by
  induction w generalizing m n with
  | zero => simp [Nat.mod_one]
  | succ w ih =>
      obtain ⟨hfront, hlast⟩ := List.append_inj h (by rw [length_hexDigits, length_hexDigits])
      have hdigit := digitChar_inj (Nat.mod_lt m (by decide)) (Nat.mod_lt n (by decide))
        (List.head_eq_of_cons_eq hlast)
      rw [Nat.pow_succ, Nat.mul_comm, Nat.mod_mul, Nat.mod_mul, hdigit, ih hfront]

theorem isAlphanum_of_mem_hexDigits {w n : Nat} {c : Char} (h : c ∈ hexDigits w n) :
    c.isAlphanum = true := by
  have hall : ∀ i : Fin 16, (Nat.digitChar i).isAlphanum = true := by decide
  induction w generalizing n with
  | zero => cases h
  | succ w ih =>
      rcases List.mem_append.mp h with h | h
      · exact ih h
      · rw [List.mem_singleton.mp h]
        exact hall ⟨n % 16, Nat.mod_lt n (by decide)⟩

/-! ## Length-prefixed texts -/

/-- A text behind a separator, its UTF-8 byte length and the separator. -/
def lengthPrefixed (d : Char) (s : String) : List Char :=
  d :: decimal s.utf8ByteSize ++ d :: s.toList

theorem append_inj_of_utf8Len : ∀ {a b r s : List Char},
    String.utf8Len a = String.utf8Len b → a ++ r = b ++ s → a = b ∧ r = s
  | [], [], _, _, _, h => ⟨rfl, h⟩
  | [], y :: b, _, _, hlen, _ => by
      have := Char.utf8Size_pos y
      simp only [String.utf8Len_nil, String.utf8Len_cons] at hlen
      omega
  | x :: a, [], _, _, hlen, _ => by
      have := Char.utf8Size_pos x
      simp only [String.utf8Len_nil, String.utf8Len_cons] at hlen
      omega
  | x :: a, y :: b, r, s, hlen, h => by
      have hxy : x = y := List.head_eq_of_cons_eq h
      subst hxy
      rw [String.utf8Len_cons, String.utf8Len_cons] at hlen
      obtain ⟨hab, hrs⟩ := append_inj_of_utf8Len (by omega) (List.tail_eq_of_cons_eq h)
      exact ⟨by rw [hab], hrs⟩

theorem selfDelimiting_lengthPrefixed {d : Char} (hd : d.isDigit = false) :
    SelfDelimiting (lengthPrefixed d) := by
  intro s t r r' h
  simp only [lengthPrefixed, List.cons_append, List.append_assoc, List.cons.injEq,
    true_and] at h
  obtain ⟨hlen, hrest⟩ := terminated_inj (not_mem_decimal hd) (not_mem_decimal hd) h
  have hsize : String.utf8Len s.toList = String.utf8Len t.toList := by
    rw [← String.utf8ByteSize_ofList, ← String.utf8ByteSize_ofList, String.ofList_toList,
      String.ofList_toList]
    exact decimal_injective hlen
  obtain ⟨hst, hr⟩ := append_inj_of_utf8Len hsize hrest
  exact ⟨String.toList_inj.mp hst, hr⟩

theorem utf8Len_decimal (n : Nat) : String.utf8Len (decimal n) = (decimal n).length := by
  have hdigits : ∀ l : List Char, (∀ c ∈ l, c.isDigit = true) → String.utf8Len l = l.length := by
    intro l
    induction l with
    | nil => exact fun _ => rfl
    | cons c l ih =>
        intro hall
        have hsize : c.utf8Size = 1 := by
          have hdigit := hall c List.mem_cons_self
          simp only [Char.isDigit, Bool.and_eq_true, decide_eq_true_eq] at hdigit
          exact Char.utf8Size_eq_one_iff.mpr
            (UInt32.le_trans hdigit.2 (show (57 : UInt32) ≤ 127 by decide))
        rw [String.utf8Len_cons, List.length_cons, hsize,
          ih fun x hx => hall x (List.mem_cons_of_mem _ hx)]
  exact hdigits _ fun _ => isDigit_of_mem_decimal

theorem utf8Len_lengthPrefixed_le {d : Char} (hd : d.utf8Size = 1) {s : String} {w : Nat}
    (hw : 0 < w) (hs : s.utf8ByteSize < 10 ^ w) :
    String.utf8Len (lengthPrefixed d s) ≤ s.utf8ByteSize + w + 2 := by
  have hlen : (decimal s.utf8ByteSize).length ≤ w :=
    (Nat.length_toDigits_le_iff (by decide) hw).mpr hs
  rw [lengthPrefixed, String.utf8Len_append, String.utf8Len_cons, String.utf8Len_cons,
    utf8Len_decimal, String.utf8Len_toList, hd]
  omega

/-- Words of at most `b` bytes make a list of at most `b` bytes for each. -/
theorem utf8Len_flatMap_le {enc : α → List Char} {b : Nat} {l : List α}
    (h : ∀ a ∈ l, String.utf8Len (enc a) ≤ b) : String.utf8Len (l.flatMap enc) ≤ l.length * b := by
  induction l with
  | nil => exact Nat.zero_le _
  | cons a l ih =>
      have hhead := h a List.mem_cons_self
      have htail := ih fun x hx => h x (List.mem_cons_of_mem _ hx)
      rw [List.flatMap_cons, String.utf8Len_append, List.length_cons, Nat.succ_mul]
      omega

end Codes
