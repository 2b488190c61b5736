import SheaSymphony.Codes

/-!
# Length-prefixed bytes

A byte string behind its length, as eight little-endian bytes, can be read off the
front of anything (`framed_append_inj`). A front without a frame is told from the
frames that follow it when it never goes on with bytes that could be a length
(`front_inj`).
-/

namespace Framing

open Codes

/-- The lowest bytes of a number, the lowest first. -/
def leBytes : Nat → Nat → List UInt8
  | 0, _ => []
  | width + 1, n => UInt8.ofNat n :: leBytes width (n / 256)

@[simp] theorem length_leBytes (width n : Nat) : (leBytes width n).length = width := by
  induction width generalizing n with
  | zero => rfl
  | succ width ih => rw [leBytes, List.length_cons, ih]

theorem leBytes_inj {width m n : Nat} (hm : m < 256 ^ width) (hn : n < 256 ^ width)
    (h : leBytes width m = leBytes width n) : m = n := by
  induction width generalizing m n with
  | zero => omega
  | succ width ih =>
      obtain ⟨hlow, hrest⟩ := List.cons.inj h
      rw [Nat.pow_succ] at hm hn
      have hhigh : m / 256 = n / 256 :=
        ih (Nat.div_lt_of_lt_mul (by omega)) (Nat.div_lt_of_lt_mul (by omega)) hrest
      have hlow : m % 256 = n % 256 := congrArg UInt8.toNat hlow
      omega

theorem zero_mem_leBytes {width n : Nat} (h : n < 256 ^ width) : 0 ∈ leBytes (width + 1) n := by
  induction width generalizing n with
  | zero =>
      obtain rfl : n = 0 := by omega
      exact List.mem_cons_self
  | succ width ih =>
      rw [Nat.pow_succ] at h
      exact List.mem_cons_of_mem _ (ih (Nat.div_lt_of_lt_mul (by omega)))

/-- The bytes of a vector, of which there are at most `isize::MAX`. -/
structure Bytes where
  bytes : List UInt8
  bounded : bytes.length < 2 ^ 63

def framed (content : List UInt8) : List UInt8 := leBytes 8 content.length ++ content

theorem framed_append_inj {a b r s : List UInt8} (ha : a.length < 2 ^ 63) (hb : b.length < 2 ^ 63)
    (h : framed a ++ r = framed b ++ s) : a = b ∧ r = s := by
  rw [framed, framed, List.append_assoc, List.append_assoc] at h
  obtain ⟨hlength, hrest⟩ := List.append_inj h (by rw [length_leBytes, length_leBytes])
  have hlength : a.length = b.length :=
    leBytes_inj (ha.trans (by decide)) (hb.trans (by decide)) hlength
  exact List.append_inj hrest hlength

/-- What follows where one front ends and another goes on: nothing, or eight bytes
that hold no zero. -/
def Continues (rest : List UInt8) : Prop :=
  rest = [] ∨ ∃ front back, rest = front ++ back ∧ front.length = 8 ∧ 0 ∉ front

/-- Words that begin with a short length. -/
def ShortFramed {α : Type*} (enc : α → List UInt8) : Prop :=
  ∀ a, ∃ front back, enc a = front ++ back ∧ front.length = 8 ∧ 0 ∈ front

theorem shortFramed_eq_nil {α : Type*} {enc : α → List UInt8} (henc : ShortFramed enc)
    {rest more : List UInt8} (hrest : Continues rest) {l : List α}
    (h : l.flatMap enc = rest ++ more) : rest = [] := by
  rcases hrest with hempty | ⟨front, back, rfl, hfront, hzero⟩
  · exact hempty
  · cases l with
    | nil =>
        have hnil := (List.append_eq_nil_iff.mp h.symm).1
        exact hnil
    | cons a l =>
        obtain ⟨front', back', henc, hfront', hzero'⟩ := henc a
        rw [List.flatMap_cons, henc, List.append_assoc, List.append_assoc] at h
        obtain ⟨heq, -⟩ := List.append_inj h (hfront'.trans hfront.symm)
        rw [heq] at hzero'
        exact absurd hzero' hzero

/-- Two fronts with frames behind them are equal when neither goes on, past the other,
with what could be a length. -/
theorem front_inj {α : Type*} {enc : α → List UInt8} (henc : ShortFramed enc)
    {front front' : List UInt8} {l l' : List α}
    (hfront : ∀ rest, front' = front ++ rest → Continues rest)
    (hfront' : ∀ rest, front = front' ++ rest → Continues rest)
    (h : front ++ l.flatMap enc = front' ++ l'.flatMap enc) :
    front = front' ∧ l.flatMap enc = l'.flatMap enc := by
  rcases List.append_eq_append_iff.mp h with ⟨rest, hlonger, hl⟩ | ⟨rest, hlonger, hl⟩
  · obtain rfl := shortFramed_eq_nil henc (hfront rest hlonger) hl
    rw [List.append_nil] at hlonger
    exact ⟨hlonger.symm, hl⟩
  · obtain rfl := shortFramed_eq_nil henc (hfront' rest hlonger) hl
    rw [List.append_nil] at hlonger
    exact ⟨hlonger, hl.symm⟩

end Framing
