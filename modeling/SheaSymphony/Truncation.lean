import SheaSymphony.Text

/-!
# Cutting a text at a byte

`&text[..limit]` panics where the limit falls inside a character. A text is cut where a front of
it has that many bytes (`sliceTo_eq_some_iff`), and a text that is not longer is never cut, so it is
known which texts a truncation returns for (`truncateBytes_isSome_iff`).
-/

namespace Text

/-- `&s[..limit]`; a slice that would end inside a character, or behind the text, panics. -/
def sliceTo (limit : Nat) (s : String) : Option String :=
  let front := takeBytes limit s
  if byteLength front = limit then some front else none

/-- The text, or as many of its bytes as the limit allows and a mark. -/
def truncateBytes (limit : Nat) (mark s : String) : Option String :=
  if byteLength s ≤ limit then some s else (sliceTo limit s).map (· ++ mark)

/-- The text is within the limit, or has a character that begins at it. -/
def CutsAt (limit : Nat) (s : String) : Prop :=
  byteLength s ≤ limit ∨ ∃ front back, s = front ++ back ∧ byteLength front = limit

/-- What is shown of a text: all of it, or a front within the limit and the mark. -/
def Truncated (limit : Nat) (mark s shown : String) : Prop :=
  byteLength s ≤ limit ∧ shown = s ∨
    ∃ front back, s = front ++ back ∧ byteLength front ≤ limit ∧ shown = front ++ mark

theorem prefix_takeBytesList : ∀ (limit : Nat) (s : List Char), takeBytesList limit s <+: s
  | _, [] => List.prefix_rfl
  | limit, c :: s => by
      rw [takeBytesList]
      split
      · exact (List.prefix_cons_inj c).mpr (prefix_takeBytesList (limit - c.utf8Size) s)
      · exact List.nil_prefix

theorem takeBytesList_append (front back : List Char) :
    takeBytesList (String.utf8Len front) (front ++ back) = front := by
  induction front with
  | nil =>
      cases back with
      | nil => rfl
      | cons c back =>
          have hsize := c.utf8Size_pos
          rw [List.nil_append, takeBytesList, if_neg]
          rw [String.utf8Len_nil]
          omega
  | cons c front ih =>
      rw [List.cons_append, takeBytesList, String.utf8Len_cons, if_pos (Nat.le_add_left _ _),
        Nat.add_sub_cancel, ih]

theorem sliceTo_eq_some_iff {limit : Nat} {s front : String} :
    sliceTo limit s = some front ↔ byteLength front = limit ∧ ∃ back, s = front ++ back := by
  constructor
  · intro h
    rw [sliceTo] at h
    split at h
    · next hlength =>
      obtain rfl := Option.some.inj h
      obtain ⟨back, hback⟩ := prefix_takeBytesList limit s.toList
      refine ⟨hlength, String.ofList back, ?_⟩
      rw [← String.toList_inj, String.toList_append, takeBytes, String.toList_ofList,
        String.toList_ofList, hback]
    · cases h
  · rintro ⟨rfl, back, rfl⟩
    have htake : takeBytes (byteLength front) (front ++ back) = front := by
      rw [takeBytes, String.toList_append, byteLength_eq, takeBytesList_append, String.ofList_toList]
    rw [sliceTo, htake]
    exact if_pos rfl

theorem truncateBytes_isSome_iff (limit : Nat) (mark s : String) :
    (truncateBytes limit mark s).isSome ↔ CutsAt limit s := by
  rw [truncateBytes, CutsAt]
  split
  · next hshort => simp [hshort]
  · next hlong =>
    rw [Option.isSome_map, Option.isSome_iff_exists, or_iff_right hlong]
    constructor
    · rintro ⟨front, hslice⟩
      obtain ⟨hlength, back, hs⟩ := sliceTo_eq_some_iff.mp hslice
      exact ⟨front, back, hs, hlength⟩
    · rintro ⟨front, back, hs, hlength⟩
      exact ⟨front, sliceTo_eq_some_iff.mpr ⟨hlength, back, hs⟩⟩

theorem truncateBytes_ne_none_iff (limit : Nat) (mark s : String) :
    truncateBytes limit mark s ≠ none ↔ CutsAt limit s := by
  rw [← truncateBytes_isSome_iff limit mark, Option.isSome_iff_ne_none]

theorem truncated_of_truncateBytes {limit : Nat} {mark s shown : String} (h : truncateBytes limit mark s = some shown) :
    Truncated limit mark s shown := by
  rw [truncateBytes] at h
  split at h
  · next hshort => exact Or.inl ⟨hshort, (Option.some.inj h).symm⟩
  · obtain ⟨front, hslice, rfl⟩ := Option.map_eq_some_iff.mp h
    obtain ⟨hlength, back, hs⟩ := sliceTo_eq_some_iff.mp hslice
    exact Or.inr ⟨front, back, hs, hlength.le, rfl⟩

/-! ## Repeated characters -/

theorem byteLength_replicate (count : Nat) (c : Char) :
    byteLength (String.ofList (List.replicate count c)) = count * c.utf8Size := by
  rw [byteLength_eq, String.toList_ofList]
  induction count with
  | zero => rw [Nat.zero_mul, List.replicate_zero, String.utf8Len_nil]
  | succ count ih => rw [List.replicate_succ, String.utf8Len_cons, ih, Nat.succ_mul]

theorem not_cutsAt_replicate {limit count : Nat} {front : String} {c : Char}
    (hfront : byteLength front < limit) (hlong : limit < byteLength front + count * c.utf8Size)
    (hinside : (limit - byteLength front) % c.utf8Size ≠ 0) :
    ¬ CutsAt limit (front ++ String.ofList (List.replicate count c)) := by
  rintro (hshort | ⟨cut, back, heq, hlength⟩)
  · rw [byteLength_append, byteLength_replicate] at hshort
    omega
  · have hchars := congrArg String.toList heq
    rw [String.toList_append, String.toList_append, String.toList_ofList] at hchars
    rcases List.append_eq_append_iff.mp hchars with ⟨more, hcut, hmore⟩ | ⟨more, hcut, -⟩
    · obtain ⟨-, hreplicate, -⟩ := List.append_eq_replicate_iff.mp hmore.symm
      have hlist : cut = front ++ String.ofList more := by
        rw [← String.toList_inj, String.toList_append, String.toList_ofList, hcut]
      rw [hlist, hreplicate, byteLength_append, byteLength_replicate] at hlength
      refine hinside ?_
      rw [← hlength, Nat.add_sub_cancel_left, Nat.mul_mod_left]
    · have hlist : front = cut ++ String.ofList more := by
        rw [← String.toList_inj, String.toList_append, String.toList_ofList, hcut]
      rw [hlist, byteLength_append] at hfront
      omega

end Text
