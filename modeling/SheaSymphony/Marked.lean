import Mathlib.Data.List.Infix
import Mathlib.Data.List.DropRight

/-!
# Labelled texts one behind the other

Entries are written without any length: the label of an entry, a mark that says whether
there is a text, and the text. The word does not tell where a text ends, so one word may be that
of several lists of entries with the same labels. A list is the only one with its word if
and only if, behind the mark of every text, only one place reads as the entries that follow
(`pinned_iff`).
-/

namespace Marked

variable {κ α : Type*}

section

/- How labels are spelled, and the marks of no text and of a text. -/
variable (spell : κ → List α) (marks : α × α)

def entry : κ × Option (List α) → List α
  | (label, none) => spell label ++ [marks.1]
  | (label, some text) => spell label ++ marks.2 :: text

def write (entries : List (κ × Option (List α))) : List α := entries.flatMap (entry spell marks)

/-- The word is that of some entries with these labels. -/
def Reads : List κ → List α → Prop
  | [], word => word = []
  | label :: labels, word =>
      (∃ rest, word = spell label ++ marks.1 :: rest ∧ Reads labels rest)
        ∨ ∃ text rest, word = spell label ++ marks.2 :: (text ++ rest) ∧ Reads labels rest

/-- From no text on is there another place that reads as the entries behind it. -/
def Unmistakable : List (κ × Option (List α)) → Prop
  | [] => True
  | (_, none) :: entries => Unmistakable entries
  | (_, some text) :: entries =>
      (∀ rest, rest <:+ text ++ write spell marks entries →
        Reads spell marks (entries.map Prod.fst) rest → rest = write spell marks entries)
      ∧ Unmistakable entries

/-- No other entries with the same labels are written as the same word. -/
def Pinned (entries : List (κ × Option (List α))) : Prop :=
  ∀ entries', entries'.map Prod.fst = entries.map Prod.fst →
    write spell marks entries' = write spell marks entries → entries' = entries

end

section

variable {spell : κ → List α} {marks : α × α} {entries : List (κ × Option (List α))} {label : κ}
  {text : List α}

@[simp] theorem write_none :
    write spell marks ((label, none) :: entries)
      = spell label ++ marks.1 :: write spell marks entries := by
  simp [write, entry]

@[simp] theorem write_some :
    write spell marks ((label, some text) :: entries)
      = spell label ++ marks.2 :: (text ++ write spell marks entries) := by
  simp [write, entry]

theorem reads_write (entries : List (κ × Option (List α))) :
    Reads spell marks (entries.map Prod.fst) (write spell marks entries) := by
  induction entries with
  | nil => rfl
  | cons first entries ih =>
      obtain ⟨label, - | text⟩ := first
      · exact Or.inl ⟨write spell marks entries, write_none, ih⟩
      · exact Or.inr ⟨text, write spell marks entries, write_some, ih⟩

theorem exists_of_reads {labels : List κ} {word : List α} (h : Reads spell marks labels word) :
    ∃ entries, entries.map Prod.fst = labels ∧ write spell marks entries = word := by
  induction labels generalizing word with
  | nil => exact ⟨[], rfl, h.symm⟩
  | cons label labels ih =>
      rcases h with ⟨rest, rfl, hrest⟩ | ⟨text, rest, rfl, hrest⟩
      · obtain ⟨entries, rfl, rfl⟩ := ih hrest
        exact ⟨(label, none) :: entries, rfl, write_none⟩
      · obtain ⟨entries, rfl, rfl⟩ := ih hrest
        exact ⟨(label, some text) :: entries, rfl, write_some⟩

theorem Pinned.tail {first : κ × Option (List α)} (h : Pinned spell marks (first :: entries)) :
    Pinned spell marks entries := by
  intro entries' hlabels hword
  have hcons := h (first :: entries') (by rw [List.map_cons, List.map_cons, hlabels])
    (by simp only [write, List.flatMap_cons] at hword ⊢; rw [hword])
  exact (List.cons.inj hcons).2

theorem Pinned.rest_eq (h : Pinned spell marks ((label, some text) :: entries)) {rest : List α}
    (hrest : rest <:+ text ++ write spell marks entries)
    (hreads : Reads spell marks (entries.map Prod.fst) rest) : rest = write spell marks entries := by
  obtain ⟨front, hfront⟩ := hrest
  obtain ⟨entries', hlabels, hword⟩ := exists_of_reads hreads
  have hcons := h ((label, some front) :: entries')
    (by rw [List.map_cons, List.map_cons, hlabels])
    (by rw [write_some, write_some, hword, hfront])
  rw [← hword, (List.cons.inj hcons).2]

theorem pinned_some (hmarks : marks.1 ≠ marks.2)
    (hplace : ∀ rest, rest <:+ text ++ write spell marks entries →
      Reads spell marks (entries.map Prod.fst) rest → rest = write spell marks entries)
    (h : Pinned spell marks entries) : Pinned spell marks ((label, some text) :: entries) := by
  rintro (- | ⟨⟨label', - | text'⟩, entries'⟩) hlabels hword
  · cases hlabels
  · simp only [List.map_cons, List.cons.injEq] at hlabels
    obtain ⟨rfl, -⟩ := hlabels
    rw [write_none, write_some, List.append_cancel_left_eq] at hword
    exact absurd (List.cons.inj hword).1 hmarks
  · simp only [List.map_cons, List.cons.injEq] at hlabels
    obtain ⟨rfl, hlabels⟩ := hlabels
    rw [write_some, write_some, List.append_cancel_left_eq] at hword
    have hbehind := (List.cons.inj hword).2
    have hrest : write spell marks entries' = write spell marks entries :=
      hplace _ ⟨text', hbehind⟩ (hlabels ▸ reads_write entries')
    rw [hrest] at hbehind
    rw [h entries' hlabels hrest, List.append_cancel_right hbehind]

theorem pinned_none (hmarks : marks.1 ≠ marks.2) (h : Pinned spell marks entries) :
    Pinned spell marks ((label, none) :: entries) := by
  rintro (- | ⟨⟨label', - | text'⟩, entries'⟩) hlabels hword
  · cases hlabels
  · simp only [List.map_cons, List.cons.injEq] at hlabels
    obtain ⟨rfl, hlabels⟩ := hlabels
    rw [write_none, write_none, List.append_cancel_left_eq] at hword
    rw [h entries' hlabels (List.cons.inj hword).2]
  · simp only [List.map_cons, List.cons.injEq] at hlabels
    obtain ⟨rfl, -⟩ := hlabels
    rw [write_some, write_none, List.append_cancel_left_eq] at hword
    exact absurd (List.cons.inj hword).1.symm hmarks

theorem pinned_iff (hmarks : marks.1 ≠ marks.2) :
    Pinned spell marks entries ↔ Unmistakable spell marks entries := by
  induction entries with
  | nil => exact iff_of_true (fun entries' hlabels _ => List.map_eq_nil_iff.mp hlabels) trivial
  | cons first entries ih =>
      obtain ⟨label, - | text⟩ := first
      · exact ⟨fun h => ih.mp h.tail, fun h => pinned_none hmarks (ih.mpr h)⟩
      · exact ⟨fun h => ⟨fun rest => h.rest_eq, ih.mp h.tail⟩,
          fun h => pinned_some hmarks h.1 (ih.mpr h.2)⟩

theorem write_collision (label next : κ) (entries : List (κ × Option (List α))) :
    write spell marks ((label, some (spell next ++ [marks.2])) :: (next, none) :: entries)
      = write spell marks
        ((label, some []) :: (next, some (spell next ++ [marks.1])) :: entries) := by
  simp

end

end Marked
