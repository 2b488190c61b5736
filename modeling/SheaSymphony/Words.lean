import SheaSymphony.Lines

/-!
# Words

The words of a text, as `split_whitespace` gives them: none has a blank, and words that are
joined by blanks are read back.
-/

namespace Text

/-- No character is a blank. -/
def Compact (text : String) : Prop := ∀ c ∈ text.toList, isWhitespace c = false

instance (text : String) : Decidable (Compact text) := List.decidableBAll _ _

theorem splitWhitespace_blank (front back : String) :
    splitWhitespace (front ++ " " ++ back)
      = splitWhitespace front ++ splitWhitespace back := by
  have hlist : (front ++ " " ++ back).toList = front.toList ++ ' ' :: back.toList := by
    rw [String.toList_append, String.toList_append, List.append_assoc]
    rfl
  rw [splitWhitespace, hlist, List.splitOnP_append_cons _ _ (by decide), List.filter_append,
    List.map_append]
  rfl

theorem splitWhitespace_word {text : String} (h : Compact text) (hne : text ≠ "") :
    splitWhitespace text = [text] := by
  have hword : (!text.toList.isEmpty) = true := by
    rw [Bool.not_eq_true', List.isEmpty_eq_false_iff]
    exact fun hnil => hne (String.toList_eq_nil_iff.mp hnil)
  rw [splitWhitespace, List.splitOnP_eq_singleton h, List.filter_singleton, hword, cond_true,
    List.map_singleton, String.ofList_toList]

theorem Compact.append {front back : String} (h : Compact front) (h' : Compact back) :
    Compact (front ++ back) := by
  intro c hc
  rw [String.toList_append] at hc
  exact (List.mem_append.mp hc).elim (h c) (h' c)

theorem append_ne_empty {front back : String} (h : front ≠ "") : front ++ back ≠ "" := by
  intro hempty
  exact h (String.append_eq_empty_iff.mp hempty).1

theorem splitWhitespace_join {words : List String} (h : ∀ word ∈ words, Compact word ∧ word ≠ "") :
    splitWhitespace (join " " words) = words := by
  induction words with
  | nil => decide
  | cons word words ih =>
      obtain ⟨hcompact, hne⟩ := h word List.mem_cons_self
      cases words with
      | nil => rw [join_singleton, splitWhitespace_word hcompact hne]
      | cons next words =>
          rw [join_cons _ (List.cons_ne_nil next words), splitWhitespace_blank,
            splitWhitespace_word hcompact hne,
            ih fun later hlater => h later (List.mem_cons_of_mem word hlater),
            List.singleton_append]

theorem compact_of_mem_splitWhitespace {text word : String}
    (h : word ∈ splitWhitespace text) : Compact word := by
  obtain ⟨run, hrun, rfl⟩ := List.mem_map.mp h
  intro c hc
  rw [String.toList_ofList] at hc
  exact (mem_of_mem_splitOnP (List.mem_of_mem_filter hrun) hc).2

theorem compact_of_subset {word text : String} (h : word.toList ⊆ text.toList)
    (htext : Compact text) : Compact word := fun c hc => htext c (h hc)

theorem isLine_of_compact {text : String} (h : Compact text) : IsLine text := by
  intro hmem
  exact absurd (h '\n' hmem) (by decide)

end Text
