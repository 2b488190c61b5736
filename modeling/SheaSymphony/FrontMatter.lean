import SheaSymphony.Enclosed
import SheaSymphony.WorkpadEntries

/-!
# Front matter

`workflow.rs` has two readers of front matter. `markdown_front_matter` closes it at a line that is
the delimiter, `split_front_matter` at one that begins with it. A document that is put together of
front matter and a prompt is taken apart again by the first reader; the second one does so unless a
line behind the first one of the front matter begins with `---` (`document_roundTrips_iff`).
-/

namespace SheaSymphony.Workflow

open Text

def unixLines : List Char → List Char
  | '\r' :: '\n' :: text => '\n' :: unixLines text
  | c :: text => (if c = '\r' then '\n' else c) :: unixLines text
  | [] => []

/-- `content.replace("\r\n", "\n").replace('\r', "\n")`. -/
def normalized (content : String) : String := String.ofList (unixLines content.toList)

def splitFrontMatter (content : String) : String × String :=
  let normalized := normalized content
  match Text.stripPrefix normalized "---\n" with
  | some rest =>
      match Text.stripPrefix rest "---\n" with
      | some prompt => ("", prompt)
      | none =>
          if rest = "---" then ("", "")
          else
            match Text.cut rest "\n---" with
            | some (front, behind) => (front, (Text.stripPrefix behind "\n").getD behind)
            | none => (rest, "")
  | none => if Text.trim normalized = "---" then ("", "") else ("", normalized)

/-- `markdown_front_matter`, up to the YAML it hands on. -/
def markdownFrontMatter (source : String) : Option String :=
  (Text.stripPrefix source "---\n").bind fun source =>
    (Text.cut source "\n---\n").map fun (yaml, _) => yaml

/-- The delimiter, the front matter, the delimiter and the prompt, each on lines of its own. -/
def document (front prompt : String) : String := "---\n" ++ front ++ "\n---\n" ++ prompt

/-- The front matter with the ends of its lines as `split_front_matter` writes them; the end of the
last line is that of the delimiter before it. -/
def frontText (front : String) : String :=
  String.ofList (unixLines (front.toList ++ ['\n'])).dropLast

def frontLines (front : String) : List String := Text.splitChar '\n' (frontText front)

/-! ## Line ends -/

theorem unixLines_cons {c : Char} {s : List Char} (h : ¬ (c = '\r' ∧ s.head? = some '\n')) :
    unixLines (c :: s) = (if c = '\r' then '\n' else c) :: unixLines s := by
  cases s with
  | nil => rw [unixLines]; exact nofun
  | cons d s =>
      rw [unixLines]
      rintro rest rfl hrest
      exact h ⟨rfl, congrArg List.head? hrest⟩

theorem unixLines_feed (front : List Char) : ∃ lines, ∀ back,
    unixLines (front ++ '\n' :: back) = lines ++ '\n' :: unixLines back := by
  induction front using unixLines.induct with
  | case1 front ih =>
      obtain ⟨lines, hlines⟩ := ih
      refine ⟨'\n' :: lines, fun back => ?_⟩
      rw [List.cons_append, List.cons_append, unixLines, hlines, List.cons_append]
  | case2 c front hnot ih =>
      obtain ⟨lines, hlines⟩ := ih
      by_cases hlast : c = '\r' ∧ front = []
      · obtain ⟨rfl, rfl⟩ := hlast
        exact ⟨[], fun back => rfl⟩
      · refine ⟨(if c = '\r' then '\n' else c) :: lines, fun back => ?_⟩
        have hstep : ¬ (c = '\r' ∧ (front ++ '\n' :: back).head? = some '\n') := by
          rintro ⟨rfl, hhead⟩
          cases front with
          | nil => exact hlast ⟨rfl, rfl⟩
          | cons d front =>
              obtain rfl : d = '\n' := Option.some.inj hhead
              exact hnot front rfl rfl
        rw [List.cons_append, unixLines_cons hstep, hlines, List.cons_append]
  | case3 => exact ⟨[], fun back => rfl⟩

theorem unixLines_append_feed (front : String) (back : List Char) :
    unixLines (front.toList ++ '\n' :: back) = (frontText front).toList ++ '\n' :: unixLines back := by
  obtain ⟨lines, hlines⟩ := unixLines_feed front.toList
  have hfront : (frontText front).toList = lines := by
    rw [frontText, hlines []]
    exact (congrArg String.toList (congrArg String.ofList (List.dropLast_concat))).trans
      String.toList_ofList
  rw [hlines, hfront]

theorem normalized_dashes_append (text : String) :
    normalized ("---\n" ++ text) = "---\n" ++ normalized text := by
  have hopen : "---\n".toList = ['-', '-', '-', '\n'] := by decide
  rw [← String.toList_inj]
  simp only [normalized, String.toList_append, String.toList_ofList, hopen]
  rfl

theorem normalized_append_feed (front back : String) :
    normalized (front ++ "\n" ++ back) = frontText front ++ "\n" ++ normalized back := by
  have hfeed : "\n".toList = ['\n'] := by decide
  rw [← String.toList_inj, normalized, String.toList_ofList, String.toList_append,
    String.toList_append, hfeed, List.append_assoc, List.singleton_append, unixLines_append_feed,
    String.toList_append, String.toList_append, hfeed, normalized, String.toList_ofList,
    List.append_assoc, List.singleton_append]

/-- The document as `split_front_matter` reads it. -/
theorem normalized_document (front prompt : String) : normalized (document front prompt)
    = "---\n" ++ (frontText front ++ "\n" ++ ("---\n" ++ normalized prompt)) := by
  have hclose : ("\n---\n" : String) = "\n" ++ "---\n" := by decide
  have hdocument : document front prompt
      = "---\n" ++ (front ++ "\n" ++ ("---\n" ++ prompt)) := by
    rw [document, hclose]
    simp only [String.append_assoc]
  rw [hdocument, normalized_dashes_append, normalized_append_feed, normalized_dashes_append]

/-! ## The delimiter -/

theorem isLine_dashes : Text.IsLine "---" := by
  rw [Text.IsLine]
  decide

theorem contains_delimiter_iff (text : String) : Text.contains text "\n---" = true ↔
    ∃ line ∈ (Text.splitChar '\n' text).tail, Text.startsWith line "---" = true := by
  have hmark : ("\n---" : String) = "\n" ++ "---" := by decide
  constructor
  · intro h
    obtain ⟨front, back, hsplit⟩ := contains_iff.mp h
    have htext : text = front ++ "\n" ++ ("---" ++ back) := by
      rw [← hsplit, hmark]
      simp only [String.append_assoc]
    obtain ⟨first, pieces, hpieces⟩ := splitChar_line_append isLine_dashes back
    rw [htext, splitChar_append, List.tail_append_of_ne_nil (splitChar_ne_nil front),
      hpieces]
    refine ⟨"---" ++ first, List.mem_append_right _ List.mem_cons_self, ?_⟩
    rw [startsWith, String.toList_append]
    exact List.isPrefixOf_iff_prefix.mpr (List.prefix_append _ _)
  · rintro ⟨line, hline, hbegins⟩
    obtain ⟨rest, hrest⟩ := List.isPrefixOf_iff_prefix.mp hbegins
    have hbehind : ∀ lines : List String, line ∈ lines →
        contains ("\n" ++ join "\n" lines) "\n---" = true := by
      intro lines hmem
      induction lines with
      | nil => cases hmem
      | cons other lines ih =>
          rcases List.mem_cons.mp hmem with rfl | hmem
          · have hfound : contains ("\n" ++ line) "\n---" = true := by
              refine contains_iff.mpr ⟨"", String.ofList rest, ?_⟩
              rw [String.empty_append, hmark, String.append_assoc, ← String.toList_inj]
              simp only [String.toList_append, String.toList_ofList, hrest]
            cases lines with
            | nil => rwa [join_singleton]
            | cons next lines =>
                rw [join_cons _ (List.cons_ne_nil _ _), ← String.append_assoc,
                  ← String.append_assoc]
                exact contains_append_left (contains_append_left hfound _) _
          · rw [join_cons _ (List.ne_nil_of_mem hmem), String.append_assoc, ← String.append_assoc]
            exact contains_append_right (ih hmem) _
    obtain ⟨first, lines, hlines⟩ := List.exists_cons_of_ne_nil (splitChar_ne_nil text)
    rw [hlines, List.tail_cons] at hline
    rw [← join_splitChar text, hlines, join_cons _ (List.ne_nil_of_mem hline),
      String.append_assoc]
    exact contains_append_right (hbehind lines hline) first

theorem dashes_mem_frontLines {front before behind : String}
    (h : front ++ "\n" ++ "---" = before ++ "\n" ++ ("---\n" ++ behind)) :
    "---" ∈ frontLines front := by
  have hlines := congrArg normalized h
  have hdashes : normalized "---" = "---" := by decide
  have hclose : ("---\n" : String) = "---" ++ "\n" := by decide
  rw [normalized_append_feed, normalized_append_feed, normalized_dashes_append, hdashes, hclose]
    at hlines
  have hpieces := congrArg (splitChar '\n') hlines
  rw [splitChar_append, splitChar_append, splitChar_append,
    splitChar_of_isLine isLine_dashes] at hpieces
  have hfront := congrArg List.dropLast hpieces
  rw [List.dropLast_concat, List.dropLast_append_of_ne_nil (by simp),
    List.dropLast_append_of_ne_nil (splitChar_ne_nil _)] at hfront
  rw [frontLines, hfront]
  simp

/-! ## Round trips -/

/-- Both readers give back what the document is put together of. -/
structure RoundTrips (front prompt : String) : Prop where
  split : splitFrontMatter (document front prompt) = (frontText front, normalized prompt)
  markdown : markdownFrontMatter (document front prompt) = some front

theorem markdownFrontMatter_document {front : String} (h : "---" ∉ frontLines front)
    (prompt : String) : markdownFrontMatter (document front prompt) = some front := by
  have hdocument : document front prompt = "---\n" ++ (front ++ "\n---\n" ++ prompt) := by
    rw [document]
    simp only [String.append_assoc]
  have hfree : ¬ "\n---\n".toList <:+: front.toList ++ "\n---\n".toList.dropLast := by
    rintro ⟨before, behind, hfound⟩
    refine h (dashes_mem_frontLines
      (show _ = String.ofList before ++ "\n" ++ ("---\n" ++ String.ofList behind) from ?_))
    have hlast : "\n---\n".toList.dropLast = "\n".toList ++ "---".toList := by decide
    have hmark : "\n---\n".toList = "\n".toList ++ "---\n".toList := by decide
    rw [hlast, hmark] at hfound
    rw [← String.toList_inj]
    simp only [String.toList_append, String.toList_ofList, List.append_assoc] at hfound ⊢
    exact hfound.symm
  rw [markdownFrontMatter, hdocument, Workpad.stripPrefix_append, Option.bind_some,
    cut_append (by decide) hfree]
  rfl

theorem stripPrefix_frontText {front : String} (h : "---" ∉ frontLines front) (prompt : String) :
    stripPrefix (frontText front ++ "\n" ++ ("---\n" ++ normalized prompt)) "---\n" = none := by
  rw [stripPrefix]
  refine if_neg fun hbegins => h ?_
  obtain ⟨rest, hrest⟩ := List.isPrefixOf_iff_prefix.mp hbegins
  have hsame : frontText front ++ "\n" ++ ("---\n" ++ normalized prompt)
      = "---" ++ "\n" ++ String.ofList rest := by
    have hclose : "---\n".toList = "---".toList ++ "\n".toList := by decide
    rw [← String.toList_inj, ← hrest, hclose]
    simp only [String.toList_append, String.toList_ofList]
  have hpieces := congrArg (splitChar '\n') hsame
  rw [splitChar_append, splitChar_append, splitChar_of_isLine isLine_dashes] at hpieces
  obtain ⟨line, lines, hlines⟩ :=
    List.exists_cons_of_ne_nil (splitChar_ne_nil (frontText front))
  rw [hlines] at hpieces
  obtain rfl : line = "---" := (List.cons.inj hpieces).1
  rw [frontLines, hlines]
  exact List.mem_cons_self

theorem splitFrontMatter_document_eq {front : String} (h : "---" ∉ frontLines front)
    (prompt : String) : splitFrontMatter (document front prompt)
      = (cut (frontText front ++ "\n" ++ ("---\n" ++ normalized prompt)) "\n---").elim
          (frontText front ++ "\n" ++ ("---\n" ++ normalized prompt), "")
          fun found => (found.1, (stripPrefix found.2 "\n").getD found.2) := by
  have hlong : frontText front ++ "\n" ++ ("---\n" ++ normalized prompt) ≠ "---" := by
    intro hsame
    have hmem : '\n' ∈ (frontText front ++ "\n" ++ ("---\n" ++ normalized prompt)).toList := by
      simp only [String.toList_append]
      exact List.mem_append_left _ (List.mem_append_right _ (by decide))
    rw [hsame] at hmem
    exact absurd hmem (by decide)
  rw [splitFrontMatter]
  simp only [normalized_document, Workpad.stripPrefix_append, stripPrefix_frontText h, if_neg hlong]
  generalize cut (frontText front ++ "\n" ++ ("---\n" ++ normalized prompt)) "\n---" = found
  cases found <;> rfl

theorem contains_frontText_iff (front : String) :
    (∀ line ∈ (frontLines front).tail, startsWith line "---" = false) ↔
      contains (frontText front) "\n---" = false := by
  have hiff := (contains_delimiter_iff (frontText front)).not
  rw [Bool.not_eq_true] at hiff
  rw [hiff]
  simp only [frontLines, not_exists, not_and, Bool.not_eq_true]

theorem contains_of_cut {text back before behind : String}
    (h : cut (text ++ "\n---" ++ back) "\n---" = some (before, behind))
    (hfound : contains text "\n---" = true) : before ≠ text := by
  rintro rfl
  obtain ⟨⟨first, rest⟩, hlist, hpair⟩ := Option.map_eq_some_iff.mp h
  obtain ⟨hbegin, -⟩ := Prod.mk.inj hpair
  have hnot := not_infix_of_cutList (by decide) hlist
  have hfront : before.toList = first := by rw [← hbegin, String.toList_ofList]
  have hinfix := of_decide_eq_true hfound
  rw [hfront] at hinfix
  exact hnot hinfix

theorem cut_of_not_contains {text : String} (h : contains text "\n---" = false) (back : String) :
    cut (text ++ "\n---" ++ back) "\n---" = some (text, back) := by
  have hmark : "\n---".toList = '\n' :: ['-', '-', '-'] := by decide
  have hnot : ¬ '\n' :: ['-', '-', '-'] <:+: text.toList := by
    rw [← hmark]
    exact of_decide_eq_false h
  rw [cut, String.append_assoc, String.toList_append, String.toList_append, hmark,
    cutList_append_sharp (by decide) hnot, Option.map_some]
  simp only [String.ofList_toList]

theorem splitFrontMatter_document {front : String} (h : "---" ∉ frontLines front)
    (prompt : String) : splitFrontMatter (document front prompt) = (frontText front, normalized prompt) ↔
      ∀ line ∈ (frontLines front).tail, Text.startsWith line "---" = false := by
  have hwhole : frontText front ++ "\n" ++ ("---\n" ++ normalized prompt)
      = frontText front ++ "\n---" ++ ("\n" ++ normalized prompt) := by
    have hclose : ("---\n" : String) = "---" ++ "\n" := by decide
    have hmark : ("\n---" : String) = "\n" ++ "---" := by decide
    rw [hclose, hmark]
    simp only [String.append_assoc]
  rw [contains_frontText_iff, splitFrontMatter_document_eq h, hwhole]
  constructor
  · intro hsame
    rw [← Bool.not_eq_true]
    intro hfound
    have hsome : cut (frontText front ++ "\n---" ++ ("\n" ++ normalized prompt)) "\n---" ≠ none := by
      rw [ne_eq, cut_eq_none_iff (by decide)]
      rw [contains_append_left (contains_append_left hfound _) _]
      decide
    obtain ⟨⟨before, behind⟩, hbefore⟩ := Option.ne_none_iff_exists'.mp hsome
    rw [hbefore] at hsame
    exact contains_of_cut hbefore hfound (Prod.mk.inj hsame).1
  · intro hfree
    rw [cut_of_not_contains hfree]
    simp only [Option.elim_some, Workpad.stripPrefix_append, Option.getD_some]

theorem document_roundTrips_iff {front : String} (h : "---" ∉ frontLines front) (prompt : String) :
    RoundTrips front prompt ↔
      ∀ line ∈ (frontLines front).tail, Text.startsWith line "---" = false :=
  ⟨fun hround => (splitFrontMatter_document h prompt).mp hround.split,
    fun hlines => ⟨(splitFrontMatter_document h prompt).mpr hlines,
      markdownFrontMatter_document h prompt⟩⟩

theorem roundTrips_plain : RoundTrips "name: shea\nlane: main" "Prompt" :=
  (document_roundTrips_iff (by decide) "Prompt").mpr (by decide)

/-- A rule of four dashes closes the front matter: what is behind its third one is the prompt. -/
theorem rule_closes :
    "---" ∉ frontLines "name: shea\n---- lanes\nlane: main"
      ∧ splitFrontMatter (document "name: shea\n---- lanes\nlane: main" "Prompt")
        = ("name: shea", "- lanes\nlane: main\n---\nPrompt")
      ∧ markdownFrontMatter (document "name: shea\n---- lanes\nlane: main" "Prompt")
        = some "name: shea\n---- lanes\nlane: main" := by
  refine ⟨by decide, by decide, by decide⟩

end SheaSymphony.Workflow
