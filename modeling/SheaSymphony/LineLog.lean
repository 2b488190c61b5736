import SheaSymphony.Interleaving
import SheaSymphony.Pieces

/-!
# A log of lines with several writers

A record is appended by three atomic calls: the file is created where it is missing,
the record's text is written, and then the line feed. Seen as a page, the file is a
list of lines and of the records on each of them; its text is determined by the page
(`view_perform`). A reader that takes one record from a line gets the records back
when no line holds two (`readLines_single`) and fails where one does
(`readLines_glued`). A line holds two records exactly when a record is written while
another process has its line feed still to write (`single_iff`).
-/

namespace LineLog

open Interleaving Text

variable {P ρ ε : Type*}

inductive Call (ρ : Type*) where
  | create
  | text (record : ρ)
  | feed

def appendCalls (record : ρ) : List (Call ρ) := [.create, .text record, .feed]

def program (records : List ρ) : List (Call ρ) := records.flatMap appendCalls

/-- The calls on the text of a file; a missing file is `none`. -/
def write (encode : ρ → String) (content : Option String) : Call ρ → Option String
  | .create => some (content.getD "")
  | .text record => some (content.getD "" ++ encode record)
  | .feed => some (content.getD "" ++ "\n")

/-! ## Pages -/

/-- The finished lines of a file and the line it ends in, each as the records written
on it. -/
structure Page (P ρ : Type*) where
  lines : List (List (P × ρ))
  current : List (P × ρ)

namespace Page

def blank : Page P ρ := ⟨[], []⟩

def put (page : Page P ρ) (p : P) (record : ρ) : Page P ρ :=
  { page with current := page.current ++ [(p, record)] }

def close (page : Page P ρ) : Page P ρ := ⟨page.lines ++ [page.current], []⟩

/-- The records in the order they are written. -/
def order (page : Page P ρ) : List (P × ρ) := page.lines.flatten ++ page.current

@[simp] theorem order_put (page : Page P ρ) (p : P) (record : ρ) :
    (page.put p record).order = page.order ++ [(p, record)] := by
  simp [order, put]

@[simp] theorem order_close (page : Page P ρ) : page.close.order = page.order := by
  simp [order, close]

end Page

def perform (p : P) (call : Call ρ) (page : Option (Page P ρ)) : Option (Page P ρ) :=
  match call with
  | .create => some (page.getD .blank)
  | .text record => some ((page.getD .blank).put p record)
  | .feed => some (page.getD .blank).close

/-! ## The text of a page -/

def lineText (encode : ρ → String) (line : List (P × ρ)) : String :=
  String.join (line.map fun item => encode item.2)

def pageText (encode : ρ → String) (page : Page P ρ) : String :=
  String.join (page.lines.map fun line => lineText encode line ++ "\n")
    ++ lineText encode page.current

section
variable (encode : ρ → String)

theorem lineText_cons (item : P × ρ) (line : List (P × ρ)) :
    lineText encode (item :: line) = encode item.2 ++ lineText encode line := by
  simp [lineText]

theorem pageText_put (page : Page P ρ) (p : P) (record : ρ) :
    pageText encode (page.put p record) = pageText encode page ++ encode record := by
  simp [pageText, Page.put, lineText, String.append_assoc]

theorem pageText_close (page : Page P ρ) :
    pageText encode page.close = pageText encode page ++ "\n" := by
  simp [pageText, Page.close, lineText, String.append_assoc]

theorem pageText_blank : pageText encode (Page.blank : Page P ρ) = "" := by
  simp [pageText, Page.blank, lineText]

theorem view_perform (p : P) (call : Call ρ) (page : Option (Page P ρ)) :
    (perform p call page).map (pageText encode) =
      write encode (page.map (pageText encode)) call := by
  have hcontent : (page.map (pageText encode)).getD "" = pageText encode (page.getD .blank) := by
    cases page with
    | none => exact (pageText_blank encode).symm
    | some page => rfl
  cases call with
  | create => rw [write, hcontent]; rfl
  | text record => rw [write, hcontent, perform, Option.map_some, pageText_put]
  | feed => rw [write, hcontent, perform, Option.map_some, pageText_close]

end

/-! ## Reading the lines -/

/-- One record from each line that is not blank; an error says which line it is. -/
def readLines (decode : String → Except ε ρ) : Nat → List String → Except (Nat × ε) (List ρ)
  | _, [] => .ok []
  | index, line :: lines =>
      if isBlank line then readLines decode (index + 1) lines
      else
        match decode line with
        | .error source => .error (index + 1, source)
        | .ok record =>
            match readLines decode (index + 1) lines with
            | .error failure => .error failure
            | .ok records => .ok (record :: records)

/-- A record that is written on one line, read back from it, and not read where more
than whitespace follows it. -/
structure Framed (encode : ρ → String) (decode : String → Except ε ρ) (record : ρ) : Prop where
  line : IsLine (encode record)
  ends : ∃ c, (encode record).toList.getLast? = some c ∧ isWhitespace c = false
  back : decode (encode record) = .ok record
  alone : ∀ rest, isBlank rest = false → ∃ source, decode (encode record ++ rest) = .error source

theorem lines_feed {line : String} (h : IsLine line) (s : String) :
    lines (line ++ "\n" ++ s) = chomp line :: lines s := by
  have hlist : (line ++ "\n" ++ s).toList = line.toList ++ '\n' :: s.toList := by
    simp [String.toList_append]
  have hsplit : (line ++ "\n" ++ s).toList.splitOn '\n' = line.toList :: s.toList.splitOn '\n' := by
    rw [hlist, List.splitOn_append_cons_self, List.splitOn_eq_singleton h, List.singleton_append]
  have hne : s.toList.splitOn '\n' ≠ [] := by simp
  rw [lines, lines, hsplit, List.dropLast_cons_of_ne_nil hne, List.getLast?_cons,
    List.getLast?_eq_some_getLast hne]
  rfl

section
variable {encode : ρ → String} {decode : String → Except ε ρ} {line : List (P × ρ)}

theorem isLine_lineText (h : ∀ item ∈ line, Framed encode decode item.2) :
    IsLine (lineText encode line) := by
  intro hmem
  rw [lineText, String.toList_join] at hmem
  obtain ⟨part, hpart, hc⟩ := List.mem_flatMap.mp hmem
  obtain ⟨item, hitem, rfl⟩ := List.mem_map.mp hpart
  exact (h item hitem).line hc

theorem lineText_ends (hne : line ≠ []) (h : ∀ item ∈ line, Framed encode decode item.2) :
    ∃ c, (lineText encode line).toList.getLast? = some c ∧ isWhitespace c = false := by
  induction line with
  | nil => exact absurd rfl hne
  | cons item line ih =>
      rw [lineText_cons, String.toList_append, List.getLast?_append]
      rcases eq_or_ne line [] with rfl | hline
      · exact (h item List.mem_cons_self).ends
      · obtain ⟨c, hlast, hc⟩ := ih hline fun later hlater => h later (List.mem_cons_of_mem _ hlater)
        exact ⟨c, by rw [hlast]; rfl, hc⟩

theorem isBlank_lineText (hne : line ≠ []) (h : ∀ item ∈ line, Framed encode decode item.2) :
    isBlank (lineText encode line) = false := by
  obtain ⟨c, hlast, hc⟩ := lineText_ends hne h
  exact isBlank_eq_false_iff.mpr ⟨c, List.mem_of_getLast? hlast, hc⟩

theorem chomp_lineText (h : ∀ item ∈ line, Framed encode decode item.2) :
    chomp (lineText encode line) = lineText encode line := by
  rcases eq_or_ne line [] with rfl | hne
  · exact chomp_empty
  · obtain ⟨c, hlast, hc⟩ := lineText_ends hne h
    have hreturn : c ≠ '\r' := by
      rintro rfl
      exact absurd hc (by decide)
    rw [chomp, chompList, hlast, if_neg (by simpa using hreturn), String.ofList_toList]

theorem lines_join {pageLines : List (List (P × ρ))}
    (h : ∀ item ∈ pageLines.flatten, Framed encode decode item.2) :
    lines (String.join (pageLines.map fun line => lineText encode line ++ "\n")) =
      pageLines.map (lineText encode) := by
  induction pageLines with
  | nil => rfl
  | cons line pageLines ih =>
      have hline : ∀ item ∈ line, Framed encode decode item.2 := fun item hitem =>
        h item (List.mem_append_left _ hitem)
      rw [List.map_cons, String.join_cons, lines_feed (isLine_lineText hline),
        chomp_lineText hline, List.map_cons, ih]
      exact fun item hitem => h item (List.mem_append_right line hitem)

theorem readLines_blank (index : Nat) (lines : List String) :
    readLines decode index ("" :: lines) = readLines decode (index + 1) lines := by
  have hblank : isBlank "" = true := by decide
  rw [readLines, if_pos hblank]

theorem readLines_record {text : String} {record : ρ} (hvisible : isBlank text = false)
    (hdecode : decode text = .ok record) (index : Nat) (lines : List String) :
    readLines decode index (text :: lines) =
      (readLines decode (index + 1) lines).map (record :: ·) := by
  rw [readLines, hvisible, hdecode]
  cases readLines decode (index + 1) lines <;> rfl

theorem readLines_single {pageLines : List (List (P × ρ))}
    (h : ∀ item ∈ pageLines.flatten, Framed encode decode item.2)
    (hsingle : ∀ line ∈ pageLines, line.length ≤ 1) (index : Nat) :
    readLines decode index (pageLines.map (lineText encode)) =
      .ok (pageLines.flatten.map Prod.snd) := by
  induction pageLines generalizing index with
  | nil => rfl
  | cons line pageLines ih =>
      have hrest := ih (fun item hitem => h item (List.mem_append_right line hitem))
        (fun later hlater => hsingle later (List.mem_cons_of_mem _ hlater)) (index + 1)
      have hshort := hsingle line List.mem_cons_self
      rw [List.map_cons]
      match line, hshort, h with
      | [], _, _ =>
          show readLines decode index ("" :: _) = _
          rw [readLines_blank, hrest]
          rfl
      | [item], _, h =>
          have hframed := h item List.mem_cons_self
          have htext : lineText encode [item] = encode item.2 := by simp [lineText]
          have hvisible : isBlank (encode item.2) = false := by
            rw [← htext]
            exact isBlank_lineText (List.cons_ne_nil item []) fun other hother =>
              List.mem_singleton.mp hother ▸ hframed
          rw [htext, readLines_record hvisible hframed.back, hrest]
          rfl

theorem readLines_glued {pageLines : List (List (P × ρ))}
    (h : ∀ item ∈ pageLines.flatten, Framed encode decode item.2)
    (hglued : ∃ line ∈ pageLines, 2 ≤ line.length) (index : Nat) :
    ∃ failure, readLines decode index (pageLines.map (lineText encode)) = .error failure := by
  induction pageLines generalizing index with
  | nil =>
      obtain ⟨line, hline, -⟩ := hglued
      cases hline
  | cons line pageLines ih =>
      have hlater : (∃ later ∈ pageLines, 2 ≤ later.length) → ∃ failure,
          readLines decode (index + 1) (pageLines.map (lineText encode)) = .error failure :=
        fun hlater => ih (fun item hitem => h item (List.mem_append_right line hitem)) hlater _
      rw [List.map_cons]
      match line, hglued, h with
      | [], hglued, _ =>
          show ∃ failure, readLines decode index ("" :: _) = _
          rw [readLines_blank]
          refine hlater ?_
          simpa using hglued
      | [item], hglued, h =>
          have hframed := h item List.mem_cons_self
          have htext : lineText encode [item] = encode item.2 := by simp [lineText]
          have hvisible : isBlank (encode item.2) = false := by
            rw [← htext]
            exact isBlank_lineText (List.cons_ne_nil item []) fun other hother =>
              List.mem_singleton.mp hother ▸ hframed
          obtain ⟨failure, hfailure⟩ := hlater (by simpa using hglued)
          rw [htext, readLines_record hvisible hframed.back, hfailure]
          exact ⟨failure, rfl⟩
      | first :: second :: rest, _, h =>
          have hline : ∀ item ∈ first :: second :: rest, Framed encode decode item.2 :=
            fun item hitem => h item (List.mem_append_left _ hitem)
          have hvisible := isBlank_lineText (List.cons_ne_nil first (second :: rest)) hline
          have hrest := isBlank_lineText (List.cons_ne_nil second rest) fun item hitem =>
            hline item (List.mem_cons_of_mem _ hitem)
          obtain ⟨source, hsource⟩ := (hline first List.mem_cons_self).alone _ hrest
          rw [lineText_cons] at hvisible ⊢
          rw [readLines, hvisible, hsource]
          exact ⟨_, rfl⟩

end

/-! ## Runs -/

abbrev PageState (P ρ : Type*) := State P (Call ρ) (Option (Page P ρ))

/-- The process has written a record and not yet its line feed. -/
def Pending {φ : Type*} (s : State P (Call ρ) φ) (p : P) : Prop := ∃ rest, s.rest p = .feed :: rest

/-- If the process writes a record now, no process has its line feed still to write. -/
def Apart {φ : Type*} (s : State P (Call ρ) φ) (p : P) : Prop :=
  (∃ record rest, s.rest p = .text record :: rest) → ∀ q, ¬Pending s q

/-- What a process has yet to call, by the records it has yet to write. -/
inductive Stage : List (Call ρ) → List ρ → Prop where
  | between (records : List ρ) : Stage (program records) records
  | created (record : ρ) (records : List ρ) :
      Stage (.text record :: .feed :: program records) (record :: records)
  | written (records : List ρ) : Stage (.feed :: program records) records

def pageOf (s : PageState P ρ) : Page P ρ := s.shared.getD .blank

variable {s : PageState P ρ} {schedule : List P}

section
variable [DecidableEq P]

theorem step_stage {p : P} {todo : List ρ} (h : Stage (s.rest p) todo) :
    (s.rest p = [] ∧ todo = [] ∧ step perform s p = s)
      ∨ (∃ record records, todo = record :: records ∧ s.rest p = program todo
        ∧ step perform s p =
          ⟨some (pageOf s), Function.update s.rest p (.text record :: .feed :: program records)⟩)
      ∨ (∃ record records, todo = record :: records
        ∧ s.rest p = .text record :: .feed :: program records
        ∧ step perform s p =
          ⟨some ((pageOf s).put p record), Function.update s.rest p (.feed :: program records)⟩)
      ∨ (s.rest p = .feed :: program todo
        ∧ step perform s p = ⟨some (pageOf s).close, Function.update s.rest p (program todo)⟩) := by
  generalize hrest : s.rest p = rest at h
  cases h with
  | between records =>
      cases todo with
      | nil => exact .inl ⟨rfl, rfl, step_nil hrest⟩
      | cons record records =>
          exact .inr (.inl ⟨record, records, rfl, rfl, step_cons hrest⟩)
  | created record records =>
      exact .inr (.inr (.inl ⟨record, records, rfl, rfl, step_cons hrest⟩))
  | written records => exact .inr (.inr (.inr ⟨rfl, step_cons hrest⟩))

theorem pending_update {p q : P} {rest : List (Call ρ)} {page : Option (Page P ρ)} (h : q ≠ p) :
    Pending (⟨page, Function.update s.rest p rest⟩ : PageState P ρ) q ↔ Pending s q := by
  rw [Pending, Pending]
  show (∃ tail, Function.update s.rest p rest q = _) ↔ _
  rw [Function.update_of_ne h]

theorem pending_update_self {p : P} {rest : List (Call ρ)} {page : Option (Page P ρ)} :
    Pending (⟨page, Function.update s.rest p rest⟩ : PageState P ρ) p ↔
      ∃ tail, rest = .feed :: tail := by
  rw [Pending]
  show (∃ tail, Function.update s.rest p rest p = _) ↔ _
  rw [Function.update_self]

theorem program_ne_feed (records : List ρ) : ¬∃ tail, program records = .feed :: tail := by
  rintro ⟨tail, h⟩
  cases records with
  | nil => cases h
  | cons record records => cases h

/-- Every process's records are written up to where it is, and the file ends in an
open line only while a line feed is still to come. -/
structure Laid (threads : P → List ρ) (s : PageState P ρ) : Prop where
  own : ∀ p, ∃ todo, Stage (s.rest p) todo ∧ shownOf p (pageOf s).order ++ todo = threads p
  tail : (pageOf s).current ≠ [] → ∃ p, Pending s p

variable {threads : P → List ρ}

/-- The processes before their first call, on an empty file or none. -/
def start (page : Option (Page P ρ)) (threads : P → List ρ) : PageState P ρ where
  shared := page
  rest p := program (threads p)

theorem laid_start {page : Option (Page P ρ)} (h : page.getD .blank = .blank) :
    Laid threads (start page threads) where
  own p := ⟨threads p, .between _, by
    show shownOf p (page.getD .blank).order ++ threads p = threads p
    rw [h]
    rfl⟩
  tail hne := absurd (by show (page.getD .blank).current = []; rw [h]; rfl) hne

theorem Laid.own_of_step {s s' : PageState P ρ} (h : Laid threads s) {p : P}
    (hrest : ∀ q, q ≠ p → s'.rest q = s.rest q)
    (horder : ∀ q, q ≠ p → shownOf q (pageOf s').order = shownOf q (pageOf s).order)
    (hown : ∃ todo, Stage (s'.rest p) todo ∧ shownOf p (pageOf s').order ++ todo = threads p) (q : P) :
    ∃ todo, Stage (s'.rest q) todo ∧ shownOf q (pageOf s').order ++ todo = threads q := by
  by_cases hq : q = p
  · exact hq ▸ hown
  · rw [hrest q hq, horder q hq]
    exact h.own q

theorem Laid.step (h : Laid threads s) (p : P) :
    Laid threads (step perform s p) := by
  obtain ⟨todo, hstage, htodo⟩ := h.own p
  have hothers : ∀ q, q ≠ p → (Interleaving.step perform s p).rest q = s.rest q :=
    fun q hq => step_rest_of_ne hq
  obtain ⟨-, -, hstep⟩ | ⟨record, records, rfl, hrest, hstep⟩
    | ⟨record, records, rfl, hrest, hstep⟩ | ⟨hrest, hstep⟩ := step_stage hstage
  · rwa [hstep]
  · rw [hstep] at hothers ⊢
    refine ⟨h.own_of_step hothers (fun _ _ => rfl) ⟨record :: records, ?_, htodo⟩, fun hne => ?_⟩
    · show Stage (Function.update s.rest p _ p) _
      rw [Function.update_self]
      exact .created record records
    · obtain ⟨q, hq⟩ := h.tail hne
      refine ⟨q, (pending_update ?_).mpr hq⟩
      rintro rfl
      rw [Pending, hrest] at hq
      exact program_ne_feed _ hq
  · rw [hstep] at hothers ⊢
    refine ⟨h.own_of_step hothers (fun q hq => ?_) ⟨records, ?_, ?_⟩, fun _ => ⟨p, ?_⟩⟩
    · show shownOf q ((pageOf s).put p record).order = _
      rw [Page.order_put, shownOf_append, shownOf_ne (Ne.symm hq), List.append_nil]
    · show Stage (Function.update s.rest p _ p) _
      rw [Function.update_self]
      exact .written records
    · show shownOf p ((pageOf s).put p record).order ++ records = threads p
      rw [Page.order_put, shownOf_append, shownOf_self, List.append_assoc]
      exact htodo
    · exact pending_update_self.mpr ⟨_, rfl⟩
  · rw [hstep] at hothers ⊢
    refine ⟨h.own_of_step hothers (fun q hq => ?_) ⟨todo, ?_, ?_⟩, fun hne => absurd rfl hne⟩
    · exact congrArg (shownOf q) (Page.order_close (pageOf s))
    · show Stage (Function.update s.rest p _ p) _
      rw [Function.update_self]
      exact .between todo
    · show shownOf p (pageOf s).close.order ++ todo = threads p
      rwa [Page.order_close]

theorem Laid.run (h : Laid threads s) (schedule : List P) :
    Laid threads (Runs.run (Interleaving.step perform) s schedule) :=
  Runs.invariant_run (fun _ p h => h.step p) schedule h

/-- When all is written, the file ends in a line feed and holds every process's
records in their order. -/
theorem Laid.finished (h : Laid threads s) (hdone : Finished s) :
    (pageOf s).current = [] ∧ Merges (pageOf s).order threads := by
  constructor
  · by_contra hne
    obtain ⟨p, rest, hrest⟩ := h.tail hne
    rw [hdone p] at hrest
    cases hrest
  · intro p
    obtain ⟨todo, hstage, htodo⟩ := h.own p
    rw [hdone p] at hstage
    generalize hrest : ([] : List (Call ρ)) = rest at hstage
    cases hstage with
    | between records =>
        cases todo with
        | nil => rwa [List.append_nil] at htodo
        | cons record records => cases hrest
    | created record records => cases hrest
    | written records => cases hrest

/-! ## Lines with two records -/

def Broken (page : Page P ρ) : Prop := ∃ line ∈ page.lines, 2 ≤ line.length

/-- A line with two records, finished or not. -/
def Glued (page : Page P ρ) : Prop := Broken page ∨ 2 ≤ page.current.length

theorem Glued.put {page : Page P ρ} (h : Glued page) (p : P) (record : ρ) :
    Glued (page.put p record) := by
  rcases h with h | h
  · exact .inl h
  · refine .inr ?_
    rw [Page.put, List.length_append]
    omega

theorem Glued.close {page : Page P ρ} (h : Glued page) : Broken page.close := by
  rcases h with ⟨line, hline, hlength⟩ | h
  · exact ⟨line, List.mem_append_left _ hline, hlength⟩
  · exact ⟨page.current, List.mem_append_right _ List.mem_cons_self, h⟩

theorem glued_step (h : Glued (pageOf s)) (p : P) :
    Glued (pageOf (step perform s p)) := by
  cases hrest : s.rest p with
  | nil => rwa [step_nil hrest]
  | cons call rest =>
      rw [step_cons hrest]
      cases call with
      | create => exact h
      | text record => exact h.put p record
      | feed => exact .inl h.close

/-- A record whose line feed is still to come stands on the open line, or its line is
already spoilt. -/
def Held (s : PageState P ρ) : Prop :=
  Broken (pageOf s) ∨ ∀ q, Pending s q → ∃ record, (q, record) ∈ (pageOf s).current

omit [DecidableEq P] in
theorem held_start {page : Option (Page P ρ)} : Held (start page threads) :=
  .inr fun _ hq => absurd hq (program_ne_feed _)

theorem two_le_length {α : Type*} {l : List α} {a b : α} (ha : a ∈ l) (hb : b ∈ l) (hne : a ≠ b) :
    2 ≤ l.length := by
  match l, ha, hb with
  | [c], ha, hb =>
      rw [List.mem_singleton] at ha hb
      exact absurd (ha.trans hb.symm) hne
  | _ :: _ :: l, _, _ =>
      rw [List.length_cons, List.length_cons]
      omega

theorem Held.step (hlaid : Laid threads s) (h : Held s) (p : P) :
    Held (step perform s p) := by
  obtain ⟨todo, hstage, -⟩ := hlaid.own p
  obtain ⟨-, -, hstep⟩ | ⟨record, records, rfl, hrest, hstep⟩
    | ⟨record, records, rfl, hrest, hstep⟩ | ⟨hrest, hstep⟩ := step_stage hstage
  · rwa [hstep]
  · rw [hstep]
    rcases h with h | h
    · exact .inl h
    · refine .inr fun q hq => ?_
      by_cases hqp : q = p
      · subst hqp
        obtain ⟨tail, htail⟩ := pending_update_self.mp hq
        cases htail
      · exact h q ((pending_update hqp).mp hq)
  · rw [hstep]
    rcases h with h | h
    · exact .inl h
    · refine .inr fun q hq => ?_
      by_cases hqp : q = p
      · subst hqp
        exact ⟨record, List.mem_append_right _ List.mem_cons_self⟩
      · obtain ⟨other, hother⟩ := h q ((pending_update hqp).mp hq)
        exact ⟨other, List.mem_append_left _ hother⟩
  · rw [hstep]
    rcases h with h | h
    · exact .inl (Glued.close (.inl h))
    · -- another record on the line that ends here is glued to this one
      by_cases hother : ∃ q, q ≠ p ∧ Pending s q
      · obtain ⟨q, hqp, hq⟩ := hother
        obtain ⟨record, hrecord⟩ := h p ⟨_, hrest⟩
        obtain ⟨other, hother⟩ := h q hq
        refine .inl (Glued.close (.inr (two_le_length hrecord hother fun heq => hqp ?_)))
        exact (congrArg Prod.fst heq).symm
      · refine .inr fun q hq => ?_
        by_cases hqp : q = p
        · subst hqp
          exact absurd (pending_update_self.mp hq) (program_ne_feed _)
        · exact absurd ⟨q, hqp, (pending_update hqp).mp hq⟩ hother

theorem glued_of_not_apart (schedule : List P) (hlaid : Laid threads s) (h : Held s)
    (hallowed : ¬Runs.Allowed (step perform) Apart s schedule) :
    Glued (pageOf (Runs.run (step perform) s schedule)) := by
  induction schedule generalizing s with
  | nil => exact absurd trivial hallowed
  | cons p schedule ih =>
      rw [Runs.run_cons]
      by_cases hapart : Apart s p
      · exact ih (hlaid.step p) (h.step hlaid p) fun hrest => hallowed ⟨hapart, hrest⟩
      · refine Runs.invariant_run (P := fun s => Glued (pageOf s)) (fun _ p h => glued_step h p)
          schedule ?_
        rw [Apart, Classical.not_imp] at hapart
        obtain ⟨⟨record, rest, hrest⟩, hpending⟩ := hapart
        obtain ⟨q, hq⟩ := not_forall_not.mp hpending
        rw [step_cons hrest]
        show Glued ((pageOf s).put p record)
        rcases h with h | h
        · exact Glued.put (.inl h) p record
        · obtain ⟨other, hother⟩ := h q hq
          have hpos := List.length_pos_of_mem hother
          refine .inr ?_
          rw [Page.put, List.length_append, List.length_singleton]
          omega

def Single (page : Page P ρ) : Prop :=
  (∀ line ∈ page.lines, line.length ≤ 1) ∧ page.current.length ≤ 1

theorem single_step (hlaid : Laid threads s) (h : Single (pageOf s)) {p : P} (hapart : Apart s p) :
    Single (pageOf (step perform s p)) := by
  obtain ⟨todo, hstage, -⟩ := hlaid.own p
  obtain ⟨-, -, hstep⟩ | ⟨record, records, rfl, hrest, hstep⟩
    | ⟨record, records, rfl, hrest, hstep⟩ | ⟨hrest, hstep⟩ := step_stage hstage
  · rwa [hstep]
  · rw [hstep]
    exact h
  · rw [hstep]
    -- no line feed is to come, so the open line is empty
    have hcurrent : (pageOf s).current = [] := by
      by_contra hne
      obtain ⟨q, hq⟩ := hlaid.tail hne
      exact hapart ⟨record, _, hrest⟩ q hq
    refine ⟨h.1, ?_⟩
    show ((pageOf s).current ++ [(p, record)]).length ≤ 1
    rw [hcurrent]
    exact le_rfl
  · rw [hstep]
    refine ⟨fun line hline => ?_, Nat.zero_le 1⟩
    rcases List.mem_append.mp hline with hline | hline
    · exact h.1 line hline
    · exact List.mem_singleton.mp hline ▸ h.2

/-- No line of the finished file holds two records exactly when none was written while
a line feed was still to come. -/
theorem single_iff {page : Option (Page P ρ)} (hpage : page.getD .blank = .blank)
    (hdone : Finished (Runs.run (step perform) (start page threads) schedule)) :
    (∀ line ∈ (pageOf (Runs.run (step perform) (start page threads) schedule)).lines, line.length ≤ 1) ↔
      Runs.Allowed (step perform) Apart (start page threads) schedule := by
  have hlaid : Laid threads (start page threads) := laid_start hpage
  constructor
  · intro hsingle
    by_contra hallowed
    rcases glued_of_not_apart schedule hlaid held_start hallowed with ⟨line, hline, hlength⟩ | h
    · have := hsingle line hline
      omega
    · rw [((hlaid.run schedule).finished hdone).1] at h
      cases h
  · intro hallowed
    have hsingle : Single (pageOf (start page threads)) := by
      show Single (page.getD .blank)
      rw [hpage]
      exact ⟨fun line hline => (List.not_mem_nil hline).elim, Nat.zero_le 1⟩
    exact (Runs.Allowed.invariant (P := fun s => Laid threads s ∧ Single (pageOf s))
      (fun s p h hapart => ⟨h.1.step p, single_step h.1 h.2 hapart⟩) schedule
      ⟨hlaid, hsingle⟩ hallowed).2.1

/-! ## The file -/

/-- The processes before their first call, on a file with the given content. -/
def opened (content : Option String) (threads : P → List ρ) : State P (Call ρ) (Option String) where
  shared := content
  rest p := program (threads p)

def writing (encode : ρ → String) (_ : P) (call : Call ρ) (content : Option String) :
    Option String :=
  write encode content call

theorem isSome_perform (p : P) (call : Call ρ) (page : Option (Page P ρ)) :
    (perform p call page).isSome = true := by
  cases call <;> rfl

theorem isSome_run_iff {page : Option (Page P ρ)}
    (hdone : Finished (Runs.run (step perform) (start page threads) schedule)) :
    (Runs.run (step perform) (start page threads) schedule).shared.isSome = true ↔
      page.isSome = true ∨ ∃ p, threads p ≠ [] := by
  constructor
  · intro h
    by_contra hnone
    rw [not_or, not_exists] at hnone
    have hidle : ∀ p, (start page threads).rest p = [] := by
      intro p
      show program (threads p) = []
      rw [not_not.mp (hnone.2 p)]
      rfl
    have hsame : Runs.run (step perform) (start page threads) schedule = start page threads :=
      Runs.invariant_run (P := fun s => s = start page threads)
        (fun s p hs => by rw [hs, step_nil (hidle p)]) schedule rfl
    rw [hsame] at h
    exact hnone.1 h
  · intro h
    have hcalled : ∀ (s : PageState P ρ) (p : P),
        (s.shared.isSome = true ∨ s = start page threads) →
          (step perform s p).shared.isSome = true ∨ step perform s p = start page threads := by
      intro s p hs
      cases hrest : s.rest p with
      | nil => rwa [step_nil hrest]
      | cons call rest =>
          rw [step_cons hrest]
          exact .inl (isSome_perform p call s.shared)
    rcases Runs.invariant_run hcalled schedule (.inr rfl) with hsome | hsame
    · exact hsome
    · rcases h with h | ⟨p, hp⟩
      · rwa [hsame]
      · have hidle := hdone p
        rw [hsame] at hidle
        obtain ⟨record, records, hthread⟩ := List.exists_cons_of_ne_nil hp
        change program (threads p) = [] at hidle
        rw [hthread] at hidle
        cases hidle

/-- The file reads back as the processes' records, each process's in their order,
exactly when there is a file and no record was written while the line feed of
another was still to come. -/
theorem merges_iff {encode : ρ → String} {decode : String → Except ε ρ} {content : Option String}
    (hempty : content.getD "" = "")
    (hframed : ∀ p, ∀ record ∈ threads p, Framed encode decode record)
    (hdone : Finished (Runs.run (step (writing encode)) (opened content threads) schedule)) :
    (∃ text order,
        (Runs.run (step (writing encode)) (opened content threads) schedule).shared = some text
          ∧ readLines decode 0 (lines text) = .ok (order.map Prod.snd) ∧ Merges order threads) ↔
      (content.isSome = true ∨ ∃ p, threads p ≠ [])
        ∧ Runs.Allowed (step (writing encode)) Apart (opened content threads) schedule := by
  have hpage : (content.map fun _ => Page.blank).getD .blank = (Page.blank : Page P ρ) := by
    cases content <;> rfl
  have hview : opened content threads =
      (start (content.map fun _ => Page.blank) threads).view (Option.map (pageText encode)) := by
    cases content with
    | none => rfl
    | some text =>
        obtain rfl : text = "" := hempty
        rw [opened, State.view, start, Option.map_some, Option.map_some, pageText_blank]
  have hperform : ∀ (p : P) (call : Call ρ) (page : Option (Page P ρ)),
      (perform p call page).map (pageText encode) =
        writing encode p call (page.map (pageText encode)) := view_perform encode
  have hallowed : Runs.Allowed (step (writing encode)) Apart
        ((start (content.map fun _ => Page.blank) threads).view (Option.map (pageText encode)))
        schedule ↔
      Runs.Allowed (step perform) Apart (start (content.map fun _ => Page.blank) threads) schedule :=
    allowed_view hperform (fun _ _ => Iff.rfl) schedule _
  rw [hview, ← run_view hperform] at hdone ⊢
  rw [hallowed]
  have hdone : Finished (Runs.run (step perform)
    (start (content.map fun _ => Page.blank) threads) schedule) := hdone
  have hsome := isSome_run_iff hdone
  have hlaid : Laid threads (Runs.run (step perform)
    (start (content.map fun _ => Page.blank) threads) schedule) := (laid_start hpage).run schedule
  rw [← single_iff hpage hdone]
  obtain ⟨hcurrent, hmerges⟩ := hlaid.finished hdone
  generalize Runs.run (step perform) (start (content.map fun _ => Page.blank) threads) schedule =
    final at *
  rw [Option.isSome_map] at hsome
  rw [← hsome]
  obtain ⟨page, rest⟩ := final
  cases page with
  | none =>
      refine iff_of_false ?_ ?_
      · rintro ⟨text, order, hfile, -⟩
        cases hfile
      · rintro ⟨hfile, -⟩
        cases hfile
  | some page =>
      obtain ⟨pageLines, current⟩ := page
      obtain rfl : current = [] := hcurrent
      have hmerges : Merges pageLines.flatten threads := by
        simpa [pageOf, Page.order] using hmerges
      have hitems : ∀ item ∈ pageLines.flatten, Framed encode decode item.2 := fun item hitem =>
        hframed item.1 item.2 (hmerges item.1 ▸ mem_shownOf hitem)
      have hlines : lines (pageText encode ⟨pageLines, []⟩) = pageLines.map (lineText encode) := by
        rw [pageText]
        show lines (String.join _ ++ "") = _
        rw [String.append_empty]
        exact lines_join hitems
      show (∃ text order, some (pageText encode ⟨pageLines, []⟩) = some text ∧ _) ↔
        true = true ∧ ∀ line ∈ pageLines, line.length ≤ 1
      constructor
      · rintro ⟨text, order, hfile, hread, -⟩
        refine ⟨rfl, fun line hline => ?_⟩
        by_contra hlong
        obtain rfl := Option.some.inj hfile
        obtain ⟨failure, hfailure⟩ := readLines_glued hitems ⟨line, hline, by omega⟩ 0
        rw [hlines, hfailure] at hread
        cases hread
      · rintro ⟨-, hsingle⟩
        refine ⟨_, pageLines.flatten, rfl, ?_, hmerges⟩
        rw [hlines]
        exact readLines_single hitems hsingle 0

end

end LineLog
