import SheaSymphony.Pieces
import SheaSymphony.WorkpadMarker

/-!
# Singleton blocks of a workpad

A body exchanges the block of a workpad for its own. The exchange leaves the lines of the
workpad around the ones the block stands on, so the entries the block is not in, and the
sections of the canonical entry it is not in.
-/

namespace SheaSymphony.Workpad

open Text

/-- The block of a workpad between what stands around it, and the one put in its place. -/
structure BlockExchange where
  before : String
  replaced : String
  put : String
  after : String
deriving DecidableEq

def blockExchange (block : SingletonBlock) (merged remainder : String) : Option BlockExchange := do
  let put ← markedBlock remainder block.start block.end
  let replaced ← markedBlock merged block.start block.end
  let (before, after) ← cut merged replaced
  return { before, replaced, put, after }

/-- The exchanges that a body makes, each in what the one before it leaves. -/
def exchanges (existing incoming : String) : List BlockExchange :=
  if (splitWorkpadEntries incoming).any isCanonicalWorkpadEntry then
    (blockExchange workspaceAdoption existing incoming).toList
  else
    let (merged, remainder) := replaceSingletonBlock runtimeOwnership existing incoming
    (blockExchange runtimeOwnership existing incoming).toList ++
      (blockExchange workspaceAdoption merged remainder).toList

namespace BlockExchange

/-- The workpad with a block in the place of the exchange. -/
def text (e : BlockExchange) (block : String) : String := e.before ++ block ++ e.after

/-- The marker has its own line in front of the block. -/
def Below (marker : String) (e : BlockExchange) : Prop := ∃ rest, marker ++ "\n" ++ rest = e.before

/-- The lines between the marker and the line the block begins on. -/
def linesInFront (e : BlockExchange) : List String := (terminated e.before).dropLast.tail

/-- The lines that a block stands on, with what stands beside it. -/
def linesWith (e : BlockExchange) (block : String) : List String :=
  terminated (openLine e.before ++ block ++ restOfLine e.after)

def linesBehind (e : BlockExchange) : List String := (terminated e.after).tail

/-- The lines in front of the block in its entry. -/
def entryFront (e : BlockExchange) : List String :=
  e.linesInFront.rtakeWhile fun line => !isSeparator line

/-- The lines behind the block in its entry. -/
def entryBehind (e : BlockExchange) : List String :=
  e.linesBehind.takeWhile fun line => !isSeparator line

/-- The entries that a block stands in. -/
def entriesWith (e : BlockExchange) (block : String) : List String :=
  entriesOfLines (e.entryFront ++ e.linesWith block ++ e.entryBehind)

end BlockExchange

section

variable {marker workpad : String} {e : BlockExchange}

theorem markedBlock_eq_some {text start finish block : String}
    (h : markedBlock text start finish = some block) : ∃ rest, start ++ rest = block := by
  rw [markedBlock] at h
  obtain ⟨⟨before, afterStart⟩, -, h⟩ := Option.bind_eq_some_iff.mp h
  obtain ⟨⟨body, after⟩, -, h⟩ := Option.bind_eq_some_iff.mp h
  rw [← Option.some.inj h, String.append_assoc]
  exact ⟨_, rfl⟩

theorem Fronted.below {start rest : String} (hline : IsLine start)
    (hblock : Text.contains marker start = false)
    (h : Fronted marker (e.text (start ++ rest))) : e.Below marker := by
  have happend : e.before ++ start ++ (rest ++ e.after) = e.text (start ++ rest) := by
    simp only [BlockExchange.text, String.append_assoc]
  have hfree : ∀ tail, e.before ++ start ++ tail ≠ marker := fun tail htail => by
    rw [contains_iff.mpr ⟨e.before, tail, htail⟩] at hblock
    cases hblock
  rcases h with hmarker | ⟨lines, hlines⟩
  · exact absurd (happend.trans hmarker) (hfree _)
  · rcases occurrence_line hline (happend.trans hlines.symm) with ⟨tail, htail⟩ | ⟨tail, htail, -⟩
    · exact absurd htail (hfree tail)
    · exact ⟨tail, htail⟩

theorem BlockExchange.Below.fronted (h : e.Below marker) (block : String) :
    Fronted marker (e.text block) := by
  obtain ⟨rest, hrest⟩ := h
  refine Or.inr ⟨rest ++ block ++ e.after, ?_⟩
  rw [BlockExchange.text, ← hrest]
  simp only [String.append_assoc]

theorem replaceSingletonBlock_cases {block : SingletonBlock} (hline : IsLine block.start)
    (hblock : Text.contains marker block.start = false) (h : Fronted marker workpad)
    (remainder : String) :
    (replaceSingletonBlock block workpad remainder).1 = workpad ∨
      ∃ e, blockExchange block workpad remainder = some e ∧ e.Below marker ∧
        workpad = e.text e.replaced ∧
        (replaceSingletonBlock block workpad remainder).1 = e.text e.put := by
  rw [replaceSingletonBlock, blockExchange]
  cases hput : markedBlock remainder block.start block.end with
  | none => exact Or.inl rfl
  | some put =>
      cases hreplaced : markedBlock workpad block.start block.end with
      | none =>
          left
          cases block.stripWhenMissing <;> rfl
      | some replaced =>
          simp only [replaceFirst]
          cases hcut : cut workpad replaced with
          | none => exact Or.inl rfl
          | some parts =>
              obtain ⟨before, after⟩ := parts
              obtain ⟨rest, rfl⟩ := markedBlock_eq_some hreplaced
              have hworkpad := cut_eq_some hcut
              refine Or.inr ⟨⟨before, block.start ++ rest, put, after⟩, ?_, ?_, hworkpad.symm, rfl⟩
              · simp only [Option.bind_eq_bind, Option.bind_some, hcut]
                rfl
              · rw [← hworkpad] at h
                exact h.below (e := ⟨before, block.start ++ rest, put, after⟩) hline hblock

/-- What the exchanges of a body leave, its blocks leave. -/
theorem replaceSingletonWorkpadBlocks_leave {Holds : String → Prop}
    {Allowed : BlockExchange → Prop} (hmarker : IsMarker marker)
    (hstep : ∀ e : BlockExchange, e.Below marker → Allowed e → Holds (e.text e.replaced) →
      Holds (e.text e.put))
    {incoming : String} (hallowed : ∀ e ∈ exchanges workpad incoming, Allowed e)
    (hfront : Fronted marker workpad) (h : Holds workpad) :
    Fronted marker (replaceSingletonWorkpadBlocks workpad incoming).1 ∧
      Holds (replaceSingletonWorkpadBlocks workpad incoming).1 := by
  have hone : ∀ block ∈ [runtimeOwnership, workspaceAdoption], ∀ {workpad : String} (remainder : String),
      (∀ e ∈ blockExchange block workpad remainder, Allowed e) → Fronted marker workpad →
      Holds workpad → Fronted marker (replaceSingletonBlock block workpad remainder).1 ∧
        Holds (replaceSingletonBlock block workpad remainder).1 := by
    intro block hblock workpad remainder hallowed hfront h
    have hline : IsLine block.start := by
      rcases List.mem_pair.mp hblock with rfl | rfl
      · show '\n' ∉ runtimeOwnership.start.toList
        decide
      · show '\n' ∉ workspaceAdoption.start.toList
        decide
    rcases replaceSingletonBlock_cases hline (hmarker.no_block block hblock) hfront remainder with
      heq | ⟨e, he, hbelow, rfl, heq⟩
    · rw [heq]
      exact ⟨hfront, h⟩
    · rw [heq]
      exact ⟨hbelow.fronted e.put, hstep e hbelow (hallowed e he) h⟩
  rw [exchanges] at hallowed
  rw [replaceSingletonWorkpadBlocks]
  by_cases hcanonical : (splitWorkpadEntries incoming).any isCanonicalWorkpadEntry = true
  · rw [if_pos hcanonical] at hallowed ⊢
    exact hone workspaceAdoption (by simp) incoming (fun e he => hallowed e (Option.mem_toList.mpr he))
      hfront h
  · rw [if_neg hcanonical] at hallowed ⊢
    obtain ⟨hfront, h⟩ := hone runtimeOwnership (by simp) incoming (fun e he =>
      hallowed e (List.mem_append_left _ (Option.mem_toList.mpr he))) hfront h
    exact hone workspaceAdoption (by simp) _ (fun e he =>
      hallowed e (List.mem_append_right _ (Option.mem_toList.mpr he))) hfront h

/-! ## The entries around a block -/

theorem BlockExchange.terminated_text (e : BlockExchange) (block : String) :
    terminated (e.text block) =
      (terminated e.before).dropLast ++ e.linesWith block ++ e.linesBehind := by
  rw [text, String.append_assoc, terminated_open, ← String.append_assoc, terminated_rest,
    ← List.append_assoc, linesWith, linesBehind]

theorem workpadEntries_lines (hmarker : IsMarker marker) (rest : String) :
    workpadEntries marker (marker ++ "\n" ++ rest) =
      entriesOfLines (terminated (marker ++ "\n" ++ rest)).tail := by
  rw [String.append_assoc, workpadEntries_append, splitWorkpadEntries_newline,
    splitWorkpadEntries_eq, entriesOfLines_blockwise.lines, ← String.append_assoc,
    terminated_append, terminated_of_isLine hmarker.isLine, List.singleton_append, List.tail_cons]

theorem workpadEntries_text (hmarker : IsMarker marker) (h : e.Below marker) (block : String) :
    workpadEntries marker (e.text block) =
      entriesOfLines (e.linesInFront ++ e.linesWith block ++ e.linesBehind) := by
  obtain ⟨rest, hrest⟩ := h
  have htext : e.text block = marker ++ "\n" ++ (rest ++ block ++ e.after) := by
    rw [BlockExchange.text, ← hrest]
    simp only [String.append_assoc]
  have hfront : (terminated e.before).dropLast ≠ [] := by
    rw [← hrest, terminated_append, List.dropLast_append_of_ne_nil (terminated_ne_nil rest)]
    exact fun h => terminated_ne_nil marker (List.append_eq_nil_iff.mp h).1
  rw [htext, workpadEntries_lines hmarker, ← htext, e.terminated_text, List.append_assoc,
    List.tail_append_of_ne_nil hfront, ← List.append_assoc, BlockExchange.linesInFront]

theorem entriesOfLines_nil : entriesOfLines [] = [] := by decide

theorem entriesOfLines_front (front lines : List String) :
    entriesOfLines (front ++ lines) =
      entriesOfLines (front.rdropWhile fun line => !isSeparator line) ++
        entriesOfLines ((front.rtakeWhile fun line => !isSeparator line) ++ lines) := by
  rcases rdropWhile_cases (fun line => !isSeparator line) front with
    ⟨hnil, hopen⟩ | ⟨closed, separator, hclosed, hsplit, hseparator⟩
  · rw [hnil, hopen, entriesOfLines_nil, List.nil_append]
  · have hseparator : isSeparator separator = true := by simpa using hseparator
    conv_lhs => rw [hsplit, List.append_assoc, List.cons_append,
      entriesOfLines_separator _ _ hseparator]
    rw [hclosed, entriesOfLines_separator closed [] hseparator, entriesOfLines_nil, List.append_nil]

theorem entriesOfLines_behind (lines behind : List String) :
    entriesOfLines (lines ++ behind) =
      entriesOfLines (lines ++ behind.takeWhile fun line => !isSeparator line) ++
        entriesOfLines (behind.dropWhile fun line => !isSeparator line) := by
  rcases dropWhile_cases (fun line => !isSeparator line) behind with
    ⟨hnil, hopen⟩ | ⟨separator, rest, hdrop, hsplit, hseparator⟩
  · rw [hnil, hopen, entriesOfLines_nil, List.append_nil]
  · have hseparator : isSeparator separator = true := by simpa using hseparator
    have hbegin := entriesOfLines_separator [] rest hseparator
    rw [List.nil_append, entriesOfLines_nil, List.nil_append] at hbegin
    conv_lhs => rw [hsplit, ← List.append_assoc, entriesOfLines_separator _ _ hseparator]
    rw [hdrop, hbegin]

/-- The exchange leaves the entries that the block does not stand in. -/
theorem workpadEntries_around (hmarker : IsMarker marker) (h : e.Below marker) :
    ∃ front behind, ∀ block, workpadEntries marker (e.text block) =
      front ++ e.entriesWith block ++ behind := by
  refine ⟨entriesOfLines (e.linesInFront.rdropWhile fun line => !isSeparator line),
    entriesOfLines (e.linesBehind.dropWhile fun line => !isSeparator line), fun block => ?_⟩
  rw [workpadEntries_text hmarker h, entriesOfLines_behind, List.append_assoc, entriesOfLines_front,
    ← List.append_assoc, BlockExchange.entriesWith, BlockExchange.entryFront,
    BlockExchange.entryBehind]

end

/-! ## The sections around a block -/

/-- The sections of the lines with this heading. -/
def sectionsUnder (heading : String) (lines : List String) : List String :=
  (sectionsFrom [] lines).filter fun t => canonicalSectionKey t == heading

def opensSection (line : String) : Bool := isH3 (trim line)

/-- No line opens a section with the heading. -/
def Lacks (heading : String) (lines : List String) : Prop :=
  ∀ line ∈ lines, opensSection line = true → trim line ≠ heading

/-- Lines without a separator and without the heading. -/
def PlainLines (heading : String) (lines : List String) : Prop :=
  ∀ line ∈ lines, isSeparator line = false ∧ trim line ≠ heading

section

variable {heading : String} {front lines lines' behind : List String}

theorem canonicalSectionKey_mem {canonicalSection : String}
    (h : canonicalSection ∈ sectionsFrom [] lines) (hlines : ∀ line ∈ lines, IsLine line)
    (hkey : canonicalSectionKey canonicalSection ≠ "") :
    ∃ line ∈ lines, trim line = canonicalSectionKey canonicalSection := by
  obtain ⟨block, hblock, rfl⟩ := List.mem_map.mp (List.mem_filter.mp h).1
  have hsubset := (mem_sectionLines hblock fun line hline => absurd hline List.not_mem_nil).1
  rw [canonicalSectionKey_eq, solidLines_paragraph fun line hline => hlines line (hsubset line hline)]
    at hkey ⊢
  cases hsolid : solid block with
  | nil => exact absurd (by rw [hsolid]; rfl) hkey
  | cons first rest =>
      obtain ⟨-, line, hline, htrim⟩ := mem_solid.mp (hsolid ▸ List.mem_cons_self : first ∈ solid block)
      exact ⟨line, hsubset line hline, htrim⟩

theorem sectionsUnder_eq_nil (hheading : isH3 heading = true) (hlines : ∀ line ∈ lines, IsLine line)
    (h : Lacks heading lines) : sectionsUnder heading lines = [] := by
  refine List.filter_eq_nil_iff.mpr fun t ht hkey => ?_
  have hkey : canonicalSectionKey t = heading := beq_iff_eq.mp hkey
  have hne : canonicalSectionKey t ≠ "" := by
    rw [hkey]
    rintro rfl
    cases hheading
  obtain ⟨line, hline, htrim⟩ := canonicalSectionKey_mem ht hlines hne
  rw [hkey] at htrim
  exact h line hline (by rw [opensSection, htrim, hheading]) htrim

theorem sectionsUnder_append {line : String} (h : opensSection line = true)
    (front behind : List String) :
    sectionsUnder heading (front ++ line :: behind) =
      sectionsUnder heading front ++ sectionsUnder heading (line :: behind) := by
  have hfirst := sectionsFrom_append_heading [] [] behind h
  rw [List.nil_append, sectionsFrom_nil, paragraph_nil] at hfirst
  rw [sectionsUnder, sectionsFrom_append_heading [] front behind h, List.filter_append,
    sectionsUnder, sectionsUnder, hfirst]
  rfl

theorem sectionsUnder_behind (lines behind : List String) :
    sectionsUnder heading (lines ++ behind) =
      sectionsUnder heading (lines ++ behind.takeWhile fun line => !opensSection line) ++
        sectionsUnder heading (behind.dropWhile fun line => !opensSection line) := by
  rcases dropWhile_cases (fun line => !opensSection line) behind with
    ⟨hnil, hopen⟩ | ⟨line, rest, hdrop, hsplit, hopens⟩
  · rw [hnil, hopen]
    exact (List.append_nil _).symm
  · conv_lhs => rw [hsplit, ← List.append_assoc, sectionsUnder_append (by simpa using hopens)]
    rw [hdrop]

theorem Lacks.append (hlines : Lacks heading lines) (hbehind : Lacks heading behind) :
    Lacks heading (lines ++ behind) := fun line hline =>
  (List.mem_append.mp hline).elim (hlines line) (hbehind line)

theorem lacks_of_not_opens (h : ∀ line ∈ lines, (!opensSection line) = true) :
    Lacks heading lines := fun line hline hopens => by
  have hcloses := h line hline
  rw [hopens] at hcloses
  cases hcloses

theorem sectionsUnder_of_lacks (hheading : isH3 heading = true)
    (hlines : ∀ line ∈ lines ++ behind, IsLine line) (h : Lacks heading lines) :
    sectionsUnder heading (lines ++ behind) =
      sectionsUnder heading (behind.dropWhile fun line => !opensSection line) := by
  have hbefore := List.takeWhile_prefix (p := fun line => !opensSection line) (l := behind)
  rw [sectionsUnder_behind, sectionsUnder_eq_nil hheading ?_ (h.append (lacks_of_not_opens
    fun _ => List.mem_takeWhile_imp)), List.nil_append]
  exact fun line hline => hlines line (((List.prefix_append_right_inj lines).mpr hbefore).subset hline)

/-- Where no section with the heading is open, lines without the heading leave its sections. -/
theorem sectionsUnder_closed (hheading : isH3 heading = true)
    (hlines : ∀ line ∈ front ++ lines ++ behind, IsLine line) (hlacks : Lacks heading lines)
    (hclosed : ∀ line ∈ front.reverse.find? opensSection, trim line ≠ heading) :
    sectionsUnder heading (front ++ lines ++ behind) =
      sectionsUnder heading front ++
        sectionsUnder heading (behind.dropWhile fun line => !opensSection line) := by
  have hfront : ∀ line ∈ front, IsLine line := fun line hline =>
    hlines line (List.mem_append_left _ (List.mem_append_left _ hline))
  have hopen : Lacks heading (front.rtakeWhile fun line => !opensSection line) :=
    lacks_of_not_opens fun _ => List.mem_rtakeWhile_imp
  have hlast : front.reverse.find? opensSection =
      (front.rdropWhile fun line => !opensSection line).getLast? := by
    rw [List.find?_eq_head?_dropWhile_not, List.rdropWhile, List.getLast?_reverse]
  rcases rdropWhile_cases (fun line => !opensSection line) front with
    ⟨-, hall⟩ | ⟨closed, line, hdrop, hsplit, hopens⟩
  · rw [hall] at hopen
    rw [sectionsUnder_of_lacks hheading hlines (hopen.append hlacks),
      sectionsUnder_eq_nil hheading hfront hopen, List.nil_append]
  · rw [hdrop, List.getLast?_concat] at hlast
    have hopens : opensSection line = true := by simpa using hopens
    generalize (front.rtakeWhile fun line => !opensSection line) = opened at hsplit hopen
    rw [hsplit] at hfront hlines ⊢
    have hlacksOpened : Lacks heading (line :: opened) := by
      intro l hl hopensL
      rcases List.mem_cons.mp hl with rfl | hl
      · exact hclosed l hlast
      · exact hopen l hl hopensL
    have hassoc : closed ++ line :: opened ++ lines ++ behind =
        closed ++ line :: (opened ++ lines ++ behind) := by simp
    rw [hassoc] at hlines ⊢
    rw [sectionsUnder_append hopens, sectionsUnder_append hopens,
      sectionsUnder_eq_nil hheading (fun l hl => hfront l (List.mem_append_right _ hl)) hlacksOpened,
      List.append_nil]
    have hrest := @sectionsUnder_of_lacks heading (line :: opened ++ lines) behind hheading
      (fun l hl => hlines l (List.mem_append_right _ hl)) (hlacksOpened.append hlacks)
    rw [← hrest]
    rfl

/-- Lines that open a section, and none with the heading, leave its sections but for the lines
in front of it. -/
theorem sectionsUnder_opened (hheading : isH3 heading = true)
    (hlines : ∀ line ∈ front ++ lines ++ behind, IsLine line) (hlacks : Lacks heading lines)
    (hopens : lines.any opensSection = true) :
    sectionsUnder heading (front ++ lines ++ behind) =
      sectionsUnder heading (front ++ lines.takeWhile fun line => !opensSection line) ++
        sectionsUnder heading (behind.dropWhile fun line => !opensSection line) := by
  rcases dropWhile_cases (fun line => !opensSection line) lines with
    ⟨hnil, -⟩ | ⟨line, rest, -, hsplit, hopen⟩
  · obtain ⟨line, hline, hopen⟩ := List.any_eq_true.mp hopens
    have hcloses := List.dropWhile_eq_nil_iff.mp hnil line hline
    rw [hopen] at hcloses
    cases hcloses
  have hopen : opensSection line = true := by simpa using hopen
  have hrest : Lacks heading (line :: rest) := fun l hl =>
    hlacks l (hsplit ▸ List.mem_append_right _ hl)
  generalize (lines.takeWhile fun line => !opensSection line) = closed at hsplit ⊢
  have hassoc : front ++ lines ++ behind = front ++ closed ++ line :: (rest ++ behind) := by
    rw [hsplit]
    simp
  rw [hassoc] at hlines ⊢
  rw [sectionsUnder_append hopen]
  have hbehind := @sectionsUnder_of_lacks heading (line :: rest) behind hheading
    (fun l hl => hlines l (List.mem_append_right _ hl)) hrest
  rw [← hbehind]
  rfl

/-! ## The canonical entry around a block -/

/-- Lines of a canonical entry, behind its heading, and the lines they make way for: no section
with the heading is open in front of them, or both end it in the same way. -/
structure Exchangeable (heading : String) (front lines lines' : List String) : Prop where
  behind_heading : front.any (fun line => isH2 (trim line)) = true
  plain : PlainLines heading lines
  plain' : PlainLines heading lines'
  outside : (front.reverse.find? opensSection).map trim ≠ some heading ∨
    lines.any opensSection = true ∧ lines'.any opensSection = true ∧
      (lines.takeWhile fun line => !opensSection line) =
        lines'.takeWhile fun line => !opensSection line

theorem PlainLines.lacks (h : PlainLines heading lines) : Lacks heading lines :=
  fun line hline _ => (h line hline).2

theorem sectionBody_append (h : front.any (fun line => isH2 (trim line)) = true)
    (lines : List String) : sectionBody (front ++ lines) = sectionBody front ++ lines := by
  induction front with
  | nil => cases h
  | cons first front ih =>
      cases hfirst : startsWith (trim first) "## " with
      | true => simp [sectionBody, hfirst]
      | false =>
          have hskip : ∀ rest, sectionBody (first :: rest) = sectionBody rest := fun rest => by
            simp [sectionBody, hfirst]
          have hother : isH2 (trim first) = false := by rw [isH2, hfirst, Bool.false_and]
          rw [List.any_cons, hother, Bool.false_or] at h
          rw [List.cons_append, hskip, hskip, ih h]

theorem Exchangeable.sectionsUnder_eq (h : Exchangeable heading front lines lines')
    (hheading : isH3 heading = true) (hlines : ∀ line ∈ front ++ lines ++ behind, IsLine line)
    (hlines' : ∀ line ∈ front ++ lines' ++ behind, IsLine line) :
    sectionsUnder heading (sectionBody (front ++ lines' ++ behind)) =
      sectionsUnder heading (sectionBody (front ++ lines ++ behind)) := by
  have hall : ∀ lines : List String, (∀ line ∈ front ++ lines ++ behind, IsLine line) →
      ∀ line ∈ sectionBody front ++ lines ++ behind, IsLine line := fun lines h line hline =>
    h line ((((sectionBody_sublist front).append_right lines).append_right behind).subset hline)
  rw [List.append_assoc, List.append_assoc, sectionBody_append h.behind_heading,
    sectionBody_append h.behind_heading, ← List.append_assoc, ← List.append_assoc]
  rcases h.outside with hclosed | ⟨hopens, hopens', hsame⟩
  · have hclosed : ∀ line ∈ (sectionBody front).reverse.find? opensSection, trim line ≠ heading := by
      intro line hline htrim
      refine hclosed ?_
      obtain ⟨before, hbefore⟩ : sectionBody front <:+ front :=
        (List.drop_suffix _ _).trans (List.dropWhile_suffix _)
      rw [← hbefore, List.reverse_append, List.find?_append, Option.mem_def.mp hline]
      exact congrArg some htrim
    rw [sectionsUnder_closed hheading (hall lines hlines) h.plain.lacks hclosed,
      sectionsUnder_closed hheading (hall lines' hlines') h.plain'.lacks hclosed]
  · rw [sectionsUnder_opened hheading (hall lines hlines) h.plain.lacks hopens,
      sectionsUnder_opened hheading (hall lines' hlines') h.plain'.lacks hopens', hsame]

theorem Exchangeable.map_chomp (h : Exchangeable heading front lines lines') :
    Exchangeable heading (front.map chomp) (lines.map chomp) (lines'.map chomp) := by
  have hplain : ∀ {lines : List String}, PlainLines heading lines → PlainLines heading (lines.map chomp) := by
    intro lines h line hline
    obtain ⟨l, hl, rfl⟩ := List.mem_map.mp hline
    obtain ⟨hseparator, hother⟩ := h l hl
    rw [isSeparator] at hseparator ⊢
    rw [trim_chomp]
    exact ⟨hseparator, hother⟩
  have hopens : opensSection ∘ chomp = opensSection := by
    funext line
    rw [Function.comp_apply, opensSection, trim_chomp, opensSection]
  have hcloses : (fun line => !opensSection line) ∘ chomp = fun line => !opensSection line := by
    funext line
    have hline := congrFun hopens line
    rw [Function.comp_apply] at hline ⊢
    rw [hline]
  refine ⟨?_, hplain h.plain, hplain h.plain', h.outside.imp (fun hclosed => ?_) ?_⟩
  · rw [List.any_map]
    simp only [Function.comp_def, trim_chomp]
    exact h.behind_heading
  · rw [← List.map_reverse, List.find?_map, hopens, Option.map_map]
    have htrim : trim ∘ chomp = trim := funext trim_chomp
    rwa [htrim]
  · rintro ⟨hany, hany', hsame⟩
    rw [List.any_map, List.any_map, hopens, List.takeWhile_map, List.takeWhile_map, hcloses, hsame]
    exact ⟨hany, hany', rfl⟩

theorem isCanonicalWorkpadEntry_congr {entry entry' : String} (h : workpadH2 entry' = workpadH2 entry) :
    isCanonicalWorkpadEntry entry' = isCanonicalWorkpadEntry entry := by
  rw [isCanonicalWorkpadEntry, h, isCanonicalWorkpadEntry]

theorem workpadH2_paragraph (h : front.any (fun line => isH2 (trim line)) = true)
    (hlines : ∀ line ∈ front ++ lines, IsLine line) :
    workpadH2 (paragraph (front ++ lines)) = (solid front).find? isH2 := by
  obtain ⟨line, hline, hheading⟩ := List.any_eq_true.mp h
  have hne : trim line ≠ "" := fun hblank => by
    rw [hblank, isH2_empty] at hheading
    cases hheading
  have hsome : ((solid front).find? isH2).isSome = true :=
    List.find?_isSome.mpr ⟨trim line, mem_solid.mpr ⟨hne, line, hline, rfl⟩, hheading⟩
  rw [workpadH2_eq, solidLines_paragraph hlines, solid_append, List.find?_append,
    Option.or_of_isSome hsome]

theorem canonicalWorkpadSections_paragraph (hne : lines ≠ []) (hlines : ∀ line ∈ lines, IsLine line) :
    canonicalWorkpadSections (paragraph lines) = sectionsFrom [] (sectionBody (lines.map chomp)) := by
  rw [canonicalWorkpadSections_terminated, paragraph, sectionBody_blockwise.trim,
    terminated_join hne hlines]

end

section

variable {marker heading : String} {e : BlockExchange}

/-- The sections of the canonical ones among the entries. -/
def canonicalSections (entries : List String) : List String :=
  (entries.filter isCanonicalWorkpadEntry).flatMap canonicalWorkpadSections

theorem canonicalSections_append (front back : List String) :
    canonicalSections (front ++ back) = canonicalSections front ++ canonicalSections back := by
  rw [canonicalSections, List.filter_append, List.flatMap_append, canonicalSections,
    canonicalSections]

/-- The block is exchanged beside the section with the heading: it stays as it is, or no canonical
entry it stands in has the section, or it stands in the canonical entry outside of the section. -/
def BesideSection (heading : String) (e : BlockExchange) : Prop :=
  e.put = e.replaced ∨
    (∀ block ∈ [e.replaced, e.put],
      heading ∉ (canonicalSections (e.entriesWith block)).map canonicalSectionKey) ∨
    Exchangeable heading e.entryFront (e.linesWith e.replaced) (e.linesWith e.put)

theorem isLine_of_mem_linesWith {block line : String}
    (h : line ∈ e.entryFront ++ e.linesWith block ++ e.entryBehind) : IsLine line := by
  rcases List.mem_append.mp h with h | h
  · rcases List.mem_append.mp h with h | h
    · have hmem := List.mem_of_mem_tail ((List.rtakeWhile_suffix _ _).subset h)
      exact isLine_of_mem_terminated (List.mem_of_mem_dropLast hmem)
    · exact isLine_of_mem_terminated h
  · exact isLine_of_mem_terminated (List.mem_of_mem_tail ((List.takeWhile_prefix _).subset h))

theorem entriesWith_of_plain {block : String} (h : PlainLines heading (e.linesWith block)) :
    e.entriesWith block =
      [paragraph (e.entryFront ++ e.linesWith block ++ e.entryBehind)].filter (· != "") := by
  refine entriesOfLines_of_no_separator fun line hline => ?_
  rcases List.mem_append.mp hline with hline | hline
  · rcases List.mem_append.mp hline with hline | hline
    · simpa using List.mem_rtakeWhile_imp hline
    · exact (h line hline).1
  · simpa using List.mem_takeWhile_imp hline

theorem canonicalSections_paragraph (lines : List String) :
    canonicalSections ([paragraph lines].filter (· != "")) =
      if isCanonicalWorkpadEntry (paragraph lines) then canonicalWorkpadSections (paragraph lines)
      else [] := by
  have hempty : isCanonicalWorkpadEntry "" = false := by decide
  by_cases hblank : paragraph lines = ""
  · rw [hblank, hempty]
    rfl
  · rw [filter_singleton hblank, canonicalSections]
    cases hcanonical : isCanonicalWorkpadEntry (paragraph lines) with
    | false =>
        rw [List.filter_cons_of_neg (Bool.eq_false_iff.mp hcanonical)]
        rfl
    | true =>
        rw [List.filter_cons_of_pos hcanonical, List.filter_nil, List.flatMap_singleton]
        rfl

theorem Exchangeable.entriesWith
    (h : Exchangeable heading e.entryFront (e.linesWith e.replaced) (e.linesWith e.put))
    (hheading : isH3 heading = true) :
    (canonicalSections (e.entriesWith e.put)).filter (fun t => canonicalSectionKey t == heading) =
      (canonicalSections (e.entriesWith e.replaced)).filter
        fun t => canonicalSectionKey t == heading := by
  have hkind : isCanonicalWorkpadEntry
        (paragraph (e.entryFront ++ e.linesWith e.put ++ e.entryBehind)) =
      isCanonicalWorkpadEntry
        (paragraph (e.entryFront ++ e.linesWith e.replaced ++ e.entryBehind)) := by
    have hlines : ∀ block, ∀ line ∈ e.entryFront ++ (e.linesWith block ++ e.entryBehind),
        IsLine line := by
      intro block line hline
      rw [← List.append_assoc] at hline
      exact isLine_of_mem_linesWith hline
    refine isCanonicalWorkpadEntry_congr ?_
    rw [List.append_assoc, List.append_assoc, workpadH2_paragraph h.behind_heading (hlines e.put),
      workpadH2_paragraph h.behind_heading (hlines e.replaced)]
  have hsections : ∀ block, canonicalWorkpadSections
      (paragraph (e.entryFront ++ e.linesWith block ++ e.entryBehind)) =
      sectionsFrom [] (sectionBody (e.entryFront.map chomp ++ (e.linesWith block).map chomp ++
        e.entryBehind.map chomp)) := by
    intro block
    rw [canonicalWorkpadSections_paragraph (by simp [BlockExchange.linesWith, terminated_ne_nil])
      fun _ => isLine_of_mem_linesWith, List.map_append, List.map_append]
  have hlines : ∀ block, ∀ line ∈ e.entryFront.map chomp ++ (e.linesWith block).map chomp ++
      e.entryBehind.map chomp, IsLine line := by
    intro block line hline
    rw [← List.map_append, ← List.map_append] at hline
    obtain ⟨l, hl, rfl⟩ := List.mem_map.mp hline
    exact (isLine_of_mem_linesWith hl).chomp
  rw [entriesWith_of_plain h.plain, entriesWith_of_plain h.plain', canonicalSections_paragraph,
    canonicalSections_paragraph, hkind]
  split
  · rw [hsections, hsections, ← sectionsUnder, ← sectionsUnder]
    exact h.map_chomp.sectionsUnder_eq hheading (hlines _) (hlines _)
  · rfl

/-- An exchange beside a section leaves the sections under its heading. -/
theorem sections_around (hmarker : IsMarker marker) (hbelow : e.Below marker)
    (hheading : isH3 heading = true) (h : BesideSection heading e) :
    (canonicalSections (workpadEntries marker (e.text e.put))).filter
        (fun t => canonicalSectionKey t == heading) =
      (canonicalSections (workpadEntries marker (e.text e.replaced))).filter
        fun t => canonicalSectionKey t == heading := by
  obtain ⟨front, behind, hentries⟩ := workpadEntries_around hmarker hbelow
  have hleft : (canonicalSections (e.entriesWith e.put)).filter
      (fun t => canonicalSectionKey t == heading) =
      (canonicalSections (e.entriesWith e.replaced)).filter
        fun t => canonicalSectionKey t == heading := by
    rcases h with hsame | hother | hexchange
    · rw [hsame]
    · have hnone : ∀ block ∈ [e.replaced, e.put], (canonicalSections (e.entriesWith block)).filter
          (fun t => canonicalSectionKey t == heading) = [] := fun block hblock =>
        List.filter_eq_nil_iff.mpr fun t ht hkey =>
          hother block hblock (beq_iff_eq.mp hkey ▸ List.mem_map_of_mem ht)
      rw [hnone e.put (by simp), hnone e.replaced (by simp)]
    · exact hexchange.entriesWith hheading
  simp only [hentries, canonicalSections_append, List.filter_append, hleft]

/-! ## The marker -/

/-- The lines that the new block stands on do not show the marker. -/
def HidesMarker (marker : String) (e : BlockExchange) : Prop :=
  contains (openLine e.before ++ e.put ++ restOfLine e.after) marker = false

theorem OneMarker.exchange (hmarker : IsMarker marker) (hbelow : e.Below marker)
    (hhides : HidesMarker marker e) (h : OneMarker marker (e.text e.replaced)) :
    OneMarker marker (e.text e.put) := by
  obtain ⟨rest, hrest⟩ := hbelow
  refine ⟨⟨"\n" ++ rest ++ e.put ++ e.after, ?_⟩, fun front back happend => ?_⟩
  · rw [BlockExchange.text, ← hrest]
    simp only [String.append_assoc]
  have hfeed : ¬ IsLine e.before := fun hline => by
    refine hline ?_
    rw [← hrest]
    simp [String.toList_append]
  obtain ⟨above, habove, -⟩ := (openLine_cases e.before).resolve_left fun h => hfeed h.2
  have htext : ∀ block, e.text block = above ++ "\n" ++ (openLine e.before ++ block ++ e.after) := by
    intro block
    rw [BlockExchange.text]
    conv_lhs => rw [habove]
    simp only [String.append_assoc]
  rw [htext] at happend
  rcases occurrence_line hmarker.isLine happend with ⟨tail, htail⟩ | ⟨tail, hfront, htail⟩
  · refine h.only front (tail ++ "\n" ++ (openLine e.before ++ e.replaced ++ e.after)) ?_
    rw [htext, ← htail]
    simp only [String.append_assoc]
  exfalso
  have hshown : ∀ rest, tail ++ marker ++ rest ≠ openLine e.before ++ e.put ++ restOfLine e.after :=
    fun rest hrest => by
      rw [HidesMarker, contains_iff.mpr ⟨tail, rest, hrest⟩] at hhides
      cases hhides
  rcases restOfLine_cases e.after with ⟨hafter, -⟩ | ⟨below, hbelow, -⟩
  · rw [← hafter] at hshown
    exact hshown back htail
  · rw [hbelow, ← String.append_assoc, ← String.append_assoc] at htail
    rcases occurrence_line hmarker.isLine htail with ⟨rest, hrest⟩ | ⟨rest, -, hrest⟩
    · exact hshown rest hrest
    · have hother := h.only (above ++ "\n" ++ (openLine e.before ++ e.replaced ++ restOfLine e.after)
        ++ "\n" ++ rest) back (by
          rw [htext]
          conv_rhs => rw [hbelow, ← hrest]
          simp only [String.append_assoc])
      have hchars := congrArg String.toList hother
      simp [String.toList_append] at hchars

end

end SheaSymphony.Workpad
