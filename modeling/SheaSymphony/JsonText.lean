import SheaSymphony.Codes
import SheaSymphony.Json
import SheaSymphony.Occurrences
import SheaSymphony.Pieces

/-!
# JSON documents as text

The compact text of a document: no whitespace between its tokens, and every control
character of a string escaped. An object is then one line that shows where it ends,
whatever the strings in it hold.
-/

namespace Json

open Text

/-- The digit of a value below 16. -/
def hexDigit (value : Nat) : Char :=
  Char.ofNat (if value < 10 then 48 + value else 87 + value)

def escapeChar (c : Char) : List Char :=
  if c = '"' then ['\\', '"']
  else if c = '\\' then ['\\', '\\']
  else if c.toNat = 8 then ['\\', 'b']
  else if c.toNat = 12 then ['\\', 'f']
  else if c = '\n' then ['\\', 'n']
  else if c = '\r' then ['\\', 'r']
  else if c = '\t' then ['\\', 't']
  else if c.toNat < 32 then
    ['\\', 'u', '0', '0', hexDigit (c.toNat / 16), hexDigit (c.toNat % 16)]
  else [c]

def quote (s : String) : String :=
  "\"" ++ String.ofList (s.toList.flatMap escapeChar) ++ "\""

mutual

def render : Json → String
  | null => "null"
  | bool value => if value then "true" else "false"
  | int value => toString value
  | float text => text
  | str value => quote value
  | arr items => "[" ++ join "," (renderItems items) ++ "]"
  | obj fields => "\x7b" ++ join "," (renderFields fields) ++ "\x7d"

def renderItems : List Json → List String
  | [] => []
  | item :: items => render item :: renderItems items

def renderFields : List (String × Json) → List String
  | [] => []
  | binding :: fields => renderField binding :: renderFields fields

def renderField : String × Json → String
  | (name, value) => quote name ++ ":" ++ render value

end

/-! ## One line -/

theorem isLine_append {s t : String} (hs : IsLine s) (ht : IsLine t) : IsLine (s ++ t) := by
  intro hmem
  rw [String.toList_append] at hmem
  rcases List.mem_append.mp hmem with hmem | hmem
  · exact hs hmem
  · exact ht hmem

theorem isLine_join {separator : String} (h : IsLine separator) {parts : List String}
    (hparts : ∀ part ∈ parts, IsLine part) : IsLine (join separator parts) := by
  induction parts with
  | nil => simp [IsLine]
  | cons part parts ih =>
      have hrest := ih fun rest hrest => hparts rest (List.mem_cons_of_mem _ hrest)
      have hpart := hparts part List.mem_cons_self
      cases parts with
      | nil => rwa [join_singleton]
      | cons next parts =>
          rw [join_cons _ (List.cons_ne_nil next parts)]
          exact isLine_append (isLine_append hpart h) hrest

theorem hexDigit_ne_newline {value : Nat} (h : value < 16) : hexDigit value ≠ '\n' := by
  have hall : ∀ digit : Fin 16, hexDigit digit ≠ '\n' := by decide
  exact hall ⟨value, h⟩

theorem escapeChar_isLine (c : Char) : '\n' ∉ escapeChar c := by
  unfold escapeChar
  split
  · decide
  split
  · decide
  split
  · decide
  split
  · decide
  split
  · decide
  split
  · decide
  split
  · decide
  next hfeed _ _ =>
  split
  · next hlow =>
    have hhigh := @hexDigit_ne_newline (c.toNat / 16) (by omega)
    have hrest := @hexDigit_ne_newline (c.toNat % 16) (by omega)
    simp [hhigh.symm, hrest.symm]
  · simpa using fun h => hfeed h.symm

theorem isLine_quote (s : String) : IsLine (quote s) := by
  have hquote : IsLine "\"" := by simp [IsLine]
  refine isLine_append (isLine_append hquote ?_) hquote
  intro hmem
  rw [String.toList_ofList] at hmem
  obtain ⟨c, -, hc⟩ := List.mem_flatMap.mp hmem
  exact escapeChar_isLine c hc

theorem mem_renderFields {fields : List (String × Json)} {part : String}
    (h : part ∈ renderFields fields) : ∃ binding ∈ fields, renderField binding = part := by
  induction fields with
  | nil => cases h
  | cons binding fields ih =>
      rcases List.mem_cons.mp h with rfl | h
      · exact ⟨binding, List.mem_cons_self, rfl⟩
      · obtain ⟨later, hlater, hpart⟩ := ih h
        exact ⟨later, List.mem_cons_of_mem _ hlater, hpart⟩

theorem render_arr (items : List Json) :
    render (arr items) = "[" ++ join "," (renderItems items) ++ "]" := rfl

theorem render_obj (fields : List (String × Json)) :
    render (obj fields) = "\x7b" ++ join "," (renderFields fields) ++ "\x7d" := rfl

theorem isLine_render_obj {fields : List (String × Json)}
    (h : ∀ binding ∈ fields, IsLine (render binding.2)) : IsLine (render (obj fields)) := by
  have hfields : ∀ part ∈ renderFields fields, IsLine part := by
    intro part hpart
    obtain ⟨⟨name, value⟩, hbinding, rfl⟩ := mem_renderFields hpart
    exact isLine_append (isLine_append (isLine_quote name) (by simp [IsLine])) (h _ hbinding)
  rw [render_obj]
  refine isLine_append (isLine_append ?_ (isLine_join ?_ hfields)) ?_
  all_goals simp [IsLine]

theorem isLine_render_str (value : String) : IsLine (render (str value)) :=
  isLine_quote value

theorem isLine_render_null : IsLine (render null) := by
  show IsLine "null"
  simp [IsLine]

theorem isLine_render_nat (n : Nat) : IsLine (render (int n)) := by
  show '\n' ∉ (toString n).toList
  rw [show (toString n).toList = Codes.decimal n from Nat.toList_repr]
  exact Codes.not_mem_decimal (by decide)

theorem isLine_render_bool (value : Bool) : IsLine (render (bool value)) := by
  show IsLine (if value then "true" else "false")
  cases value <;> simp [IsLine]

theorem isLine_render_strings (texts : List String) :
    IsLine (render (arr (texts.map str))) := by
  have hitems : ∀ part ∈ renderItems (texts.map str), IsLine part := by
    induction texts with
    | nil => exact fun part hpart => absurd hpart List.not_mem_nil
    | cons text texts ih =>
        exact List.forall_mem_cons.mpr ⟨isLine_render_str text, ih⟩
  rw [render_arr]
  refine isLine_append (isLine_append ?_ (isLine_join ?_ hitems)) ?_
  all_goals simp [IsLine]

theorem render_obj_suffix (fields : List (String × Json)) :
    ∃ front, render (obj fields) = front ++ "\x7d" :=
  ⟨_, render_obj fields⟩

theorem isTrimmed_render_obj (fields : List (String × Json)) : IsTrimmed (render (obj fields)) := by
  have hends : (render (obj fields)).toList =
      '\x7b' :: (join "," (renderFields fields)).toList ++ ['\x7d'] := by
    rw [render_obj, String.toList_append, String.toList_append]
    rfl
  refine ⟨fun c hc => ?_, fun c hc => ?_⟩
  · rw [hends] at hc
    obtain rfl := Option.some.inj hc
    decide
  · rw [hends, List.getLast?_concat] at hc
    obtain rfl := Option.some.inj hc
    decide

theorem render_obj_cons (name : String) (value : Json) (fields : List (String × Json)) :
    ∃ tail, (render (obj ((name, value) :: fields))).toList =
      '\x7b' :: '"' :: (name.toList.flatMap escapeChar ++ tail) := by
  have hjoin : ∃ tail, (join "," (renderFields ((name, value) :: fields))).toList =
      '"' :: (name.toList.flatMap escapeChar ++ tail) := by
    show ∃ tail, (join "," ((quote name ++ ":" ++ render value) :: renderFields fields)).toList =
      '"' :: (name.toList.flatMap escapeChar ++ tail)
    rw [quote]
    cases hrest : renderFields fields with
    | nil =>
        rw [join_singleton]
        simp only [String.toList_append, String.toList_ofList, List.append_assoc]
        exact ⟨_, rfl⟩
    | cons part parts =>
        rw [join_cons _ (List.cons_ne_nil part parts)]
        simp only [String.toList_append, String.toList_ofList, List.append_assoc]
        exact ⟨_, rfl⟩
  obtain ⟨tail, htail⟩ := hjoin
  rw [render_obj, String.toList_append, String.toList_append, htail]
  simp only [List.cons_append, List.append_assoc]
  exact ⟨_, rfl⟩

theorem render_obj_ne {name name' : String} {c d : Char} {more more' : List Char}
    (hname : name.toList = c :: more) (hname' : name'.toList = d :: more')
    (hc : escapeChar c = [c]) (hd : escapeChar d = [d]) (hne : c ≠ d) (value value' : Json)
    (fields fields' : List (String × Json)) :
    render (obj ((name, value) :: fields)) ≠ render (obj ((name', value') :: fields')) := by
  intro h
  obtain ⟨tail, htail⟩ := render_obj_cons name value fields
  obtain ⟨tail', htail'⟩ := render_obj_cons name' value' fields'
  rw [h, htail', hname, hname', List.flatMap_cons, List.flatMap_cons, hc, hd] at htail
  simp only [List.cons.injEq, List.cons_append, true_and] at htail
  exact hne htail.1.symm

/-! ## What is not escaped -/

theorem hexDigit_isUpper {value : Nat} (h : value < 16) : (hexDigit value).isUpper = false := by
  have hall : ∀ digit : Fin 16, (hexDigit digit).isUpper = false := by decide
  exact hall ⟨value, h⟩

theorem escapeChar_cases (c : Char) :
    escapeChar c = [c]
      ∨ ∃ rest, escapeChar c = '\\' :: rest ∧ ∀ d ∈ '\\' :: rest, d.isUpper = false := by
  unfold escapeChar
  split
  · exact Or.inr ⟨_, rfl, forall_mem_of_all (by decide)⟩
  split
  · exact Or.inr ⟨_, rfl, forall_mem_of_all (by decide)⟩
  split
  · exact Or.inr ⟨_, rfl, forall_mem_of_all (by decide)⟩
  split
  · exact Or.inr ⟨_, rfl, forall_mem_of_all (by decide)⟩
  split
  · exact Or.inr ⟨_, rfl, forall_mem_of_all (by decide)⟩
  split
  · exact Or.inr ⟨_, rfl, forall_mem_of_all (by decide)⟩
  split
  · exact Or.inr ⟨_, rfl, forall_mem_of_all (by decide)⟩
  split
  · next hlow =>
    have hhigh := @hexDigit_isUpper (c.toNat / 16) (by omega)
    have hrest := @hexDigit_isUpper (c.toNat % 16) (by omega)
    have hfront : ∀ d ∈ ['\\', 'u', '0', '0'], d.isUpper = false := forall_mem_of_all (by decide)
    exact Or.inr ⟨_, rfl, List.forall_mem_append.mpr
      ⟨hfront, List.forall_mem_cons.mpr ⟨hhigh, List.forall_mem_singleton.mpr hrest⟩⟩⟩
  · exact Or.inl rfl

section
variable {pattern text : List Char}

theorem prefix_escape_iff (hplain : ∀ c ∈ pattern, escapeChar c = [c]) :
    pattern <+: text.flatMap escapeChar ↔ pattern <+: text := by
  induction pattern generalizing text with
  | nil => simp
  | cons p pattern ih =>
      obtain ⟨hp, hplain⟩ := List.forall_mem_cons.mp hplain
      cases text with
      | nil => simp
      | cons c text =>
          by_cases hc : escapeChar c = [c]
          · rw [List.flatMap_cons, hc, List.singleton_append, List.cons_prefix_cons,
              List.cons_prefix_cons, ih hplain]
          · obtain ⟨rest, hrest, -⟩ := (escapeChar_cases c).resolve_left hc
            rw [List.flatMap_cons, hrest, List.cons_append, List.cons_prefix_cons,
              List.cons_prefix_cons]
            refine iff_of_false ?_ ?_
            · rintro ⟨rfl, -⟩
              exact absurd hp (by decide)
            · rintro ⟨rfl, -⟩
              exact hc hp

/-- A pattern of plain characters that begins with a capital stands in an escaped text where
it stands in the text. -/
theorem infix_escape_iff {p : Char} (hplain : ∀ c ∈ p :: pattern, escapeChar c = [c])
    (hp : p.isUpper = true) : (p :: pattern) <:+: text.flatMap escapeChar ↔ (p :: pattern) <:+: text := by
  have hskip : ∀ {front back : List Char}, (∀ d ∈ front, d.isUpper = false) →
      ((p :: pattern) <:+: front ++ back ↔ (p :: pattern) <:+: back) := by
    intro front back hfront
    induction front with
    | nil => rfl
    | cons d front ih =>
        obtain ⟨hd, hfront⟩ := List.forall_mem_cons.mp hfront
        rw [List.cons_append, List.infix_cons_iff, List.cons_prefix_cons, ih hfront]
        refine or_iff_right ?_
        rintro ⟨rfl, -⟩
        exact absurd (hp.symm.trans hd) (by decide)
  induction text with
  | nil => simp
  | cons c text ih =>
      by_cases hc : escapeChar c = [c]
      · have hprefix : p :: pattern <+: (c :: text).flatMap escapeChar ↔ p :: pattern <+: c :: text :=
          prefix_escape_iff hplain
        rw [List.flatMap_cons, hc, List.singleton_append] at hprefix ⊢
        rw [List.infix_cons_iff, List.infix_cons_iff, hprefix]
        exact or_congr_right ih
      · obtain ⟨rest, hrest, hlow⟩ := (escapeChar_cases c).resolve_left hc
        rw [List.flatMap_cons, hrest, hskip hlow, List.infix_cons_iff, List.cons_prefix_cons]
        refine ih.trans (or_iff_right ?_).symm
        rintro ⟨rfl, -⟩
        exact hc (hplain p List.mem_cons_self)

theorem contains_quote {pattern : String} {p : Char} {rest : List Char}
    (hpattern : pattern.toList = p :: rest) (hplain : ∀ c ∈ p :: rest, escapeChar c = [c])
    (hp : p.isUpper = true) (s : String) : contains (quote s) pattern = contains s pattern := by
  have hquote : '"' ∉ pattern.toList := fun hmem =>
    absurd (hplain '"' (hpattern ▸ hmem)) (by decide)
  have hfirst : p ∉ "\"".toList := fun hmem => by
    obtain rfl := List.mem_singleton.mp hmem
    exact absurd hp (by decide)
  have hnone : contains "\"" pattern ≠ true := fun h =>
    hfirst ((of_decide_eq_true h).subset (hpattern ▸ List.mem_cons_self))
  have hhead : pattern.toList.head? = some p := by rw [hpattern]; rfl
  rw [quote, String.append_assoc, contains_append_of_skip hhead hfirst]
  refine Bool.eq_iff_iff.mpr ((contains_append_of_head (c := '"') rfl hquote).trans ?_)
  rw [or_iff_left hnone, contains, contains, decide_eq_true_iff, decide_eq_true_iff, hpattern,
    String.toList_ofList, infix_escape_iff hplain hp]

end

/-! ## A parser of two documents -/

def pairReader (first second : Json) : Reader where
  parse text :=
    if text = render first then .ok first
    else if text = render second then .ok second
    else .error "trailing characters"
  explain _ := ""

theorem pairReader_first (first second : Json) :
    (pairReader first second).parse (render first) = .ok first := if_pos rfl

theorem pairReader_second {first second : Json} (h : render second ≠ render first) :
    (pairReader first second).parse (render second) = .ok second :=
  (if_neg h).trans (if_pos rfl)

end Json
