import Mathlib.Data.List.Dedup
import SheaSymphony.Fallible

/-!
# JSON documents and their decoders

A document as the tree its syntax denotes, bindings of an object in the order
they are written and repeated ones included. Two readers of such trees are
modelled. The first is untyped: an object is a map and its last binding of a
name counts (`get`). The second is typed: a decoder reads a record field by
field, from an object, where a name must not be bound twice and unknown names
are ignored, or from an array in declaration order (`structFields`).

A decoder fails with one error; where a document has several defects, which one
is named first is not part of the model.
-/

inductive Json where
  | null
  | bool (value : Bool)
  | int (value : Int)
  | float (text : String)
  | str (value : String)
  | arr (items : List Json)
  | obj (fields : List (String × Json))

namespace Json

/-! ## Untyped access -/

/-- The value an object binds to `name`; a later binding replaces an earlier
one. -/
def get (name : String) : Json → Option Json
  | obj fields => fields.reverse.lookup name
  | _ => none

def asStr : Json → Option String
  | str value => some value
  | _ => none

def asBool : Json → Option Bool
  | bool value => some value
  | _ => none

def asU64 : Json → Option Nat
  | int value => if 0 ≤ value ∧ value < 18446744073709551616 then some value.toNat else none
  | _ => none

def asArray : Json → Option (List Json)
  | arr items => some items
  | _ => none

/-! ## Typed access -/

inductive DecodeError where
  | invalidType (expected : String)
  | invalidValue (expected : String)
  | invalidLength (length : Nat)
  | missingField (name : String)
  | duplicateField (name : String)
  | custom (message : String)
deriving DecidableEq

abbrev Decoder (α : Type) := Json → Except DecodeError α

/-- What a text parser answers: a tree, or the text of a syntax error; and how it
words a decoder's error. -/
structure Reader where
  parse : String → Except String Json
  explain : DecodeError → String

section

variable {α : Type}

def decodeString : Decoder String
  | str value => .ok value
  | _ => .error (.invalidType "a string")

def decodeNat (bound : Nat) : Decoder Nat
  | int value =>
      if 0 ≤ value ∧ value < bound then .ok value.toNat else .error (.invalidValue "an integer")
  | _ => .error (.invalidType "an integer")

def decodeList (item : Decoder α) : Decoder (List α)
  | arr items => items.mapM item
  | _ => .error (.invalidType "a sequence")

def decodeOption (inner : Decoder α) : Decoder (Option α)
  | null => .ok none
  | value => return some (← inner value)

/-- A variant without content, by its name or as the one binding of that name to
`null`. -/
def decodeVariant (variants : List (String × α)) : Decoder α
  | str name => Fallible.okOr (variants.lookup name) (.invalidValue "a variant")
  | obj [(name, null)] => Fallible.okOr (variants.lookup name) (.invalidValue "a variant")
  | _ => .error (.invalidType "a variant")

/-- The bindings of a record with the given field names; written as an array it
needs its first `least` fields. -/
def structFields (names : List String) (least : Nat) :
    Json → Except DecodeError (List (String × Json))
  | obj fields =>
      match names.find? fun name => 1 < (fields.map Prod.fst).count name with
      | some name => .error (.duplicateField name)
      | none => .ok fields
  | arr items =>
      if least ≤ items.length ∧ items.length ≤ names.length then .ok (names.zip items)
      else .error (.invalidLength items.length)
  | _ => .error (.invalidType "a record")

/-- A field that must be present. -/
def field (fields : List (String × Json)) (name : String) (decode : Decoder α) :
    Except DecodeError α :=
  match fields.lookup name with
  | some value => decode value
  | none => .error (.missingField name)

/-- A field whose absence stands for a default. -/
def fieldOr (fields : List (String × Json)) (name : String) (absent : α) (decode : Decoder α) :
    Except DecodeError α :=
  match fields.lookup name with
  | some value => decode value
  | none => .ok absent

/-- The binding a present value is written as. -/
def present (name : String) (encode : α → Json) (value : Option α) : List (String × Json) :=
  (value.map fun value => (name, encode value)).toList

/-- The bindings of a record of which some are left out. -/
def written (bindings : List (String × Option Json)) : List (String × Json) :=
  bindings.filterMap fun (name, value) => value.map fun value => (name, value)

/-- An optional value that is written even where it is absent. -/
def optional (encode : α → Json) (value : Option α) : Json := value.elim null encode

/-! ## Reading back what was written -/

@[simp] theorem decodeString_str (value : String) : decodeString (str value) = .ok value := rfl

theorem decodeNat_int {bound value : Nat} (h : value < bound) :
    decodeNat bound (int value) = .ok value := by
  have hrange : (0 : Int) ≤ value ∧ (value : Int) < bound := by omega
  rw [decodeNat, if_pos hrange, Int.toNat_natCast]

theorem decodeList_map {encode : α → Json} {decode : Decoder α}
    (h : ∀ a, decode (encode a) = .ok a) (items : List α) :
    decodeList decode (arr (items.map encode)) = .ok items :=
  Fallible.mapM_map_eq_ok h items

theorem lookup_eq_none_of_fresh {fields : List (String × α)} {name : String}
    (h : name ∉ fields.map Prod.fst) : fields.lookup name = none := by
  rw [List.lookup_eq_none_iff]
  intro entry hentry
  rw [bne_iff_ne]
  rintro rfl
  exact h (List.mem_map_of_mem hentry)

theorem get_obj {fields : List (String × Json)} (h : (fields.map Prod.fst).Nodup) (name : String) :
    (obj fields).get name = fields.lookup name := by
  show fields.reverse.lookup name = fields.lookup name
  induction fields with
  | nil => rfl
  | cons entry fields ih =>
      obtain ⟨first, value⟩ := entry
      rw [List.map_cons, List.nodup_cons] at h
      rw [List.reverse_cons, List.lookup_append, ih h.2, List.lookup_cons]
      cases hname : name == first with
      | true =>
          obtain rfl := eq_of_beq hname
          simp [lookup_eq_none_of_fresh h.1]
      | false => simp [List.lookup_cons, hname]

theorem map_fst_written (bindings : List (String × Option Json)) :
    ((written bindings).map Prod.fst).Sublist (bindings.map Prod.fst) := by
  induction bindings with
  | nil => exact List.Sublist.slnil
  | cons binding bindings ih =>
      obtain ⟨name, _ | value⟩ := binding
      · exact ih.trans (List.sublist_cons_self _ _)
      · exact ih.cons_cons name

theorem lookup_written {bindings : List (String × Option Json)}
    (h : (bindings.map Prod.fst).Nodup) (name : String) :
    (written bindings).lookup name = (bindings.lookup name).join := by
  induction bindings with
  | nil => rfl
  | cons binding bindings ih =>
      obtain ⟨first, value⟩ := binding
      rw [List.map_cons, List.nodup_cons] at h
      have hrest := ih h.2
      cases value with
      | some value =>
          rw [show written ((first, some value) :: bindings) = (first, value) :: written bindings
            from rfl, List.lookup_cons, List.lookup_cons]
          split
          · rfl
          · exact hrest
      | none =>
          rw [show written ((first, none) :: bindings) = written bindings from rfl, hrest,
            List.lookup_cons]
          split
          · next hname =>
            obtain rfl := eq_of_beq hname
            rw [lookup_eq_none_of_fresh h.1]
            rfl
          · rfl

theorem field_written {bindings : List (String × Option Json)} (h : (bindings.map Prod.fst).Nodup)
    {name : String} {value : Json} (hvalue : bindings.lookup name = some (some value))
    (decode : Decoder α) : field (written bindings) name decode = decode value := by
  rw [field, lookup_written h, hvalue]
  rfl

theorem decodeOption_optional {encode : α → Json} {decode : Decoder α}
    (h : ∀ a, decode (encode a) = .ok a) (hnull : ∀ a, encode a ≠ null) (value : Option α) :
    decodeOption decode (optional encode value) = .ok value := by
  cases value with
  | none => rfl
  | some value =>
      show decodeOption decode (encode value) = .ok (some value)
      rw [decodeOption, h]
      · rfl
      · exact hnull value

theorem fieldOr_written {bindings : List (String × Option Json)}
    (h : (bindings.map Prod.fst).Nodup) {name : String} {encode : α → Json} {decode : Decoder α}
    (hdecode : ∀ a, decode (encode a) = .ok a) (hnull : ∀ a, encode a ≠ null) {value : Option α}
    (hvalue : bindings.lookup name = some (some (optional encode value))
      ∨ bindings.lookup name = some (value.map encode)) :
    fieldOr (written bindings) name none (decodeOption decode) = .ok value := by
  rw [fieldOr, lookup_written h]
  rcases hvalue with hvalue | hvalue
  · rw [hvalue]
    exact decodeOption_optional hdecode hnull value
  · rw [hvalue]
    cases value with
    | none => rfl
    | some value => exact decodeOption_optional hdecode hnull (some value)

theorem structFields_obj {fields : List (String × Json)} (h : (fields.map Prod.fst).Nodup)
    (names : List String) (least : Nat) : structFields names least (obj fields) = .ok fields := by
  have hnone : (names.find? fun name => decide (1 < (fields.map Prod.fst).count name)) = none := by
    rw [List.find?_eq_none]
    intro name _ hcount
    have := List.nodup_iff_count_le_one.mp h name
    simp only [decide_eq_true_eq] at hcount
    omega
  rw [structFields, hnone]

end

end Json
