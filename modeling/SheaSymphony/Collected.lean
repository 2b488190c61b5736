import SheaSymphony.Keyed

/-!
# Collecting mentions

A list of mentions is collected into elements with distinct keys: the first mention
of a key stands where it was met, and each later one is merged into it. Where a
merge keeps what an element already says of a field, what the collected element says
is what the first mention with a say says (`forall_collect`).
-/

namespace Collected

variable {α β κ : Type*} [DecidableEq κ] {key : α → κ} {merge : α → α → α}

/-! ## One mention -/

theorem push_behind {front back : List α} {first item : α} (hfront : key item ∉ front.map key)
    (hfirst : key first = key item) :
    push key merge (front ++ first :: back) item = front ++ merge first item :: back := by
  induction front with
  | nil => rw [List.nil_append, push, if_pos hfirst, List.nil_append]
  | cons other front ih =>
      rw [List.map_cons, List.mem_cons, not_or] at hfront
      rw [List.cons_append, push, if_neg (Ne.symm hfront.1), ih hfront.2, List.cons_append]

theorem forall_mem_push {P : α → Prop} (hmerge : ∀ a b, P a → P b → P (merge a b)) {items : List α}
    {item : α} (hitems : ∀ a ∈ items, P a) (hitem : P item) : ∀ a ∈ push key merge items item, P a := by
  induction items with
  | nil => simpa [push] using hitem
  | cons first items ih =>
      rw [List.forall_mem_cons] at hitems
      rw [push]
      split
      · exact List.forall_mem_cons.mpr ⟨hmerge first item hitems.1 hitem, hitems.2⟩
      · exact List.forall_mem_cons.mpr ⟨hitems.1, ih hitems.2⟩

theorem forall_mem_collect {P : α → Prop} {mentions : List α} (hmentions : ∀ a ∈ mentions, P a)
    (hmerge : ∀ a b, P a → P b → P (merge a b)) : ∀ a ∈ collect key merge mentions, P a := by
  induction mentions using List.reverseRecOn with
  | nil => exact nofun
  | append_singleton mentions mention ih =>
      rw [List.forall_mem_append] at hmentions
      rw [collect, List.foldl_concat]
      exact forall_mem_push hmerge (ih hmentions.1) (hmentions.2 mention List.mem_cons_self)

section
variable (hkeep : ∀ a b, key (merge a b) = key a)
include hkeep

/-! ## All mentions -/

theorem map_key_foldl_push (mentions : List α) (items : List α) :
    (mentions.foldl (push key merge) items).map key
      = Keyed.upsertKeys (items.map key) (mentions.map key) := by
  induction mentions generalizing items with
  | nil => rfl
  | cons mention mentions ih =>
      rw [List.foldl_cons, ih, map_key_push fun a b _ => hkeep a b, List.map_cons]
      rfl

theorem nodup_collect (mentions : List α) : ((collect key merge mentions).map key).Nodup := by
  rw [collect, map_key_foldl_push hkeep]
  exact Keyed.nodup_upsertKeys List.nodup_nil _

theorem mem_map_key_collect {mentions : List α} {k : κ} :
    k ∈ (collect key merge mentions).map key ↔ k ∈ mentions.map key := by
  rw [collect, map_key_foldl_push hkeep]
  refine ⟨fun h => ?_, fun h => (Keyed.subset_upsertKeys _ _).2 h⟩
  exact (Keyed.mem_upsertKeys h).resolve_left List.not_mem_nil

theorem bind_find?_foldl_push {say : α → Option β} (hsay : ∀ a b, say (merge a b) = (say a).or (say b))
    (mentions : List α) (items : List α) (k : κ) :
    ((mentions.foldl (push key merge) items).find? fun x => decide (key x = k)).bind say
      = ((items.find? fun x => decide (key x = k)).bind say).or
          ((mentions.filter fun x => decide (key x = k)).findSome? say) := by
  induction mentions generalizing items with
  | nil => simp
  | cons mention mentions ih =>
      rw [List.foldl_cons, ih, find?_push fun a b _ => hkeep a b]
      by_cases hmention : key mention = k
      · rw [if_pos hmention, List.filter_cons_of_pos (by simpa using hmention), List.findSome?_cons]
        cases items.find? fun x => decide (key x = k) with
        | none => cases hsaid : say mention <;> simp [hsaid]
        | some item =>
            cases hitem : say item <;> cases hsaid : say mention <;> simp [hsay, hitem, hsaid]
      · rw [if_neg hmention, List.filter_cons_of_neg (by simpa using hmention)]

theorem forall_collect {say : α → Option β} (hsay : ∀ a b, say (merge a b) = (say a).or (say b))
    {P : Option β → Prop} {mentions : List α} :
    (∀ item ∈ collect key merge mentions, P (say item)) ↔
      ∀ k ∈ mentions.map key,
        P ((mentions.filter fun x => decide (key x = k)).findSome? say) := by
  have hfound : ∀ item ∈ collect key merge mentions,
      (mentions.filter fun x => decide (key x = key item)).findSome? say = say item := by
    intro item hitem
    have hbind := bind_find?_foldl_push hkeep hsay mentions [] (key item)
    rw [← collect, Keyed.find?_eq_of_mem (nodup_collect hkeep mentions) hitem] at hbind
    simpa using hbind.symm
  constructor
  · intro h k hk
    obtain ⟨item, hitem, rfl⟩ := List.mem_map.mp ((mem_map_key_collect hkeep).mpr hk)
    rw [hfound item hitem]
    exact h item hitem
  · intro h item hitem
    rw [← hfound item hitem]
    exact h _ ((mem_map_key_collect hkeep).mp (List.mem_map_of_mem hitem))

theorem foldl_push_map {again : α → α} (hagain : ∀ a, key (again a) = key a) {items : List α}
    (hnodup : (items.map key).Nodup) :
    (items.map again).foldl (push key merge) items = items.map fun a => merge a (again a) := by
  suffices h : ∀ back front : List α, ((front ++ back).map key).Nodup →
      (back.map again).foldl (push key merge) (front.map (fun a => merge a (again a)) ++ back)
        = (front ++ back).map fun a => merge a (again a) from h items [] hnodup
  intro back
  induction back with
  | nil => simp
  | cons first back ih =>
      intro front hnodup
      have hfresh : key (again first) ∉ (front.map fun a => merge a (again a)).map key := by
        rw [hagain, List.map_map]
        simp only [Function.comp_def, hkeep]
        rw [List.map_append, List.map_cons, List.nodup_append] at hnodup
        exact fun hmem => hnodup.2.2 _ hmem _ List.mem_cons_self rfl
      rw [List.map_cons, List.foldl_cons, push_behind hfresh (hagain first).symm]
      have hshift := ih (front ++ [first]) (by simpa using hnodup)
      simpa using hshift

end

/-! ## Keeping the first -/

theorem push_first (items : List α) (item : α) :
    push key (fun first _ => first) items item =
      if key item ∈ items.map key then items else items ++ [item] := by
  induction items with
  | nil => rfl
  | cons first items ih =>
      rw [push, ih, List.map_cons]
      by_cases hfirst : key first = key item
      · rw [if_pos hfirst, if_pos (hfirst ▸ List.mem_cons_self)]
      · rw [if_neg hfirst]
        by_cases hmem : key item ∈ items.map key
        · rw [if_pos hmem, if_pos (List.mem_cons_of_mem _ hmem)]
        · rw [if_neg hmem, if_neg (by simpa [Ne.symm hfirst] using hmem), List.cons_append]

variable (key) in
theorem foldl_push_first (mentions items : List α) :
    ∃ added, mentions.foldl (push key fun first _ => first) items = items ++ added
      ∧ added ⊆ mentions := by
  induction mentions generalizing items with
  | nil => exact ⟨[], (List.append_nil items).symm, List.nil_subset _⟩
  | cons mention mentions ih =>
      rw [List.foldl_cons, push_first]
      split
      · obtain ⟨added, heq, hsub⟩ := ih items
        exact ⟨added, heq, List.subset_cons_of_subset _ hsub⟩
      · obtain ⟨added, heq, hsub⟩ := ih (items ++ [mention])
        refine ⟨mention :: added, heq.trans (List.append_cons ..).symm, ?_⟩
        exact List.cons_subset.mpr ⟨List.mem_cons_self, List.subset_cons_of_subset _ hsub⟩

end Collected
