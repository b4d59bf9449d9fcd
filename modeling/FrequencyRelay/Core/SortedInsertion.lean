import Mathlib.Data.List.Perm.Basic

/-!
# Lists kept in the order of a key

A new item goes behind every item whose key is not greater, so that items with the
same key stay in the order in which they came.  The key may be replaced by another one
that compares the same with the new item.
-/

namespace FrequencyRelay.SortedInsertion

variable {Item Image : Type*} (key : Item → ℕ)

/-- Insert an item behind all that are not greater. -/
def insertByKey (item : Item) : List Item → List Item
  | [] => [item]
  | head :: tail =>
      if key head ≤ key item then head :: insertByKey item tail
      else item :: head :: tail

/-- No item has a smaller key than one before it. -/
def Ascending (items : List Item) : Prop :=
  items.Pairwise fun first second => key first ≤ key second

variable {key} {item : Item} {items : List Item}

theorem insertByKey_perm (item : Item) (items : List Item) :
    (insertByKey key item items).Perm (item :: items) := by
  induction items with
  | nil => exact .refl _
  | cons head tail ih =>
      rw [insertByKey]
      split
      case isTrue => exact (ih.cons head).trans (.swap item head tail)
      case isFalse => exact .refl _

@[simp]
theorem mem_insertByKey {other : Item} :
    other ∈ insertByKey key item items ↔ other = item ∨ other ∈ items := by
  rw [(insertByKey_perm item items).mem_iff, List.mem_cons]

@[simp]
theorem length_insertByKey :
    (insertByKey key item items).length = items.length + 1 := by
  rw [(insertByKey_perm item items).length_eq, List.length_cons]

/-- An item that is filtered out anyway -/
theorem filter_insertByKey_of_neg {keeps : Item → Bool} (hitem : ¬ keeps item) :
    (insertByKey key item items).filter keeps = items.filter keeps := by
  induction items with
  | nil => exact List.filter_cons_of_neg hitem
  | cons head tail ih =>
      rw [insertByKey]
      split
      case isTrue => rw [List.filter_cons, List.filter_cons, ih]
      case isFalse => exact List.filter_cons_of_neg hitem

theorem ascending_insertByKey (hitems : Ascending key items) :
    Ascending key (insertByKey key item items) := by
  induction items with
  | nil => exact List.pairwise_singleton _ _
  | cons head tail ih =>
      obtain ⟨hhead, htail⟩ := List.pairwise_cons.mp hitems
      rw [insertByKey]
      split
      case isTrue hle =>
        apply List.pairwise_cons.mpr
        refine ⟨?_, ih htail⟩
        intro other hother
        rcases mem_insertByKey.mp hother with rfl | hother
        · exact hle
        · exact hhead other hother
      case isFalse hlt =>
        apply List.pairwise_cons.mpr
        refine ⟨?_, hitems⟩
        intro other hother
        rcases List.mem_cons.mp hother with rfl | hother
        · omega
        · have := hhead other hother
          omega

/-- Only the comparisons with the new item matter. -/
theorem insertByKey_congr {other : Item → ℕ}
    (hsame : ∀ earlier ∈ items, key earlier ≤ key item ↔ other earlier ≤ other item) :
    insertByKey key item items = insertByKey other item items := by
  induction items with
  | nil => rfl
  | cons head tail ih =>
      have htail := ih fun earlier hearlier =>
        hsame earlier (List.mem_cons_of_mem head hearlier)
      rw [insertByKey, insertByKey, htail]
      simp only [hsame head List.mem_cons_self]

/-- An insertion into the images of the items. -/
theorem map_insertByKey {imageKey : Image → ℕ} (image : Item → Image) (item : Item)
    (items : List Item) :
    (insertByKey (imageKey ∘ image) item items).map image =
      insertByKey imageKey (image item) (items.map image) := by
  induction items with
  | nil => rfl
  | cons head tail ih =>
      rw [insertByKey, List.map_cons, insertByKey, ← ih]
      split
      case isTrue hle =>
        rw [Function.comp_apply, Function.comp_apply] at hle
        rw [if_pos hle, List.map_cons]
      case isFalse hlt =>
        rw [Function.comp_apply, Function.comp_apply] at hlt
        rw [if_neg hlt, List.map_cons, List.map_cons]

theorem sublist_insertByKey (item : Item) (items : List Item) :
    items.Sublist (insertByKey key item items) := by
  induction items with
  | nil => exact List.nil_sublist _
  | cons head tail ih =>
      rw [insertByKey]
      split
      case isTrue => exact ih.cons_cons head
      case isFalse => exact List.sublist_cons_self _ _

/-- The new item comes behind one whose key is not greater. -/
theorem pair_sublist_insertByKey {earlier : Item} (hitems : Ascending key items)
    (hearlier : earlier ∈ items) (hle : key earlier ≤ key item) :
    [earlier, item].Sublist (insertByKey key item items) := by
  induction items with
  | nil => cases hearlier
  | cons head tail ih =>
      obtain ⟨hhead, htail⟩ := List.pairwise_cons.mp hitems
      rw [insertByKey]
      rcases List.mem_cons.mp hearlier with rfl | hin
      · rw [if_pos hle]
        apply List.Sublist.cons_cons
        exact List.singleton_sublist.mpr (mem_insertByKey.mpr (.inl rfl))
      · rw [if_pos (Nat.le_trans (hhead earlier hin) hle)]
        exact (ih htail hin).cons head

end FrequencyRelay.SortedInsertion
