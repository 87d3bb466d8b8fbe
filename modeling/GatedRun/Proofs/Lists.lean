/-!
# Lists of phases and of notes

Machines keep their threads in lists and let others know things in lists. Here is what changing one
thread does to a list, to a count and to a sum, and what is picked out of one more note.
-/

namespace GatedRun

/-- What is picked out of a list of notes is picked out of the first and then of the rest. -/
theorem filterMap_cons_toList {β γ : Type} (f : β → Option γ) (first : β) (rest : List β) :
    (first :: rest).filterMap f = (f first).toList ++ rest.filterMap f := by
  cases told : f first with
  | none => exact List.filterMap_cons_none told
  | some picked => exact List.filterMap_cons_some told

/-- Changing one item of a list changes a count by what that item adds to it. -/
theorem countP_set_add {β : Type} (test : β → Bool) (items : List β) (index : Nat) (old new : β)
    (at_ : items[index]? = some old) :
    (items.set index new).countP test + (if test old then 1 else 0) =
      items.countP test + (if test new then 1 else 0) := by
  obtain ⟨below, same⟩ := List.getElem?_eq_some_iff.mp at_
  rw [List.countP_set below, same]
  have counted : (if test old then 1 else 0) ≤ items.countP test := by
    split
    next holds => exact List.countP_pos_iff.mpr ⟨old, List.mem_of_getElem? at_, holds⟩
    · exact Nat.zero_le _
  omega

theorem set_eq_self_of_getElem? {β : Type} (items : List β) (index : Nat) (item : β)
    (at_ : items[index]? = some item) : items.set index item = items := by
  obtain ⟨below, rfl⟩ := List.getElem?_eq_some_iff.mp at_
  exact List.set_getElem_self below

/-- An item of a list in which one item has changed: it is that item, or it is as it was. -/
theorem getElem?_set_related {β : Type} (Related : Nat → β → β → Prop) (items : List β)
    (index own : Nat) (item old new : β) (at_ : items[index]? = some item)
    (at_own : items[own]? = some old) (changed : Related own old new)
    (kept : own ≠ index → Related index item item) :
    ∃ item', (items.set own new)[index]? = some item' ∧ Related index item item' := by
  by_cases mine : own = index
  · subst mine
    obtain rfl := Option.some.inj (at_own.symm.trans at_)
    exact ⟨new, List.getElem?_set_self (List.getElem?_eq_some_iff.mp at_).1, changed⟩
  · exact ⟨item, by rw [List.getElem?_set_ne mine, at_], kept mine⟩

/-- An item of a list in which each item of an earlier list is related to that item: it comes from
one of these, or its place is new. -/
theorem getElem?_before {β : Type} (Related : β → β → Prop) (items after : List β) (index : Nat)
    (new : β) (at_ : after[index]? = some new)
    (changed : ∀ item, items[index]? = some item →
      ∃ item', after[index]? = some item' ∧ Related item item') :
    (∃ item, items[index]? = some item ∧ Related item new) ∨ items.length ≤ index := by
  by_cases below : index < items.length
  · obtain ⟨item', held, related⟩ := changed _ (List.getElem?_eq_getElem below)
    obtain rfl := Option.some.inj (held.symm.trans at_)
    exact .inl ⟨_, List.getElem?_eq_getElem below, related⟩
  · exact .inr (Nat.le_of_not_lt below)

/-- Changing the item that is known to be in a place. -/
theorem modify_eq_set_of_getElem? {β : Type} (items : List β) (index : Nat) (item : β)
    (change : β → β) (at_ : items[index]? = some item) :
    items.modify index change = items.set index (change item) := by
  obtain ⟨below, rfl⟩ := List.getElem?_eq_some_iff.mp at_
  apply List.ext_getElem?
  intro other
  rw [List.getElem?_modify, List.getElem?_set]
  split
  next same =>
    subst same
    simp [below]
  · simp

/-! ### Sums -/

/-- The sum of a figure over the items of a list. -/
def sumOver {β : Type} (figure : β → Nat) (items : List β) : Nat :=
  items.foldr (fun item sum => figure item + sum) 0

section SumOver

variable {β : Type} (figure : β → Nat) (items more : List β)

@[simp] theorem sumOver_nil : sumOver figure [] = 0 := rfl

@[simp] theorem sumOver_cons (item : β) :
    sumOver figure (item :: items) = figure item + sumOver figure items := rfl

@[simp] theorem sumOver_append :
    sumOver figure (items ++ more) = sumOver figure items + sumOver figure more := by
  induction items with
  | nil => simp
  | cons item rest ih => simp [ih, Nat.add_assoc]

/-- Changing one item of a list changes a sum by what that item adds to it. -/
theorem sumOver_set_add (index : Nat) (old new : β) (at_ : items[index]? = some old) :
    sumOver figure (items.set index new) + figure old = sumOver figure items + figure new := by
  induction items generalizing index with
  | nil => cases at_
  | cons item rest ih =>
    cases index with
    | zero =>
      cases at_
      simp only [List.set_cons_zero, sumOver_cons]
      omega
    | succ index =>
      have change := ih index at_
      simp only [List.set_cons_succ, sumOver_cons]
      omega

theorem le_sumOver (item : β) (member : item ∈ items) : figure item ≤ sumOver figure items := by
  obtain ⟨before, after, rfl⟩ := List.append_of_mem member
  simp only [sumOver_append, sumOver_cons]
  omega

end SumOver

end GatedRun
