/-!
# Items handed out from either end

What goes through a list one item at a time hands out the items that are left, the first or the last
of them at each step, until none is left.
-/

namespace GatedRun

/-- The items not yet handed out. -/
structure Items (β : Type) where
  remaining : List β
  deriving Repr

namespace Items

variable {β : Type}

def next : Items β → Option β × Items β
  | ⟨[]⟩ => (none, ⟨[]⟩)
  | ⟨item :: rest⟩ => (some item, ⟨rest⟩)

def nextBack (items : Items β) : Option β × Items β :=
  (items.remaining.getLast?, ⟨items.remaining.dropLast⟩)

theorem next_of_some {items rest : Items β} {item : β} (taken : items.next = (some item, rest)) :
    rest.remaining.length < items.remaining.length := by
  obtain ⟨remaining⟩ := items
  cases remaining with
  | nil => simp [next] at taken
  | cons first others =>
    simp only [next, Prod.mk.injEq] at taken
    simp [← taken.2]

theorem nextBack_of_some {items rest : Items β} {item : β}
    (taken : items.nextBack = (some item, rest)) :
    rest.remaining.length < items.remaining.length := by
  simp only [nextBack, Prod.mk.injEq] at taken
  have some := List.length_pos_of_mem (List.mem_of_getLast? taken.1)
  rw [← taken.2, List.length_dropLast]
  omega

/-- Every item up to the end, the first one first. -/
def all (items : Items β) : List β :=
  -- The equation is there for the proof that fewer items remain.
  match _taken : items.next with
  | (none, _) => []
  | (some item, rest) => item :: all rest
  termination_by items.remaining.length
  decreasing_by exact next_of_some (by assumption)

/-- Every item up to the end, the last one first. -/
def reversed (items : Items β) : List β :=
  match _taken : items.nextBack with
  | (none, _) => []
  | (some item, rest) => item :: reversed rest
  termination_by items.remaining.length
  decreasing_by exact nextBack_of_some (by assumption)

end Items

end GatedRun
