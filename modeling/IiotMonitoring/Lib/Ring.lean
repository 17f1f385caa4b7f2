import Mathlib.Data.List.Basic
import Mathlib.Data.Nat.ModEq
import Mathlib.Logic.Function.Basic

/-!
# Circular buffers and bounded queues

`ringItems` reads the queue out of a circular buffer: `count` cells, starting at `head` and wrapping
at `capacity`. The lemmas say what a write outside the live cells, a write at the tail and an advance
of the head do to it, whatever the cells hold.

`BoundedFifo` is what such a buffer stands for: a queue of bounded length that makes room for a new
item by dropping its oldest, and counts what it dropped.
-/

namespace IiotMonitoring

section RingItems

variable {α : Type}

/-- The cell `offset` places after the head. -/
def ringSlot (capacity head offset : Nat) : Nat := (head + offset) % capacity

/-- The queue a circular buffer holds, oldest first. -/
def ringItems (cells : Nat → α) (capacity head count : Nat) : List α :=
  (List.range count).map fun offset => cells (ringSlot capacity head offset)

@[simp]
theorem length_ringItems (cells : Nat → α) (capacity head count : Nat) :
    (ringItems cells capacity head count).length = count := by
  simp [ringItems]

@[simp]
theorem ringItems_zero (cells : Nat → α) (capacity head : Nat) :
    ringItems cells capacity head 0 = [] := rfl

theorem ringSlot_lt {capacity : Nat} (hcapacity : 0 < capacity) (head offset : Nat) :
    ringSlot capacity head offset < capacity :=
  Nat.mod_lt _ hcapacity

theorem ringSlot_zero {capacity head : Nat} (hhead : head < capacity) :
    ringSlot capacity head 0 = head :=
  Nat.mod_eq_of_lt hhead

theorem ringSlot_advance (capacity head offset : Nat) :
    ringSlot capacity (ringSlot capacity head 1) offset = ringSlot capacity head (offset + 1) := by
  simp [ringSlot, Nat.add_assoc, Nat.add_comm 1 offset]

/-- A whole turn leads back to the head. -/
theorem ringSlot_turn {capacity head : Nat} (hhead : head < capacity) :
    ringSlot capacity head capacity = head := by
  simp [ringSlot, Nat.mod_eq_of_lt hhead]

theorem ringSlot_inj {capacity head left right : Nat} (hleft : left < capacity)
    (hright : right < capacity) (h : ringSlot capacity head left = ringSlot capacity head right) :
    left = right := by
  have hmod : left ≡ right [MOD capacity] := Nat.ModEq.add_left_cancel' head h
  exact hmod.eq_of_lt_of_lt hleft hright

theorem ringItems_congr {cells cells' : Nat → α} {capacity head count : Nat}
    (h : ∀ offset < count, cells (ringSlot capacity head offset) =
      cells' (ringSlot capacity head offset)) :
    ringItems cells capacity head count = ringItems cells' capacity head count :=
  List.map_congr_left fun offset hoffset => h offset (List.mem_range.mp hoffset)

/-- A write outside the live cells is not seen. -/
theorem ringItems_update_of_ne {cells : Nat → α} {capacity head count slot : Nat} (value : α)
    (hslot : ∀ offset < count, ringSlot capacity head offset ≠ slot) :
    ringItems (Function.update cells slot value) capacity head count =
      ringItems cells capacity head count :=
  ringItems_congr fun offset hoffset => Function.update_of_ne (hslot offset hoffset) _ _

theorem ringItems_succ (cells : Nat → α) (capacity head count : Nat) :
    ringItems cells capacity head (count + 1) =
      ringItems cells capacity head count ++ [cells (ringSlot capacity head count)] := by
  simp [ringItems, List.range_succ]

/-- The head of the queue and the queue behind it. -/
theorem ringItems_eq_cons (cells : Nat → α) {capacity head : Nat} (hhead : head < capacity)
    (count : Nat) :
    ringItems cells capacity head (count + 1) =
      cells head :: ringItems cells capacity (ringSlot capacity head 1) count := by
  simp [ringItems, List.range_succ_eq_map, ringSlot_zero hhead, ringSlot_advance,
    Function.comp_def]

/-- **Enqueue.** A write at the tail of a buffer with room appends. -/
theorem ringItems_enqueue (cells : Nat → α) {capacity head count : Nat} (hcount : count < capacity)
    (value : α) :
    ringItems (Function.update cells (ringSlot capacity head count) value) capacity head
        (count + 1) =
      ringItems cells capacity head count ++ [value] := by
  rw [ringItems_succ, ringItems_update_of_ne, Function.update_self]
  intro offset hoffset heq
  exact absurd (ringSlot_inj (by omega) hcount heq) (by omega)

/-- **Dequeue.** Advancing the head drops the oldest item. -/
theorem ringItems_dequeue (cells : Nat → α) {capacity head : Nat} (hhead : head < capacity)
    (count : Nat) :
    ringItems cells capacity (ringSlot capacity head 1) count =
      (ringItems cells capacity head (count + 1)).tail := by
  rw [ringItems_eq_cons cells hhead, List.tail_cons]

/-- **Overwrite.** Writing over the head of a full buffer and advancing drops the oldest item and
appends. -/
theorem ringItems_overwrite (cells : Nat → α) {capacity head : Nat} (hhead : head < capacity)
    (value : α) :
    ringItems (Function.update cells head value) capacity (ringSlot capacity head 1) capacity =
      (ringItems cells capacity head capacity).tail ++ [value] := by
  obtain ⟨count, rfl⟩ : ∃ count, capacity = count + 1 := ⟨capacity - 1, by omega⟩
  have htail : ringSlot (count + 1) (ringSlot (count + 1) head 1) count = head := by
    rw [ringSlot_advance, ringSlot_turn hhead]
  have h := @ringItems_enqueue α cells (count + 1) (ringSlot (count + 1) head 1) count
    (Nat.lt_succ_self count) value
  rw [htail] at h
  rw [h, ringItems_dequeue cells hhead]

end RingItems

/-- A queue of at most `capacity` items, oldest first, with the number of items it dropped to make
room. -/
structure BoundedFifo (capacity : Nat) (α : Type) where
  items : List α
  dropped : Nat
  bounded : items.length ≤ capacity

namespace BoundedFifo

variable {capacity : Nat} {α : Type}

def empty : BoundedFifo capacity α := ⟨[], 0, Nat.zero_le _⟩

/-- Append an item, dropping from the front what no longer fits. -/
def push (fifo : BoundedFifo capacity α) (item : α) : BoundedFifo capacity α where
  items := (fifo.items ++ [item]).drop (fifo.items.length + 1 - capacity)
  dropped := fifo.dropped + (fifo.items.length + 1 - capacity)
  bounded := by simp; omega

/-- Remove the oldest item, if there is one. -/
def pop (fifo : BoundedFifo capacity α) : BoundedFifo capacity α where
  items := fifo.items.tail
  dropped := fifo.dropped
  bounded := by simpa using Nat.le_trans (Nat.sub_le _ 1) fifo.bounded

@[simp]
theorem items_pop (fifo : BoundedFifo capacity α) : fifo.pop.items = fifo.items.tail := rfl

theorem items_push_of_lt (fifo : BoundedFifo capacity α) (item : α)
    (h : fifo.items.length < capacity) : (fifo.push item).items = fifo.items ++ [item] := by
  simp [push, Nat.sub_eq_zero_of_le h]

theorem dropped_push_of_lt (fifo : BoundedFifo capacity α) (item : α)
    (h : fifo.items.length < capacity) : (fifo.push item).dropped = fifo.dropped := by
  simp [push, Nat.sub_eq_zero_of_le h]

/-- **Drop oldest.** A push on a full queue drops exactly its oldest item. -/
theorem items_push_of_full (fifo : BoundedFifo capacity α) (item : α) (hcapacity : 0 < capacity)
    (h : fifo.items.length = capacity) :
    (fifo.push item).items = fifo.items.tail ++ [item] := by
  have hone : fifo.items.length + 1 - capacity = 1 := by omega
  have hne : fifo.items ≠ [] := List.ne_nil_of_length_pos (by omega)
  obtain ⟨oldest, rest, hitems⟩ := List.exists_cons_of_ne_nil hne
  simp only [push, hone]
  simp [hitems]

theorem dropped_push_of_full (fifo : BoundedFifo capacity α) (item : α)
    (h : fifo.items.length = capacity) : (fifo.push item).dropped = fifo.dropped + 1 := by
  simp [push, h]

end BoundedFifo

end IiotMonitoring
