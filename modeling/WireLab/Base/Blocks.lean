/-!
# Blocks

A list in which some items are heads is made of blocks: each head, and the items behind it
up to the next one. The items before the first head belong to no block. A reader that
goes through the list from front to back extends its last block or begins another
(`blocks_append_head`, `blocks_append_item`).
-/

namespace Base

variable {α : Type} (isHead : α → Bool)

/-- The items before the first head, and the blocks. -/
def blocks : List α → List α × List (α × List α)
  | [] => ([], [])
  | item :: rest =>
      let (leading, later) := blocks rest
      if isHead item then ([], (item, leading) :: later) else (item :: leading, later)

variable {isHead} {items : List α} {item : α}

/-- A head begins a block. -/
theorem blocks_append_head (h : isHead item = true) :
    blocks isHead (items ++ [item]) =
      ((blocks isHead items).1, (blocks isHead items).2 ++ [(item, [])]) := by
  induction items with
  | nil => simp [blocks, h]
  | cons first rest ih =>
      rw [List.cons_append, blocks, blocks, ih]
      cases isHead first <;> rfl

/-- An item before any head. -/
theorem blocks_append_leading (h : isHead item = false) (hnone : (blocks isHead items).2 = []) :
    blocks isHead (items ++ [item]) = ((blocks isHead items).1 ++ [item], []) := by
  induction items with
  | nil => simp [blocks, h]
  | cons first rest ih =>
      cases hfirst : isHead first with
      | true => exact absurd hnone (by simp [blocks, hfirst])
      | false =>
          have hrest : (blocks isHead rest).2 = [] := by simpa [blocks, hfirst] using hnone
          rw [List.cons_append, blocks, blocks, ih hrest]
          simp [hfirst]

/-- An item behind a head is of the last block. -/
theorem blocks_append_item (h : isHead item = false) {before : List (α × List α)} {head : α}
    {body : List α} (hlast : (blocks isHead items).2 = before ++ [(head, body)]) :
    blocks isHead (items ++ [item]) =
      ((blocks isHead items).1, before ++ [(head, body ++ [item])]) := by
  induction items generalizing before with
  | nil => exact absurd hlast (by simp [blocks])
  | cons first rest ih =>
      rw [List.cons_append, blocks, blocks]
      cases hfirst : isHead first with
      | false =>
          have hrest : (blocks isHead rest).2 = before ++ [(head, body)] := by
            simpa [blocks, hfirst] using hlast
          rw [ih hrest]
          rfl
      | true =>
          have hblocks : (first, (blocks isHead rest).1) :: (blocks isHead rest).2 =
              before ++ [(head, body)] := by simpa [blocks, hfirst] using hlast
          cases before with
          | nil =>
              -- The first block is the last.
              obtain ⟨hhead, hnone⟩ := List.cons.inj hblocks
              obtain ⟨rfl, hbody⟩ := Prod.mk.inj hhead
              rw [blocks_append_leading h hnone, hbody]
              rfl
          | cons block before =>
              obtain ⟨rfl, hrest⟩ := List.cons.inj hblocks
              rw [ih hrest]
              rfl

end Base
