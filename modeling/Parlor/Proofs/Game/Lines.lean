import Parlor.Game.Board
import Mathlib.Data.Fin.Basic

/-!
# Markers and lines

A line is a row, a column or a diagonal, and the table of lines holds exactly these. What a board says
about its game is told by them and by the number of markers: it is won by a line, drawn when nine
markers make none, and undecided otherwise.

Placing a marker in a free cell adds one to the markers. A line that was not there before runs through
the new marker, so it belongs to the mover.
-/

namespace Parlor.Game

/-- Cells are counted without repetition. -/
theorem Cell.index_injective {c d : Cell} (h : c.index = d.index) : c = d := by
  obtain ⟨⟨a, ha⟩, ⟨b, hb⟩⟩ := c
  obtain ⟨⟨a', ha'⟩, ⟨b', hb'⟩⟩ := d
  simp only [Cell.index, Fin.mk.injEq] at h
  have hrow : a = a' := by omega
  have hcolumn : b = b' := by omega
  subst hrow hcolumn
  rfl

namespace Board

/-- The number of markers of one player. -/
def count (b : Board) (m : Marker) : Nat := b.cells.count (some m)

/-- A player owns a row, a column or a diagonal. -/
def HasLine (b : Board) (m : Marker) : Prop :=
  (∃ row, ∀ column, b.get (row, column) = some m) ∨ (∃ column, ∀ row, b.get (row, column) = some m) ∨
    (∀ i : Fin 3, b.get (i, i) = some m) ∨ ∀ i : Fin 3, b.get (i, i.rev) = some m

/-- Nobody owns a line, and not all of the nine cells have a marker. -/
structure Undecided (b : Board) : Prop where
  lineless : ∀ m, ¬ b.HasLine m
  unfilled : b.filled < 9

/-- Only the cell that was written changes. -/
theorem get_set (b : Board) (c d : Cell) (m : Option Marker) :
    (b.set c m).get d = if c = d then m else b.get d := by
  by_cases h : c = d
  · subst h
    simp [get, set]
  · have hne : c.index.val ≠ d.index.val := fun heq => h (Cell.index_injective (Fin.ext heq))
    simp [get, set, h, Vector.getElem_set_ne c.index.isLt d.index.isLt hne]

@[simp] theorem get_empty (c : Cell) : empty.get c = none := by simp [get, empty]

@[simp] theorem count_empty (m : Marker) : empty.count m = 0 := by
  simp [count, empty, Vector.count_replicate]

@[simp] theorem filled_empty : empty.filled = 0 := by decide

/-- A marker in a free cell adds one to the markers of its player. -/
theorem count_set_free (b : Board) (c : Cell) (m n : Marker) (hfree : b.get c = none) :
    (b.set c (some m)).count n = b.count n + if m = n then 1 else 0 := by
  have hcell : b.cells[c.index.val] = none := hfree
  simp [count, set, Vector.count_set, hcell]

/-- Every marker belongs to one of the two players. -/
theorem filled_eq_count (b : Board) : b.filled = b.count .x + b.count .o := by
  have hsplit (cells : List (Option Marker)) :
      cells.countP Option.isSome = cells.count (some .x) + cells.count (some .o) := by
    induction cells with
    | nil => rfl
    | cons cell rest ih =>
      rcases cell with _ | _ | _ <;> simp [ih] <;> omega
  rw [filled, hsplit, count, count, Vector.count_toList, Vector.count_toList]

/-- A marker in a free cell adds one to the filled cells. -/
theorem filled_set_free (b : Board) (c : Cell) (m : Marker) (hfree : b.get c = none) :
    (b.set c (some m)).filled = b.filled + 1 := by
  rw [filled_eq_count, filled_eq_count, count_set_free b c m _ hfree, count_set_free b c m _ hfree]
  cases m <;> simp <;> omega

/-- Writing the same marker into a free cell tells two boards apart if they differ. -/
theorem set_free_injective (b b' : Board) (c : Cell) (m : Option Marker)
    (hb : b.get c = none) (hb' : b'.get c = none) (h : b.set c m = b'.set c m) : b = b' := by
  obtain ⟨cells⟩ := b
  obtain ⟨cells'⟩ := b'
  congr 1
  ext1 i hi
  have hset := congrArg (fun b : Board => b.cells[i]) h
  simp only [set, Vector.getElem_set] at hset
  by_cases hc : c.index.val = i
  · subst hc
    exact hb.trans hb'.symm
  · simpa [hc] using hset

/-- Placing succeeds exactly in a free cell of the board, and writes that cell. -/
theorem place_eq_ok_iff (b b' : Board) (x y : Int) (m : Marker) :
    b.place x y m = .ok b' ↔
      ∃ c, cell? x y = some c ∧ b.get c = none ∧ b' = b.set c (some m) := by
  unfold place
  cases hcell : cell? x y with
  | none => simp
  | some c => cases hget : b.get c <;> simp [hget, eq_comm]

/-- Owning a line means filling its three cells. -/
theorem owner?_eq_some_iff (b : Board) (line : Cell × Cell × Cell) (m : Marker) :
    b.owner? line = some m ↔
      b.get line.1 = some m ∧ b.get line.2.1 = some m ∧ b.get line.2.2 = some m := by
  unfold owner?
  cases b.get line.1 <;> cases b.get line.2.1 <;> cases b.get line.2.2 <;> grind

/-- The lines that win are the rows, the columns and the diagonals. -/
theorem hasLine_iff_lines (b : Board) (m : Marker) : b.HasLine m ↔ ∃ line ∈ lines, b.owner? line = some m := by
  have hrev : Fin.rev (0 : Fin 3) = 2 ∧ Fin.rev (1 : Fin 3) = 1 ∧ Fin.rev (2 : Fin 3) = 0 := by decide
  simp [HasLine, lines, owner?_eq_some_iff, Fin.forall_fin_succ, Fin.exists_fin_succ, hrev, or_assoc]

/-- A player who owns a line owns it on every board on which these markers are as well. -/
theorem HasLine.imp {b b' : Board} {m : Marker} (h : ∀ c, b.get c = some m → b'.get c = some m)
    (hline : b.HasLine m) : b'.HasLine m := by
  rcases hline with ⟨row, hrow⟩ | ⟨column, hcolumn⟩ | hfalling | hrising
  · exact .inl ⟨row, fun column => h _ (hrow column)⟩
  · exact .inr (.inl ⟨column, fun row => h _ (hcolumn row)⟩)
  · exact .inr (.inr (.inl fun i => h _ (hfalling i)))
  · exact .inr (.inr (.inr fun i => h _ (hrising i)))

/-- The winner owns a line. -/
theorem hasLine_of_winner? (b : Board) (m : Marker) (h : b.winner? = some m) : b.HasLine m :=
  (b.hasLine_iff_lines m).mpr (List.exists_of_findSome?_eq_some h)

/-- There is no winner exactly when no player owns a line. -/
theorem winner?_eq_none_iff (b : Board) : b.winner? = none ↔ ∀ m, ¬ b.HasLine m := by
  simp only [winner?, List.findSome?_eq_none_iff, hasLine_iff_lines]
  constructor
  · rintro h m ⟨line, hline, howner⟩
    rw [h line hline] at howner
    contradiction
  · intro h line hline
    cases howner : b.owner? line with
    | none => rfl
    | some m => exact absurd ⟨line, hline, howner⟩ (h m)

/-- A line that appears with a marker belongs to the player of that marker. -/
theorem eq_of_hasLine_set (b : Board) (c : Cell) (m n : Marker) (hlineless : ∀ k, ¬ b.HasLine k)
    (hline : (b.set c (some m)).HasLine n) : n = m := by
  by_contra hne
  refine hlineless n (hline.imp fun d hd => ?_)
  rw [get_set] at hd
  by_cases hcd : c = d
  · rw [if_pos hcd, Option.some.injEq] at hd
    exact absurd hd.symm hne
  · rwa [if_neg hcd] at hd

/-- There are at most nine markers on a board. -/
theorem filled_le (b : Board) : b.filled ≤ 9 :=
  Nat.le_trans List.countP_le_length (Nat.le_of_eq b.cells.length_toList)

/-- A board is full exactly when there are nine markers on it. -/
theorem isFull_iff (b : Board) : b.isFull = true ↔ b.filled = 9 := by
  have hcells : b.filled = 9 ↔ ∀ cell ∈ b.cells.toList, cell.isSome = true := by
    rw [← List.countP_eq_length, Vector.length_toList, filled]
  rw [hcells, isFull, Vector.all_eq_true']
  simp only [Vector.mem_toList_iff]

/-- A game goes on while there is no line and a free cell. -/
theorem outcome_eq_inProgress_iff (b : Board) : b.outcome = .inProgress ↔ b.Undecided := by
  have hunfilled : b.isFull = false ↔ b.filled < 9 := by
    rw [Bool.eq_false_iff, ne_eq, isFull_iff]
    exact ⟨Nat.lt_of_le_of_ne b.filled_le, Nat.ne_of_lt⟩
  have hparts : b.outcome = .inProgress ↔ b.winner? = none ∧ b.isFull = false := by
    unfold outcome
    cases b.winner? <;> cases b.isFull <;> simp
  rw [hparts, winner?_eq_none_iff, hunfilled]
  exact ⟨fun h => ⟨h.1, h.2⟩, fun h => ⟨h.lineless, h.unfilled⟩⟩

/-- A game is drawn when nine markers make no line. -/
theorem outcome_eq_draw_iff (b : Board) : b.outcome = .draw ↔ (∀ m, ¬ b.HasLine m) ∧ b.filled = 9 := by
  rw [← winner?_eq_none_iff, ← isFull_iff]
  unfold outcome
  cases b.winner? <;> cases b.isFull <;> simp

/-- A game is won by the owner of its first line. -/
theorem outcome_eq_won_iff (b : Board) (m : Marker) : b.outcome = .won m ↔ b.winner? = some m := by
  unfold outcome
  cases b.winner? <;> cases b.isFull <;> simp

/-- The empty board is undecided. -/
theorem undecided_empty : empty.Undecided where
  lineless m h := by simp [HasLine] at h
  unfilled := by decide

end Board

end Parlor.Game
