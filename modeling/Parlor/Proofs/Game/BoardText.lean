import Parlor.Game.Board
import Parlor.Proofs.Json.Skipping

/-!
# Boards in the store

A board is stored as its text. Reading the text of a board gives the board, so nothing is lost
between two servers that share a store.
-/

namespace Parlor.Game

open Json

namespace Board

/-- A printed value is read as something, whatever follows. -/
def Reads {α : Type} (element : Bytes → Except Fault (α × Bytes)) (v : Value) (a : α) : Prop :=
  ∃ b bs, charBytes v.chars = b :: bs ∧ isBlank b = false ∧ b ≠ 0x5d ∧
    ∀ rest, element (b :: (bs ++ rest)) = .ok (a, rest)

/-- A printed string is read back. -/
theorem reads_text (s : String) : Reads readText (.string s) s := by
  refine ⟨0x22, _, by rw [Value.chars, charBytes_quotedChars], rfl, by decide, fun rest => ?_⟩
  rw [readText, skipBlanks_of_head rfl]
  simp only [if_true, List.append_assoc, List.singleton_append, readString_quoted]

/-- Three printed items are read as an array of three. -/
theorem reads_triple {α : Type} {element : Bytes → Except Fault (α × Bytes)} {u v w : Value} {a b c : α}
    (hu : Reads element u a) (hv : Reads element v b) (hw : Reads element w c) :
    Reads (readTriple element) (.array [u, v, w]) [a, b, c] := by
  obtain ⟨ub, ubs, hubytes, hublank, huclose, huread⟩ := hu
  obtain ⟨vb, vbs, hvbytes, hvblank, hvclose, hvread⟩ := hv
  obtain ⟨wb, wbs, hwbytes, hwblank, hwclose, hwread⟩ := hw
  have hchars : charBytes (Value.array [u, v, w]).chars =
      0x5b :: (ub :: (ubs ++ 0x2c :: (vb :: (vbs ++ 0x2c :: (wb :: (wbs ++ [0x5d])))))) := by
    simp only [Value.chars, itemsTail, charBytes_append, charBytes_cons, hubytes, hvbytes, hwbytes,
      charBytes_nil]
    simp
    rfl
  refine ⟨0x5b, _, hchars, rfl, by decide, fun rest => ?_⟩
  rw [readTriple, skipBlanks_of_head rfl]
  simp only [if_true, List.cons_append, List.append_assoc, readExactly, skipBlanks_of_head hublank,
    if_neg huclose, huread, skipBlanks_of_head (rfl : isBlank 0x2c = false),
    if_neg (by decide : ¬ (0x2c : UInt8) = 0x5d), Bool.false_eq_true, if_false, skipBlanks_of_head hvblank,
    if_neg hvclose, hvread, skipBlanks_of_head hwblank, if_neg hwclose, hwread, List.nil_append,
    skipBlanks_of_head (rfl : isBlank 0x5d = false), bind, Except.bind]
  rfl

/-- The text of a cell stands for the cell. -/
theorem cellOfText_cellText (m : Option Marker) : cellOfText (cellText m) = .ok m := by
  rcases m with _ | _ | _ <;> rfl

/-- The texts of all cells, row by row. -/
def rowTexts (b : Board) : List (List String) := b.rows.map fun row => row.map cellText

/-- A board is made of the cells in its rows. -/
theorem ofCells_rows (b : Board) : ofCells b.rows.flatten = b := by
  obtain ⟨cells⟩ := b
  rw [ofCells, mk.injEq]
  ext1 i hi
  have hcases : i = 0 ∨ i = 1 ∨ i = 2 ∨ i = 3 ∨ i = 4 ∨ i = 5 ∨ i = 6 ∨ i = 7 ∨ i = 8 := by omega
  rw [Vector.getElem_ofFn]
  rcases hcases with rfl | rfl | rfl | rfl | rfl | rfl | rfl | rfl | rfl <;> rfl

/-- The texts of the cells stand for the board. -/
theorem ofRows_rowTexts (b : Board) : ofRows b.rowTexts = .ok b := by
  have hcells (cells : List (Option Marker)) : (cells.map cellText).mapM cellOfText = .ok cells := by
    induction cells with
    | nil => rfl
    | cons m cells ih =>
      rw [List.map_cons, List.mapM_cons, cellOfText_cellText, ih]
      rfl
  rw [ofRows, rowTexts, ← List.map_flatten, hcells]
  exact congrArg Except.ok (ofCells_rows b)

/-- The rows of a printed board are read back. -/
theorem reads_rows (b : Board) : Reads (readTriple (readTriple readText)) b.toJson b.rowTexts :=
  reads_triple (reads_triple (reads_text _) (reads_text _) (reads_text _))
    (reads_triple (reads_text _) (reads_text _) (reads_text _))
    (reads_triple (reads_text _) (reads_text _) (reads_text _))

/-- The items after the first one end with the closing bracket. -/
theorem itemsTail_close (items : List Value) : ∃ cs, itemsTail items = cs ++ [']'] := by
  induction items with
  | nil => exact ⟨[], rfl⟩
  | cons v items ih =>
    obtain ⟨cs, hcs⟩ := ih
    exact ⟨',' :: v.chars ++ cs, by rw [itemsTail, hcs, List.append_assoc]⟩

/-- An array with items stands between brackets. -/
theorem array_between (v : Value) (items : List Value) :
    ∃ cs, (Value.array (v :: items)).chars = '[' :: (cs ++ [']']) := by
  obtain ⟨cs, hcs⟩ := itemsTail_close items
  exact ⟨v.chars ++ cs, by rw [Value.chars, hcs, List.cons_append, List.append_assoc]⟩

/-- A text between brackets has no blanks at its ends. -/
theorem trim_between (cs : List Char) :
    Text.trim (String.ofList ('[' :: (cs ++ [']']))) = String.ofList ('[' :: (cs ++ [']'])) := by
  have hopen : Text.isBlank '[' = false := by decide
  have hclose : Text.isBlank ']' = false := by decide
  rw [Text.trim, Text.trimChars, String.toList_ofList, List.dropWhile_cons_of_neg (by simp [hopen])]
  simp [hclose]

/-- A stored board is read back. -/
theorem ofText_text (b : Board) : ofText b.text = .ok b := by
  obtain ⟨cs, hcs⟩ : ∃ cs, b.toJson.chars = '[' :: (cs ++ [']']) := array_between _ _
  obtain ⟨c, bs, hbytes, -, -, hread⟩ := reads_rows b
  have hread := hread []
  rw [List.append_nil] at hread
  have htext : b.text = String.ofList ('[' :: (cs ++ [']'])) := by rw [text, Value.text, hcs]
  have hne : ¬ (b.text = "" ∨ b.text = "\x7b\x7d") := by
    rw [htext]
    rintro (h | h) <;> simp [← String.toList_inj] at h
  have htrim : Text.trim b.text = b.text := by rw [htext, trim_between]
  rw [ofText, htrim, if_neg hne, text, Value.text, encodeUtf8_ofList, hbytes]
  simp only [readWhole, read, hread, ofRows_rowTexts, bind, Except.bind]
  rfl

end Board

end Parlor.Game
