import Parlor.Json.Printer
import Parlor.Json.Record
import Parlor.Text.Blank
import Parlor.Text.Quoted

/-!
# The board of tic-tac-toe

Nine cells in three rows, markers that are placed once and never moved, and the eight lines that
win.  A board is stored as three rows of three strings; an empty string is an empty cell.
-/

namespace Parlor.Game

open Json

/-- The sign of a player. -/
inductive Marker where
  | x
  | o
  deriving DecidableEq, Repr

/-- The letter of a marker. -/
def Marker.name : Marker → String
  | .x => "X"
  | .o => "O"

/-- A row and a column of the board. -/
abbrev Cell := Fin 3 × Fin 3

/-- The place of a cell, counted row by row. -/
def Cell.index (c : Cell) : Fin 9 := ⟨3 * c.1.val + c.2.val, by omega⟩

/-- Why a marker cannot be placed, or a board cannot be read. -/
inductive BoardFault where
  | outOfBounds (x y : Int)
  | occupied (x y : Int)
  | badMarker (text : String)
  deriving DecidableEq, Repr

/-- The name of the kind of fault. -/
def BoardFault.name : BoardFault → String
  | .outOfBounds _ _ => "OutOfBounds"
  | .occupied _ _ => "Occupied"
  | .badMarker _ => "BadMarker"

/-- The wording of a fault. -/
def BoardFault.message : BoardFault → String
  | .outOfBounds x y => "cell (" ++ toString x ++ ", " ++ toString y ++ ") is outside the board"
  | .occupied x y => "cell (" ++ toString x ++ ", " ++ toString y ++ ") is already taken"
  | .badMarker text => "unknown cell marker " ++ Text.quoted text

/-- What a board says about its game. -/
inductive Outcome where
  | inProgress
  | won (by_ : Marker)
  | draw
  deriving DecidableEq, Repr

/-- The nine cells, row by row. -/
structure Board where
  cells : Vector (Option Marker) 9
  deriving DecidableEq, Repr

namespace Board

/-- The board without markers. -/
def empty : Board := ⟨Vector.replicate 9 none⟩

/-- The marker in a cell. -/
def get (b : Board) (c : Cell) : Option Marker := b.cells[c.index]

/-- Writes a marker into a cell. -/
def set (b : Board) (c : Cell) (m : Option Marker) : Board := ⟨b.cells.set c.index m⟩

/-- The index of a row or column in the board, if it is in it. -/
def coordinate? (n : Int) : Option (Fin 3) :=
  if h : 0 ≤ n ∧ n < 3 then some ⟨n.toNat, by omega⟩ else none

/-- The cell at a row and a column, if there is one. -/
def cell? (x y : Int) : Option Cell := do return (← coordinate? x, ← coordinate? y)

/-- Places a marker in a free cell. -/
def place (b : Board) (x y : Int) (m : Marker) : Except BoardFault Board :=
  match cell? x y with
  | none => .error (.outOfBounds x y)
  | some c =>
    match b.get c with
    | some _ => .error (.occupied x y)
    | none => .ok (b.set c (some m))

/-- The lines that win: rows, columns, diagonals. -/
def lines : List (Cell × Cell × Cell) :=
  [((0, 0), (0, 1), (0, 2)), ((1, 0), (1, 1), (1, 2)), ((2, 0), (2, 1), (2, 2)),
   ((0, 0), (1, 0), (2, 0)), ((0, 1), (1, 1), (2, 1)), ((0, 2), (1, 2), (2, 2)),
   ((0, 0), (1, 1), (2, 2)), ((0, 2), (1, 1), (2, 0))]

/-- The marker that fills a line. -/
def owner? (b : Board) (line : Cell × Cell × Cell) : Option Marker :=
  match b.get line.1, b.get line.2.1, b.get line.2.2 with
  | some m, some n, some k => if m = n ∧ n = k then some m else none
  | _, _, _ => none

/-- The owner of the first line that is filled. -/
def winner? (b : Board) : Option Marker := lines.findSome? b.owner?

/-- Tests whether no cell is free. -/
def isFull (b : Board) : Bool := b.cells.all Option.isSome

/-- The number of markers on the board. -/
def filled (b : Board) : Nat := b.cells.toList.countP Option.isSome

/-- What the board says about its game. -/
def outcome (b : Board) : Outcome :=
  match b.winner? with
  | some m => .won m
  | none => if b.isFull then .draw else .inProgress

/-- The text of a cell. -/
def cellText : Option Marker → String
  | none => ""
  | some m => m.name

/-- The cells as three rows. -/
def rows (b : Board) : List (List (Option Marker)) :=
  [[b.get (0, 0), b.get (0, 1), b.get (0, 2)],
   [b.get (1, 0), b.get (1, 1), b.get (1, 2)],
   [b.get (2, 0), b.get (2, 1), b.get (2, 2)]]

/-- The JSON form of a board. -/
def toJson (b : Board) : Value :=
  .array (b.rows.map fun row => .array (row.map fun cell => .string (cellText cell)))

/-- The text of a board as it is stored. -/
def text (b : Board) : String := b.toJson.text

/-- The cell that a text stands for. -/
def cellOfText (text : String) : Except BoardFault (Option Marker) :=
  if text = "" then .ok none
  else if text = "X" then .ok (some .x)
  else if text = "O" then .ok (some .o)
  else .error (.badMarker text)

/-- The board of nine cells listed row by row. -/
def ofCells (cells : List (Option Marker)) : Board :=
  ⟨Vector.ofFn fun i => (cells[i.val]?).join⟩

/-- The board of three rows of three texts.  The first text that is no cell decides the fault. -/
def ofRows (rows : List (List String)) : Except BoardFault Board :=
  ofCells <$> rows.flatten.mapM cellOfText

/-- Reads exactly `count` more elements of an array, with `acc` held in reverse. -/
def readExactly {α : Type} (element : Bytes → Except Fault (α × Bytes)) :
    (count : Nat) → (first : Bool) → List α → Bytes → Except Fault (List α × Bytes)
  | 0, _, acc, bs =>
    match skipBlanks bs with
    | [] => .error .truncated
    | b :: rest => if b = 0x5d then .ok (acc.reverse, rest) else .error .malformed
  | count + 1, first, acc, bs =>
    match skipBlanks bs with
    | [] => .error .truncated
    | b :: rest =>
      if b = 0x5d then .error .mistyped
      else if first then do
        let (a, rest) ← element (b :: rest)
        readExactly element count false (a :: acc) rest
      else if b = 0x2c then
        match skipBlanks rest with
        | [] => .error .truncated
        | c :: rest =>
          if c = 0x5d then .error .malformed
          else do
            let (a, rest) ← element (c :: rest)
            readExactly element count false (a :: acc) rest
      else .error .malformed

/-- Reads an array of three elements. -/
def readTriple {α : Type} (element : Bytes → Except Fault (α × Bytes)) (bs : Bytes) :
    Except Fault (List α × Bytes) :=
  match skipBlanks bs with
  | [] => .error .truncated
  | b :: rest =>
    if b = 0x5b then readExactly element 3 true [] rest else .error (refusal b rest)

/-- Reads a board; a text that is no cell makes it one of another shape. -/
def read (bs : Bytes) : Except Fault (Board × Bytes) := do
  let (rows, rest) ← readTriple (readTriple readText) bs
  match ofRows rows with
  | .ok board => .ok (board, rest)
  | .error _ => .error .mistyped

/-- The board in a stored text.  A blank text and an empty object are the empty board. -/
def ofText (text : String) : Except Fault Board :=
  let trimmed := Text.trim text
  if trimmed = "" ∨ trimmed = "\x7b\x7d" then .ok empty
  else readWhole read (encodeUtf8 trimmed)

end Board

end Parlor.Game
