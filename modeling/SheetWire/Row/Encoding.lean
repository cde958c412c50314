import SheetWire.Cell
import SheetWire.Row.Width
import SheetWire.Slot.Writer

/-!
# From cells to wire rows

The text of a cell is escaped once; after that every comma in it separates two values. A list or
dictionary is written as the number of its elements and the elements one after another, a struct as
its subfields in order, and an enum as the number of its member. Values that a cell does not supply
are empty.

A struct may refer to itself through a list, so the recursion takes a bound. A run that ends passes
a node at most once with the same text on a way down, and texts only get shorter on it, so the
number of nodes times the length of the text is a bound that no such run reaches.
-/

namespace SheetWire

open Text Number

/-- The slots of a row or of a part of it. -/
abbrev Slots := List (List Char)

/-- The slots that `encode` gives for each element of a list, one after another. -/
def concatSlots {α : Type} (encode : α → Except Error Slots) : List α → Except Error Slots
  | [] => pure []
  | x :: rest => do
      let first ← encode x
      let others ← concatSlots encode rest
      pure (first ++ others)

/-- Consecutive groups of the given lengths. The groups that the list does not supply are shorter,
or empty. -/
def deal {α : Type} : List Nat → List α → List (List α)
  | [], _ => []
  | n :: lengths, list => list.take n :: deal lengths (list.drop n)

/-- The elements that groups of the given lengths hold together. -/
def capacity (lengths : List Nat) : Nat :=
  lengths.foldr (· + ·) 0

/-- The slot of an enum: the number of the member that the text names, and empty for no text. -/
def encodeMember (label : Label) (members : List Member) (text : List Char) : Except Error Slots :=
  if text = [] then pure [[]]
  else match Field.memberValue? members (String.ofList text) with
    | some value => pure [decimal value.toInt]
    | none => throw (.unknownEnumKey label (String.ofList text))

namespace Workspace

/-- The widths of nodes that stand side by side. -/
def widths (workspace : Workspace) : List Node → Except Error (List Nat)
  | [] => pure []
  | node :: rest => do
      let first ← workspace.width node
      let others ← widths workspace rest
      pure (first :: others)

/-- The slots of a node for a text that is already escaped. -/
def encodeWithin (workspace : Workspace) : Nat → Node → List Char → Except Error Slots
  | 0, node, _ => throw (.endless (.stack node.label))
  | bound + 1, node, text =>
      match workspace.shape node with
      | .primitive _ => pure [text]
      | .list element =>
          if text = [] then pure [digits 0]
          else do
            let width ← workspace.width element
            let groups := runs width (text.splitOn ',')
            let slots ← concatSlots
              (fun group => encodeWithin workspace bound element ([','].intercalate group)) groups
            pure (digits groups.length :: slots)
      | .dictionary key value =>
          if text = [] then pure [digits 0]
          else do
            let keyWidth ← workspace.width key
            let valueWidth ← workspace.width value
            let entries := runs (keyWidth + valueWidth) (text.splitOn ',')
            let slots ← concatSlots
              (fun entry => do
                let first ← encodeWithin workspace bound key
                  ([','].intercalate (entry.take keyWidth))
                let second ← encodeWithin workspace bound value
                  ([','].intercalate (entry.drop keyWidth))
                pure (first ++ second)) entries
            pure (digits entries.length :: slots)
      | .struct _ typeName subfields => do
          let widths ← workspace.widths subfields
          let parts := text.splitOn ','
          if capacity widths < parts.length then
            throw (.malformedCell node.label (String.ofList text)
              (.tooManyValues typeName (capacity widths) parts.length))
          else
            concatSlots
              (fun (subfield, group) =>
                encodeWithin workspace bound subfield ([','].intercalate group))
              (subfields.zip (deal widths parts))
      | .enum members => encodeMember node.label members text
      | .unbound target => throw (.unresolved node.label target)

/-- A bound on the recursion over a node with a text or a row of the given length. -/
def recursionBound (workspace : Workspace) (node : Node) (length : Nat) : Nat :=
  (workspace.nodes.length + (node.field.nodes node.place).length + 1) * (length + 2)

/-- The slots of a node for the text of a cell. -/
def encodeText (workspace : Workspace) (node : Node) (text : String) : Except Error Slots :=
  let escaped := escape text.toList
  workspace.encodeWithin (workspace.recursionBound node escaped.length) node escaped

end Workspace

/-- An encoded row: the wire text of every column. -/
structure Row where
  cells : List (List Char)
  deriving DecidableEq, Repr

/-- The row as it is stored: its cells with commas between them. -/
def Row.wire (row : Row) : List Char :=
  [','].intercalate row.cells

namespace Workspace

variable [DateFormat]

/-- The wire text of a cell. -/
def encodeCell (workspace : Workspace) (node : Node) (cell : Cell) : Except Error (List Char) := do
  let slots ← workspace.encodeText node cell.toText
  pure ([','].intercalate slots)

/-- The wire texts of the cells under some columns. A missing cell counts as empty, and cells after
the last column do not count. -/
def encodeCells (workspace : Workspace) : List Node → List Cell → Except Error (List (List Char))
  | [], _ => pure []
  | column :: columns, cells => do
      let first ← (workspace.encodeCell column (cells.headD .empty)).mapError
        (Error.tag column.label)
      let others ← encodeCells workspace columns cells.tail
      pure (first :: others)

/-- A row of the scheme with the given number. -/
def encodeRow (workspace : Workspace) (number : Nat) (cells : List Cell) : Except Error Row := do
  let texts ← workspace.encodeCells (workspace.columns number) cells
  pure ⟨texts⟩

/-- Whether a row of cells is converted: its first cell holds something. -/
def holdsData (cells : List Cell) : Bool :=
  match cells with
  | [] => false
  | first :: _ => !first.isEmpty

/-- The rows of a list one by one. -/
def encodeEach (workspace : Workspace) (number : Nat) : List (List Cell) → Except Error (List Row)
  | [] => pure []
  | cells :: rest => do
      let first ← workspace.encodeRow number cells
      let others ← encodeEach workspace number rest
      pure (first :: others)

/-- The rows of the scheme with the given number, without those whose first cell is empty. -/
def encodeRows (workspace : Workspace) (number : Nat) (rows : List (List Cell)) :
    Except Error (List Row) :=
  workspace.encodeEach number (rows.filter holdsData)

end Workspace

end SheetWire
