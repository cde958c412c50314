import SheetWire.Definition.Token
import SheetWire.Slot.Reader

/-!
# Errors

Everything that can go wrong from a definition to a decoded row, as causes; `Error.message` holds
the wording. An error that does not say where it arose can be tagged with a column by
`Error.tag`; one that names a field already stays as it is.
-/

namespace SheetWire

open Text Number

/-- Why the tokens of a definition do not form a type. -/
inductive SyntaxProblem where
  | expected (kind : TokenKind) (found : Token)
  | unexpected (found : Token)
  | missing
  | unknownPrimitive (text : String)
  | enumNumber (text : String)
  | stated (text : String)
  deriving DecidableEq, Repr

/-- The wording of a problem. -/
def SyntaxProblem.message : SyntaxProblem → String
  | .expected kind found => "Expected " ++ kind.describe ++ " but found " ++ found.describe
  | .unexpected found => "Unexpected " ++ found.describe
  | .missing => "Unexpected end of definition"
  | .unknownPrimitive text => "Unknown primitive " ++ quote text
  | .enumNumber text => "Invalid enum value " ++ quote text
  | .stated text => text

/-- A name or number that occurs twice where it may occur once. -/
inductive Duplicate where
  | column (table name : String)
  | subfield (table typeName name : String)
  | member (table typeName name : String)
  | number (table typeName : String) (value : Int64)
  deriving DecidableEq, Repr

/-- The wording of a duplicate. -/
def Duplicate.message : Duplicate → String
  | .column table name => "Duplicate column " ++ quote name ++ " in table " ++ table
  | .subfield table typeName name =>
      "Duplicate field " ++ quote name ++ " in struct " ++ table ++ "." ++ typeName
  | .member table typeName name =>
      "Duplicate member " ++ quote name ++ " in enum " ++ table ++ "." ++ typeName
  | .number table typeName value =>
      "Duplicate value " ++ quote (decimalString value.toInt) ++ " in enum " ++ table ++ "." ++
        typeName

/-- Why a cell cannot be what it is. -/
inductive CellProblem where
  | tooManyValues (typeName : String) (slots values : Nat)
  | notScalar
  | stated (text : String)
  deriving DecidableEq, Repr

/-- The wording of a problem. -/
def CellProblem.message : CellProblem → String
  | .tooManyValues typeName slots values =>
      typeName ++ " has " ++ decimalString slots ++ " slots but the cell has " ++
        decimalString values ++ " values"
  | .notScalar => "cells must be null, a boolean, a number or a string"
  | .stated text => text

/-- Why a row cannot be decoded. -/
inductive DecodeProblem where
  | slot (error : SlotError)
  | trailing (table : String) (index : Nat)
  | noTable (name : String)
  | stated (text : String)
  deriving DecidableEq, Repr

/-- The wording of a problem. -/
def DecodeProblem.message : DecodeProblem → String
  | .slot error => error.message
  | .trailing table index =>
      "Trailing data after the last field of " ++ table ++ " at index " ++ decimalString index
  | .noTable name => "No table named " ++ name
  | .stated text => text

/-- A label as a message names it. -/
def Label.joined (label : Label) : String :=
  label.table ++ "," ++ label.name

/-- What a run can have too little of: stack, where the value at a field would never end, or memory,
where a slot announces more elements than can be asked for. -/
inductive Shortage where
  | stack (label : Label)
  | memory (count : Nat)
  deriving DecidableEq, Repr

/-- The wording of a shortage. -/
def Shortage.message : Shortage → String
  | .stack label => "Endless value in " ++ label.joined
  | .memory count => "No memory for " ++ decimalString count ++ " elements"

/-- What can go wrong. `endless` is no error that a caller is given: the run has too little of
something and gives no answer at all. -/
inductive Error where
  | io
  | json
  | lex (text : String) (column : Nat)
  | parse (problem : SyntaxProblem) (position : Nat)
  | duplicate (which : Duplicate)
  | unresolved (label : Label) (target : TypeKey)
  | unknownEnumKey (label : Label) (key : String)
  | recursiveStruct (label : Label) (typeName : String)
  | headerMismatch (table : String) (names definitions : Nat)
  | malformedCell (label : Label) (raw : String) (problem : CellProblem)
  | inColumn (label : Label) (source : Error)
  | decode (problem : DecodeProblem)
  | endless (shortage : Shortage)
  deriving DecidableEq, Repr

namespace Error

/-- The wording of an error. -/
def message : Error → String
  | .io => "I/O error"
  | .json => "JSON error"
  | .lex text column =>
      "Unrecognized token " ++ display text ++ " at column " ++ decimalString column
  | .parse problem position =>
      "Parse error at token " ++ decimalString position ++ ": " ++ problem.message
  | .duplicate which => which.message
  | .unresolved label target =>
      "Reference not found: " ++ target.table ++ "," ++ target.typeName ++ " in " ++ label.joined
  | .unknownEnumKey label key => "Invalid enum key " ++ display key ++ " for " ++ label.joined
  | .recursiveStruct label typeName =>
      "Struct " ++ typeName ++ " contains itself through " ++ label.joined
  | .headerMismatch table names definitions =>
      "Header rows of " ++ table ++ " differ in length: " ++ decimalString names ++ " names, " ++
        decimalString definitions ++ " definitions"
  | .malformedCell label raw problem =>
      "Malformed cell " ++ display raw ++ " for " ++ label.joined ++ ": " ++ problem.message
  | .inColumn label source => "In " ++ label.joined ++ ": " ++ source.message
  | .decode problem => "Decode error: " ++ problem.message
  | .endless shortage => shortage.message

/-- Whether an error says itself in which field it arose. -/
def namesField : Error → Bool
  | .unresolved _ _ => true
  | .unknownEnumKey _ _ => true
  | .recursiveStruct _ _ => true
  | .malformedCell _ _ _ => true
  | .inColumn _ _ => true
  | .endless _ => true
  | _ => false

/-- An error tagged with the field it arose in, unless it names one already. -/
def tag (label : Label) (error : Error) : Error :=
  if error.namesField then error else .inColumn label error

/-- The innermost error, without the columns it was tagged with. -/
def root : Error → Error
  | .inColumn _ source => root source
  | error => error

/-- An error about a slot. -/
def ofSlot (error : SlotError) : Error :=
  .decode (.slot error)

end Error

end SheetWire
