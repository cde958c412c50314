import SheetWire.Text.Parts

/-!
# Command lines

There are three commands: `convert` writes the schemes and data files of a workbook, `scheme` prints
its schemes, and `decode` prints a data file with its values. Options are written `--name value`,
`--name=value`, `-n value`, `-nvalue` or `-n=value`; the flag `--verbose` may stand before and after
the name of the command. An option that is unknown, repeated, or without its value makes the whole
command line wrong.
-/

namespace SheetWire

/-- A command with its options. -/
inductive Command where
  | convert (source out data : String)
  | scheme (source : String)
  | decode (source table data : String)
  deriving DecidableEq, Repr

namespace Command

/-- An option: its long name, the letter of its short form, and whether it takes a value. -/
structure OptionForm where
  name : String
  letter : Option Char
  takesValue : Bool

/-- The flag that every command takes. It asks for more to be logged. -/
def verbose : OptionForm :=
  ⟨"verbose", some 'v', false⟩

/-- The workbook that a command reads. -/
def source : OptionForm :=
  ⟨"source", some 's', true⟩

/-- The options of the command with a name, if there is one. -/
def forms? : String → Option (List OptionForm)
  | "convert" => some [verbose, source, ⟨"out", some 'o', true⟩, ⟨"outdata", none, true⟩]
  | "scheme" => some [verbose, source]
  | "decode" => some [verbose, source, ⟨"table", some 't', true⟩, ⟨"data", some 'd', true⟩]
  | _ => none

/-- Options with their values, in the order in which they were given. -/
abbrev Given := List (String × String)

/-- What one argument holds: options with their values, and the name of an option whose value is the
next argument. -/
structure Argument where
  given : Given
  awaits : Option String

/-- The options of an argument such as `-vs=value`, after its dash. -/
def readLetters? (forms : List OptionForm) : List Char → Option Argument
  | [] => some ⟨[], none⟩
  | letter :: rest => do
      let form ← forms.find? fun form => form.letter == some letter
      if form.takesValue then
        match rest with
        | [] => pure ⟨[], some form.name⟩
        | '=' :: value => pure ⟨[(form.name, String.ofList value)], none⟩
        | value => pure ⟨[(form.name, String.ofList value)], none⟩
      else
        let others ← readLetters? forms rest
        pure ⟨(form.name, "") :: others.given, others.awaits⟩

/-- The option of an argument such as `--name=value`, after its dashes. -/
def readLong? (forms : List OptionForm) (text : List Char) : Option Argument := do
  let name := text.takeWhile (· ≠ '=')
  let form ← forms.find? fun form => form.name == String.ofList name
  match text.dropWhile (· ≠ '='), form.takesValue with
  | [], true => pure ⟨[], some form.name⟩
  | [], false => pure ⟨[(form.name, "")], none⟩
  | _ :: value, true => pure ⟨[(form.name, String.ofList value)], none⟩
  | _ :: _, false => none

/-- The options of one argument. No command takes an argument that is not an option. -/
def readArgument? (forms : List OptionForm) (argument : String) : Option Argument :=
  match argument.toList with
  | '-' :: '-' :: text => readLong? forms text
  | '-' :: letter :: rest => readLetters? forms (letter :: rest)
  | _ => none

/-- Whether an argument is written like an option. -/
def looksLikeOption (argument : String) : Bool :=
  match argument.toList with
  | '-' :: _ :: _ => true
  | _ => false

/-- The options of a list of arguments. The mark `--` may end it. -/
def readArguments? (forms : List OptionForm) : List String → Option Given
  | [] => some []
  | argument :: rest =>
      if argument = "--" then if rest = [] then some [] else none
      else do
        let found ← readArgument? forms argument
        match found.awaits, rest with
        | none, rest => do
            let others ← readArguments? forms rest
            pure (found.given ++ others)
        | some _, [] => none
        | some name, value :: rest =>
            if looksLikeOption value then none
            else
              let others ← readArguments? forms rest
              pure (found.given ++ (name, value) :: others)

/-- The options of a list of arguments, none of them given twice. -/
def options? (forms : List OptionForm) (arguments : List String) : Option Given := do
  let given ← readArguments? forms arguments
  if (given.map Prod.fst).Nodup then pure given else none

/-- The path given for an option. No path is empty. -/
def path? (given : Given) (name : String) : Option String := do
  let value ← given.lookup name
  if value = "" then none else pure value

/-- The path given for an option, or another if there is none. -/
def pathOr? (given : Given) (name other : String) : Option String :=
  match given.lookup name with
  | some _ => path? given name
  | none => some other

/-- The command with a name and options. -/
def ofOptions? (name : String) (given : Given) : Option Command :=
  match name with
  | "convert" => do
      let source ← path? given "source"
      let out ← pathOr? given "out" "./out"
      let data ← pathOr? given "outdata" "./out/data"
      pure (.convert source out data)
  | "scheme" => do
      let source ← path? given "source"
      pure (.scheme source)
  | "decode" => do
      let source ← path? given "source"
      let table ← given.lookup "table"
      let data ← path? given "data"
      pure (.decode source table data)
  | _ => none

/-- The command that a list of arguments asks for. After the mark `--` no argument counts as the
name of a command, so the mark may not stand before the name. -/
def ofArguments? (arguments : List String) : Option Command := do
  let leading := arguments.takeWhile looksLikeOption
  let _ ← options? [verbose] leading
  match arguments.dropWhile looksLikeOption with
  | [] => none
  | name :: rest =>
      if "--" ∈ leading then none
      else do
        let forms ← forms? name
        let given ← options? forms rest
        ofOptions? name given

end Command

end SheetWire
