import SheetWire.Proofs.Row.WireForms
import SheetWire.Proofs.Typed.Maps

/-!
# Typed reading against decoding by a scheme

A type reads its values from the slots as a field of the type is decoded: from every reader both
succeed or both fail with the same error about a slot, and both leave the same slots behind them
(`Agree`). The value of the type is the decoded one, with the entries of every dictionary put into a
map one after another (`WireType.ofValue?`). Only decoding asks for the memory of a collection
before it reads the elements, so the two part where there is not enough of it
(`agree_decode_node_iff`). A packed table of one column is read as the values that are decoded from
it (`read_rows_of_decode`), and `typed_reading_agrees` collects what is known of a type.
-/

namespace SheetWire

open Relation

/-- The type that reads the values of a primitive. -/
def Primitive.wireType : Primitive → WireType
  | .int => .int
  | .long => .long
  | .string => .string
  | .float => .float
  | .bool => .bool

/-- Whether a field has the values of a type: a primitive, a list, or a dictionary whose keys are
ordered. -/
inductive Field.ReadAs : Field → WireType → Prop where
  | primitive (label kind) : ReadAs (.primitive label kind) kind.wireType
  | list (label) {element type} :
      ReadAs element type → ReadAs (.list label element) (.list type)
  | dictionary (label) {key value keyType valueType} :
      keyType.isOrdered = true → ReadAs key keyType → ReadAs value valueType →
      ReadAs (.dictionary label key value) (.map keyType valueType)

namespace WireType

/-- Whether fields have the values of a type. No field has numbers of 64 bits with a fraction, and
the keys of a map must be ordered. -/
def isColumnar : WireType → Bool
  | .double => false
  | .list element => element.isColumnar
  | .map key value => key.isOrdered && key.isColumnar && value.isColumnar
  | _ => true

/-- A decoded key and its value as those of a map. -/
def ofPair? {α β γ δ : Type} (key : α → Option γ) (value : β → Option δ) (entry : α × β) :
    Option (γ × δ) := do
  let first ← key entry.1
  let second ← value entry.2
  pure (first, second)

/-- A decoded value as a value of a type. The entries of a dictionary are put into a map one after
another. -/
def ofValue? : (type : WireType) → Value → Option type.Carrier
  | .int, .int value => some value
  | .long, .long value => some value
  | .float, .float value => some value
  | .bool, .bool value => some value
  | .string, .string value => some value
  | .list element, .list items => items.mapM element.ofValue?
  | .map key value, .map entries =>
      (entries.mapM (ofPair? key.ofValue? value.ofValue?)).map (mapOfEntries key.order)
  | _, _ => none

/-- Every columnar type has a field with its values. -/
theorem exists_read_as (label : Label) {type : WireType} (h : type.isColumnar = true) :
    ∃ field : Field, field.ReadAs type := by
  induction type with
  | int => exact ⟨_, .primitive label .int⟩
  | long => exact ⟨_, .primitive label .long⟩
  | float => exact ⟨_, .primitive label .float⟩
  | bool => exact ⟨_, .primitive label .bool⟩
  | string => exact ⟨_, .primitive label .string⟩
  | double => exact nomatch h
  | list element ih =>
      obtain ⟨field, hfield⟩ := ih h
      exact ⟨_, .list label hfield⟩
  | map key value ihkey ihvalue =>
      obtain ⟨hboth, hvalue⟩ := Bool.and_eq_true_iff.mp h
      obtain ⟨hordered, hkey⟩ := Bool.and_eq_true_iff.mp hboth
      obtain ⟨first, hfirst⟩ := ihkey hkey
      obtain ⟨second, hsecond⟩ := ihvalue hvalue
      exact ⟨_, .dictionary label hordered hfirst hsecond⟩

/-! ### Reads that agree -/

/-- Outcomes of two reads that agree: values that `convert` takes to each other, or the same error
about a slot, with the same slots left. -/
inductive Agree {α β : Type} (convert : α → Option β) :
    EStateM.Result Error Reader α → EStateM.Result Error Reader β → Prop where
  | ok {x y} (after) : convert x = some y → Agree convert (.ok x after) (.ok y after)
  | error (problem after) :
      Agree convert (.error (.ofSlot problem) after) (.error (.ofSlot problem) after)

/-- Outcomes of two reads that agree, unless the first asks for more memory than there is. -/
def AgreeUnlessShort {α β : Type} (convert : α → Option β) (result : EStateM.Result Error Reader α)
    (other : EStateM.Result Error Reader β) : Prop :=
  Reading.Short result ∨ Agree convert result other

section Agree

variable {α β γ δ : Type} {convert : α → Option β} {next : γ → Option δ} {reader : Reader}

/-- A read that agrees with another one finishes. -/
theorem Agree.finishes {result : EStateM.Result Error Reader α}
    {other : EStateM.Result Error Reader β} (h : Agree convert result other) :
    Reading.Finishes result := by
  intro shortage after hresult
  cases h with
  | ok => exact nomatch hresult
  | error => exact nomatch hresult

/-- Two reads in a row agree where both do. -/
theorem AgreeUnlessShort.bind {read : Reading Error α} {other : Reading Error β}
    {rest : α → Reading Error γ} {otherRest : β → Reading Error δ}
    (h : AgreeUnlessShort convert (read reader) (other reader))
    (hrest : ∀ x y after, convert x = some y →
      AgreeUnlessShort next (rest x after) (otherRest y after)) :
    AgreeUnlessShort next ((read >>= rest) reader) ((other >>= otherRest) reader) := by
  rcases h with ⟨count, after, hread⟩ | h
  · exact .inl ⟨count, after, Reading.bind_eq_error.mpr (.inl hread)⟩
  · show AgreeUnlessShort next (EStateM.bind read rest reader)
      (EStateM.bind other otherRest reader)
    unfold EStateM.bind
    generalize read reader = first at h ⊢
    generalize other reader = second at h ⊢
    cases h with
    | ok after hconvert => exact hrest _ _ after hconvert
    | error problem after => exact .inr (.error problem after)

/-- Reads agree in other forms of what they give. -/
theorem AgreeUnlessShort.map {make : α → γ} {read : Reading Error α} {other : Reading Error β}
    {convert' : γ → Option β} (h : AgreeUnlessShort convert (read reader) (other reader))
    (hmake : ∀ x, convert' (make x) = convert x) :
    AgreeUnlessShort convert' ((make <$> read) reader) (other reader) := by
  rcases h with ⟨count, after, hread⟩ | h
  · exact .inl ⟨count, after, Reading.map_eq_error.mpr hread⟩
  · refine .inr ?_
    show Agree convert' (EStateM.map make read reader) _
    unfold EStateM.map
    generalize read reader = first at h ⊢
    generalize other reader = second at h ⊢
    cases h with
    | ok after hconvert => exact .ok after ((hmake _).trans hconvert)
    | error problem after => exact .error problem after

/-- A slot is read in one way. -/
theorem agree_slot (read : Reading SlotError α) (reader : Reader) :
    Agree some (Reading.slot read reader) (Reading.slot read reader) := by
  unfold Reading.slot Reading.adapt
  cases read reader with
  | ok x after => exact .ok after rfl
  | error problem after => exact .error problem after

/-- A number of elements is read in one way unless memory has no room for them. -/
theorem agree_announced [Memory] (size : Nat) (reader : Reader) :
    AgreeUnlessShort some (Reading.announced size reader)
      (Reading.slot Reading.count reader) := by
  have h := agree_slot Reading.count reader
  show AgreeUnlessShort some (EStateM.bind (Reading.slot Reading.count) _ reader) _
  unfold EStateM.bind
  generalize Reading.slot Reading.count reader = result at h ⊢
  cases result with
  | error e after => exact .inr h
  | ok count after =>
      by_cases hroom : size * count ≤ Memory.room
      · simp only [if_pos hroom]
        exact .inr h
      · simp only [if_neg hroom]
        exact .inl ⟨count, after, rfl⟩

/-- The reads of a key and of its value agree together where each does. -/
theorem agree_entry {key : Reading Error α} {otherKey : Reading Error β} {value : Reading Error γ}
    {otherValue : Reading Error δ}
    (hkey : AgreeUnlessShort convert (key reader) (otherKey reader))
    (hvalue : ∀ reader, AgreeUnlessShort next (value reader) (otherValue reader)) :
    AgreeUnlessShort (ofPair? convert next)
      ((do
          let first ← key
          let second ← value
          pure (first, second) : Reading Error (α × γ)) reader)
      ((do
          let first ← otherKey
          let second ← otherValue
          pure (first, second) : Reading Error (β × δ)) reader) := by
  refine hkey.bind fun first other after hfirst => ?_
  refine (hvalue after).bind fun second third last hsecond => .inr (.ok last ?_)
  rw [ofPair?, hfirst, hsecond]
  rfl

/-- The same read a number of times agrees where one does. -/
theorem agree_times {read : Reading Error α} {other : Reading Error β}
    (h : ∀ reader, AgreeUnlessShort convert (read reader) (other reader)) (count : Nat)
    (reader : Reader) :
    AgreeUnlessShort (List.mapM convert) (Reading.times read count reader)
      (Reading.times other count reader) := by
  induction count generalizing reader with
  | zero => exact .inr (.ok reader rfl)
  | succ count ih =>
      refine (h reader).bind fun x y after hfirst => ?_
      refine (ih after).bind fun values others last hrest => .inr (.ok last ?_)
      rw [List.mapM_cons, hfirst, hrest]
      rfl

end Agree

/-! ### Values of fields -/

section Fields

variable [Memory] {workspace : Workspace} {field : Field} {type : WireType}

omit [Memory] in
/-- A primitive is decoded as its type is read. -/
theorem agree_primitive (kind : Primitive) (reader : Reader) :
    AgreeUnlessShort kind.wireType.ofValue? (Reading.primitiveValue kind reader)
      (kind.wireType.read reader) := by
  have hslot : ∀ {α : Type} (read : Reading SlotError α),
      AgreeUnlessShort some (Reading.slot read reader) (Reading.slot read reader) :=
    fun read => .inr (agree_slot read reader)
  cases kind with
  | int => exact (hslot Reading.int).map fun _ => rfl
  | long => exact (hslot Reading.long).map fun _ => rfl
  | string => exact (hslot Reading.string).map fun _ => rfl
  | float => exact (hslot Reading.float).map fun _ => rfl
  | bool => exact (hslot Reading.bool).map fun _ => rfl

/-- A field is decoded as its type is read, under any bound that is not below its size. -/
theorem agree_decode_within (h : field.ReadAs type) {place : Place} {bound : Nat}
    (hbound : (field.nodes place).length ≤ bound) (reader : Reader) :
    AgreeUnlessShort type.ofValue? (workspace.decodeWithin bound ⟨place, field⟩ reader)
      (type.read reader) := by
  -- Every step down into a part of the field takes one from the bound and one node from the field.
  induction bound generalizing field type place reader with
  | zero =>
      have hnode := Field.self_mem_nodes place field
      rw [List.length_eq_zero_iff.mp (Nat.le_zero.mp hbound)] at hnode
      exact absurd hnode List.not_mem_nil
  | succ bound ih =>
      cases h with
      | primitive label kind => exact agree_primitive kind reader
      | list label helement =>
          rw [Field.nodes, List.length_cons, Nat.succ_le_succ_iff] at hbound
          refine (agree_announced 1 reader).bind fun count _ after hcount => ?_
          cases hcount
          rw [bind_pure_comp]
          exact (agree_times (ih helement hbound) count after).map fun _ => rfl
      | dictionary label _ hkey hvalue =>
          rw [Field.nodes, List.length_cons, List.length_append, Nat.succ_le_succ_iff] at hbound
          have hkeyBound := (Nat.le_add_right _ _).trans hbound
          have hvalueBound := (Nat.le_add_left _ _).trans hbound
          have hentry := fun reader =>
            agree_entry (ih hkey hkeyBound reader) (ih hvalue hvalueBound)
          refine (agree_announced 2 reader).bind fun count _ after hcount => ?_
          cases hcount
          refine (agree_times hentry count after).bind fun entries others last hentries => ?_
          refine .inr (.ok last ?_)
          rw [ofValue?, hentries]
          rfl

omit [Memory] in
/-- The bound that is taken for a node is not below the size of its field. -/
theorem length_nodes_le_bound (workspace : Workspace) (field : Field) (place : Place)
    (length : Nat) :
    (field.nodes place).length ≤ workspace.recursionBound ⟨place, field⟩ length := by
  unfold Workspace.recursionBound
  refine Nat.le_trans ?_ (Nat.le_mul_of_pos_right _ (Nat.succ_pos _))
  exact Nat.le_succ_of_le (Nat.le_add_left _ _)

/-- A field is decoded as its type is read, unless it asks for more memory than there is. -/
theorem agree_decode_node (workspace : Workspace) (h : field.ReadAs type) (place : Place)
    (reader : Reader) :
    AgreeUnlessShort type.ofValue? (workspace.decodeNode ⟨place, field⟩ reader)
      (type.read reader) :=
  agree_decode_within h (length_nodes_le_bound workspace field place reader.slots.length) reader

/-- A field is decoded as its type is read exactly if decoding does not come to a number of elements
that memory has no room for. -/
theorem agree_decode_node_iff (workspace : Workspace) (h : field.ReadAs type) (place : Place)
    (reader : Reader) :
    Agree type.ofValue? (workspace.decodeNode ⟨place, field⟩ reader) (type.read reader) ↔
      ∀ call, ReflTransGen workspace.ComesTo (⟨place, field⟩, reader) call →
        ¬ workspace.Exceeds call := by
  have hagree := agree_decode_node workspace h place reader
  have hends : ¬ Reading.Endless (workspace.decodeNode ⟨place, field⟩ reader) := by
    rcases hagree with hshort | hagree
    · exact hshort.not_endless
    · exact (Reading.finishes_iff.mp hagree.finishes).1
  have hshort : Reading.Short (workspace.decodeNode ⟨place, field⟩ reader) ↔
      ∃ call, ReflTransGen workspace.ComesTo (⟨place, field⟩, reader) call ∧
        workspace.Exceeds call := Workspace.short_decode_iff hends
  constructor
  · intro hagree call hcall hexceeds
    exact (Reading.finishes_iff.mp hagree.finishes).2 (hshort.mpr ⟨call, hcall, hexceeds⟩)
  · intro hnone
    refine hagree.resolve_left fun hdecode => ?_
    obtain ⟨call, hcall, hexceeds⟩ := hshort.mp hdecode
    exact hnone call hcall hexceeds

/-! ### Tables of one column -/

/-- A row of one column is the value of its column. -/
theorem read_row_of_decode {number : Nat} {table : String} {row : List Char} {values : List Value}
    (hfield : field.ReadAs type) (hscheme : workspace.scheme? number = some ⟨table, [field]⟩)
    (hdecode : workspace.decodeRow number row = .ok values) :
    ∃ decoded read, values = [decoded] ∧ type.ofValue? decoded = some read ∧
      type.read.result (Reader.ofRow row) = .ok read := by
  have hcolumns : workspace.columns number = [⟨⟨number, [0]⟩, field⟩] := by
    rw [Workspace.columns, hscheme]
    rfl
  obtain ⟨after, heach, -⟩ := Workspace.decode_row_eq_ok.mp hdecode
  rw [hcolumns] at heach
  obtain ⟨decoded, others, between, hcolumn, hothers, rfl⟩ := Reading.each_cons_eq_ok.mp heach
  cases hothers
  have hnode := Workspace.decode_column_eq_ok.mp hcolumn
  have hagree := agree_decode_node workspace hfield ⟨number, [0]⟩ (Reader.ofRow row)
  rw [hnode] at hagree
  generalize hread : type.read (Reader.ofRow row) = outcome at hagree
  rcases hagree with ⟨count, last, hshort⟩ | hagree
  · cases hshort
  · cases hagree with
    | ok _ hvalue => exact ⟨decoded, _, rfl, hvalue, Reading.result_eq_ok.mpr ⟨_, hread⟩⟩

/-- The rows of a table of one column are read as their values. -/
theorem read_rows_of_decode {number : Nat} {table : String} {rows : List (List Char)}
    {decoded : List (List Value)} (hfield : field.ReadAs type)
    (hscheme : workspace.scheme? number = some ⟨table, [field]⟩)
    (hdecode : workspace.decodeRows number rows = .ok decoded) :
    ∃ values, type.readRows rows = .ok values ∧
      List.Forall₂ (fun row value => ∃ only, row = [only] ∧ type.ofValue? only = some value)
        decoded values := by
  induction rows generalizing decoded with
  | nil =>
      cases hdecode
      exact ⟨[], rfl, .nil⟩
  | cons row rest ih =>
      rw [Workspace.decodeRows] at hdecode
      obtain ⟨first, hfirst, hdecode⟩ := bind_eq_ok.mp hdecode
      obtain ⟨others, hothers, hdecode⟩ := bind_eq_ok.mp hdecode
      cases hdecode
      obtain ⟨only, value, honly, hvalue, hread⟩ := read_row_of_decode hfield hscheme hfirst
      obtain ⟨values, hrest, hvalues⟩ := ih hothers
      refine ⟨value :: values, ?_, .cons ⟨only, honly, hvalue⟩ hvalues⟩
      rw [readRows, hread, hrest]
      rfl

omit [Memory] in
/-- Reading a value of a type finishes on every text: it asks for no memory in advance. -/
theorem finishes_read (type : WireType) (reader : Reader) :
    Reading.Finishes (type.read reader) := by
  induction type generalizing reader with
  | int | long | float | double | bool | string => exact (agree_slot _ reader).finishes
  | list element ih =>
      refine Reading.finishes_bind.mpr ⟨(agree_slot _ reader).finishes, fun count after _ => ?_⟩
      exact Reading.finishes_times ih count after
  | map key value ihkey ihvalue =>
      refine Reading.finishes_bind.mpr ⟨(agree_slot _ reader).finishes, fun count after _ => ?_⟩
      refine Reading.finishes_bind.mpr ⟨Reading.finishes_times (fun reader => ?_) count after,
        fun entries last _ => Reading.finishes_ok _ last⟩
      refine Reading.finishes_bind.mpr ⟨ihkey reader, fun first between _ => ?_⟩
      exact Reading.finishes_bind.mpr ⟨ihvalue between, fun second last _ =>
        Reading.finishes_ok _ last⟩

/-- Every type that fields have the values of is read as such a field is decoded, unless decoding
comes to a number of elements that memory has no room for. From every reader both give a value, the
same but for the entries of dictionaries, which are put into maps, or both give the same error about
a slot; and the same slots are left. The type itself gives a value or an error on every text. A map
has the keys of the entries in order, each once, and under a key the value of the last entry with
the key. Wherever a packed table of one column is decoded, it is read as the values of its rows. -/
theorem typed_reading_agrees {type : WireType} (h : type.isColumnar = true) :
    (∃ field : Field, field.ReadAs type) ∧
    (∀ key value, type = .map key value → ∀ entries : List (key.Carrier × value.Carrier),
      Ascending key.order (mapOfEntries key.order entries) ∧
      ∀ first second, (first, second) ∈ mapOfEntries key.order entries ↔
        LastWith (fun entry => entry.1 = first) entries (first, second)) ∧
    (∀ reader, Reading.Finishes (type.read reader)) ∧
    ∀ field : Field, field.ReadAs type → ∀ workspace : Workspace,
      (∀ place reader,
        Agree type.ofValue? (workspace.decodeNode ⟨place, field⟩ reader) (type.read reader) ↔
          ∀ call, ReflTransGen workspace.ComesTo (⟨place, field⟩, reader) call →
            ¬ workspace.Exceeds call) ∧
      ∀ number table packed rows, workspace.scheme? number = some ⟨table, [field]⟩ →
        workspace.decodeTable number packed = .ok rows →
        ∃ values, type.readTable packed = .ok values ∧
          List.Forall₂ (fun row value => ∃ only, row = [only] ∧ type.ofValue? only = some value)
            rows values := by
  refine ⟨exists_read_as ⟨"", ""⟩ h, ?_, finishes_read type, fun field hfield workspace => ⟨?_, ?_⟩⟩
  · rintro key value rfl entries
    obtain ⟨hboth, -⟩ := Bool.and_eq_true_iff.mp h
    obtain ⟨_, _⟩ := lawful_order key (Bool.and_eq_true_iff.mp hboth).1
    exact map_of_entries entries
  · exact agree_decode_node_iff workspace hfield
  · exact fun number table packed rows hscheme hdecode =>
      read_rows_of_decode hfield hscheme hdecode

end Fields

/-- A column of numbers under texts. -/
def scores : Field :=
  .dictionary ⟨"Scores", "scores"⟩ (.primitive ⟨"Scores", ""⟩ .string)
    (.primitive ⟨"Scores", ""⟩ .int)

/-- Of two scores under one text the later one is read, where both are decoded. -/
theorem scores_read_and_decoded :
    (map string int).isColumnar = true ∧
    (Workspace.ofSchemes [⟨"Scores", [scores]⟩]).decodeTable 0 "2,a,1,a,2".toList =
      .ok [[.map [(.string "a", .int 1), (.string "a", .int 2)]]] ∧
    (map string int).readTable "2,a,1,a,2".toList = .ok [[("a", 2)]] := by
  have hcolumnar : (map string int).isColumnar = true := rfl
  have hdecode : (Workspace.ofSchemes [⟨"Scores", [scores]⟩]).decodeTable 0 "2,a,1,a,2".toList =
      .ok [[.map [(.string "a", .int 1), (.string "a", .int 2)]]] := by cbv
  obtain ⟨-, -, -, hreads⟩ := typed_reading_agrees hcolumnar
  have hfield : scores.ReadAs (map string int) :=
    .dictionary _ rfl (.primitive _ .string) (.primitive _ .int)
  obtain ⟨-, htable⟩ := hreads scores hfield (Workspace.ofSchemes [⟨"Scores", [scores]⟩])
  obtain ⟨values, hread, hvalues⟩ := htable 0 "Scores" _ _ rfl hdecode
  refine ⟨hcolumnar, hdecode, ?_⟩
  cases hvalues with
  | cons hfirst hrest =>
      cases hrest
      obtain ⟨only, honly, hvalue⟩ := hfirst
      cases honly
      rw [hread, ← Option.some.inj hvalue]
      cbv

/-- A type and a field of the type do not agree on every text: decoding asks for the memory of a
list that is announced, and reading the type finds that there are no elements. -/
theorem announced_list_read_otherwise :
    ¬ ∀ table name definition field, Scheme.build table [name] [definition] = .ok ⟨table, [field]⟩ →
      ∀ type, field.ReadAs type → ∀ row,
        Agree type.ofValue?
          ((Workspace.ofSchemes [⟨table, [field]⟩]).decodeNode ⟨⟨0, [0]⟩, field⟩
            (Reader.ofRow row))
          (type.read (Reader.ofRow row)) := by
  intro hagree
  have hbuilt : Scheme.build "Items" ["scores_1"] ["List<int>"] =
      .ok ⟨"Items", [Workspace.itemScores.field]⟩ := by cbv
  have hfield : Workspace.itemScores.field.ReadAs (list int) := .list _ (.primitive _ .int)
  have hread := hagree "Items" "scores_1" "List<int>" _ hbuilt _ hfield "9223372036854775807".toList
  exact (agree_decode_node_iff _ hfield _ _).mp hread _ .refl
    (Workspace.exceeds_announced_list _ _)

end WireType

end SheetWire
