import SheetWire.Proofs.Row.Refusals
import SheetWire.Proofs.Scheme.WellFormed

/-!
# Which field an error names

An error of encoding names the field that refused what it was handed, and the error is not changed
on the way up. The field lies under the column, but behind a reference it stands in another table,
and a part of a dictionary has no name. `Blames` says which fields a cell of a column can make fail,
and `row_errors_point_to_table_iff` that the errors of a scheme point to its own table exactly if
all of these fields do.
-/

namespace SheetWire

open Relation Text

/-- The field that an error names. -/
def Error.field? : Error → Option Label
  | .unresolved label _ => some label
  | .unknownEnumKey label _ => some label
  | .recursiveStruct label _ => some label
  | .malformedCell label _ _ => some label
  | .inColumn label _ => some label
  | .endless (.stack label) => some label
  | _ => none

/-- Whether an error names a field of a table, and a field that has a name. -/
def Error.PointsTo (table : String) (e : Error) : Prop :=
  ∃ name, name ≠ "" ∧ e.field? = some ⟨table, name⟩

/-- An error that names a field is not tagged with another one. -/
theorem Error.tag_of_field {e : Error} {label column : Label} (h : e.field? = some label) :
    e.tag column = e := by
  cases e with
  | unresolved | unknownEnumKey | recursiveStruct | malformedCell | inColumn | endless => rfl
  | io | json | lex | parse | duplicate | headerMismatch | decode => cases h

/-- An error that names one field names a field of a table if that one is. -/
theorem Error.points_to_iff {e : Error} {label : Label} {table : String}
    (h : e.field? = some label) :
    e.PointsTo table ↔ label.table = table ∧ label.name ≠ "" := by
  constructor
  · intro hpoints
    obtain ⟨name, hname, hfield⟩ := hpoints
    obtain rfl := Option.some.inj (h.symm.trans hfield)
    exact ⟨rfl, hname⟩
  · intro hlabel
    obtain ⟨rfl, hname⟩ := hlabel
    exact ⟨label.name, hname, h⟩

namespace Workspace

variable {workspace : Workspace}

/-! ### What a column hands on -/

/-- Whether a value of a cell gets from a column to a node: to a part of the column, into something
in it directly as structs, and on along first parts. -/
def Receives (workspace : Workspace) (column inner : Node) : Prop :=
  inner = column ∨
    (∃ widths, workspace.widths (workspace.parts column) = .ok widths) ∧
      ∃ part ∈ workspace.parts column, ∃ middle,
        ReflTransGen workspace.Nests part middle ∧ ReflTransGen workspace.Heads middle inner

/-- A single value is handed on along first parts. -/
theorem heads_of_hands (hfilled : workspace.Filled) {call : Node × List Char} {inner : Node}
    {slot : List Char} (hnode : call.1 ∈ workspace.nodes) (hcomma : ',' ∉ call.2)
    (h : ReflTransGen workspace.Hands call (inner, slot)) (hslot : slot ≠ []) :
    ReflTransGen workspace.Heads call.1 inner := by
  induction h using ReflTransGen.head_induction_on with
  | refl => exact .refl
  | @head call next hstep hrest ih =>
      have htext : call.2 ≠ [] := fun hnil => hslot (text_nil_of_hands (.head hstep hrest) hnil)
      obtain ⟨own, list, hportions, hmem⟩ := hstep
      have hnext := mem_nodes_of_part hnode (mem_portions hportions hmem).1
      rcases portion_of_single hfilled hnode htext hcomma hportions hmem with hnil | ⟨hsame, hhead⟩
      · exact absurd (text_nil_of_hands hrest hnil) hslot
      · exact .head hhead (ih hnext (hsame ▸ hcomma))

/-- As many values as a node takes are handed on to what is in it as structs, and from there along
first parts. -/
theorem nests_of_hands (hfilled : workspace.Filled) {call : Node × List Char} {inner : Node}
    {slot : List Char} {width : Nat} (hnode : call.1 ∈ workspace.nodes)
    (hwidth : workspace.width call.1 = .ok width) (hlength : (call.2.splitOn ',').length ≤ width)
    (h : ReflTransGen workspace.Hands call (inner, slot)) (hslot : slot ≠ []) :
    ∃ middle, ReflTransGen workspace.Nests call.1 middle ∧
      ReflTransGen workspace.Heads middle inner := by
  induction h using ReflTransGen.head_induction_on generalizing width with
  | refl => exact ⟨inner, .refl, .refl⟩
  | @head call next hstep hrest ih =>
      have hhands := ReflTransGen.head hstep hrest
      obtain ⟨own, list, hportions, hmem⟩ := hstep
      have hpart := (mem_portions hportions hmem).1
      obtain ⟨nextWidth, hnextWidth, hnextLength⟩ :=
        length_splitOn_of_portion hfilled hnode hportions hmem
      have hsingle : (workspace.shape call.1).Single →
          ∃ middle, ReflTransGen workspace.Nests call.1 middle ∧
            ReflTransGen workspace.Heads middle inner := by
        intro hsingle
        obtain rfl := Except.ok.inj ((width_from_single hsingle).symm.trans hwidth)
        have hpos := List.length_pos_of_ne_nil (List.splitOn_ne_nil ',' call.2)
        have hcomma : ',' ∉ call.2 := length_splitOn_eq_one.mp (by omega)
        exact ⟨call.1, .refl, heads_of_hands hfilled hnode hcomma hhands hslot⟩
      cases hshape : workspace.shape call.1 with
      | primitive | list | dictionary | enum => exact hsingle (by rw [hshape]; exact True.intro)
      | unbound target => exact nomatch (width_from_unbound hshape).symm.trans hwidth
      | struct place typeName subfields =>
          have hsubfield : next.1 ∈ subfields := by
            unfold parts at hpart
            rwa [hshape] at hpart
          obtain ⟨middle, hnests, hheads⟩ :=
            ih (mem_nodes_of_part hnode hpart) hnextWidth hnextLength
          exact ⟨middle, .head ⟨place, typeName, subfields, hshape, hsubfield⟩ hnests, hheads⟩

/-- Whatever is handed a text is received from the column. -/
theorem receives_of_hands (hfilled : workspace.Filled) {column inner : Node}
    {text slot : List Char} (hcolumn : column ∈ workspace.nodes)
    (h : ReflTransGen workspace.Hands (column, text) (inner, slot)) (hslot : slot ≠ []) :
    workspace.Receives column inner := by
  rcases ReflTransGen.cases_head h with hsame | ⟨⟨part, value⟩, hstep, hrest⟩
  · exact .inl (Prod.mk.inj hsame).1.symm
  · obtain ⟨own, list, hportions, hmem⟩ := hstep
    have hpart := (mem_portions hportions hmem).1
    obtain ⟨width, hwidth, hlength⟩ := length_splitOn_of_portion hfilled hcolumn hportions hmem
    obtain ⟨middle, hnests, hheads⟩ :=
      nests_of_hands hfilled (mem_nodes_of_part hcolumn hpart) hwidth hlength hrest hslot
    exact .inr ⟨widths_of_portions hportions (List.ne_nil_of_mem hmem), part, hpart, middle,
      hnests, hheads⟩

/-- What receives a value from a column is a part of its parts. -/
theorem parts_of_receives {column inner : Node} (h : workspace.Receives column inner) :
    ReflTransGen (fun outer part => part ∈ workspace.parts outer) column inner := by
  rcases h with rfl | ⟨-, part, hpart, middle, hnests, hheads⟩
  · exact .refl
  · exact .head hpart ((ReflTransGen.mono (fun _ _ h => h.mem_parts) _ _ hnests).trans
      (ReflTransGen.mono (fun _ _ h => h.mem_parts) _ _ hheads))

/-! ### Who is to blame -/

/-- The fields that an error can name because of a cell of a column: an enum that receives a value,
and where the widths fail of the parts of something that receives one. -/
inductive Blames (workspace : Workspace) (column : Node) : Label → Prop where
  | member {inner : Node} {members : List Member} (hinner : workspace.Receives column inner)
      (hshape : workspace.shape inner = .enum members) : Blames workspace column inner.label
  | width {inner : Node} {e : Error} {label : Label} (hinner : workspace.Receives column inner)
      (hwidths : workspace.widths (workspace.parts inner) = .error e)
      (hlabel : e.field? = some label) : Blames workspace column label

/-- Where widths fail, the error names a field that the nodes lead to. -/
theorem field_of_widths {nodes : List Node} {e : Error}
    (hnodes : ∀ node ∈ nodes, node ∈ workspace.nodes) (h : workspace.widths nodes = .error e) :
    ∃ part ∈ nodes, ∃ inner, ReflTransGen workspace.Nests part inner ∧
      e.field? = some inner.label := by
  obtain ⟨part, hpart, herror⟩ := exists_of_widths_eq_error h
  obtain ⟨inner, hinner, ⟨target, -, rfl⟩ | ⟨place, typeName, subfields, -, rfl⟩⟩ :=
    width_eq_error (hnodes part hpart) herror
  · exact ⟨part, hpart, inner, hinner, rfl⟩
  · exact ⟨part, hpart, inner, hinner, rfl⟩

/-- A node that refuses a text is named, or something that it leads to. -/
theorem field_of_refuses {node : Node} {text : List Char} {e : Error}
    (hnode : node ∈ workspace.nodes) (h : workspace.Refuses node text e) :
    ∃ inner, ReflTransGen (fun outer part => part ∈ workspace.parts outer) node inner ∧
      e.field? = some inner.label := by
  cases h with
  | unbound | member | values => exact ⟨node, .refl, rfl⟩
  | width _ hwidths =>
      obtain ⟨part, hpart, inner, hinner, hfield⟩ :=
        field_of_widths (fun part => mem_nodes_of_part hnode) hwidths
      exact ⟨inner, .head hpart (ReflTransGen.mono (fun _ _ hnests => hnests.mem_parts) _ _ hinner),
        hfield⟩

/-- A node does not refuse a text for a bound. -/
theorem ne_endless_of_refuses {node : Node} {text : List Char} {e : Error}
    (h : workspace.Refuses node text e) (label : Label) : e ≠ .endless (.stack label) := by
  intro he
  exact not_endless_portions node text ⟨label, he ▸ portions_eq_error.mpr h⟩

/-- An error names the column itself or a field that is to blame. -/
theorem blames_of_refuses (hfilled : workspace.Filled) {column inner : Node}
    {text slot : List Char} {e : Error} (hcolumn : column ∈ workspace.nodes)
    (h : ReflTransGen workspace.Hands (column, text) (inner, slot))
    (hrefuses : workspace.Refuses inner slot e) :
    e.field? = some column.label ∨
      ∃ label, e.field? = some label ∧ workspace.Blames column label := by
  have hinner := mem_nodes_of_hands hcolumn h
  have hhanded : inner = column ∨ ∃ width, workspace.width inner = .ok width := by
    rcases reflTransGen_iff_eq_or_transGen.mp h with hsame | hhanded
    · exact .inl (Prod.mk.inj hsame).1
    · obtain ⟨width, hwidth, -⟩ := fits_of_hands hfilled hcolumn hhanded
      exact .inr ⟨width, hwidth⟩
  cases hrefuses with
  | unbound target hshape =>
      rcases hhanded with rfl | ⟨width, hwidth⟩
      · exact .inl rfl
      · exact nomatch (width_from_unbound hshape).symm.trans hwidth
  | member members hshape hslot hnone =>
      exact .inr ⟨inner.label, rfl, .member (receives_of_hands hfilled hcolumn h hslot) hshape⟩
  | width _ hwidths htext =>
      obtain ⟨part, hpart, below, hbelow, hfield⟩ :=
        field_of_widths (fun part => mem_nodes_of_part hinner) hwidths
      refine .inr ⟨below.label, hfield, .width ?_ hwidths hfield⟩
      by_cases hslot : slot = []
      · -- Without a text only a struct asks for widths, and one that is handed none has them.
        obtain ⟨place, typeName, subfields, hshape⟩ := htext hslot
        rcases hhanded with hsame | ⟨width, hwidth⟩
        · exact .inl hsame
        · obtain ⟨widths, hok, -⟩ := width_of_struct hshape hwidth
          unfold parts at hwidths
          rw [hshape] at hwidths
          exact nomatch hwidths.symm.trans hok
      · exact receives_of_hands hfilled hcolumn h hslot
  | values place typeName subfields widths hshape hwidths hlength =>
      rcases reflTransGen_iff_eq_or_transGen.mp h with hsame | hhanded
      · obtain ⟨rfl, rfl⟩ := Prod.mk.inj hsame
        exact .inl rfl
      · exact absurd (.values place typeName subfields widths hshape hwidths hlength)
          (not_malformed_of_hands hfilled hcolumn hhanded)

/-! ### Every blame is taken -/

/-- Whether encoding fails with an error under every bound that is large enough, and some is. -/
def FailsWith (workspace : Workspace) (e : Error) (call : Node × List Char) : Prop :=
  workspace.encoding.Ends call ∧
    ∀ bound, Settles (workspace.encodeWithin bound call.1 call.2) (.error e)

/-- A node fails with the error for which it refuses a text. -/
theorem fails_of_refuses {node : Node} {text : List Char} {e : Error}
    (hnode : node ∈ workspace.nodes) (h : workspace.Refuses node text e) :
    workspace.FailsWith e (node, text) := by
  refine ⟨encoding_ends_of_inner hnode fun inner hcall => ?_, fun bound => ?_⟩
  · obtain ⟨own, list, hportions, -⟩ := hcall
    exact nomatch hportions.symm.trans (portions_eq_error.mpr h)
  · cases bound with
    | zero => exact .inl ⟨node.label, rfl⟩
    | succ bound => exact .inr (encode_of_refuses bound h)

/-- A node fails with a portion if all else that it hands out encodes like no text. -/
theorem rises_fails (hfilled : workspace.Filled) (e : Error) :
    workspace.Rises (workspace.FailsWith e) := by
  intro node text own ahead portion behind hnode hportions hahead hbehind hportion
  refine ⟨encoding_ends_of_inner hnode fun inner hcall => ?_, fun bound => ?_⟩
  · obtain ⟨others, list, hlist, hmem⟩ := hcall
    cases hlist.symm.trans hportions
    rcases List.mem_append.mp hmem with hmem | hmem
    · exact (hahead inner hmem).ends
    · rcases List.mem_cons.mp hmem with rfl | hmem
      · exact hportion.1
      · exact (hbehind inner hmem).ends
  · cases bound with
    | zero => exact .inl ⟨node.label, rfl⟩
    | succ bound =>
        exact encode_settles_error hportions
          (fun other hother => (hahead other hother).settles hfilled bound) (hportion.2 bound)

/-- The text of a cell fails if encoding the escaped text does. -/
theorem encode_text_of_fails {node : Node} {text : String} {e : Error}
    (hnode : node ∈ workspace.nodes) (h : workspace.FailsWith e (node, escape text.toList)) :
    workspace.encodeText node text = .error e := by
  obtain ⟨⟨bound, hbound⟩, hsettles⟩ := h
  rw [encode_text_of_ends hnode hbound]
  exact (hsettles bound).resolve_left hbound

/-- Some name is longer than those of all members. -/
theorem exists_not_member (members : List Member) :
    ∃ length, 0 < length ∧
      Field.memberValue? members (String.ofList (List.replicate length 'x')) = none := by
  refine ⟨(members.map fun member => member.name.length).sum + 1, Nat.succ_pos _, ?_⟩
  rw [Field.memberValue?, Option.map_eq_none_iff, List.find?_eq_none]
  intro member hmember hname
  have hle : member.name.length ≤ (members.map fun member => member.name.length).sum :=
    List.le_sum_of_mem (List.mem_map_of_mem hmember)
  rw [beq_iff_eq.mp hname, String.length_ofList, List.length_replicate] at hle
  omega

/-- Whoever is to blame refuses a value for it that has nothing to escape. -/
theorem exists_refused {column : Node} {label : Label} (h : workspace.Blames column label) :
    ∃ inner value e, workspace.Receives column inner ∧ value ≠ [] ∧ (∀ c ∈ value, c = 'x') ∧
      workspace.Refuses inner value e ∧ e.field? = some label := by
  cases h with
  | @member inner members hinner hshape =>
      obtain ⟨length, hlength, hnone⟩ := exists_not_member members
      have hne : List.replicate length 'x' ≠ [] := by
        rw [Ne, List.replicate_eq_nil_iff]
        omega
      exact ⟨inner, List.replicate length 'x', _, hinner, hne,
        fun c hc => List.eq_of_mem_replicate hc, .member members hshape hne hnone, rfl⟩
  | @width inner e _ hinner hwidths hlabel =>
      exact ⟨inner, ['x'], e, hinner, List.cons_ne_nil _ _, fun c hc => List.mem_singleton.mp hc,
        .width e hwidths fun hnil => absurd hnil (List.cons_ne_nil _ _), hlabel⟩

/-- Some text of a cell fails for whoever is to blame. -/
theorem exists_failing_text (hfilled : workspace.Filled) {column : Node} {label : Label}
    (hcolumn : column ∈ workspace.nodes) (h : workspace.Blames column label) :
    ∃ text e, workspace.encodeText column text = .error e ∧ e.field? = some label ∧
      ∀ other, e ≠ .endless (.stack other) := by
  obtain ⟨inner, value, e, hinner, hvalue, hchars, hrefuses, hfield⟩ := exists_refused h
  have hplain : ∀ c, c ≠ 'x' → c ∉ value := fun c hc hmem => hc (hchars c hmem)
  have hcomma : ',' ∉ value := hplain ',' (by decide)
  obtain ⟨count, hfails⟩ : ∃ count, workspace.FailsWith e (column, afterBlanks count value) := by
    rcases hinner with rfl | ⟨⟨widths, hwidths⟩, part, hpart, middle, hnests, hheads⟩
    · exact ⟨0, fails_of_refuses hcolumn hrefuses⟩
    · have hmiddle := mem_nodes_of_nests (mem_nodes_of_part hcolumn hpart) hnests
      have hrises := rises_fails hfilled e
      exact hrises.of_nested_part hfilled hcolumn hvalue hcomma hwidths hpart hnests
        (hrises.of_heads hfilled hmiddle hvalue hcomma hheads
          (fails_of_refuses (mem_nodes_of_heads hmiddle hheads) hrefuses))
  refine ⟨String.ofList (afterBlanks count value), e, encode_text_of_fails hcolumn ?_, hfield,
    ne_endless_of_refuses hrefuses⟩
  rwa [String.toList_ofList,
    escape_after_blanks (hplain '\n' (by decide)) (hplain '\\' (by decide))]

/-! ### Rows -/

/-- A row fails with a column, after the cells of the columns before it were encoded. -/
theorem encode_cells_eq_error [DateFormat] {columns : List Node} {cells : List Cell} {e : Error}
    (h : workspace.encodeCells columns cells = .error e) :
    ∃ before column after text failure, columns = before ++ column :: after ∧
      (∃ wires, workspace.encodeCells before cells = .ok wires) ∧
      workspace.encodeText column text = .error failure ∧ e = failure.tag column.label := by
  induction columns generalizing cells with
  | nil => exact nomatch h
  | cons column columns ih =>
      rw [encodeCells] at h
      rcases bind_eq_error.mp h with h | ⟨wire, hwire, h⟩
      · cases hfirst : workspace.encodeCell column (cells.headD .empty) with
        | ok wire =>
            rw [hfirst] at h
            cases h
        | error failure =>
            rw [hfirst] at h
            cases h
            rcases bind_eq_error.mp hfirst with hfailure | ⟨slots, -, hpure⟩
            · exact ⟨[], column, columns, _, failure, rfl, ⟨[], rfl⟩, hfailure, rfl⟩
            · cases hpure
      · rcases bind_eq_error.mp h with h | ⟨wires, -, hpure⟩
        · obtain ⟨before, failing, after, text, failure, rfl, ⟨wires, hwires⟩, hfailure, he⟩ := ih h
          refine ⟨column :: before, failing, after, text, failure, rfl, ⟨wire :: wires, ?_⟩,
            hfailure, he⟩
          rw [encodeCells, hwire, hwires]
          rfl
        · cases hpure

/-- Columns whose cells were encoded have widths. -/
theorem widths_of_encoded_cells [DateFormat] {columns : List Node} {cells : List Cell}
    {wires : List (List Char)} (hcolumns : ∀ column ∈ columns, column ∈ workspace.nodes)
    (h : workspace.encodeCells columns cells = .ok wires) :
    ∃ widths, workspace.widths columns = .ok widths := by
  induction columns generalizing cells wires with
  | nil => exact ⟨[], rfl⟩
  | cons column columns ih =>
      obtain ⟨hcolumn, hothers⟩ := List.forall_mem_cons.mp hcolumns
      rw [encodeCells] at h
      obtain ⟨first, others, hfirst, hrest, -⟩ := bind_cons_eq_ok.mp h
      obtain ⟨slots, hslots, -⟩ := bind_eq_ok.mp (map_error_eq_ok.mp hfirst)
      obtain ⟨width, hwidth⟩ := width_of_encoded hcolumn hslots
      obtain ⟨widths, hwidths⟩ := ih hothers hrest
      exact ⟨width :: widths, widths_eq_ok.mpr (.cons hwidth (widths_eq_ok.mp hwidths))⟩

/-- A row fails with a cell behind empty ones if the columns of these have widths. -/
theorem encode_cells_behind_empty [DateFormat] (hfilled : workspace.Filled)
    {before after : List Node} {column : Node} {widths : List Nat} {text : String} {e : Error}
    {label : Label}
    (hbefore : ∀ other ∈ before, other ∈ workspace.nodes)
    (hwidths : workspace.widths before = .ok widths)
    (h : workspace.encodeText column text = .error e) (hlabel : e.field? = some label) :
    workspace.encodeCells (before ++ column :: after)
      (List.replicate before.length .empty ++ [.text text]) = .error e := by
  induction before generalizing widths with
  | nil =>
      show ((workspace.encodeText column text >>= _).mapError _ >>= _) = _
      rw [h]
      exact congrArg Except.error (Error.tag_of_field hlabel)
  | cons other before ih =>
      obtain ⟨hother, hothers⟩ := List.forall_mem_cons.mp hbefore
      obtain ⟨width, hwidth, hrest⟩ := bind_eq_ok.mp hwidths
      obtain ⟨otherWidths, hotherWidths, -⟩ := bind_eq_ok.mp hrest
      obtain ⟨leaves, -, -, hslots⟩ := encode_empty_of_width hfilled hother hwidth
      show ((workspace.encodeText other "" >>= _).mapError _ >>= fun first =>
        workspace.encodeCells (before ++ column :: after)
          (List.replicate before.length .empty ++ [.text text]) >>= _) = _
      rw [hslots, ih hothers hotherWidths]
      rfl

/-- The columns of a scheme name its table. -/
theorem table_of_column (hbuilt : workspace.Built) {number : Nat} {scheme : Scheme}
    (hscheme : workspace.scheme? number = some scheme) {column : Node}
    (hcolumn : column ∈ workspace.columns number) : column.label.table = scheme.table := by
  obtain ⟨inflector, names, definitions, hbuild⟩ := hbuilt number scheme hscheme
  have hnode : column ∈ scheme.nodes number := by
    simp only [columns, hscheme] at hcolumn
    exact Field.siblings_subset_nodes _ _ _ hcolumn
  have hfield : column.field ∈ scheme.walk := by
    rw [← scheme.map_field_nodes number]
    exact List.mem_map_of_mem hnode
  exact (Scheme.well_formed_of_build hbuild column.field hfield).table_eq

/-- The errors of the rows of a scheme point to its table, and to a field with a name, exactly if
this holds of all fields that are to blame for a cell of a column behind columns that have widths.
In any case they name the failing column or a field that it leads to, and the cells before it were
encoded. -/
theorem row_errors_point_to_table_iff [DateFormat] (hbuilt : workspace.Built) {number : Nat}
    {scheme : Scheme} (hscheme : workspace.scheme? number = some scheme)
    (hnames : ∀ column ∈ workspace.columns number, column.label.name ≠ "") :
    ((∀ cells e, workspace.encodeRow number cells = .error e →
        (∀ label, e ≠ .endless (.stack label)) → e.PointsTo scheme.table) ↔
      ∀ before column after, workspace.columns number = before ++ column :: after →
        (∃ widths, workspace.widths before = .ok widths) →
        ∀ label, workspace.Blames column label → label.table = scheme.table ∧ label.name ≠ "") ∧
    ∀ cells e, workspace.encodeRow number cells = .error e →
      (∀ label, e ≠ .endless (.stack label)) →
      ∃ before column after inner, workspace.columns number = before ++ column :: after ∧
        (∃ wires, workspace.encodeCells before cells = .ok wires) ∧
        ReflTransGen (fun outer part => part ∈ workspace.parts outer) column inner ∧
        e.field? = some inner.label := by
  have hfilled := filled_of_built hbuilt
  have hnodes : ∀ column ∈ workspace.columns number, column ∈ workspace.nodes :=
    fun column hcolumn => columns_subset_nodes _ number hcolumn
  -- The column that fails, and what refuses in it what it is handed.
  have hfailing : ∀ cells e, workspace.encodeRow number cells = .error e →
      (∀ label, e ≠ .endless (.stack label)) → ∃ before column after text inner slot,
        workspace.columns number = before ++ column :: after ∧
        (∃ wires, workspace.encodeCells before cells = .ok wires) ∧
        ReflTransGen workspace.Hands (column, text) (inner, slot) ∧
        workspace.Refuses inner slot e := by
    intro cells e h hends
    rcases bind_eq_error.mp h with h | ⟨wires, -, hpure⟩
    · obtain ⟨before, column, after, text, failure, hcolumns, hbefore, hfailure, rfl⟩ :=
        encode_cells_eq_error h
      have hfailureEnds : ∀ label, failure ≠ .endless (.stack label) := by
        rintro label rfl
        exact hends label rfl
      obtain ⟨⟨inner, slot⟩, hhands, hrefuses⟩ := refuses_of_encode hfailure hfailureEnds
      have hcolumn : column ∈ workspace.nodes :=
        hnodes column (hcolumns ▸ List.mem_append_right _ List.mem_cons_self)
      obtain ⟨below, -, hfield⟩ :=
        field_of_refuses (mem_nodes_of_hands hcolumn hhands) hrefuses
      rw [Error.tag_of_field hfield]
      exact ⟨before, column, after, _, inner, slot, hcolumns, hbefore, hhands, hrefuses⟩
    · cases hpure
  refine ⟨⟨fun hpoints before column after hcolumns hwidths label hblames => ?_,
    fun hblamed cells e h hends => ?_⟩, fun cells e h hends => ?_⟩
  · have hmem : ∀ other ∈ before ++ column :: after, other ∈ workspace.nodes := hcolumns ▸ hnodes
    obtain ⟨widths, hwidths⟩ := hwidths
    obtain ⟨text, e, hfails, hfield, hends⟩ := exists_failing_text hfilled
      (hmem column (List.mem_append_right _ List.mem_cons_self)) hblames
    have hrow : workspace.encodeRow number
        (List.replicate before.length .empty ++ [.text text]) = .error e := by
      rw [encodeRow, hcolumns, encode_cells_behind_empty hfilled
        (fun other hother => hmem other (List.mem_append_left _ hother)) hwidths hfails hfield]
      rfl
    exact (Error.points_to_iff hfield).mp (hpoints _ e hrow hends)
  · obtain ⟨before, column, after, text, inner, slot, hcolumns, ⟨wires, hwires⟩, hhands,
      hrefuses⟩ := hfailing cells e h hends
    have hcolumn : column ∈ workspace.columns number :=
      hcolumns ▸ List.mem_append_right _ List.mem_cons_self
    rcases blames_of_refuses hfilled (hnodes column hcolumn) hhands hrefuses with
      hfield | ⟨label, hfield, hblames⟩
    · exact (Error.points_to_iff hfield).mpr
        ⟨table_of_column hbuilt hscheme hcolumn, hnames column hcolumn⟩
    · have hwidths := widths_of_encoded_cells
        (fun other hother => hnodes other (hcolumns ▸ List.mem_append_left _ hother)) hwires
      exact (Error.points_to_iff hfield).mpr
        (hblamed before column after hcolumns hwidths label hblames)
  · obtain ⟨before, column, after, text, inner, slot, hcolumns, hwires, hhands, hrefuses⟩ :=
      hfailing cells e h hends
    have hcolumn : column ∈ workspace.nodes :=
      hnodes column (hcolumns ▸ List.mem_append_right _ List.mem_cons_self)
    obtain ⟨below, hbelow, hfield⟩ := field_of_refuses (mem_nodes_of_hands hcolumn hhands) hrefuses
    exact ⟨before, column, after, below, hcolumns, hwires,
      (parts_of_hands hhands).trans hbelow, hfield⟩

/-- All errors of graded items point to the table of items. -/
theorem graded_item_errors_point_to_items :
    (resolved [gradedItems]).Built ∧ (resolved [gradedItems]).scheme? 0 = some gradedItems ∧
    (∀ column ∈ (resolved [gradedItems]).columns 0, column.label.name ≠ "") ∧
    ∀ cells e, (resolved [gradedItems]).encodeRow 0 cells = .error e →
      (∀ label, e ≠ .endless (.stack label)) → e.PointsTo "Items" := by
  have hcolumns : (resolved [gradedItems]).columns 0 = [gradedItem] := rfl
  have hnames : ∀ column ∈ (resolved [gradedItems]).columns 0, column.label.name ≠ "" := by
    intro column hcolumn
    obtain rfl := List.mem_singleton.mp hcolumn
    decide
  refine ⟨graded_items_built, rfl, hnames,
    (row_errors_point_to_table_iff graded_items_built rfl hnames).1.mpr ?_⟩
  intro before column after hsplit _ label hblames
  have hcolumn : column ∈ [gradedItem] := by
    rw [← hcolumns, hsplit]
    exact List.mem_append_right _ List.mem_cons_self
  obtain rfl := List.mem_singleton.mp hcolumn
  cases hblames with
  | @member inner members hinner hshape =>
      have hmem := mem_of_graded_item (parts_of_receives hinner)
      simp only [List.mem_cons, List.not_mem_nil, or_false] at hmem
      rcases hmem with rfl | rfl | rfl <;> exact ⟨rfl, by decide⟩
  | @width inner e _ hinner hwidths _ =>
      have hmem := mem_of_graded_item (parts_of_receives hinner)
      simp only [List.mem_cons, List.not_mem_nil, or_false] at hmem
      rcases hmem with rfl | rfl | rfl
      · exact nomatch widths_graded_item.symm.trans hwidths
      · exact nomatch hwidths
      · exact nomatch hwidths

/-- A table of drops, each with the odds of its grades. -/
def drops : Scheme :=
  ⟨"Items", [.struct ⟨"Items", "drop"⟩ "Drop" [.dictionary ⟨"Items", "odds"⟩
    (.enum ⟨"Items", ""⟩ "E" [⟨"Low", 0⟩, ⟨"High", 1⟩]) (.primitive ⟨"Items", ""⟩ .int)]]⟩

/-- A table of quests, each with a drop for a reward. -/
def rewards : Scheme :=
  ⟨"Quests", [.reference ⟨"Quests", "reward"⟩ ⟨"Items", "Drop"⟩]⟩

/-- Errors do not always point to the table of the row: a grade that is refused in the reward of a
quest is reported for the table of items, and for a field without a name. -/
theorem reward_error_points_elsewhere :
    ¬ ∀ schemes : List Scheme, (∀ scheme ∈ schemes, ∃ names definitions,
        (∀ name ∈ names, name ≠ "") ∧ Scheme.build scheme.table names definitions = .ok scheme) →
      ∀ number scheme cells e, (resolved schemes).scheme? number = some scheme →
        (resolved schemes).encodeRow number cells = .error e →
        (∀ label, e ≠ .endless (.stack label)) → e.PointsTo scheme.table := by
  intro hpoints
  have hbuilt : ∀ scheme ∈ [drops, rewards], ∃ names definitions,
      (∀ name ∈ names, name ≠ "") ∧
      Scheme.build scheme.table names definitions = .ok scheme := by
    intro scheme hscheme
    simp only [List.mem_cons, List.not_mem_nil, or_false] at hscheme
    rcases hscheme with rfl | rfl
    · refine ⟨["drop"], ["Struct<Map<Enum<Low,0,High,1>,int>,odds>"], by decide, ?_⟩
      cbv
    · refine ⟨["reward"], ["@Items,Drop"], by decide, ?_⟩
      cbv
  have hrow : (resolved [drops, rewards]).encodeRow 1 [.text "Mid"] =
      .error (.unknownEnumKey ⟨"Items", ""⟩ "Mid") := by cbv
  obtain ⟨name, hname, hfield⟩ :=
    hpoints [drops, rewards] hbuilt 1 rewards _ _ rfl hrow fun label he => Error.noConfusion he
  obtain ⟨-, hempty⟩ := Label.mk.inj (Option.some.inj hfield)
  exact hname hempty.symm

end Workspace

end SheetWire
