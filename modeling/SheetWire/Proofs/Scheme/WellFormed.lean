import SheetWire.Proofs.Definition.Acceptance
import SheetWire.Proofs.Workspace.Sessions

/-!
# What holds of every scheme that is built

The names of a scheme are checked in different places: those of subfields and members where a struct
or an enum ends, those of columns at the end. `build_well_formed` says what comes out of it for the
whole scheme, at any depth: which header cells make a column, that names and numbers differ where
they have to, and that nothing is empty that must not be. No other header rows are turned down.
-/

namespace SheetWire

open Naming

/-- What holds of the subfields of a struct. -/
structure WellFormedSubfields (fields : List Field) : Prop where
  nonempty : fields ≠ []
  distinct : (fields.map Field.name).Nodup
  identifiers : ∀ field ∈ fields, IsIdentifier field.name

/-- What holds of the members of an enum. A member is found by its name and has its own number, from
zero up to the largest with 64 bits. -/
structure WellFormedMembers (members : List Member) : Prop where
  nonempty : members ≠ []
  distinctNames : (members.map Member.name).Nodup
  distinctValues : (members.map Member.value).Nodup
  identifiers : ∀ member ∈ members, IsIdentifier member.name
  natural : ∀ member ∈ members, 0 ≤ member.value.toInt ∧ member.value.toInt ≤ 2 ^ 63 - 1
  found : ∀ name value, Field.memberValue? members name = some value ↔ ⟨name, value⟩ ∈ members

/-- What holds of a field in a scheme of a table. -/
structure Field.WellFormed (table : String) (field : Field) : Prop where
  table_eq : field.table = table
  subfields : ∀ label typeName fields, field = .struct label typeName fields →
    WellFormedSubfields fields
  members : ∀ label typeName members, field = .enum label typeName members →
    WellFormedMembers members

/-! ### Members -/

/-- Where names differ, a number is found for a name exactly if a member has both. -/
theorem member_value_eq_some {members : List Member} (h : (members.map Member.name).Nodup)
    {name : String} {value : Int64} :
    Field.memberValue? members name = some value ↔ ⟨name, value⟩ ∈ members := by
  rw [Field.memberValue?, Option.map_eq_some_iff]
  constructor
  · intro h
    obtain ⟨member, hfind, rfl⟩ := h
    have hname := List.find?_some hfind
    rw [beq_iff_eq] at hname
    obtain rfl := hname
    exact List.mem_of_find?_eq_some hfind
  · intro hmem
    have hsome : (members.find? fun member => member.name == name).isSome :=
      List.find?_isSome.mpr ⟨_, hmem, beq_self_eq_true name⟩
    obtain ⟨member, hfind⟩ := Option.isSome_iff_exists.mp hsome
    have hname := List.find?_some hfind
    rw [beq_iff_eq] at hname
    have hsame := List.inj_on_of_nodup_map h (List.mem_of_find?_eq_some hfind) hmem hname
    exact ⟨member, hfind, by rw [hsame]⟩

/-- A number in a definition is natural and fits 64 bits with sign. -/
theorem Numeral.value_bounds (numeral : Numeral) :
    0 ≤ numeral.value.toInt ∧ numeral.value.toInt ≤ 2 ^ 63 - 1 := by
  have hfits := numeral.proper.fits
  rw [toInt_value]
  omega

/-- The members of an enum are identifiers with numbers. -/
theorem MemberDerivation.proper_of_mem :
    (derivation : MemberDerivation) → ∀ member ∈ derivation.members,
      IsIdentifier member.name ∧ 0 ≤ member.value.toInt ∧ member.value.toInt ≤ 2 ^ 63 - 1
  | .last name number, member, h => by
      obtain rfl := List.mem_singleton.mp h
      exact ⟨name.proper, number.value_bounds⟩
  | .more name number rest, member, h => by
      rcases List.mem_cons.mp h with rfl | h
      · exact ⟨name.proper, number.value_bounds⟩
      · exact rest.proper_of_mem member h

/-- The members that differ in names and numbers are well formed. -/
theorem MemberDerivation.well_formed (derivation : MemberDerivation)
    (hnames : (derivation.members.map Member.name).Nodup)
    (hvalues : (derivation.members.map Member.value).Nodup) :
    WellFormedMembers derivation.members where
  nonempty := by cases derivation <;> exact List.cons_ne_nil _ _
  distinctNames := hnames
  distinctValues := hvalues
  identifiers := fun member hmember => (derivation.proper_of_mem member hmember).1
  natural := fun member hmember => (derivation.proper_of_mem member hmember).2
  found := fun _ _ => member_value_eq_some hnames

/-! ### Fields -/

/-- The names of subfields are identifiers. -/
theorem SubfieldDerivation.identifier_of_mem :
    (subfields : SubfieldDerivation) → ∀ name ∈ subfields.names, IsIdentifier name
  | .last _ name, _, h => by
      obtain rfl := List.mem_singleton.mp h
      exact name.proper
  | .more _ name rest, found, h => by
      rcases List.mem_cons.mp h with rfl | h
      · exact name.proper
      · exact rest.identifier_of_mem found h

/-- Subfields that differ in names are well formed. -/
theorem SubfieldDerivation.well_formed (inflector : Inflector) (table : String)
    (subfields : SubfieldDerivation) (h : subfields.names.Nodup) :
    WellFormedSubfields (subfields.fields inflector table) where
  nonempty := by cases subfields <;> exact List.cons_ne_nil _ _
  distinct := by rwa [subfields.names_fields]
  identifiers := by
    intro field hfield
    refine subfields.identifier_of_mem _ ?_
    rw [← subfields.names_fields inflector table]
    exact List.mem_map_of_mem hfield

/-- The field of a type has the label it is made for. -/
theorem TypeDerivation.label_field (inflector : Inflector) (label : Label)
    (derivation : TypeDerivation) : (derivation.field inflector label).label = label := by
  cases derivation <;> rfl

namespace Field

/-- A field comes first in its walk, before what is inside it. -/
theorem walk_eq_cons (field : Field) : field.walk = field :: walkAll field.children := by
  cases field <;> simp [walk, walkAll, children]

/-- Another name leaves what is inside a field as it is. -/
@[simp]
theorem children_rename (name : String) (field : Field) :
    (field.rename name).children = field.children := by
  cases field <;> rfl

/-- Another name leaves a field well formed. -/
theorem WellFormed.rename {table : String} {field : Field} (h : field.WellFormed table)
    (name : String) : (field.rename name).WellFormed table := by
  obtain ⟨htable, hsubfields, hmembers⟩ := h
  cases field with
  | primitive | list | dictionary | reference =>
      exact ⟨htable, nofun, nofun⟩
  | struct label typeName fields =>
      refine ⟨htable, fun _ _ _ h => ?_, nofun⟩
      cases h
      exact hsubfields _ _ _ rfl
  | enum label typeName members =>
      refine ⟨htable, nofun, fun _ _ _ h => ?_⟩
      cases h
      exact hmembers _ _ _ rfl

/-- Another name leaves a field well formed at any depth. -/
theorem well_formed_walk_rename {table : String} {field : Field} (name : String)
    (h : ∀ inner ∈ field.walk, inner.WellFormed table) :
    ∀ inner ∈ (field.rename name).walk, inner.WellFormed table := by
  rw [walk_eq_cons, List.forall_mem_cons] at h
  rw [walk_eq_cons, children_rename, List.forall_mem_cons]
  exact ⟨h.1.rename name, h.2⟩

mutual

/-- The field of a type is well formed at any depth. -/
theorem well_formed_of_type (inflector : Inflector) (label : Label) :
    (derivation : TypeDerivation) → derivation.Distinct →
      ∀ field ∈ (derivation.field inflector label).walk, field.WellFormed label.table
  | .list element, h => by
      rw [TypeDerivation.field, walk, List.forall_mem_cons]
      exact ⟨⟨rfl, nofun, nofun⟩,
        well_formed_of_type inflector _ element h⟩
  | .dictionary key value, h => by
      rw [TypeDerivation.field, walk, List.forall_mem_cons, List.forall_mem_append]
      exact ⟨⟨rfl, nofun, nofun⟩,
        well_formed_of_type inflector _ key h.1, well_formed_of_type inflector _ value h.2⟩
  | .struct subfields, h => by
      rw [TypeDerivation.field, walk, List.forall_mem_cons]
      refine ⟨⟨rfl, fun _ _ _ hfield => ?_, nofun⟩,
        well_formed_of_subfields inflector label.table subfields h.2⟩
      cases hfield
      exact subfields.well_formed inflector label.table h.1
  | .enum members, h => by
      intro field hfield
      obtain rfl := List.mem_singleton.mp hfield
      refine ⟨rfl, nofun, fun _ _ _ hmembers => ?_⟩
      cases hmembers
      exact members.well_formed h.1 h.2
  | .primitive _, _ | .reference _ _, _ => by
      intro field hfield
      obtain rfl := List.mem_singleton.mp hfield
      exact ⟨rfl, nofun, nofun⟩

/-- The fields of subfields are well formed at any depth. -/
theorem well_formed_of_subfields (inflector : Inflector) (table : String) :
    (subfields : SubfieldDerivation) → subfields.Distinct →
      ∀ field ∈ walkAll (subfields.fields inflector table), field.WellFormed table
  | .last type name, h => by
      rw [SubfieldDerivation.fields, walkAll, walkAll, List.append_nil]
      exact well_formed_walk_rename name.text (well_formed_of_type inflector ⟨table, ""⟩ type h)
  | .more type name rest, h => by
      rw [SubfieldDerivation.fields, walkAll, List.forall_mem_append]
      exact ⟨well_formed_walk_rename name.text
          (well_formed_of_type inflector ⟨table, ""⟩ type h.1),
        well_formed_of_subfields inflector table rest h.2⟩

end

/-- The field that a definition stands for has its label and is well formed at any depth. -/
theorem well_formed_of_definition {inflector : Inflector} {label : Label} {definition : String}
    {column : Field} (h : ofDefinition inflector label definition = .ok column) :
    column.label = label ∧ ∀ field ∈ column.walk, field.WellFormed label.table := by
  obtain ⟨derivation, hderives, rfl⟩ := derived_of_accepted h
  exact ⟨derivation.label_field inflector label,
    well_formed_of_type inflector label derivation hderives.distinct⟩

end Field

namespace Scheme

/-! ### Header rows -/

/-- A header row is filled up to a position if everything from there on is empty and the last cell
before it is not. -/
structure FilledUpTo (cells : List String) (count : Nat) : Prop where
  le : count ≤ cells.length
  last : ∀ cell, (cells.take count).getLast? = some cell → cell ≠ ""
  blank : ∀ cell ∈ cells.drop count, cell = ""

/-- Empty cells at the end of a header row are cut off. -/
theorem trim_header_append_blank {front blanks : List String} (h : ∀ cell ∈ blanks, cell = "") :
    trimHeader (front ++ blanks) = trimHeader front := by
  unfold trimHeader
  rw [List.reverse_append, List.dropWhile_append_of_pos]
  simpa using h

/-- A header row is cut off where it is filled up to. -/
theorem FilledUpTo.trim_header_eq {cells : List String} {count : Nat} (h : FilledUpTo cells count) :
    trimHeader cells = cells.take count := by
  have htrim : trimHeader (cells.take count ++ cells.drop count) = trimHeader (cells.take count) :=
    trim_header_append_blank h.blank
  rw [List.take_append_drop] at htrim
  rw [htrim, trimHeader]
  cases hlast : (cells.take count).reverse with
  | nil => rw [List.reverse_eq_nil_iff.mp hlast]; rfl
  | cons cell rest =>
      have hcell : cell ≠ "" := h.last cell (by rw [List.getLast?_eq_head?_reverse, hlast]; rfl)
      rw [List.dropWhile_cons_of_neg (by simpa using hcell), ← hlast, List.reverse_reverse]

/-- Every header row is filled up to some position. -/
theorem exists_filled_up_to (cells : List String) : ∃ count, FilledUpTo cells count := by
  induction cells using List.reverseRecOn with
  | nil => exact ⟨0, Nat.le_refl 0, nofun, nofun⟩
  | append_singleton cells last ih =>
      by_cases hblank : last = ""
      · obtain ⟨count, hle, hlast, hrest⟩ := ih
        refine ⟨count, by rw [List.length_append]; omega, ?_, ?_⟩
        · rwa [List.take_append_of_le_length hle]
        · rw [List.drop_append_of_le_length hle, List.forall_mem_append]
          exact ⟨hrest, by simpa using hblank⟩
      · refine ⟨(cells ++ [last]).length, Nat.le_refl _, ?_, ?_⟩
        · rw [List.take_length, List.getLast?_concat]
          intro cell hcell
          cases hcell
          exact hblank
        · rw [List.drop_length]
          exact nofun

/-! ### Columns -/

variable {inflector : Inflector}

/-- Columns are built one by one, each from its name and definition. -/
theorem build_columns_eq_ok {table : String} {headers : List (String × String)}
    {columns : List Field} :
    buildColumns inflector table headers = .ok columns ↔ List.Forall₂ (fun header column =>
      Field.ofDefinition inflector ⟨table, header.1⟩ header.2 = .ok column)
      headers columns := by
  induction headers generalizing columns with
  | nil =>
      rw [List.forall₂_nil_left_iff, buildColumns]
      exact ⟨fun h => (Except.ok.inj h).symm, fun h => by rw [h]; rfl⟩
  | cons header rest ih =>
      obtain ⟨name, definition⟩ := header
      rw [buildColumns, List.forall₂_cons_left_iff, bind_cons_eq_ok]
      simp only [map_error_eq_ok, ih]

/-- Where every definition is accepted, columns are built. -/
theorem exists_columns (inflector : Inflector) (table : String)
    {headers : List (String × String)}
    (h : ∀ header ∈ headers, ∃ column,
      Field.ofDefinition inflector ⟨table, header.1⟩ header.2 = .ok column) :
    ∃ columns, List.Forall₂ (fun header column =>
      Field.ofDefinition inflector ⟨table, header.1⟩ header.2 = .ok column)
      headers columns := by
  induction headers with
  | nil => exact ⟨[], .nil⟩
  | cons header rest ih =>
      rw [List.forall_mem_cons] at h
      obtain ⟨column, hcolumn⟩ := h.1
      obtain ⟨columns, hcolumns⟩ := ih h.2
      exact ⟨column :: columns, .cons hcolumn hcolumns⟩

/-- Columns have the names they were built with. -/
theorem names_of_columns {table : String} {names definitions : List String} {columns : List Field}
    (hlength : names.length = definitions.length)
    (h : List.Forall₂ (fun header column =>
      Field.ofDefinition inflector ⟨table, header.1⟩ header.2 = .ok column)
      (names.zip definitions) columns) : columns.map Field.name = names := by
  have hnames : columns.map Field.name = (names.zip definitions).map Prod.fst := by
    refine List.forall₂_eq_eq_eq ▸ List.forall₂_map_left_iff.mpr (List.forall₂_map_right_iff.mpr ?_)
    refine h.flip.imp fun column header hcolumn => ?_
    exact congrArg Label.name (Field.well_formed_of_definition hcolumn).1
  rw [hnames, List.map_fst_zip (Nat.le_of_eq hlength)]

/-- Columns pass if their names differ. -/
theorem check_columns_eq_ok {table : String} {names : List String} :
    checkColumns table names = .ok () ↔ names.Nodup := by
  rw [checkColumns, reject_duplicate_eq_ok, Option.map_eq_none_iff, first_repeated_eq_none]
  simp

/-- A scheme is built from header rows of the same length whose definitions are accepted and whose
names differ. -/
theorem build_eq_ok {table : String} {names definitions : List String} {scheme : Scheme} :
    build table names definitions inflector = .ok scheme ↔
      (trimHeader names).length = (trimHeader definitions).length ∧ scheme.table = table ∧
        List.Forall₂ (fun header column =>
          Field.ofDefinition inflector ⟨table, header.1⟩ header.2 = .ok column)
          ((trimHeader names).zip (trimHeader definitions)) scheme.columns ∧
        (scheme.columns.map Field.name).Nodup := by
  rw [build]
  split
  · rename_i hlength
    simp only [bind_eq_ok, build_columns_eq_ok]
    constructor
    · intro h
      obtain ⟨columns, hcolumns, ⟨⟩, hcheck, ⟨⟩⟩ := h
      exact ⟨hlength, rfl, hcolumns, check_columns_eq_ok.mp hcheck⟩
    · intro h
      obtain ⟨-, rfl, hcolumns, hnames⟩ := h
      exact ⟨scheme.columns, hcolumns, (), check_columns_eq_ok.mpr hnames, rfl⟩
  · rename_i hlength
    refine iff_of_false (fun h => ?_) fun h => hlength h.1
    cases h

/-- The fields of columns are well formed at any depth. -/
theorem well_formed_of_columns {table : String} {headers : List (String × String)}
    {columns : List Field} (h : List.Forall₂ (fun header column =>
      Field.ofDefinition inflector ⟨table, header.1⟩ header.2 = .ok column)
      headers columns) : ∀ field ∈ Field.walkAll columns, field.WellFormed table := by
  induction h with
  | nil => exact nofun
  | cons hcolumn _ ih =>
      rw [Field.walkAll, List.forall_mem_append]
      exact ⟨(Field.well_formed_of_definition hcolumn).2, ih⟩

/-- The fields of a scheme that was built are well formed at any depth. -/
theorem well_formed_of_build {table : String} {names definitions : List String} {scheme : Scheme}
    (h : build table names definitions inflector = .ok scheme) :
    ∀ field ∈ scheme.walk, field.WellFormed table := by
  obtain ⟨-, -, hcolumns, -⟩ := build_eq_ok.mp h
  exact well_formed_of_columns hcolumns

/-- In whatever session a scheme comes up, its references are not bound yet. -/
theorem unbound_of_added (scheme : Scheme) (steps : List SessionStep) {node : Node}
    (h : node ∈ scheme.nodes (Session.start.run steps).nextNumber) :
    ((Session.start.run steps).add scheme).workspace.binding? node.place = none := by
  have hsound := Session.sound_run steps
  refine Option.eq_none_iff_forall_ne_some.mpr fun handle hhandle => ?_
  obtain ⟨key, ⟨other, hother, -⟩, -⟩ := hsound.bound node.place handle hhandle
  -- Only places in schemes that came earlier are bound.
  have hlt := (List.getElem?_eq_some_iff.mp hother).1
  rw [(Scheme.follow_nodes h).1, Session.nextNumber, hsound.numbered] at hlt
  exact Nat.lt_irrefl _ hlt

/-- A scheme that is built has a column for every header cell up to the last name that is not empty,
which stands above the last definition that is not empty. The columns have different names, every
field at any depth is well formed, and no reference is bound. A scheme is built from any header rows
whose definitions are derived and whose names differ. All of this holds whatever way words are
inflected. -/
theorem build_well_formed (table : String) (names definitions : List String)
    (inflector : Inflector) :
    (∀ scheme, build table names definitions inflector = .ok scheme →
      scheme.table = table ∧
      (FilledUpTo names scheme.columns.length ∧ FilledUpTo definitions scheme.columns.length ∧
        List.Forall₂ (fun header column => column.label = ⟨table, header.1⟩ ∧
            Field.ofDefinition inflector ⟨table, header.1⟩ header.2 = .ok column)
          ((names.take scheme.columns.length).zip (definitions.take scheme.columns.length))
          scheme.columns) ∧
      (scheme.columns.map Field.name).Nodup ∧
      (∀ field ∈ scheme.walk, field.WellFormed table) ∧
      ∀ steps, ∀ node ∈ scheme.nodes (Session.start.run steps).nextNumber,
        ((Session.start.run steps).add scheme).workspace.binding? node.place = none) ∧
    ∀ count, FilledUpTo names count → FilledUpTo definitions count → (names.take count).Nodup →
      (∀ definition ∈ definitions.take count,
        ∃ derivation : TypeDerivation, derivation.Derives definition) →
      ∃ scheme, build table names definitions inflector = .ok scheme := by
  constructor
  · intro scheme h
    obtain ⟨hlength, rfl, hcolumns, hnames⟩ := build_eq_ok.mp h
    obtain ⟨count, hcount⟩ := exists_filled_up_to names
    obtain ⟨other, hother⟩ := exists_filled_up_to definitions
    have hle := hcount.le
    have hotherLe := hother.le
    rw [hcount.trim_header_eq, hother.trim_header_eq] at hcolumns
    rw [hcount.trim_header_eq, hother.trim_header_eq, List.length_take, List.length_take] at hlength
    obtain rfl : count = other := by omega
    obtain rfl : scheme.columns.length = count := by
      rw [← hcolumns.length_eq, List.length_zip, List.length_take, List.length_take]
      omega
    refine ⟨rfl, ⟨hcount, hother, hcolumns.imp fun header column hcolumn => ?_⟩, hnames,
      well_formed_of_columns hcolumns, fun steps node => unbound_of_added scheme steps⟩
    exact ⟨(Field.well_formed_of_definition hcolumn).1, hcolumn⟩
  · intro count hcount hother hnames hdefinitions
    have hle := hcount.le
    have hotherLe := hother.le
    have hlength : (names.take count).length = (definitions.take count).length := by
      rw [List.length_take, List.length_take]
      omega
    obtain ⟨columns, hcolumns⟩ := exists_columns inflector table fun header hheader => by
      obtain ⟨derivation, hderives⟩ := hdefinitions header.2 (List.of_mem_zip hheader).2
      exact ⟨_, Field.accepted_of_derived hderives⟩
    refine ⟨⟨table, columns⟩, build_eq_ok.mpr ?_⟩
    rw [hcount.trim_header_eq, hother.trim_header_eq]
    exact ⟨hlength, rfl, hcolumns, by rwa [names_of_columns hlength hcolumns]⟩

end Scheme

namespace Workspace

variable {workspace : Workspace}

/-- Where every scheme was built, every node is well formed. -/
theorem Built.well_formed (h : workspace.Built) {node : Node} (hnode : node ∈ workspace.nodes) :
    ∃ table, node.field.WellFormed table := by
  obtain ⟨number, scheme, hscheme, hmem⟩ := mem_nodes.mp hnode
  obtain ⟨inflector, names, definitions, hbuild⟩ := h number scheme hscheme
  have hfield : node.field ∈ scheme.walk := by
    rw [← scheme.map_field_nodes number]
    exact List.mem_map_of_mem hmem
  exact ⟨scheme.table, Scheme.well_formed_of_build hbuild node.field hfield⟩

/-- Where every scheme was built, an enum has well formed members, also behind a reference. -/
theorem Built.well_formed_members (h : workspace.Built) {node : Node} {members : List Member}
    (hnode : node ∈ workspace.nodes) (hshape : workspace.shape node = .enum members) :
    WellFormedMembers members := by
  have hdeclared : ∀ declaration ∈ workspace.nodes, declaration.shape = .enum members →
      WellFormedMembers members := by
    intro declaration hdeclaration henum
    obtain ⟨table, hwell⟩ := h.well_formed hdeclaration
    obtain ⟨place, field⟩ := declaration
    cases field with
    | enum label typeName _ =>
        cases henum
        exact hwell.members label typeName _ rfl
    | primitive | list | dictionary | struct | reference => cases henum
  rw [shape] at hshape
  split at hshape
  · split at hshape
    · rename_i declaration htarget
      simp only [target?, Option.bind_eq_bind, Option.bind_eq_some_iff] at htarget
      obtain ⟨handle, -, hfound⟩ := htarget
      exact hdeclared declaration (mem_nodes_of_node_at hfound).1 hshape
    · cases hshape
  · exact hdeclared node hnode hshape

end Workspace

end SheetWire
