import SheetWire.Proofs.Definition.Filled
import SheetWire.Proofs.Row.Portions

/-!
# Values that a cell does not supply

A text may hold fewer values than a node takes, and it may spell the missing ones out as empty
values. Both encode alike: nothing is told apart where a node that has a width is given empty values
up to it (`pads_alike_of_width`), and so nothing is where the last element of a list or the last
entry of a dictionary is completed. A row of cells may end early in the same way.
-/

namespace SheetWire

open Text Number

section Groups

variable {α : Type} {sep : Char}

/-- Empty parts at the end of others are separators at the end of the glued text. Where no other
part stands before them, there is one separator less, and the text has a part of its own. -/
theorem exists_intercalate_padded {group : List (List Char)} (hgroup : ∀ part ∈ group, sep ∉ part)
    (count : Nat) : ∃ fewer,
      [sep].intercalate (group ++ List.replicate count []) =
        [sep].intercalate group ++ List.replicate fewer sep ∧
      (fewer = 0 ∨
        (([sep].intercalate group).splitOn sep).length + fewer ≤ group.length + count) := by
  have hcut : ∀ parts : List (List Char), parts ≠ [] → (∀ part ∈ parts, sep ∉ part) →
      ∀ more, [sep].intercalate (parts ++ List.replicate more []) =
        [sep].intercalate parts ++ List.replicate more sep := by
    intro parts hne hparts more
    rw [← List.splitOn_intercalate sep hparts hne, ← splitOn_append_replicate,
      List.splitOn_intercalate sep hparts hne, List.intercalate_splitOn]
  by_cases hnil : group = []
  · subst hnil
    cases count with
    | zero => exact ⟨0, rfl, .inl rfl⟩
    | succ count =>
        refine ⟨count, ?_, .inr ?_⟩
        · exact hcut [[]] (List.cons_ne_nil _ _)
            (fun part hpart => List.mem_singleton.mp hpart ▸ List.not_mem_nil) count
        · rw [List.intercalate_nil, List.splitOn_nil, List.length_singleton, List.length_nil]
          omega
  · refine ⟨count, hcut group hnil hgroup count, .inr ?_⟩
    rw [List.splitOn_intercalate sep hgroup hnil]

/-- The runs of a list that is extended to a multiple of their length are its own runs, each
extended to that length. -/
theorem runs_append_replicate {length count : Nat} {list : List α} (x : α) (hcount : count < length)
    (hdvd : length ∣ list.length + count) :
    runs length (list ++ List.replicate count x) =
      (runs length list).map (List.rightpad length x) := by
  induction list using runs.induct length with
  | case1 =>
      obtain rfl : count = 0 := by
        rw [List.length_nil, Nat.zero_add] at hdvd
        exact Nat.eq_zero_of_dvd_of_lt hdvd hcount
      simp [runs]
  | case2 first rest ih =>
      rw [List.length_cons] at hdvd
      rw [List.cons_append, runs, runs, List.map_cons]
      by_cases hshort : rest.length < length - 1
      · -- The list is shorter than a run, and with the copies it is one run.
        obtain ⟨times, htimes⟩ := hdvd
        have hlength : rest.length + 1 + count = length := by
          have hone : times = 1 := by
            have hlt : length * times < length * 2 := by omega
            have hpos : 0 < length * times := by omega
            have := Nat.lt_of_mul_lt_mul_left hlt
            have := Nat.pos_of_mul_pos_left hpos
            omega
          rw [htimes, hone, Nat.mul_one]
        have hrun : (rest ++ List.replicate count x).length = length - 1 := by
          rw [List.length_append, List.length_replicate]
          omega
        rw [List.take_of_length_le (Nat.le_of_eq hrun), List.drop_of_length_le (Nat.le_of_eq hrun),
          List.take_of_length_le (by omega), List.drop_of_length_le (by omega)]
        simp only [runs, List.map_nil, List.rightpad, List.length_cons, List.cons_append]
        congr 4
        omega
      · -- The first run is complete, and the copies stand behind what comes after it.
        have hfirst : (first :: rest.take (length - 1)).length = length := by
          rw [List.length_cons, List.length_take]
          omega
        have hrest : length ∣ (rest.drop (length - 1)).length + count := by
          obtain ⟨times, htimes⟩ := hdvd
          refine ⟨times - 1, ?_⟩
          rw [List.length_drop, Nat.mul_sub, ← htimes]
          omega
        rw [List.take_append_of_le_length (by omega), List.drop_append_of_le_length (by omega),
          ih hrest, List.rightpad, hfirst, Nat.sub_self, List.replicate_zero, List.append_nil]

end Groups

namespace Workspace

variable {workspace : Workspace}

/-- Whether a node encodes empty values that a text leaves out like those that it spells out, up to
a number of values. -/
def PadsAlike (workspace : Workspace) (node : Node) (width : Nat) : Prop :=
  ∀ bound text count, (text.splitOn ',').length + count ≤ width →
    workspace.encodeWithin bound node (text ++ List.replicate count ',') =
      workspace.encodeWithin bound node text

/-- Whether a node is given two groups of values that encode alike. -/
def GroupsAlike (workspace : Workspace) (portion twin : Node × List (List Char)) : Prop :=
  ∀ bound, workspace.encodeWithin bound portion.1 ([','].intercalate portion.2) =
    workspace.encodeWithin bound twin.1 ([','].intercalate twin.2)

/-- A group with empty values behind it encodes like the group. -/
theorem PadsAlike.group {node : Node} {width count : Nat} {group : List (List Char)}
    (h : workspace.PadsAlike node width) (hgroup : ∀ part ∈ group, ',' ∉ part)
    (hlength : group.length + count ≤ width) :
    workspace.GroupsAlike (node, group ++ List.replicate count []) (node, group) := by
  intro bound
  obtain ⟨fewer, hglue, hfewer⟩ := exists_intercalate_padded hgroup count
  show workspace.encodeWithin bound node ([','].intercalate (group ++ List.replicate count [])) =
    workspace.encodeWithin bound node ([','].intercalate group)
  rw [hglue]
  rcases hfewer with rfl | hfewer
  · rw [List.replicate_zero, List.append_nil]
  · exact h bound _ fewer (Nat.le_trans hfewer hlength)

/-- The first elements of a list with empty values behind it. -/
theorem PadsAlike.take {node : Node} {width count : Nat} {group : List (List Char)}
    (h : workspace.PadsAlike node width) (hgroup : ∀ part ∈ group, ',' ∉ part) :
    workspace.GroupsAlike (node, (group ++ List.replicate count []).take width)
      (node, group.take width) := by
  rw [List.take_append, List.take_replicate]
  refine h.group (fun part hpart => hgroup part (List.mem_of_mem_take hpart)) ?_
  rw [List.length_take]
  omega

/-- Empty values at the end of a text are dealt out to nodes without effect. -/
theorem groups_alike_of_deal {nodes : List Node} {widths : List Nat}
    (h : List.Forall₂ workspace.PadsAlike nodes widths) {parts : List (List Char)} {count : Nat}
    (hparts : ∀ part ∈ parts, ',' ∉ part) :
    List.Forall₂ workspace.GroupsAlike
      (nodes.zip (deal widths (parts ++ List.replicate count [])))
      (nodes.zip (deal widths parts)) := by
  induction h generalizing parts count with
  | nil => exact .nil
  | @cons node width nodes widths hnode _ ih =>
      rw [deal, deal, List.zip_cons_cons, List.zip_cons_cons]
      refine .cons (hnode.take hparts) ?_
      rw [List.drop_append, List.drop_replicate]
      exact ih fun part hpart => hparts part (List.mem_of_mem_drop hpart)

/-- Portions that encode alike one by one encode alike together. -/
theorem encode_portions_of_groups {bound : Nat} {list twins : List (Node × List (List Char))}
    (h : List.Forall₂ workspace.GroupsAlike list twins) :
    workspace.encodePortions bound (list.map fun (node, group) => (node, [','].intercalate group)) =
      workspace.encodePortions bound
        (twins.map fun (node, group) => (node, [','].intercalate group)) := by
  rw [encodePortions, encodePortions, concat_slots_map, concat_slots_map]
  exact concat_slots_of_forall_two (h.imp fun _ _ hgroups => hgroups bound)

/-- A node encodes two texts alike if it writes the same slots for them itself, and their portions
encode alike. -/
theorem encode_of_portions_alike {bound : Nat} {node : Node} {text other : List Char} {own : Slots}
    {list twins : List (Node × List Char)} (htext : workspace.portions node text = .ok (own, list))
    (hother : workspace.portions node other = .ok (own, twins))
    (h : workspace.encodePortions bound list = workspace.encodePortions bound twins) :
    workspace.encodeWithin (bound + 1) node text =
      workspace.encodeWithin (bound + 1) node other := by
  rw [encode_within_succ, encode_within_succ, htext, hother]
  show (workspace.encodePortions bound list >>= _) = (workspace.encodePortions bound twins >>= _)
  rw [h]

/-- A node that has a width encodes empty values that a text leaves out like those that it spells
out, up to the width. -/
theorem pads_alike_of_width {node : Node} {width : Nat}
    (hwidth : workspace.width node = .ok width) : workspace.PadsAlike node width := by
  refine width_induction (motive := fun node => ∀ width, workspace.width node = .ok width →
    workspace.PadsAlike node width) ?_ ?_ hwidth width hwidth
  · intro node hsingle width hwidth bound text count hlength
    rw [Workspace.width, width_from_single hsingle] at hwidth
    cases hwidth
    have hpos := List.length_pos_of_ne_nil (List.splitOn_ne_nil ',' text)
    obtain rfl : count = 0 := by omega
    rw [List.replicate_zero, List.append_nil]
  · intro node place typeName subfields hshape ih width hwidth bound text count hlength
    cases bound with
    | zero => rfl
    | succ bound =>
        obtain ⟨widths, hwidths, rfl⟩ := width_of_struct hshape hwidth
        have hpadded : ((text ++ List.replicate count ',').splitOn ',').length ≤ widths.sum := by
          rwa [splitOn_append_replicate, List.length_append, List.length_replicate]
        have hsubfields : List.Forall₂ workspace.PadsAlike subfields widths :=
          ((List.forall₂_and_left _ _).mpr ⟨fun _ hmem => hmem, widths_eq_ok.mp hwidths⟩).imp
            fun subfield width hsubfield => ih subfield hsubfield.1 width hsubfield.2
        refine encode_of_portions_alike (portions_of_struct hshape hwidths hpadded)
          (portions_of_struct hshape hwidths (by omega)) ?_
        rw [splitOn_append_replicate]
        exact encode_portions_of_groups
          (groups_alike_of_deal hsubfields fun part => notMem_of_mem_splitOn)

/-- A list encodes the values that its last element is short of like empty ones. -/
theorem encode_list_padded {node element : Node} {width count bound : Nat} {text : List Char}
    (hshape : workspace.shape node = .list element) (hwidth : workspace.width element = .ok width)
    (htext : text ≠ []) (hcount : count < width)
    (hdvd : width ∣ (text.splitOn ',').length + count) :
    workspace.encodeWithin bound node (text ++ List.replicate count ',') =
      workspace.encodeWithin bound node text := by
  cases bound with
  | zero => rfl
  | succ bound =>
      have hpadded : text ++ List.replicate count ',' ≠ [] :=
        List.append_ne_nil_of_left_ne_nil htext _
      have hportions := portions_of_portioned (.list element width hshape hpadded hwidth)
      rw [splitOn_append_replicate, runs_append_replicate [] hcount hdvd, List.length_map,
        List.map_map] at hportions
      refine encode_of_portions_alike hportions
        (portions_of_portioned (.list element width hshape htext hwidth)) ?_
      rw [encodePortions, encodePortions, concat_slots_map, concat_slots_map]
      refine concat_slots_of_forall_two (List.forall₂_same.mpr fun group hgroup => ?_)
      obtain ⟨hinside, -, hlength⟩ := runs_spec hgroup
      exact (pads_alike_of_width hwidth).group
        (fun part hpart => notMem_of_mem_splitOn (hinside.subset hpart)) (by omega) bound

/-- A dictionary encodes the values that its last entry is short of like empty ones, whether they
belong to the key or to the value. -/
theorem encode_dictionary_padded {node key value : Node} {keyWidth valueWidth count bound : Nat}
    {text : List Char} (hshape : workspace.shape node = .dictionary key value)
    (hkey : workspace.width key = .ok keyWidth) (hvalue : workspace.width value = .ok valueWidth)
    (htext : text ≠ []) (hcount : count < keyWidth + valueWidth)
    (hdvd : keyWidth + valueWidth ∣ (text.splitOn ',').length + count) :
    workspace.encodeWithin bound node (text ++ List.replicate count ',') =
      workspace.encodeWithin bound node text := by
  cases bound with
  | zero => rfl
  | succ bound =>
      have hpadded : text ++ List.replicate count ',' ≠ [] :=
        List.append_ne_nil_of_left_ne_nil htext _
      have hportions :=
        portions_of_portioned (.dictionary key value _ _ hshape hpadded hkey hvalue)
      rw [splitOn_append_replicate, runs_append_replicate [] hcount hdvd,
        List.length_map] at hportions
      refine encode_of_portions_alike hportions
        (portions_of_portioned (.dictionary key value _ _ hshape htext hkey hvalue)) ?_
      rw [encodePortions, encodePortions, concat_slots_pairs, concat_slots_pairs, concat_slots_map]
      refine concat_slots_of_forall_two (List.forall₂_same.mpr fun entry hentry => ?_)
      obtain ⟨hinside, -, hlength⟩ := runs_spec hentry
      have hparts : ∀ part ∈ entry, ',' ∉ part :=
        fun part hpart => notMem_of_mem_splitOn (hinside.subset hpart)
      have hfirst : workspace.GroupsAlike
          (key, (List.rightpad (keyWidth + valueWidth) [] entry).take keyWidth)
          (key, entry.take keyWidth) := (pads_alike_of_width hkey).take hparts
      have hsecond : workspace.GroupsAlike
          (value, (List.rightpad (keyWidth + valueWidth) [] entry).drop keyWidth)
          (value, entry.drop keyWidth) := by
        rw [List.rightpad, List.drop_append, List.drop_replicate]
        refine (pads_alike_of_width hvalue).group
          (fun part hpart => hparts part (List.mem_of_mem_drop hpart)) ?_
        rw [List.length_drop]
        omega
      simp only [hfirst bound, hsecond bound]

/-- Empty cells at the end of a row have no effect. -/
theorem encode_cells_append_empty [DateFormat] (columns : List Node) (cells : List Cell)
    (count : Nat) :
    workspace.encodeCells columns (cells ++ List.replicate count .empty) =
      workspace.encodeCells columns cells := by
  induction columns generalizing cells count with
  | nil => rfl
  | cons column columns ih =>
      rw [encodeCells, encodeCells]
      cases cells with
      | cons cell cells =>
          rw [List.cons_append, List.headD_cons, List.headD_cons, List.tail_cons, List.tail_cons,
            ih cells count]
      | nil =>
          have hrest := ih [] (count - 1)
          rw [List.nil_append] at hrest
          rw [List.nil_append, List.tail_replicate, hrest]
          cases count <;> rfl

/-- Cells after the last column have no effect. -/
theorem encode_cells_append_extra [DateFormat] {columns : List Node} {cells : List Cell}
    (h : columns.length ≤ cells.length) (extra : List Cell) :
    workspace.encodeCells columns (cells ++ extra) = workspace.encodeCells columns cells := by
  induction columns generalizing cells with
  | nil => rfl
  | cons column columns ih =>
      cases cells with
      | nil => exact absurd h (Nat.not_succ_le_zero _)
      | cons cell cells =>
          rw [encodeCells, encodeCells, List.cons_append, List.headD_cons, List.headD_cons,
            List.tail_cons, List.tail_cons, ih (Nat.le_of_succ_le_succ h)]

/-- Values that are left out encode like empty ones that are spelled out, under every bound and with
the same errors: up to the width of a node that has one, and up to the end of the last element of a
list or the last entry of a dictionary. A row encodes the same with empty cells at its end, and with
any cells after its last column. -/
theorem encode_missing_as_empty [DateFormat] (workspace : Workspace) :
    (∀ node width, workspace.width node = .ok width → ∀ bound text count,
      (text.splitOn ',').length + count ≤ width →
      workspace.encodeWithin bound node (text ++ List.replicate count ',') =
        workspace.encodeWithin bound node text) ∧
    (∀ node element width, workspace.shape node = .list element →
      workspace.width element = .ok width → ∀ bound text count, text ≠ [] → count < width →
      width ∣ (text.splitOn ',').length + count →
      workspace.encodeWithin bound node (text ++ List.replicate count ',') =
        workspace.encodeWithin bound node text) ∧
    (∀ node key value keyWidth valueWidth, workspace.shape node = .dictionary key value →
      workspace.width key = .ok keyWidth → workspace.width value = .ok valueWidth →
      ∀ bound text count, text ≠ [] → count < keyWidth + valueWidth →
      keyWidth + valueWidth ∣ (text.splitOn ',').length + count →
      workspace.encodeWithin bound node (text ++ List.replicate count ',') =
        workspace.encodeWithin bound node text) ∧
    ∀ number cells,
      (∀ count, workspace.encodeRow number (cells ++ List.replicate count .empty) =
        workspace.encodeRow number cells) ∧
      ((workspace.columns number).length ≤ cells.length → ∀ extra,
        workspace.encodeRow number (cells ++ extra) = workspace.encodeRow number cells) := by
  refine ⟨fun node width hwidth => pads_alike_of_width hwidth,
    fun node element width hshape hwidth bound text count htext hcount hdvd =>
      encode_list_padded hshape hwidth htext hcount hdvd,
    fun node key value keyWidth valueWidth hshape hkey hvalue bound text count htext hcount hdvd =>
      encode_dictionary_padded hshape hkey hvalue htext hcount hdvd,
    fun number cells => ⟨fun count => ?_, fun hlength extra => ?_⟩⟩
  · rw [encodeRow, encodeRow, encode_cells_append_empty]
  · rw [encodeRow, encodeRow, encode_cells_append_extra hlength]

/-- The first stop of a route. -/
def firstStop : Node :=
  ⟨⟨0, [0]⟩, .struct ⟨"Routes", "stop"⟩ "Stop"
    [.primitive ⟨"Routes", "x"⟩ .int, .primitive ⟨"Routes", "y"⟩ .int]⟩

/-- A reference to a stop, at a place. -/
def stopReference (path : List Nat) (name : String) : Node :=
  ⟨⟨0, path⟩, .reference ⟨"Routes", name⟩ ⟨"Routes", "Stop"⟩⟩

/-- The other stops of a route. -/
def otherStops : Node :=
  ⟨⟨0, [1]⟩, .list ⟨"Routes", "via_1"⟩ (stopReference [0, 1] "via_1").field⟩

/-- Stops under their names. -/
def namedStops : Node :=
  ⟨⟨0, [2]⟩, .dictionary ⟨"Routes", "named"⟩ (.primitive ⟨"Routes", ""⟩ .string)
    (stopReference [1, 2] "").field⟩

/-- A table of routes. -/
def routes : Scheme :=
  ⟨"Routes", [firstStop.field, otherStops.field, namedStops.field]⟩

/-- A stop, a list of stops and a dictionary of stops may end early, and so may a row. -/
theorem short_route_encoded :
    (resolved [routes]).Built ∧
    (∀ bound, (resolved [routes]).encodeWithin bound firstStop "1,".toList =
      (resolved [routes]).encodeWithin bound firstStop "1".toList) ∧
    (∀ bound, (resolved [routes]).encodeWithin bound otherStops "1,2,3,".toList =
      (resolved [routes]).encodeWithin bound otherStops "1,2,3".toList) ∧
    (∀ bound, (resolved [routes]).encodeWithin bound namedStops "home,,".toList =
      (resolved [routes]).encodeWithin bound namedStops "home".toList) ∧
    (resolved [routes]).encodeRow 0 [.text "4", .text "1,2,3", .empty, .empty] =
      .ok ⟨["4,".toList, "2,1,2,3,".toList, "0".toList]⟩ ∧
    (resolved [routes]).encodeRow 0 [.text "4", .text "1", .text "home", .text "a note"] =
      .ok ⟨["4,".toList, "1,1,".toList, "1,home,,".toList]⟩ := by
  have hbuilt : (resolved [routes]).Built := by
    refine built_resolved fun scheme hscheme => ?_
    obtain rfl := List.mem_singleton.mp hscheme
    refine ⟨English.inflector, ["stop", "via_1", "named"],
      ["Struct<int,x,int,y>", "List<@Routes,Stop>", "Map<string,@Routes,Stop>"], ?_⟩
    cbv
  obtain ⟨hnode, hlist, hdictionary, hrow⟩ := encode_missing_as_empty (resolved [routes])
  refine ⟨hbuilt, fun bound => ?_, fun bound => ?_, fun bound => ?_, ?_, ?_⟩
  · exact hnode firstStop 2 (by cbv) bound "1".toList 1 (by decide)
  · exact hlist otherStops (stopReference [0, 1] "via_1") 2 rfl (by cbv) bound "1,2,3".toList 1
      (by decide) (by decide) (by decide)
  · exact hdictionary namedStops _ (stopReference [1, 2] "") 1 2 rfl (by cbv) (by cbv) bound
      "home".toList 2 (by decide) (by decide) (by decide)
  · refine ((hrow 0 [.text "4", .text "1,2,3"]).1 2).trans ?_
    cbv
  · refine ((hrow 0 [.text "4", .text "1", .text "home"]).2 (by decide) [.text "a note"]).trans ?_
    cbv

end Workspace

end SheetWire
