import SheetWire.Proofs.Row.Openings

/-!
# Reading cells directly

What an escaped text means as a value of a node, said without a wire row: `Reads` cuts the text at
its commas and goes down into the parts of the node. A text that should be a number and is none is
where such a reading stops. A reading has one outcome (`reads_deterministic`), and where it stops,
there is indeed no number (`no_number_of_reads`).
-/

namespace SheetWire

open Text Number

/-- Whether a text is read as a number of a kind once the blanks around it are gone. -/
def NumberKind.reads (text : List Char) : NumberKind → Bool
  | .int => (readInt32? (trim text)).isSome
  | .long => (readInt64? (trim text)).isSome
  | .float => (single.read? (trim text)).isSome
  | .double => (Number.double.read? (trim text)).isSome
  | .count => (readInt64? (trim text)).isSome

/-- Whether a misfit is none of the numbers of its kind. -/
def Misfit.NoNumber (misfit : Misfit) : Prop :=
  misfit.kind.reads misfit.text = false

/-- A text that is not read as a number of a kind is left over as it is. -/
theorem read_number_eq_error {α β : Type} {kind : NumberKind} {parse : List Char → Option α}
    {text : List Char} {f : α → β} {misfit : Misfit}
    (h : (readNumber kind parse text).map f = .error misfit) :
    misfit = ⟨kind, text⟩ ∧ (parse (trim text)).isSome = false := by
  unfold readNumber at h
  cases hparse : parse (trim text) with
  | some value =>
      rw [hparse] at h
      exact nomatch h
  | none =>
      rw [hparse] at h
      cases h
      exact ⟨rfl, rfl⟩

/-- A text is refused as a primitive only if it is no number of the kind that is asked for. -/
theorem no_number_of_read {kind : Primitive} {text : List Char} {misfit : Misfit}
    (h : kind.read text = .error misfit) : misfit.NoNumber := by
  cases kind with
  | int =>
      obtain ⟨rfl, hparse⟩ := read_number_eq_error h
      exact hparse
  | long =>
      obtain ⟨rfl, hparse⟩ := read_number_eq_error h
      exact hparse
  | float =>
      obtain ⟨rfl, hparse⟩ := read_number_eq_error h
      exact hparse
  | string => exact nomatch h
  | bool => exact nomatch h

/-- Another form of the value does not change an error. -/
theorem error_of_map {ε α β : Type} {outcome : Except ε α} {f : α → β} {e : ε}
    (h : outcome.map f = .error e) : outcome = .error e := by
  cases outcome with
  | ok value => exact nomatch h
  | error other =>
      cases h
      rfl

namespace Workspace

mutual
/-- What a node makes of an escaped text: the value that it reads, or where it stops. -/
inductive Reads (workspace : Workspace) : Node → List Char → Except Misfit Value → Prop where
  | primitive (node kind text) :
      workspace.shape node = .primitive kind →
      Reads workspace node text (kind.read text)
  | noMember (node members) :
      workspace.shape node = .enum members →
      Reads workspace node [] (.error ⟨.long, []⟩)
  | member (node members text number) :
      workspace.shape node = .enum members → text ≠ [] →
      Field.memberValue? members (String.ofList text) = some number →
      Reads workspace node text (.ok (.enum number))
  | emptyList (node element) :
      workspace.shape node = .list element →
      Reads workspace node [] (.ok (.list []))
  | list (node element text width outcome) :
      workspace.shape node = .list element → text ≠ [] →
      workspace.width element = .ok width →
      ReadsAll workspace
        ((runs width (text.splitOn ',')).map fun group => (element, [','].intercalate group))
        outcome →
      Reads workspace node text (outcome.map .list)
  | emptyDictionary (node key value) :
      workspace.shape node = .dictionary key value →
      Reads workspace node [] (.ok (.map []))
  | dictionary (node key value text keyWidth valueWidth outcome) :
      workspace.shape node = .dictionary key value → text ≠ [] →
      workspace.width key = .ok keyWidth → workspace.width value = .ok valueWidth →
      ReadsAll workspace
        ((runs (keyWidth + valueWidth) (text.splitOn ',')).flatMap fun entry =>
          [(key, [','].intercalate (entry.take keyWidth)),
            (value, [','].intercalate (entry.drop keyWidth))])
        outcome →
      Reads workspace node text (outcome.map fun values => .map (pairs values))
  | struct (node place typeName subfields text widths outcome) :
      workspace.shape node = .struct place typeName subfields →
      workspace.widths subfields = .ok widths → (text.splitOn ',').length ≤ widths.sum →
      ReadsAll workspace
        ((subfields.zip (deal widths (text.splitOn ','))).map fun (subfield, group) =>
          (subfield, [','].intercalate group)) outcome →
      Reads workspace node text (outcome.map fun values =>
        .struct ((subfields.map fun subfield => subfield.field.name).zip values))

/-- What nodes make of a text each: their values in order, or where the first one stops. -/
inductive ReadsAll (workspace : Workspace) :
    List (Node × List Char) → Except Misfit (List Value) → Prop where
  | nil : ReadsAll workspace [] (.ok [])
  | cons (node text value rest outcome) :
      Reads workspace node text (.ok value) → ReadsAll workspace rest outcome →
      ReadsAll workspace ((node, text) :: rest) (outcome.map fun values => value :: values)
  | stop (node text misfit rest) :
      Reads workspace node text (.error misfit) →
      ReadsAll workspace ((node, text) :: rest) (.error misfit)
end

variable {workspace : Workspace}

section Inversion

variable {node : Node} {text : List Char} {outcome : Except Misfit Value}

/-- A primitive reads a text as its kind says. -/
theorem reads_primitive {kind : Primitive} (hshape : workspace.shape node = .primitive kind) :
    workspace.Reads node text outcome ↔ outcome = kind.read text := by
  constructor
  · intro h
    cases h <;> simp_all
  · rintro rfl
    exact .primitive node kind text hshape

/-- An enum reads the name of a member and stops at a text that is empty. -/
theorem reads_enum {members : List Member} (hshape : workspace.shape node = .enum members) :
    workspace.Reads node text outcome ↔
      (text = [] ∧ outcome = .error ⟨.long, []⟩) ∨
        (text ≠ [] ∧ ∃ number, Field.memberValue? members (String.ofList text) = some number ∧
          outcome = .ok (.enum number)) := by
  constructor
  · intro h
    cases h <;> simp_all
  · intro h
    rcases h with ⟨rfl, rfl⟩ | ⟨htext, number, hnumber, rfl⟩
    · exact .noMember node members hshape
    · exact .member node members text number hshape htext hnumber

/-- A list reads its elements from runs of the parts of a text, and has none if there is no text. -/
theorem reads_list {element : Node} (hshape : workspace.shape node = .list element) :
    workspace.Reads node text outcome ↔
      (text = [] ∧ outcome = .ok (.list [])) ∨
        (text ≠ [] ∧ ∃ width inner, workspace.width element = .ok width ∧
          workspace.ReadsAll
            ((runs width (text.splitOn ',')).map fun group =>
              (element, [','].intercalate group)) inner ∧
          outcome = inner.map .list) := by
  constructor
  · intro h
    cases h with
    | emptyList _ same hsame => exact .inl ⟨rfl, rfl⟩
    | list _ same _ width inner hsame htext hwidth hall =>
        obtain rfl := Shape.list.inj (hshape.symm.trans hsame)
        exact .inr ⟨htext, width, inner, hwidth, hall, rfl⟩
    | _ => simp_all
  · intro h
    rcases h with ⟨rfl, rfl⟩ | ⟨htext, width, inner, hwidth, hall, rfl⟩
    · exact .emptyList node element hshape
    · exact .list node element text width inner hshape htext hwidth hall

/-- A dictionary reads its entries from runs of the parts of a text, key before value, and has none
if there is no text. -/
theorem reads_dictionary {key value : Node}
    (hshape : workspace.shape node = .dictionary key value) :
    workspace.Reads node text outcome ↔
      (text = [] ∧ outcome = .ok (.map [])) ∨
        (text ≠ [] ∧ ∃ keyWidth valueWidth inner, workspace.width key = .ok keyWidth ∧
          workspace.width value = .ok valueWidth ∧
          workspace.ReadsAll
            ((runs (keyWidth + valueWidth) (text.splitOn ',')).flatMap fun entry =>
              [(key, [','].intercalate (entry.take keyWidth)),
                (value, [','].intercalate (entry.drop keyWidth))])
            inner ∧
          outcome = inner.map fun values => .map (pairs values)) := by
  constructor
  · intro h
    cases h with
    | emptyDictionary _ sameKey sameValue hsame => exact .inl ⟨rfl, rfl⟩
    | dictionary _ sameKey sameValue _ keyWidth valueWidth inner hsame htext hkey hvalue hall =>
        obtain ⟨rfl, rfl⟩ := Shape.dictionary.inj (hshape.symm.trans hsame)
        exact .inr ⟨htext, keyWidth, valueWidth, inner, hkey, hvalue, hall, rfl⟩
    | _ => simp_all
  · intro h
    rcases h with ⟨rfl, rfl⟩ | ⟨htext, keyWidth, valueWidth, inner, hkey, hvalue, hall, rfl⟩
    · exact .emptyDictionary node key value hshape
    · exact .dictionary node key value text keyWidth valueWidth inner hshape htext hkey hvalue hall

/-- A struct reads its subfields from the parts of a text that are dealt out to them. -/
theorem reads_struct {place : Place} {typeName : String} {subfields : List Node}
    (hshape : workspace.shape node = .struct place typeName subfields) :
    workspace.Reads node text outcome ↔
      ∃ widths inner, workspace.widths subfields = .ok widths ∧
        (text.splitOn ',').length ≤ widths.sum ∧
        workspace.ReadsAll
          ((subfields.zip (deal widths (text.splitOn ','))).map fun (subfield, group) =>
            (subfield, [','].intercalate group)) inner ∧
        outcome = inner.map fun values =>
          .struct ((subfields.map fun subfield => subfield.field.name).zip values) := by
  constructor
  · intro h
    cases h with
    | struct _ same sameName sameFields _ widths inner hsame hwidths hlength hall =>
        obtain ⟨rfl, rfl, rfl⟩ := Shape.struct.inj (hshape.symm.trans hsame)
        exact ⟨widths, inner, hwidths, hlength, hall, rfl⟩
    | _ => simp_all
  · intro h
    obtain ⟨widths, inner, hwidths, hlength, hall, rfl⟩ := h
    exact .struct node place typeName subfields text widths inner hshape hwidths hlength hall

/-- Nodes read their texts one by one until one of them stops. -/
theorem reads_all_cons {list : List (Node × List Char)} {all : Except Misfit (List Value)} :
    workspace.ReadsAll ((node, text) :: list) all ↔
      (∃ value rest, workspace.Reads node text (.ok value) ∧ workspace.ReadsAll list rest ∧
        all = rest.map fun values => value :: values) ∨
      ∃ misfit, workspace.Reads node text (.error misfit) ∧ all = .error misfit := by
  constructor
  · intro h
    cases h with
    | cons _ _ value _ rest hfirst hrest => exact .inl ⟨value, rest, hfirst, hrest, rfl⟩
    | stop _ _ misfit _ hfirst => exact .inr ⟨misfit, hfirst, rfl⟩
  · intro h
    rcases h with ⟨value, rest, hfirst, hrest, rfl⟩ | ⟨misfit, hfirst, rfl⟩
    · exact .cons node text value list rest hfirst hrest
    · exact .stop node text misfit list hfirst

/-- Nodes read values where each of them reads one. -/
theorem reads_all_cons_eq_ok {list : List (Node × List Char)} {values : List Value} :
    workspace.ReadsAll ((node, text) :: list) (.ok values) ↔
      ∃ value others, workspace.Reads node text (.ok value) ∧
        workspace.ReadsAll list (.ok others) ∧ values = value :: others := by
  rw [reads_all_cons]
  constructor
  · intro h
    rcases h with ⟨value, rest, hfirst, hrest, hvalues⟩ | ⟨misfit, -, hvalues⟩
    · obtain ⟨others, rfl, rfl⟩ := map_eq_ok.mp hvalues.symm
      exact ⟨value, others, hfirst, hrest, rfl⟩
    · exact nomatch hvalues
  · intro h
    obtain ⟨value, others, hfirst, hrest, rfl⟩ := h
    exact .inl ⟨value, .ok others, hfirst, hrest, rfl⟩

/-- Without texts there are no values. -/
theorem reads_all_nil {outcome : Except Misfit (List Value)} :
    workspace.ReadsAll [] outcome ↔ outcome = .ok [] := by
  constructor
  · intro h
    cases h
    rfl
  · rintro rfl
    exact .nil

/-- Every text is read as one value. -/
theorem length_of_reads_all {list : List (Node × List Char)} {values : List Value}
    (h : workspace.ReadsAll list (.ok values)) : values.length = list.length := by
  induction list generalizing values with
  | nil =>
      cases reads_all_nil.mp h
      rfl
  | cons portion list ih =>
      obtain ⟨value, others, -, hothers, rfl⟩ := reads_all_cons_eq_ok.mp h
      rw [List.length_cons, List.length_cons, ih hothers]

end Inversion

mutual
/-- A node makes one thing of a text. -/
theorem reads_deterministic {node : Node} {text : List Char} {first second : Except Misfit Value}
    (h : workspace.Reads node text first) (hother : workspace.Reads node text second) :
    first = second := by
  -- The recursion is on the first reading; the second one is opened by the shape of the node.
  match h with
  | .primitive _ kind _ hshape => exact ((reads_primitive hshape).mp hother).symm
  | .noMember _ members hshape =>
      rcases (reads_enum hshape).mp hother with ⟨-, hsecond⟩ | ⟨htext, -⟩
      · exact hsecond.symm
      · exact absurd rfl htext
  | .member _ members _ number hshape htext hnumber =>
      rcases (reads_enum hshape).mp hother with ⟨hnil, -⟩ | ⟨-, same, hsame, hsecond⟩
      · exact absurd hnil htext
      · rw [hsecond, Option.some.inj (hnumber.symm.trans hsame)]
  | .emptyList _ element hshape =>
      rcases (reads_list hshape).mp hother with ⟨-, hsecond⟩ | ⟨htext, -⟩
      · exact hsecond.symm
      · exact absurd rfl htext
  | .list _ element _ width outcome hshape htext hwidth hall =>
      have hunique : ∀ other, workspace.ReadsAll _ other → outcome = other :=
        fun other => reads_all_deterministic hall
      rcases (reads_list hshape).mp hother with ⟨hnil, -⟩ | ⟨-, same, inner, hsame, hinner, hsecond⟩
      · exact absurd hnil htext
      · obtain rfl := Except.ok.inj (hwidth.symm.trans hsame)
        rw [hsecond, hunique inner hinner]
  | .emptyDictionary _ key value hshape =>
      rcases (reads_dictionary hshape).mp hother with ⟨-, hsecond⟩ | ⟨htext, -⟩
      · exact hsecond.symm
      · exact absurd rfl htext
  | .dictionary _ key value _ keyWidth valueWidth outcome hshape htext hkey hvalue hall =>
      have hunique : ∀ other, workspace.ReadsAll _ other → outcome = other :=
        fun other => reads_all_deterministic hall
      rcases (reads_dictionary hshape).mp hother with
        ⟨hnil, -⟩ | ⟨-, sameKey, sameValue, inner, hsameKey, hsameValue, hinner, hsecond⟩
      · exact absurd hnil htext
      · obtain rfl := Except.ok.inj (hkey.symm.trans hsameKey)
        obtain rfl := Except.ok.inj (hvalue.symm.trans hsameValue)
        rw [hsecond, hunique inner hinner]
  | .struct _ place typeName subfields _ widths outcome hshape hwidths hlength hall =>
      have hunique : ∀ other, workspace.ReadsAll _ other → outcome = other :=
        fun other => reads_all_deterministic hall
      obtain ⟨same, inner, hsame, -, hinner, hsecond⟩ := (reads_struct hshape).mp hother
      obtain rfl := Except.ok.inj (hwidths.symm.trans hsame)
      rw [hsecond, hunique inner hinner]

/-- Nodes make one thing of their texts. -/
theorem reads_all_deterministic {list : List (Node × List Char)}
    {first second : Except Misfit (List Value)} (h : workspace.ReadsAll list first)
    (hother : workspace.ReadsAll list second) : first = second := by
  match h with
  | .nil =>
      cases hother
      rfl
  | .cons node text value list rest hfirst hrest =>
      rcases reads_all_cons.mp hother with
        ⟨same, inner, hsame, hinner, hsecond⟩ | ⟨misfit, hstop, -⟩
      · rw [hsecond, Except.ok.inj (reads_deterministic hfirst hsame),
          reads_all_deterministic hrest hinner]
      · exact nomatch reads_deterministic hfirst hstop
  | .stop node text misfit list hstop =>
      rcases reads_all_cons.mp hother with ⟨value, rest, hfirst, -⟩ | ⟨same, hsame, hsecond⟩
      · exact nomatch reads_deterministic hstop hfirst
      · rw [hsecond, Except.error.inj (reads_deterministic hstop hsame)]
end

mutual
/-- Where a node stops, there is no number of the kind that should be there. -/
theorem no_number_of_reads {node : Node} {text : List Char} {outcome : Except Misfit Value}
    (h : workspace.Reads node text outcome) {misfit : Misfit} (hstop : outcome = .error misfit) :
    misfit.NoNumber := by
  match h with
  | .primitive _ kind _ hshape => exact no_number_of_read hstop
  | .noMember _ members hshape =>
      cases hstop
      rfl
  | .member _ members _ number hshape htext hnumber => exact nomatch hstop
  | .emptyList _ element hshape => exact nomatch hstop
  | .list _ element _ width inner hshape htext hwidth hall =>
      exact no_number_of_reads_all hall (error_of_map hstop)
  | .emptyDictionary _ key value hshape => exact nomatch hstop
  | .dictionary _ key value _ keyWidth valueWidth inner hshape htext hkey hvalue hall =>
      exact no_number_of_reads_all hall (error_of_map hstop)
  | .struct _ place typeName subfields _ widths inner hshape hwidths hlength hall =>
      exact no_number_of_reads_all hall (error_of_map hstop)

/-- Where nodes stop, there is no number of the kind that should be there. -/
theorem no_number_of_reads_all {list : List (Node × List Char)}
    {all : Except Misfit (List Value)} (h : workspace.ReadsAll list all) {misfit : Misfit}
    (hstop : all = .error misfit) : misfit.NoNumber := by
  match h with
  | .nil => exact nomatch hstop
  | .cons node text value list rest hfirst hrest =>
      exact no_number_of_reads_all hrest (error_of_map hstop)
  | .stop node text other list hfirst =>
      exact no_number_of_reads hfirst (congrArg Except.error (Except.error.inj hstop))
end

end Workspace

end SheetWire
