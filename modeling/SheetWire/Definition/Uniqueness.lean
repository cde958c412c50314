import SheetWire.Error

/-!
# Names that must differ

The subfields of a struct, the members of an enum, the numbers of its members and the columns of a
table are told apart by their names, so a name or number that occurs a second time is an error. The
first such occurrence is the one reported.
-/

namespace SheetWire

/-- The first element that occurs earlier in the list or among those already seen. -/
def firstRepeated? {α : Type} [DecidableEq α] (seen : List α) : List α → Option α
  | [] => none
  | x :: rest => if x ∈ seen then some x else firstRepeated? (x :: seen) rest

/-- The first member whose name or number occurs earlier; the name is looked at first. -/
def firstRepeatedMember? (table typeName : String) (names : List String) (numbers : List Int64) :
    List Member → Option Duplicate
  | [] => none
  | member :: rest =>
      if member.name ∈ names then some (.member table typeName member.name)
      else if member.value ∈ numbers then some (.number table typeName member.value)
      else firstRepeatedMember? table typeName (member.name :: names) (member.value :: numbers) rest

/-- Fails with a duplicate if there is one. -/
def rejectDuplicate (which : Option Duplicate) : Except Error Unit :=
  match which with
  | some which => throw (.duplicate which)
  | none => pure ()

/-- Whether the subfields of a struct have different names. -/
def checkSubfields (table typeName : String) (names : List String) : Except Error Unit :=
  rejectDuplicate ((firstRepeated? [] names).map (.subfield table typeName))

/-- Whether the members of an enum have different names and different numbers. -/
def checkMembers (table typeName : String) (members : List Member) : Except Error Unit :=
  rejectDuplicate (firstRepeatedMember? table typeName [] [] members)

/-- Whether the columns of a table have different names. -/
def checkColumns (table : String) (names : List String) : Except Error Unit :=
  rejectDuplicate ((firstRepeated? [] names).map (.column table))

end SheetWire
