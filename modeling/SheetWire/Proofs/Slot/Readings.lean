import Mathlib
import SheetWire.Proofs.Outcome
import SheetWire.Row.Decoding

/-!
# What a read takes

A read that succeeds has taken some slots from the front of what is left, and what it gives depends
on these slots alone: not on what follows them and not on where they stand (`Local`). So a value
that was read once is read again wherever its slots stand (`Takes`). Where slots are good, only
memory can be in the way (`Accepts`).
-/

namespace SheetWire.Reading

variable {ε α β : Type}

/-- The bytes that slots take in a row, each with the comma after it. -/
def span (slots : Slots) : Nat :=
  (slots.map fun slot => Reader.byteSize slot + 1).sum

/-- The bytes of slots one after another. -/
theorem span_append (first second : Slots) : span (first ++ second) = span first + span second := by
  unfold span
  rw [List.map_append, List.sum_append]

/-- Two reads in a row give a value when both do. -/
theorem bind_eq_ok {read : Reading ε α} {next : α → Reading ε β} {reader after : Reader}
    {value : β} :
    (read >>= next) reader = .ok value after ↔
      ∃ middle between, read reader = .ok middle between ∧
        next middle between = .ok value after := by
  show EStateM.bind read next reader = _ ↔ _
  unfold EStateM.bind
  cases hread : read reader with
  | error e between => simp
  | ok middle between =>
      constructor
      · exact fun h => ⟨middle, between, rfl, h⟩
      · intro h
        obtain ⟨_, _, ⟨⟩, h⟩ := h
        exact h

/-- Another form of what is read gives a value when the read does. -/
theorem map_eq_ok {f : α → β} {read : Reading ε α} {reader after : Reader} {value : β} :
    (f <$> read) reader = .ok value after ↔
      ∃ inner, read reader = .ok inner after ∧ f inner = value := by
  rw [map_eq_pure_bind, bind_eq_ok]
  constructor
  · intro h
    obtain ⟨inner, between, hread, ⟨⟩⟩ := h
    exact ⟨inner, hread, rfl⟩
  · intro h
    obtain ⟨inner, hread, rfl⟩ := h
    exact ⟨inner, after, hread, rfl⟩

/-- Of two reads in a row, the first that fails gives the error. -/
theorem bind_eq_error {read : Reading ε α} {next : α → Reading ε β} {reader after : Reader}
    {e : ε} :
    (read >>= next) reader = .error e after ↔
      read reader = .error e after ∨
        ∃ middle between, read reader = .ok middle between ∧
          next middle between = .error e after := by
  show EStateM.bind read next reader = _ ↔ _
  unfold EStateM.bind
  cases hread : read reader with
  | error e between => simp
  | ok middle between =>
      constructor
      · exact fun h => .inr ⟨middle, between, rfl, h⟩
      · intro h
        rcases h with h | ⟨_, _, ⟨⟩, h⟩
        · exact nomatch h
        · exact h

/-- Another form of what is read fails where the read does. -/
theorem map_eq_error {f : α → β} {read : Reading ε α} {reader after : Reader} {e : ε} :
    (f <$> read) reader = .error e after ↔ read reader = .error e after := by
  rw [map_eq_pure_bind, bind_eq_error]
  refine or_iff_left fun h => ?_
  obtain ⟨_, _, -, h⟩ := h
  exact nomatch h

/-- Whether a read says that the bound of a recursion was too small. -/
def Endless (result : EStateM.Result Error Reader α) : Prop :=
  ∃ label reader, result = .error (.endless (.stack label)) reader

/-- Whether a read asks for more memory than there is. -/
def Short (result : EStateM.Result Error Reader α) : Prop :=
  ∃ count reader, result = .error (.endless (.memory count)) reader

/-- Whether a read finishes, with a value or with an error that a caller is given. -/
def Finishes (result : EStateM.Result Error Reader α) : Prop :=
  ∀ shortage reader, result ≠ .error (.endless shortage) reader

/-- A read finishes if it has enough of everything. -/
theorem finishes_iff {result : EStateM.Result Error Reader α} :
    Finishes result ↔ ¬ Endless result ∧ ¬ Short result := by
  constructor
  · intro h
    exact ⟨fun ⟨label, reader, hresult⟩ => h _ reader hresult,
      fun ⟨count, reader, hresult⟩ => h _ reader hresult⟩
  · intro h shortage reader hresult
    cases shortage with
    | stack label => exact h.1 ⟨label, reader, hresult⟩
    | memory count => exact h.2 ⟨count, reader, hresult⟩

/-- A read that asks for more memory than there is has had a bound that was large enough. -/
theorem Short.not_endless {result : EStateM.Result Error Reader α} (h : Short result) :
    ¬ Endless result := by
  rintro ⟨label, reader, rfl⟩
  obtain ⟨count, after, h⟩ := h
  exact nomatch h

/-- A read that gives a value finishes. -/
theorem finishes_ok (value : α) (reader : Reader) :
    Finishes (.ok value reader : EStateM.Result Error Reader α) :=
  fun _ _ h => nomatch h

/-- A value was read under a bound that was large enough. -/
theorem not_endless_ok (value : α) (reader : Reader) :
    ¬ Endless (.ok value reader : EStateM.Result Error Reader α) :=
  fun ⟨_, _, h⟩ => nomatch h

/-- Of two reads in a row, one had a bound that was too small if both together had. -/
theorem endless_bind {read : Reading Error α} {next : α → Reading Error β} {reader : Reader} :
    Endless ((read >>= next) reader) ↔
      Endless (read reader) ∨
        ∃ middle between, read reader = .ok middle between ∧ Endless (next middle between) := by
  constructor
  · intro h
    obtain ⟨label, after, h⟩ := h
    rcases bind_eq_error.mp h with h | ⟨middle, between, hread, h⟩
    · exact .inl ⟨label, after, h⟩
    · exact .inr ⟨middle, between, hread, label, after, h⟩
  · intro h
    rcases h with ⟨label, after, h⟩ | ⟨middle, between, hread, label, after, h⟩
    · exact ⟨label, after, bind_eq_error.mpr (.inl h)⟩
    · exact ⟨label, after, bind_eq_error.mpr (.inr ⟨middle, between, hread, h⟩)⟩

/-- Another form of the values does not change whether the bound was too small. -/
theorem endless_map {read : Reading Error α} {f : α → β} {reader : Reader} :
    Endless ((f <$> read) reader) ↔ Endless (read reader) := by
  rw [map_eq_pure_bind, endless_bind]
  constructor
  · intro h
    rcases h with h | ⟨middle, between, -, h⟩
    · exact h
    · exact absurd h (not_endless_ok _ _)
  · exact .inl

/-- Two reads in a row finish if the first does, and the second after its value. -/
theorem finishes_bind {read : Reading Error α} {next : α → Reading Error β} {reader : Reader} :
    Finishes ((read >>= next) reader) ↔
      Finishes (read reader) ∧
        ∀ middle between, read reader = .ok middle between → Finishes (next middle between) := by
  unfold Finishes
  simp only [ne_eq, bind_eq_error, not_or, not_exists, not_and]
  exact ⟨fun h => ⟨fun shortage after => (h shortage after).1,
    fun middle between hread shortage after => (h shortage after).2 middle between hread⟩,
    fun h shortage after => ⟨h.1 shortage after, fun middle between hread =>
      h.2 middle between hread shortage after⟩⟩

/-- A read that finishes everywhere finishes as often as told. -/
theorem finishes_times {read : Reading Error α} (h : ∀ reader, Finishes (read reader))
    (count : Nat) (reader : Reader) : Finishes (times read count reader) := by
  induction count generalizing reader with
  | zero => exact finishes_ok [] reader
  | succ count ih =>
      refine finishes_bind.mpr ⟨h reader, fun first between _ => finishes_bind.mpr ⟨ih between, ?_⟩⟩
      exact fun others after _ => finishes_ok (first :: others) after

/-- The result of a read alone is a value where the read gives it. -/
theorem result_eq_ok {read : Reading ε α} {reader : Reader} {value : α} :
    read.result reader = .ok value ↔ ∃ after, read reader = .ok value after := by
  unfold result
  cases read reader <;> simp

/-- The result of a read alone is an error where the read gives it. -/
theorem result_eq_error {read : Reading ε α} {reader : Reader} {e : ε} :
    read.result reader = .error e ↔ ∃ after, read reader = .error e after := by
  unfold result
  cases read reader <;> simp

/-- Whether a read takes exactly some slots and gives a value, whatever follows the slots and
wherever they stand. -/
def Takes (read : Reading ε α) (used : Slots) (value : α) : Prop :=
  ∀ rest index, read ⟨used ++ rest, index⟩ = .ok value ⟨rest, index + span used⟩

/-- Whether a read that succeeds has taken some slots which alone decide what it gives. -/
def Local (read : Reading ε α) : Prop :=
  ∀ reader value after, read reader = .ok value after →
    ∃ used, reader.slots = used ++ after.slots ∧ Takes read used value

/-- A value without a read takes no slots. -/
theorem Takes.pure (value : α) : Takes (Pure.pure value : Reading ε α) [] value :=
  fun _ _ => rfl

/-- Two reads in a row take what they take one after the other. -/
theorem Takes.bind {read : Reading ε α} {next : α → Reading ε β} {first second : Slots}
    {middle : α} {value : β} (hfirst : Takes read first middle)
    (hsecond : Takes (next middle) second value) :
    Takes (read >>= next) (first ++ second) value := by
  intro rest index
  rw [List.append_assoc, bind_eq_ok]
  refine ⟨middle, _, hfirst (second ++ rest) index, ?_⟩
  rw [hsecond rest, span_append, Nat.add_assoc]

/-- Another form of a value takes the slots of the value. -/
theorem Takes.map {read : Reading ε α} {used : Slots} {value : α} (f : α → β)
    (h : Takes read used value) : Takes (f <$> read) used (f value) := by
  intro rest index
  show EStateM.map f read _ = _
  unfold EStateM.map
  rw [h rest index]

/-- A read whose errors are seen as others takes what it took. -/
theorem Takes.adapt {ε' : Type} {read : Reading ε α} {used : Slots} {value : α} (f : ε → ε')
    (h : Takes read used value) : Takes (Reading.adapt f read) used value := by
  intro rest index
  unfold Reading.adapt
  rw [h rest index]

/-- A value without a read is decided by no slots. -/
theorem Local.pure (value : α) : Local (Pure.pure value : Reading ε α) := by
  intro reader result after h
  cases h
  exact ⟨[], rfl, Takes.pure value⟩

/-- A failure has no values. -/
theorem Local.throw (e : ε) : Local (throw e : Reading ε α) :=
  fun _ _ _ h => nomatch h

/-- Two reads in a row, each decided by its slots, are decided by these slots. -/
theorem Local.bind {read : Reading ε α} {next : α → Reading ε β} (hread : Local read)
    (hnext : ∀ value, Local (next value)) : Local (read >>= next) := by
  intro reader value after h
  obtain ⟨middle, between, hfirst, hsecond⟩ := bind_eq_ok.mp h
  obtain ⟨first, hslots, htakes⟩ := hread reader middle between hfirst
  obtain ⟨second, hrest, hthen⟩ := hnext middle between value after hsecond
  refine ⟨first ++ second, ?_, htakes.bind hthen⟩
  rw [hslots, hrest, List.append_assoc]

/-- Another form of a value is decided by the same slots. -/
theorem Local.map {read : Reading ε α} (f : α → β) (hread : Local read) : Local (f <$> read) := by
  rw [map_eq_pure_bind]
  exact hread.bind fun value => Local.pure (f value)

/-- A read takes slots and gives a value in one way only. -/
theorem Takes.unique {read : Reading ε α} {used : Slots} {value : α} (h : Takes read used value)
    {rest : Slots} {index : Nat} {result : α} {after : Reader}
    (hrun : read ⟨used ++ rest, index⟩ = .ok result after) :
    result = value ∧ after = ⟨rest, index + span used⟩ := by
  rw [h rest index] at hrun
  cases hrun
  exact ⟨rfl, rfl⟩

/-- Whether a reader has come to another by taking some slots. -/
def Advances (reader after : Reader) : Prop :=
  ∃ used, reader.slots = used ++ after.slots ∧ after.index = reader.index + span used

/-- Taking no slots. -/
theorem Advances.refl (reader : Reader) : Advances reader reader :=
  ⟨[], rfl, rfl⟩

/-- Taking some slots and then others. -/
theorem Advances.trans {first second third : Reader} (hfirst : Advances first second)
    (hsecond : Advances second third) : Advances first third := by
  obtain ⟨used, hslots, hindex⟩ := hfirst
  obtain ⟨more, hmore, hthen⟩ := hsecond
  refine ⟨used ++ more, ?_, ?_⟩
  · rw [hslots, hmore, List.append_assoc]
  · rw [hthen, hindex, span_append, Nat.add_assoc]

/-- No more slots are left afterwards. -/
theorem Advances.length_le {reader after : Reader} (h : Advances reader after) :
    after.slots.length ≤ reader.slots.length := by
  obtain ⟨used, hslots, -⟩ := h
  rw [hslots, List.length_append]
  omega

/-- If as many slots are left, none was taken. -/
theorem Advances.eq_of_length {reader after : Reader} (h : Advances reader after)
    (hlength : after.slots.length = reader.slots.length) : after = reader := by
  obtain ⟨used, hslots, hindex⟩ := h
  rw [hslots, List.length_append] at hlength
  obtain rfl : used = [] := List.eq_nil_of_length_eq_zero (by omega)
  obtain ⟨slots, index⟩ := reader
  obtain ⟨left, offset⟩ := after
  simp only [List.nil_append] at hslots
  have hoffset : offset = index := hindex
  rw [hslots, hoffset]

/-- A read that is decided by its slots moves on by taking slots. -/
theorem Local.advances {read : Reading ε α} (hread : Local read) {reader after : Reader} {value : α}
    (h : read reader = .ok value after) : Advances reader after := by
  obtain ⟨used, hslots, htakes⟩ := hread reader value after h
  obtain ⟨slots, index⟩ := reader
  simp only at hslots
  subst hslots
  obtain ⟨-, hafter⟩ := htakes.unique h
  exact ⟨used, rfl, by rw [hafter]⟩

section Each

variable {read : α → Reading ε β}

/-- A read for each element of a list is a read for the first and for each of the others. -/
theorem each_cons_eq_ok {x : α} {list : List α} {reader after : Reader} {values : List β} :
    each read (x :: list) reader = .ok values after ↔
      ∃ first others between, read x reader = .ok first between ∧
        each read list between = .ok others after ∧ values = first :: others := by
  rw [each]
  constructor
  · intro h
    obtain ⟨first, between, hfirst, h⟩ := bind_eq_ok.mp h
    obtain ⟨others, last, hothers, h⟩ := bind_eq_ok.mp h
    cases h
    exact ⟨first, others, between, hfirst, hothers, rfl⟩
  · intro h
    obtain ⟨first, others, between, hfirst, hothers, rfl⟩ := h
    exact bind_eq_ok.mpr ⟨first, between, hfirst, bind_eq_ok.mpr ⟨others, after, hothers, rfl⟩⟩

/-- Reads for each element of a list are decided by their slots. -/
theorem Local.each {list : List α} (h : ∀ x ∈ list, Local (read x)) : Local (each read list) := by
  induction list with
  | nil => exact Local.pure []
  | cons x list ih =>
      refine (h x List.mem_cons_self).bind fun first => ?_
      exact (ih fun y hy => h y (List.mem_cons_of_mem x hy)).bind fun _ => Local.pure _

/-- Reads for the elements of a list take what the read for the first takes and then what the others
take. -/
theorem Takes.each_cons {x : α} {list : List α} {first others : Slots} {value : β} {values : List β}
    (hfirst : Takes (read x) first value) (hothers : Takes (each read list) others values) :
    Takes (each read (x :: list)) (first ++ others) (value :: values) := by
  rw [each, ← List.append_nil (first ++ others), List.append_assoc]
  exact Takes.bind hfirst (Takes.bind hothers (Takes.pure (value :: values)))

/-- Every element of a list that is read has been read from some reader. -/
theorem exists_of_each {list : List α} {reader after : Reader} {values : List β}
    (h : each read list reader = .ok values after) {x : α} (hx : x ∈ list) :
    ∃ start value next, read x start = .ok value next := by
  induction list generalizing reader values with
  | nil => exact absurd hx List.not_mem_nil
  | cons y list ih =>
      obtain ⟨first, others, between, hfirst, hothers, -⟩ := each_cons_eq_ok.mp h
      rcases List.mem_cons.mp hx with rfl | hx
      · exact ⟨reader, first, between, hfirst⟩
      · exact ih hothers hx

/-- As often the same read as elements of a list that are all the same. -/
theorem times_eq_each (x : α) (count : Nat) :
    times (read x) count = each read (List.replicate count x) := by
  induction count with
  | zero => rfl
  | succ count ih => rw [times, List.replicate_succ, each, ih]

/-- Reading something with every element is reading the elements and adding it afterwards. -/
theorem each_with {γ : Type} (extra : α → γ) (list : List α) :
    each (fun x => do
      let value ← read x
      Pure.pure (extra x, value)) list =
      (fun values => (list.map extra).zip values) <$> each read list := by
  induction list with
  | nil => rfl
  | cons x list ih =>
      simp only [each, ih, map_eq_pure_bind, bind_assoc, pure_bind, List.map_cons,
        List.zip_cons_cons]

end Each

/-! ### Reads that memory decides -/

/-- Whether reading some slots is a matter of memory alone: if memory holds what is read, the read
takes exactly these slots and gives the value, and otherwise it asks for more memory than there
is. -/
structure Accepts (held : Prop) (read : Reading Error α) (used : Slots) (value : α) : Prop where
  takes : held → Takes read used value
  short : ¬ held → ∀ rest index, Short (read ⟨used ++ rest, index⟩)

section Accepts

variable {read other : Reading Error α} {used : Slots} {value : α} {held : Prop}

/-- What takes its slots with any memory is a matter of no memory. -/
theorem Takes.accepts (h : Takes read used value) : Accepts True read used value :=
  ⟨fun _ => h, fun hfalse => absurd True.intro hfalse⟩

/-- The matter may be told in another way. -/
theorem Accepts.of_iff {same : Prop} (h : Accepts held read used value) (hiff : same ↔ held) :
    Accepts same read used value :=
  ⟨fun hsame => h.takes (hiff.mp hsame), fun hsame => h.short fun hheld => hsame (hiff.mpr hheld)⟩

/-- Another form of a value is a matter of the same memory. -/
theorem Accepts.map (f : α → β) (h : Accepts held read used value) :
    Accepts held (f <$> read) used (f value) := by
  refine ⟨fun hheld => (h.takes hheld).map f, fun hheld rest index => ?_⟩
  obtain ⟨count, after, hread⟩ := h.short hheld rest index
  exact ⟨count, after, map_eq_error.mpr hread⟩

/-- Two reads in a row are a matter of memory for both. -/
theorem Accepts.bind {next : α → Reading Error β} {more : Slots} {result : β} {also : Prop}
    (hfirst : Accepts held read used value) (hsecond : Accepts also (next value) more result) :
    Accepts (held ∧ also) (read >>= next) (used ++ more) result := by
  refine ⟨fun h => (hfirst.takes h.1).bind (hsecond.takes h.2), fun h rest index => ?_⟩
  rw [List.append_assoc]
  by_cases hheld : held
  · obtain ⟨count, after, hnext⟩ :=
      hsecond.short (fun halso => h ⟨hheld, halso⟩) rest (index + span used)
    exact ⟨count, after,
      bind_eq_error.mpr (.inr ⟨value, _, hfirst.takes hheld (more ++ rest) index, hnext⟩)⟩
  · obtain ⟨count, after, hread⟩ := hfirst.short hheld (more ++ rest) index
    exact ⟨count, after, bind_eq_error.mpr (.inl hread)⟩

/-- Reads for the elements of a list are a matter of memory for each of them. -/
theorem Accepts.each_cons {γ : Type} {read : γ → Reading Error β} {x : γ} {list : List γ}
    {first others : Slots} {value : β} {values : List β} {also : Prop}
    (hfirst : Accepts held (read x) first value)
    (hothers : Accepts also (each read list) others values) :
    Accepts (held ∧ also) (each read (x :: list)) (first ++ others) (value :: values) := by
  rw [each, ← List.append_nil (first ++ others), List.append_assoc]
  refine Accepts.of_iff (hfirst.bind (hothers.bind (Takes.pure (value :: values)).accepts)) ?_
  rw [and_true]

/-- A read that does the same wherever another one ends is a matter of the same memory. -/
theorem Accepts.congr (h : Accepts held read used value)
    (hsame : ∀ reader, ¬ Endless (read reader) → other reader = read reader) :
    Accepts held other used value := by
  refine ⟨fun hheld rest index => ?_, fun hheld rest index => ?_⟩
  · have htakes := h.takes hheld rest index
    rw [hsame _ (by rw [htakes]; exact not_endless_ok _ _), htakes]
  · have hshort := h.short hheld rest index
    rwa [hsame _ hshort.not_endless]

end Accepts

section Endings

variable {read other : α → Reading Error β}

/-- Reads for the elements of a list fail where the read for one of them does, after those before it
have succeeded. -/
theorem each_eq_error {list : List α} {reader last : Reader} {e : Error} :
    each read list reader = .error e last ↔
      ∃ before x after values between, list = before ++ x :: after ∧
        each read before reader = .ok values between ∧ read x between = .error e last := by
  induction list generalizing reader with
  | nil =>
      refine iff_of_false (fun h => nomatch h) fun h => ?_
      obtain ⟨before, x, after, -, -, hnil, -⟩ := h
      exact List.append_ne_nil_of_right_ne_nil before (List.cons_ne_nil x after) hnil.symm
  | cons y list ih =>
      rw [each, bind_eq_error]
      constructor
      · intro h
        rcases h with h | ⟨first, between, hfirst, h⟩
        · exact ⟨[], y, list, [], reader, rfl, rfl, h⟩
        · rcases bind_eq_error.mp h with h | ⟨others, stop, -, h⟩
          · obtain ⟨before, x, after, values, middle, rfl, hbefore, hx⟩ := ih.mp h
            exact ⟨y :: before, x, after, first :: values, middle, rfl,
              each_cons_eq_ok.mpr ⟨first, values, between, hfirst, hbefore, rfl⟩, hx⟩
          · exact nomatch h
      · intro h
        obtain ⟨before, x, after, values, middle, hlist, hbefore, hx⟩ := h
        cases before with
        | nil =>
            cases hlist
            cases hbefore
            exact .inl hx
        | cons z before =>
            obtain ⟨rfl, rfl⟩ := List.cons.inj hlist
            obtain ⟨first, others, between, hfirst, hothers, -⟩ := each_cons_eq_ok.mp hbefore
            refine .inr ⟨first, between, hfirst, bind_eq_error.mpr (.inl ?_)⟩
            exact ih.mpr ⟨before, x, after, others, middle, rfl, hothers, hx⟩

/-- Reads for the elements of a list have a bound that is too small only if the read for one of them
has, after those before it have succeeded. -/
theorem exists_endless_of_each {list : List α} {reader : Reader}
    (h : Endless (each read list reader)) :
    ∃ before x after values between, list = before ++ x :: after ∧
      each read before reader = .ok values between ∧ Endless (read x between) := by
  obtain ⟨label, last, h⟩ := h
  obtain ⟨before, x, after, values, between, hlist, hbefore, hx⟩ := each_eq_error.mp h
  exact ⟨before, x, after, values, between, hlist, hbefore, label, last, hx⟩

/-- The read for an element has a bound that is too small only if the reads for all elements have,
when those before it succeed. -/
theorem endless_each_of_mid {before after : List α} {x : α} {reader between : Reader}
    {values : List β} (hbefore : each read before reader = .ok values between)
    (h : Endless (read x between)) : Endless (each read (before ++ x :: after) reader) := by
  obtain ⟨label, last, h⟩ := h
  exact ⟨label, last, each_eq_error.mpr ⟨before, x, after, values, between, rfl, hbefore, h⟩⟩

/-- Reads for the elements of a list have a bound that is too small if those for the first elements
have. -/
theorem endless_each_append {before after : List α} {reader : Reader}
    (h : Endless (each read before reader)) : Endless (each read (before ++ after) reader) := by
  obtain ⟨front, x, back, values, between, rfl, hfront, hx⟩ := exists_endless_of_each h
  rw [List.append_assoc, List.cons_append]
  exact endless_each_of_mid hfront hx

/-- Reading in the same way wherever the first way comes to an end. -/
theorem each_congr {list : List α} {reader : Reader}
    (h : ∀ before x after values between, list = before ++ x :: after →
      each read before reader = .ok values between → ¬ Endless (read x between) →
      other x between = read x between)
    (hends : ¬ Endless (each read list reader)) :
    each other list reader = each read list reader := by
  induction list generalizing reader with
  | nil => rfl
  | cons x list ih =>
      rw [each, endless_bind, not_or] at hends
      have hsame := h [] x list [] reader rfl rfl hends.1
      rw [each, each]
      show EStateM.bind (other x) _ reader = EStateM.bind (read x) _ reader
      unfold EStateM.bind
      rw [hsame]
      cases hfirst : read x reader with
      | error e between => rfl
      | ok first between =>
          have hrest : ¬ Endless (each read list between) := fun hrest =>
            hends.2 ⟨first, between, hfirst, endless_bind.mpr (.inl hrest)⟩
          have hlist : each other list between = each read list between := by
            refine ih (fun before y after values last hsplit hbefore => ?_) hrest
            refine h (x :: before) y after (first :: values) last (by rw [hsplit]; rfl) ?_
            exact each_cons_eq_ok.mpr ⟨first, values, between, hfirst, hbefore, rfl⟩
          show EStateM.bind (each other list) _ between = EStateM.bind (each read list) _ between
          unfold EStateM.bind
          rw [hlist]

end Endings

end SheetWire.Reading
