import SheetWire.Proofs.Workspace.Resolving
import SheetWire.Workspace.Session

/-!
# What holds in every session

Whatever happens in a session, a reference that is bound stays bound to the same handle, and a
handle is always one on a struct or enum of the name and table asked for, also where the index is
older than the schemes that are resolved with it. A bound reference has a target exactly as long as
the scheme that declares it has not been dropped (`session_bindings`).
-/

namespace SheetWire

/-- What stands at a position after one more element has been put behind a list. -/
theorem getElem?_concat_eq {α : Type} (list : List α) (last : α) (position : Nat) :
    (list ++ [last])[position]? =
      if position = list.length then some last else list[position]? := by
  rcases Nat.lt_trichotomy position list.length with hlt | rfl | hgt
  · rw [List.getElem?_append_left hlt, if_neg (by omega)]
  · simp
  · rw [if_neg (by omega), List.getElem?_eq_none (by simp; omega),
      List.getElem?_eq_none (by omega)]

/-- What stands at a position stays there when a list grows. -/
theorem getElem?_append_of_some {α : Type} {list : List α} {position : Nat} {x : α}
    (h : list[position]? = some x) (more : List α) : (list ++ more)[position]? = some x := by
  rw [List.getElem?_append_left (List.getElem?_eq_some_iff.mp h).1, h]

namespace Workspace

/-- The scheme of a number after one has come in. -/
theorem scheme_add (workspace : Workspace) (scheme : Scheme) (number : Nat) :
    (workspace.add scheme).scheme? number =
      if number = workspace.schemes.length then some scheme else workspace.scheme? number := by
  show (workspace.schemes ++ [some scheme])[number]?.join = _
  rw [getElem?_concat_eq]
  split <;> rfl

/-- The scheme of a number after one has gone. -/
theorem scheme_drop (workspace : Workspace) (number other : Nat) :
    (workspace.drop number).scheme? other =
      if other = number then none else workspace.scheme? other := by
  show (workspace.schemes.set number none)[other]?.join = _
  rw [List.getElem?_set]
  by_cases h : number = other
  · subst h
    by_cases hlt : number < workspace.schemes.length <;> simp [hlt]
  · rw [if_neg h, if_neg (Ne.symm h)]
    rfl

end Workspace

namespace Session

/-- The schemes that some steps add. The number of a scheme is its position. -/
def added (steps : List SessionStep) : List Scheme :=
  steps.filterMap fun step =>
    match step with
    | .add scheme => some scheme
    | _ => none

/-- Whether some steps drop the scheme of a number after they have added it. -/
def Dropped (steps : List SessionStep) (number : Nat) : Prop :=
  ∃ before after, steps = before ++ .drop number :: after ∧ number < (added before).length

/-- Whether a handle is one on a struct or enum with the name of a key that a scheme of the key's
table declares. -/
def TakenFrom (schemes : List Scheme) (key : TypeKey) (handle : TypeHandle) : Prop :=
  ∃ scheme, schemes[handle.place.scheme]? = some scheme ∧ scheme.table = key.table ∧
    ∃ node ∈ scheme.nodes handle.place.scheme,
      node.field.typeName? = some key.typeName ∧ handle = node.handle

/-- Whether a place is that of a reference with a key in one of some schemes. -/
def Refers (schemes : List Scheme) (place : Place) (key : TypeKey) : Prop :=
  ∃ scheme, schemes[place.scheme]? = some scheme ∧
    ∃ label, Field.follow? scheme.columns place.path = some (.reference label key)

/-- What every session keeps to, for the schemes that were ever added. -/
structure Sound (schemes : List Scheme) (session : Session) : Prop where
  numbered : session.workspace.schemes.length = schemes.length
  kept : ∀ number scheme, session.workspace.scheme? number = some scheme →
    schemes[number]? = some scheme
  indexed : ∀ key handle, session.index.get? key = some handle → TakenFrom schemes key handle
  bound : ∀ place handle, session.workspace.binding? place = some handle →
    ∃ key, Refers schemes place key ∧ TakenFrom schemes key handle

variable {schemes : List Scheme} {session : Session}

/-- A handle stays one on a declaration when schemes are added. -/
theorem TakenFrom.append {key : TypeKey} {handle : TypeHandle} (h : TakenFrom schemes key handle)
    (more : List Scheme) : TakenFrom (schemes ++ more) key handle := by
  obtain ⟨scheme, hscheme, hrest⟩ := h
  exact ⟨scheme, getElem?_append_of_some hscheme more, hrest⟩

/-- A place stays that of a reference when schemes are added. -/
theorem Refers.append {key : TypeKey} {place : Place} (h : Refers schemes place key)
    (more : List Scheme) : Refers (schemes ++ more) place key := by
  obtain ⟨scheme, hscheme, hrest⟩ := h
  exact ⟨scheme, getElem?_append_of_some hscheme more, hrest⟩

/-- A place is that of a reference with one key. -/
theorem Refers.unique {key other : TypeKey} {place : Place} (h : Refers schemes place key)
    (hother : Refers schemes place other) : key = other := by
  obtain ⟨scheme, hscheme, label, hfield⟩ := h
  obtain ⟨scheme', hscheme', label', hfield'⟩ := hother
  cases hscheme.symm.trans hscheme'
  cases hfield.symm.trans hfield'
  rfl

/-- What the index is built from are declarations of the schemes. -/
theorem Sound.reindex (h : Sound schemes session) (numbers : List Nat) :
    Sound schemes (session.reindex numbers) := by
  refine ⟨h.numbered, h.kept, fun key handle hget => ?_, h.bound⟩
  obtain ⟨node, ⟨number, hnumber, hnode⟩, rfl⟩ := Index.get_build.mp hget
  obtain ⟨scheme, hscheme, htable, -⟩ := hnumber.holds
  rw [Workspace.nodes_of_scheme hscheme] at hnode
  obtain ⟨hmem, hname⟩ := hnode.type_name
  have hplace : node.handle.place.scheme = number := by
    rw [node.place_handle]
    exact (Scheme.follow_nodes hmem).1
  rw [← hplace] at hmem hscheme
  exact ⟨scheme, h.kept _ _ hscheme, htable, node, hmem, hname, rfl⟩

/-- Binding keeps to the index, and the index to the schemes. -/
theorem Sound.bind (h : Sound schemes session) (numbers : List Nat) :
    Sound schemes (session.bind numbers).1 := by
  have hschemes : (session.bind numbers).1.workspace.schemes = session.workspace.schemes :=
    Workspace.schemes_resolve_all _ _ _
  refine ⟨by rw [hschemes, h.numbered], ?_, h.indexed, fun place handle hbinding => ?_⟩
  · intro number scheme hscheme
    unfold Workspace.scheme? at hscheme
    rw [hschemes] at hscheme
    exact h.kept number scheme hscheme
  · rcases Index.binding_resolve_cases hbinding with
      hold | ⟨node, hnode, rfl, label, key, hfield, hget⟩
    · exact h.bound place handle hold
    · refine ⟨key, ?_, h.indexed key handle hget⟩
      obtain ⟨number, -, hnode⟩ := List.mem_flatMap.mp hnode
      rw [Workspace.nodesOf] at hnode
      split at hnode
      · rename_i scheme hscheme
        obtain ⟨rfl, hfollow⟩ := Scheme.follow_nodes hnode
        exact ⟨scheme, h.kept _ _ hscheme, label, by rw [hfollow, hfield]⟩
      · exact absurd hnode List.not_mem_nil

/-- A scheme that comes in takes the next number. -/
theorem Sound.add (h : Sound schemes session) (scheme : Scheme) :
    Sound (schemes ++ [scheme]) (session.add scheme) := by
  refine ⟨?_, ?_, fun key handle hget => (h.indexed key handle hget).append _, ?_⟩
  · show (session.workspace.schemes ++ [some scheme]).length = _
    rw [List.length_append, List.length_append, h.numbered]
    rfl
  · intro number found hfound
    change (session.workspace.add scheme).scheme? number = some found at hfound
    rw [Workspace.scheme_add] at hfound
    split at hfound
    · rename_i hlast
      rw [hlast, h.numbered, List.getElem?_concat_length, hfound]
    · exact getElem?_append_of_some (h.kept number found hfound) _
  · intro place handle hbinding
    obtain ⟨key, hrefers, htaken⟩ := h.bound place handle hbinding
    exact ⟨key, hrefers.append _, htaken.append _⟩

/-- A scheme that goes takes nothing with it but itself. -/
theorem Sound.drop (h : Sound schemes session) (number : Nat) :
    Sound schemes (session.drop number) := by
  refine ⟨?_, ?_, h.indexed, h.bound⟩
  · show (session.workspace.schemes.set number none).length = _
    rw [List.length_set, h.numbered]
  · intro other scheme hscheme
    change (session.workspace.drop number).scheme? other = some scheme at hscheme
    rw [Workspace.scheme_drop] at hscheme
    split at hscheme
    · exact nomatch hscheme
    · exact h.kept other scheme hscheme

/-- Every step keeps to it. -/
theorem Sound.after (h : Sound schemes session) (step : SessionStep) :
    Sound (schemes ++ added [step]) (session.after step) := by
  cases step with
  | add scheme => exact h.add scheme
  | drop number =>
      rw [show added [.drop number] = [] from rfl, List.append_nil]
      exact h.drop number
  | reindex numbers =>
      rw [show added [.reindex numbers] = [] from rfl, List.append_nil]
      exact h.reindex numbers
  | bind numbers =>
      rw [show added [.bind numbers] = [] from rfl, List.append_nil]
      exact h.bind numbers
  | resolve numbers =>
      rw [show added [.resolve numbers] = [] from rfl, List.append_nil]
      exact (h.reindex numbers).bind numbers

/-- More steps after some. -/
theorem run_append (session : Session) (steps more : List SessionStep) :
    session.run (steps ++ more) = (session.run steps).run more :=
  List.foldl_append

/-- The schemes of more steps come after those of some. -/
theorem added_append (steps more : List SessionStep) :
    added (steps ++ more) = added steps ++ added more :=
  List.filterMap_append

/-- Every session keeps to it. -/
theorem sound_run (steps : List SessionStep) : Sound (added steps) (start.run steps) := by
  induction steps using List.reverseRecOn with
  | nil =>
      refine ⟨rfl, ?_, ?_, ?_⟩
      · exact fun number scheme h => nomatch h
      · exact fun key handle h => nomatch h
      · exact fun place handle h => nomatch h
  | append_singleton steps step ih =>
      rw [run_append, added_append]
      exact ih.after step

/-! ### Bindings are kept -/

/-- A step keeps every binding. -/
theorem binding_after {place : Place} {handle : TypeHandle}
    (h : session.workspace.binding? place = some handle) (step : SessionStep) :
    (session.after step).workspace.binding? place = some handle := by
  cases step with
  | add | drop | reindex => exact h
  | bind | resolve => exact Index.binding_resolve_of_bound h

/-- Steps keep every binding. -/
theorem binding_run {place : Place} {handle : TypeHandle}
    (h : session.workspace.binding? place = some handle) (steps : List SessionStep) :
    (session.run steps).workspace.binding? place = some handle := by
  induction steps generalizing session with
  | nil => exact h
  | cons step rest ih => exact ih (binding_after h step)

/-! ### Schemes stay until they are dropped -/

/-- A scheme is dropped by some steps or by the one after them. -/
theorem dropped_concat {steps : List SessionStep} {step : SessionStep} {number : Nat} :
    Dropped (steps ++ [step]) number ↔
      Dropped steps number ∨ step = .drop number ∧ number < (added steps).length := by
  constructor
  · rintro ⟨before, after, hsteps, hnumber⟩
    cases after using List.reverseRecOn with
    | nil =>
        obtain ⟨rfl, hstep⟩ := List.append_inj' hsteps rfl
        exact .inr ⟨(List.cons.inj hstep).1, hnumber⟩
    | append_singleton after last =>
        rw [← List.cons_append, ← List.append_assoc] at hsteps
        obtain ⟨rfl, -⟩ := List.append_inj' hsteps rfl
        exact .inl ⟨before, after, rfl, hnumber⟩
  · rintro (⟨before, after, rfl, hnumber⟩ | ⟨rfl, hnumber⟩)
    · exact ⟨before, after ++ [step], by simp, hnumber⟩
    · exact ⟨steps, [], rfl, hnumber⟩

/-- A scheme that was dropped does not come back. -/
theorem Dropped.append {steps : List SessionStep} {number : Nat} (h : Dropped steps number)
    (more : List SessionStep) : Dropped (steps ++ more) number := by
  obtain ⟨before, after, rfl, hnumber⟩ := h
  exact ⟨before, after ++ more, by simp, hnumber⟩

/-- Only a scheme that was added is dropped. -/
theorem Dropped.lt {steps : List SessionStep} {number : Nat} (h : Dropped steps number) :
    number < (added steps).length := by
  obtain ⟨before, after, rfl, hnumber⟩ := h
  rw [added_append, List.length_append]
  omega

/-- The schemes after a step. -/
theorem scheme_after (session : Session) (step : SessionStep) (number : Nat) :
    (session.after step).workspace.scheme? number =
      match step with
      | .add scheme =>
          if number = session.workspace.schemes.length then some scheme
          else session.workspace.scheme? number
      | .drop dropped => if number = dropped then none else session.workspace.scheme? number
      | _ => session.workspace.scheme? number := by
  cases step with
  | add scheme => exact Workspace.scheme_add _ _ _
  | drop dropped => exact Workspace.scheme_drop _ _ _
  | reindex => rfl
  | bind | resolve =>
      exact congrArg (fun schemes => schemes[number]?.join) (Workspace.schemes_resolve_all _ _ _)

/-- The schemes that are there are those that were added and not dropped. -/
theorem scheme_run {steps : List SessionStep} {number : Nat} {scheme : Scheme} :
    (start.run steps).workspace.scheme? number = some scheme ↔
      (added steps)[number]? = some scheme ∧ ¬ Dropped steps number := by
  induction steps using List.reverseRecOn with
  | nil => exact iff_of_false (fun h => nomatch h) fun h => nomatch h.1
  | append_singleton steps step ih =>
      have hlength := (sound_run steps).numbered
      rw [run_append, added_append, dropped_concat]
      show ((start.run steps).after step).workspace.scheme? number = some scheme ↔ _
      rw [scheme_after]
      cases step with
      | add new =>
          rw [show added [.add new] = [new] from rfl, getElem?_concat_eq]
          by_cases hlast : number = (added steps).length
          · have hnot : ¬ Dropped steps number := fun hdropped => by
              have hlt := hdropped.lt
              omega
            simp [hlast ▸ hnot, hlast, hlength]
          · simp [hlast, hlength, ih]
      | drop dropped =>
          rw [show added [.drop dropped] = [] from rfl, List.append_nil]
          by_cases hnumber : number = dropped
          · subst hnumber
            simp only [if_true, reduceCtorEq, true_and, false_iff, not_and, not_not]
            intro hscheme
            exact .inr (List.getElem?_eq_some_iff.mp hscheme).1
          · simp [hnumber, Ne.symm hnumber, ih]
      | reindex | bind | resolve => simpa [added] using ih

/-! ### Targets -/

/-- Nothing stands at a place of a scheme that was dropped. -/
theorem node_at_dropped {steps : List SessionStep} {place : Place}
    (h : Dropped steps place.scheme) : (start.run steps).workspace.node? place = none := by
  have hscheme : (start.run steps).workspace.scheme? place.scheme = none :=
    Option.eq_none_iff_forall_ne_some.mpr fun scheme hscheme => (scheme_run.mp hscheme).2 h
  rw [Workspace.node?, hscheme]
  rfl

/-- As long as a scheme is not dropped, the handles on its types point to them. -/
theorem node_at_taken {steps : List SessionStep} {key : TypeKey} {handle : TypeHandle}
    (htaken : TakenFrom (added steps) key handle) (h : ¬ Dropped steps handle.place.scheme) :
    ∃ node, (start.run steps).workspace.node? handle.place = some node ∧ node.handle = handle := by
  obtain ⟨scheme, hadded, -, node, hnode, -, rfl⟩ := htaken
  have hscheme := scheme_run.mpr ⟨hadded, h⟩
  rw [node.place_handle] at hscheme hnode ⊢
  have hmem := Workspace.mem_nodes.mpr ⟨_, scheme, hscheme, hnode⟩
  exact ⟨node, Workspace.node_at_iff.mpr hmem, rfl⟩

/-- The target of a bound reference is what its handle points to. -/
theorem target_of_bound {workspace : Workspace} {place : Place} {handle : TypeHandle}
    (h : workspace.binding? place = some handle) :
    workspace.target? place = workspace.node? handle.place := by
  rw [Workspace.target?, h]
  rfl

/-- A bound reference has a target exactly as long as the scheme of the target is not dropped. -/
theorem target_eq_none_iff {steps : List SessionStep} {place : Place} {handle : TypeHandle}
    (h : (start.run steps).workspace.binding? place = some handle) :
    (start.run steps).workspace.target? place = none ↔ Dropped steps handle.place.scheme := by
  rw [target_of_bound h]
  constructor
  · intro hnone
    obtain ⟨key, -, htaken⟩ := (sound_run steps).bound place handle h
    by_contra hdropped
    obtain ⟨node, hnode, -⟩ := node_at_taken htaken hdropped
    exact nomatch hnone.symm.trans hnode
  · exact node_at_dropped

/-! ### What a report says -/

/-- What binding the references of some schemes does to a session: it reports on each of them,
fills those that were not bound and have an entry, and leaves everything else as it was. -/
structure Fills (session : Session) (numbers : List Nat) (outcome : Session × Resolution) :
    Prop where
  counted : outcome.2.bound + outcome.2.unbound.length =
    ((numbers.filterMap session.workspace.scheme?).flatMap Scheme.references).length
  schemes : outcome.1.workspace.schemes = session.workspace.schemes
  index : outcome.1.index = session.index
  filled : ∀ node ∈ numbers.flatMap session.workspace.nodesOf, ∀ label key,
    node.field = .reference label key →
      outcome.1.workspace.binding? node.place =
        (session.workspace.binding? node.place).or (session.index.get? key)
  untouched : ∀ place,
    (∀ node ∈ numbers.flatMap session.workspace.nodesOf, node.place = place →
      node.reference? = none) →
      outcome.1.workspace.binding? place = session.workspace.binding? place

/-- Binding fills references by the index in use. -/
theorem fills_bind (session : Session) (numbers : List Nat) :
    Fills session numbers (session.bind numbers) where
  counted := by
    rw [← Workspace.references_of_schemes, List.length_map]
    exact Index.length_resolve_all _ _ _
  schemes := Workspace.schemes_resolve_all _ _ _
  index := rfl
  filled _ hnode _ _ hfield := Index.binding_resolve_of_reference hnode hfield
  untouched _ h := Index.binding_resolve_of_not_reference h

/-- Bindings in sessions. A reference stays bound to its handle; handles in the index and in
references are on types of the name and table asked for; a reference has a target exactly as long
as it is bound and the scheme of its handle is not dropped, and then the target is what the handle
points to, so a bound reference without a target stays without one; and resolving fills references
that were not bound, by the index in use or by a new one. -/
theorem session_bindings (steps more : List SessionStep) (numbers : List Nat) :
    let session := start.run steps
    let later := start.run (steps ++ more)
    (∀ place handle, session.workspace.binding? place = some handle →
      later.workspace.binding? place = some handle) ∧
    (∀ key handle, session.index.get? key = some handle → TakenFrom (added steps) key handle) ∧
    (∀ place key handle, Refers (added steps) place key →
      session.workspace.binding? place = some handle → TakenFrom (added steps) key handle) ∧
    (∀ place, (session.workspace.target? place).isSome ↔
      ∃ handle, session.workspace.binding? place = some handle ∧
        ¬ Dropped steps handle.place.scheme) ∧
    (∀ place target, session.workspace.target? place = some target →
      session.workspace.binding? place = some target.handle) ∧
    (∀ place, (session.workspace.binding? place).isSome →
      session.workspace.target? place = none → later.workspace.target? place = none) ∧
    Fills session numbers (session.bind numbers) ∧
    Fills (session.reindex numbers) numbers (session.resolve numbers) := by
  intro session later
  have hsound := sound_run steps
  have hkept : ∀ place handle, session.workspace.binding? place = some handle →
      later.workspace.binding? place = some handle := by
    intro place handle hbinding
    rw [show later = session.run more from run_append start steps more]
    exact binding_run hbinding more
  refine ⟨hkept, hsound.indexed, ?_, ?_, ?_, ?_, fills_bind session numbers,
    fills_bind (session.reindex numbers) numbers⟩
  · intro place key handle hrefers hbinding
    obtain ⟨other, hother, htaken⟩ := hsound.bound place handle hbinding
    rwa [hrefers.unique hother]
  · intro place
    cases hbinding : session.workspace.binding? place with
    | none => simp [Workspace.target?, hbinding]
    | some handle =>
        rw [Option.isSome_iff_ne_none, Ne, target_eq_none_iff hbinding]
        simp
  · intro place target htarget
    cases hbinding : session.workspace.binding? place with
    | none => simp [Workspace.target?, hbinding] at htarget
    | some handle =>
        obtain ⟨key, -, htaken⟩ := hsound.bound place handle hbinding
        have hdropped : ¬ Dropped steps handle.place.scheme := by
          rw [← target_eq_none_iff hbinding, htarget]
          exact Option.some_ne_none target
        obtain ⟨node, hnode, rfl⟩ := node_at_taken htaken hdropped
        rw [target_of_bound hbinding, hnode] at htarget
        rw [Option.some.inj htarget]
  · intro place hbound hnone
    obtain ⟨handle, hbinding⟩ := Option.isSome_iff_exists.mp hbound
    rw [target_eq_none_iff hbinding] at hnone
    rw [target_eq_none_iff (hkept place handle hbinding)]
    exact hnone.append more

-- A scheme like the one that was dropped does not become the target.
example :
    let heroes : Scheme := ⟨"Heroes", [.reference ⟨"Heroes", "kind"⟩ ⟨"Kinds", "Kind"⟩]⟩
    let kinds : Scheme := ⟨"Kinds", [.enum ⟨"Kinds", "kind"⟩ "Kind" []]⟩
    let session := start.run
      [.add heroes, .add kinds, .resolve [0, 1], .drop 1, .add kinds, .resolve [0, 2]]
    session.workspace.binding? ⟨0, [0]⟩ = some ⟨.enum, ⟨1, [0]⟩⟩ ∧
      (session.workspace.target? ⟨0, [0]⟩).isNone = true :=
  ⟨rfl, rfl⟩

end Session

end SheetWire
