import Mathlib
import SheetWire.Text.Case

/-!
# Lowering twice

A character in lower case is not lowered any further (`lowered_of_mem`). No counterpart of a
character in the table of lower-case forms is in the table itself: its runs are apart from what they
are shifted to (`lower_runs_clear`), which is checked run by run and holds of the characters by
arithmetic. A text without capitals is lowered character by character, wherever it stands, since the
only character whose lower-case form depends on others is the capital sigma
(`lower_after_of_no_capital`).
-/

namespace SheetWire.Text

namespace CaseRun

/-- A counterpart comes from a run that holds the code point. -/
theorem find_spec {runs : List CaseRun} {code result : Nat} (h : find? runs code = some result) :
    ∃ run ∈ runs, run.first ≤ code ∧ code ≤ run.last ∧ (code - run.first) % run.step = 0 ∧
      result = (code + run.shift).toNat := by
  induction runs with
  | nil => cases h
  | cons run runs ih =>
      rw [find?] at h
      split at h
      · rename_i hcode
        simp only [Bool.and_eq_true, decide_eq_true_eq, beq_iff_eq] at hcode
        exact ⟨run, List.mem_cons_self, hcode.1.1, hcode.1.2, hcode.2, (Option.some.inj h).symm⟩
      · obtain ⟨other, hother, hspec⟩ := ih h
        exact ⟨other, List.mem_cons_of_mem run hother, hspec⟩

/-- Whether the counterparts of the characters of one run lie apart from another run: before it,
behind it, or at every other place between its characters. -/
def clears (run other : CaseRun) : Bool :=
  let first := (run.first + run.shift).toNat
  let last := (run.last + run.shift).toNat
  last < other.first || other.last < first ||
    (0 < first && (run.step == 2 || run.first == run.last) && other.step == 2 &&
      (first + other.first) % 2 == 1)

/-- Whether the counterparts of the characters of a run are characters, but neither `İ` nor an
ASCII capital. -/
def lands (run : CaseRun) : Bool :=
  let first := (run.first + run.shift).toNat
  let last := (run.last + run.shift).toNat
  0x61 ≤ first && (last < 0x130 || 0x130 < first) &&
    (last < 0xD800 || 0xDFFF < first && last < 0x110000)

/-- The counterpart of a character of a run is outside every run that the run clears. -/
theorem not_both {run other : CaseRun} (h : run.clears other = true) {code result : Nat}
    (hrun : run.first ≤ code ∧ code ≤ run.last ∧ (code - run.first) % run.step = 0)
    (hresult : result = (code + run.shift).toNat) :
    ¬ (other.first ≤ result ∧ result ≤ other.last ∧ (result - other.first) % other.step = 0) := by
  obtain ⟨hfirst, hlast, hstep⟩ := hrun
  intro hboth
  obtain ⟨hbelow, habove, hplace⟩ := hboth
  simp only [clears, Bool.or_eq_true, Bool.and_eq_true, decide_eq_true_eq, beq_iff_eq] at h
  rcases h with (h | h) | ⟨⟨⟨hpositive, hstride | hsingle⟩, hother⟩, hodd⟩
  · omega
  · omega
  · rw [hstride] at hstep
    rw [hother] at hplace
    omega
  · rw [hother] at hplace
    omega

end CaseRun

/-- No run of the table of lower-case forms is shifted to where one is. -/
theorem lower_runs_clear :
    (lowerRuns.all fun run => lowerRuns.all fun other => run.clears other) = true := by
  decide +kernel

/-- The runs of the table of lower-case forms are shifted to small letters. -/
theorem lower_runs_land : (lowerRuns.all CaseRun.lands) = true := by
  decide +kernel

/-- What a character is lowered to has no lower-case form of its own. -/
theorem find_lower_run {code result : Nat} (h : CaseRun.find? lowerRuns code = some result) :
    CaseRun.find? lowerRuns result = none := by
  obtain ⟨run, hrun, hfirst, hlast, hstep, hresult⟩ := CaseRun.find_spec h
  by_contra hsome
  obtain ⟨further, hfurther⟩ := Option.ne_none_iff_exists'.mp hsome
  obtain ⟨other, hother, hbelow, habove, hplace, -⟩ := CaseRun.find_spec hfurther
  have hclear := List.all_eq_true.mp (List.all_eq_true.mp lower_runs_clear run hrun) other hother
  exact CaseRun.not_both hclear ⟨hfirst, hlast, hstep⟩ hresult ⟨hbelow, habove, hplace⟩

/-- What a character is lowered to is a character, but neither `İ` nor an ASCII capital. -/
theorem lands_of_find {code result : Nat} (h : CaseRun.find? lowerRuns code = some result) :
    result.isValidChar ∧ 0x61 ≤ result ∧ result ≠ 0x130 := by
  obtain ⟨run, hrun, hfirst, hlast, -, hresult⟩ := CaseRun.find_spec h
  have hlands := List.all_eq_true.mp lower_runs_land run hrun
  simp only [CaseRun.lands, Bool.and_eq_true, Bool.or_eq_true, decide_eq_true_eq] at hlands
  obtain ⟨⟨hsmall, hdotted⟩, hvalid⟩ := hlands
  refine ⟨?_, by omega, by omega⟩
  unfold Nat.isValidChar
  omega

/-- The ASCII capitals are the code points from `A` to `Z`. -/
theorem is_upper_letter_iff {c : Char} :
    isUpperLetter c = true ↔ 0x41 ≤ c.toNat ∧ c.toNat ≤ 0x5A := by
  simp [isUpperLetter, Char.le_def, UInt32.le_iff_toNat_le]

/-- The ASCII small letters are the code points from `a` to `z`. -/
theorem is_lower_letter_iff {c : Char} :
    isLowerLetter c = true ↔ 0x61 ≤ c.toNat ∧ c.toNat ≤ 0x7A := by
  simp [isLowerLetter, Char.le_def, UInt32.le_iff_toNat_le]

/-- An ASCII capital has a small letter from which it can be told. -/
theorem small_letter_of_capital {c : Char} (h : isUpperLetter c = true) :
    isUpper c = true ∧ ∃ d, lowerChar c = [d] ∧ upperChar d = [c] ∧ d ≠ c := by
  have hcode := is_upper_letter_iff.mp h
  have hascii : c.toNat < 128 := by omega
  have hsmall : (Char.ofNat (c.toNat + 32)).toNat = c.toNat + 32 :=
    (Char.toNat_ofNat _).trans (if_pos (.inl (by omega)))
  refine ⟨by rw [isUpper, if_pos hascii, h], Char.ofNat (c.toNat + 32), ?_, ?_, fun heq => ?_⟩
  · rw [lowerChar, if_pos hascii, if_pos h]
  · have hletter : isLowerLetter (Char.ofNat (c.toNat + 32)) = true := by
      rw [is_lower_letter_iff]
      omega
    rw [upperChar, if_pos (by omega), if_pos hletter, hsmall, Nat.add_sub_cancel, Char.ofNat_toNat]
  · rw [heq] at hsmall
    omega

/-- An ASCII small letter is no capital and stands for itself in lower case. -/
theorem small_letter {c : Char} (h : isLowerLetter c = true) :
    isUpper c = false ∧ lowerChar c = [c] := by
  have hcode := is_lower_letter_iff.mp h
  have hascii : c.toNat < 128 := by omega
  have hupper : isUpperLetter c = false := by
    rw [Bool.eq_false_iff, Ne, is_upper_letter_iff]
    omega
  rw [isUpper, if_pos hascii, lowerChar, if_pos hascii, hupper, if_neg Bool.false_ne_true]
  exact ⟨rfl, rfl⟩

/-- A character that is no capital is lowered to a single character, which stands for itself. -/
theorem lower_char_settled {c : Char} (h : isUpper c = false) :
    ∃ d, lowerChar c = [d] ∧ lowerChar d = [d] := by
  by_cases hascii : c.toNat < 128
  · have hself : lowerChar c = [c] := by
      rw [isUpper, if_pos hascii] at h
      rw [lowerChar, if_pos hascii, if_neg (by rw [h]; exact Bool.false_ne_true)]
    exact ⟨c, hself, hself⟩
  · have hdotted : c.toNat ≠ 0x130 := by
      intro hc
      rw [isUpper, if_neg hascii, hc] at h
      exact absurd h (by decide +kernel)
    cases hfind : CaseRun.find? lowerRuns c.toNat with
    | none =>
        have hself : lowerChar c = [c] := by
          rw [lowerChar, if_neg hascii, if_neg hdotted, hfind]
        exact ⟨c, hself, hself⟩
    | some result =>
        obtain ⟨hvalid, hsmall, hother⟩ := lands_of_find hfind
        have hcode : (Char.ofNat result).toNat = result :=
          (Char.toNat_ofNat result).trans (if_pos hvalid)
        refine ⟨Char.ofNat result, ?_, ?_⟩
        · rw [lowerChar, if_neg hascii, if_neg hdotted, hfind]
        · by_cases hlow : result < 128
          · have hletter : isUpperLetter (Char.ofNat result) = false := by
              rw [Bool.eq_false_iff, Ne, is_upper_letter_iff, hcode]
              omega
            rw [lowerChar, if_pos (hcode.symm ▸ hlow), hletter, if_neg Bool.false_ne_true]
          · rw [lowerChar, hcode, if_neg hlow, if_neg hother, find_lower_run hfind]

/-- What a text without capitals is lowered to stands for itself. -/
theorem lowered_of_mem {text : List Char} (h : ∀ c ∈ text, isUpper c = false) {d : Char}
    (hd : d ∈ text.flatMap lowerChar) : lowerChar d = [d] := by
  obtain ⟨c, hc, hd⟩ := List.mem_flatMap.mp hd
  obtain ⟨lowered, hlower, hsettled⟩ := lower_char_settled (h c hc)
  rw [hlower, List.mem_singleton] at hd
  rw [hd, hsettled]

/-- A text without capitals is lowered character by character, whatever stands before it. -/
theorem lower_after_of_no_capital (before : List Char) {text : List Char}
    (h : ∀ c ∈ text, isUpper c = false) : lowerAfter before text = text.flatMap lowerChar := by
  induction text generalizing before with
  | nil => rfl
  | cons c rest ih =>
      rw [List.forall_mem_cons] at h
      have hsigma : c.toNat ≠ 0x3A3 := by
        intro hc
        obtain rfl : c = 'Σ' := Char.toNat_inj.mp hc
        exact absurd h.1 (by decide +kernel)
      rw [lowerAfter, if_neg hsigma, ih (c :: before) h.2, List.flatMap_cons]

/-- A text in lower case stays, whatever stands before it. -/
theorem lower_after_of_lowered (before : List Char) {text : List Char}
    (h : ∀ c ∈ text, lowerChar c = [c]) : lowerAfter before text = text := by
  induction text generalizing before with
  | nil => rfl
  | cons c rest ih =>
      rw [List.forall_mem_cons] at h
      have hsigma : c.toNat ≠ 0x3A3 := by
        intro hc
        obtain rfl : c = 'Σ' := Char.toNat_inj.mp hc
        exact absurd h.1 (by decide +kernel)
      rw [lowerAfter, if_neg hsigma, h.1, ih (c :: before) h.2, List.singleton_append]

/-- A text without capitals stands for itself in lower case if its characters do. -/
theorem flat_map_lower_eq_self_iff {text : List Char} (h : ∀ c ∈ text, isUpper c = false) :
    text.flatMap lowerChar = text ↔ ∀ c ∈ text, lowerChar c = [c] := by
  constructor
  · intro hself c hc
    rw [← hself] at hc
    exact lowered_of_mem h hc
  · intro hself
    rw [List.flatMap_congr hself, List.flatMap_singleton']

end SheetWire.Text
