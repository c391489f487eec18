import FleetHealth.Proofs.Except
import FleetHealth.Text.Scan
import FleetHealth.Time.Duration.Parser
import Mathlib.Algebra.GroupWithZero.Nat
import Mathlib.Data.List.TakeWhile

namespace FleetHealth.Duration

open Text

def units : List (List Char) := unitScales.map Prod.fst

namespace Term

/-- A term is written without a point or with one, which need not have digits on both of its
sides. -/
inductive Spelling (t : Term) : List Char → Prop
  | plain (integral : t.fraction = []) : Spelling t (t.whole ++ t.unit)
  | pointed : Spelling t (t.whole ++ '.' :: (t.fraction ++ t.unit))

structure WellFormed (t : Term) : Prop where
  whole : ∀ c ∈ t.whole, c.isDigit = true
  fraction : ∀ c ∈ t.fraction, c.isDigit = true
  number : ¬(t.whole = [] ∧ t.fraction = [])
  unit : t.unit ∈ units

instance (t : Term) : Decidable t.WellFormed :=
  decidable_of_iff
    (t.whole.all Char.isDigit = true ∧ t.fraction.all Char.isDigit = true ∧
      ¬(t.whole = [] ∧ t.fraction = []) ∧ t.unit ∈ units)
    ⟨fun ⟨whole, fraction, number, unit⟩ =>
      ⟨List.all_eq_true.mp whole, List.all_eq_true.mp fraction, number, unit⟩,
    fun ⟨whole, fraction, number, unit⟩ =>
      ⟨List.all_eq_true.mpr whole, List.all_eq_true.mpr fraction, number, unit⟩⟩

def scale (t : Term) : Nat := (unitScale? t.unit).getD 0

def value (t : Term) : Nat := ofDigits t.whole * t.scale + fractionNanos t.fraction t.scale

end Term

inductive Written : List Term → List Char → Prop
  | nil : Written [] []
  | cons {t ts cs cs'} (formed : t.WellFormed) (spelled : t.Spelling cs) (rest : Written ts cs') :
      Written (t :: ts) (cs ++ cs')

theorem unitScale?_of_mem {unit : List Char} (mem : unit ∈ units) :
    ∃ scale, unitScale? unit = some scale ∧ 0 < scale := by
  have all : ∀ unit ∈ units, ∃ scale, unitScale? unit = some scale ∧ 0 < scale := by
    simp [units, unitScales, unitScale?, List.lookup_cons]
  exact all unit mem

theorem mem_units_of_unitScale? {unit : List Char} {scale : Nat}
    (known : unitScale? unit = some scale) : unit ∈ units := by
  obtain ⟨before, after, eq, -⟩ := List.lookup_eq_some_iff.mp known
  exact List.mem_map.mpr ⟨(unit, scale), by simp [eq], rfl⟩

theorem isUnitEnd_of_mem_unit {unit : List Char} (mem : unit ∈ units) :
    ∀ c ∈ unit, isUnitEnd c = false := by
  have all : ∀ unit ∈ units, ∀ c ∈ unit, isUnitEnd c = false := by
    simp [units, unitScales, isUnitEnd]
  exact all unit mem

theorem ne_nil_of_mem_units {unit : List Char} (mem : unit ∈ units) : unit ≠ [] := by
  rintro rfl
  revert mem
  decide

theorem splitFraction_of_ne {cs : List Char} (h : cs.head? ≠ some '.') :
    splitFraction cs = ([], cs) := by
  unfold splitFraction
  split
  · simp at h
  · rfl

namespace Term

variable {t : Term} {cs rest : List Char}

/-- What stands in front of a text that begins with a unit's end is a term by itself. -/
theorem splitTerm_append (formed : t.WellFormed) (spelled : t.Spelling cs)
    (stop : ∀ c, rest.head? = some c → isUnitEnd c = true) : splitTerm (cs ++ rest) = (t, rest) := by
  have unit_inside : ∀ c ∈ t.unit, (!isUnitEnd c) = true := by
    simpa using isUnitEnd_of_mem_unit formed.unit
  have unit_stop : ∀ c, rest.head? = some c → (!isUnitEnd c) = false := by simpa using stop
  have unit_head : ∀ c, (t.unit ++ rest).head? = some c → isUnitEnd c = false := by
    intro c head
    rw [List.head?_append_of_ne_nil _ (ne_nil_of_mem_units formed.unit)] at head
    exact isUnitEnd_of_mem_unit formed.unit c (List.mem_of_head? head)
  have unit_digit : ∀ c, (t.unit ++ rest).head? = some c → c.isDigit = false := by
    intro c head
    have no_end := unit_head c head
    simp only [isUnitEnd, Bool.or_eq_false_iff] at no_end
    exact no_end.1
  have unit_point : (t.unit ++ rest).head? ≠ some '.' := by
    intro head
    cases unit_head '.' head
  cases spelled with
  | plain integral =>
    rw [splitTerm, List.append_assoc, takeWhile_append_stop formed.whole unit_digit,
      dropWhile_append_stop formed.whole unit_digit, splitFraction_of_ne unit_point]
    dsimp only
    rw [takeWhile_append_stop unit_inside unit_stop, dropWhile_append_stop unit_inside unit_stop,
      ← integral]
  | pointed =>
    have point : ∀ c, ('.' :: (t.fraction ++ t.unit) ++ rest).head? = some c →
        c.isDigit = false := by
      rintro c ⟨⟩
      rfl
    rw [splitTerm, List.append_assoc, takeWhile_append_stop formed.whole point,
      dropWhile_append_stop formed.whole point, List.cons_append, splitFraction, List.append_assoc,
      takeWhile_append_stop formed.fraction unit_digit,
      dropWhile_append_stop formed.fraction unit_digit]
    dsimp only
    rw [takeWhile_append_stop unit_inside unit_stop, dropWhile_append_stop unit_inside unit_stop]

theorem exists_spelling_splitTerm (cs : List Char) :
    ∃ text, (splitTerm cs).1.Spelling text ∧ cs = text ++ (splitTerm cs).2 := by
  by_cases point : (cs.dropWhile Char.isDigit).head? = some '.'
  · obtain ⟨tail, eq⟩ := List.head?_eq_some_iff.mp point
    refine ⟨_, .pointed, ?_⟩
    rw [splitTerm, eq, splitFraction]
    simp only [List.append_assoc, List.cons_append, List.takeWhile_append_dropWhile]
    rw [← eq, List.takeWhile_append_dropWhile]
  · refine ⟨_, .plain ?_, ?_⟩
    · rw [splitTerm, splitFraction_of_ne point]
    · rw [splitTerm, splitFraction_of_ne point]
      simp only [List.append_assoc, List.takeWhile_append_dropWhile]

theorem isDigit_splitTerm (cs : List Char) :
    (∀ c ∈ (splitTerm cs).1.whole, c.isDigit = true) ∧
      ∀ c ∈ (splitTerm cs).1.fraction, c.isDigit = true := by
  refine ⟨fun c mem => List.mem_takeWhile_imp mem, ?_⟩
  intro c mem
  change c ∈ (splitFraction (cs.dropWhile Char.isDigit)).1 at mem
  unfold splitFraction at mem
  split at mem
  · exact List.mem_takeWhile_imp mem
  · cases mem

theorem exists_head_spelling (formed : t.WellFormed) (spelled : t.Spelling cs) (rest : List Char) :
    ∃ c, (cs ++ rest).head? = some c ∧ isUnitEnd c = true := by
  cases whole : t.whole with
  | cons c digits =>
    have digit : c.isDigit = true := formed.whole c (by simp [whole])
    refine ⟨c, ?_, by simp [isUnitEnd, digit]⟩
    cases spelled <;> simp [whole]
  | nil =>
    cases spelled with
    | plain integral => exact absurd ⟨whole, integral⟩ formed.number
    | pointed => exact ⟨'.', by simp [whole], rfl⟩

theorem scale_pos (mem : t.unit ∈ units) : unitScale? t.unit = some t.scale ∧ 0 < t.scale := by
  obtain ⟨scale, known, pos⟩ := unitScale?_of_mem mem
  have eq : t.scale = scale := by rw [Term.scale, known, Option.getD_some]
  rw [eq]
  exact ⟨known, pos⟩

theorem narrow_eq_ok_iff {m n : Nat} : narrow m = .ok n ↔ m = n ∧ n < wideLimit := by
  rw [narrow]
  split
  · simp
    omega
  · simp
    omega

theorem nanos_of_unit (number : ¬(t.whole = [] ∧ t.fraction = [])) (mem : t.unit ∈ units) :
    t.nanos = if wideLimit ≤ ofDigits t.whole then .error .malformed else
      narrow (ofDigits t.whole * t.scale) >>= fun whole =>
        narrow (whole + fractionNanos t.fraction t.scale) := by
  rw [nanos, if_neg number]
  dsimp only
  rw [if_neg (ne_nil_of_mem_units mem), (scale_pos mem).1]
  dsimp only
  split <;> rfl

theorem nanos_of_no_number (none : t.whole = [] ∧ t.fraction = []) :
    t.nanos = .error .malformed := by
  rw [nanos, if_pos none]
  rfl

theorem nanos_of_no_unit (number : ¬(t.whole = [] ∧ t.fraction = [])) (unknown : t.unit ∉ units) :
    ∃ fault, t.nanos = .error fault := by
  have unscaled : unitScale? t.unit = none := by
    cases known : unitScale? t.unit with
    | none => rfl
    | some scale => exact absurd (mem_units_of_unitScale? known) unknown
  rw [nanos, if_neg number]
  dsimp only
  rw [unscaled]
  split
  · exact ⟨_, rfl⟩
  · exact ⟨_, rfl⟩

theorem nanos_eq_ok_iff {n : Nat} : t.nanos = .ok n ↔
    ¬(t.whole = [] ∧ t.fraction = []) ∧ t.unit ∈ units ∧ n = t.value ∧ n < wideLimit := by
  by_cases number : t.whole = [] ∧ t.fraction = []
  · simp [nanos_of_no_number number, number]
  by_cases mem : t.unit ∈ units
  · have whole_le : ofDigits t.whole ≤ ofDigits t.whole * t.scale :=
      Nat.le_mul_of_pos_right _ (scale_pos mem).2
    have value : t.value = ofDigits t.whole * t.scale + fractionNanos t.fraction t.scale := rfl
    rw [nanos_of_unit number mem]
    constructor
    · intro h
      split at h
      · cases h
      · obtain ⟨whole, fits, h⟩ := bind_eq_ok h
        obtain ⟨rfl, -⟩ := narrow_eq_ok_iff.mp fits
        obtain ⟨rfl, limit⟩ := narrow_eq_ok_iff.mp h
        exact ⟨number, mem, rfl, limit⟩
    · rintro ⟨-, -, rfl, limit⟩
      have fits : narrow (ofDigits t.whole * t.scale) = .ok (ofDigits t.whole * t.scale) :=
        narrow_eq_ok_iff.mpr ⟨rfl, by omega⟩
      rw [if_neg (by omega), fits]
      exact narrow_eq_ok_iff.mpr ⟨rfl, limit⟩
  · obtain ⟨fault, failed⟩ := nanos_of_no_unit number mem
    simp [failed, mem]

end Term

open Term

theorem Written.stop {ts : List Term} {cs : List Char} (written : Written ts cs) :
    ∀ c, cs.head? = some c → isUnitEnd c = true := by
  cases written with
  | nil => simp
  | cons formed spelled rest =>
    intro c head
    obtain ⟨c', head', stop⟩ := exists_head_spelling formed spelled _
    cases head.symm.trans head'
    exact stop

theorem Written.wellFormed {ts : List Term} {cs : List Char} (written : Written ts cs) :
    ∀ t ∈ ts, t.WellFormed := by
  induction written with
  | nil => simp
  | cons formed _ _ ih => exact List.forall_mem_cons.mpr ⟨formed, ih⟩

theorem Written.append {ts ts' : List Term} {cs cs' : List Char} (written : Written ts cs)
    (written' : Written ts' cs') : Written (ts ++ ts') (cs ++ cs') := by
  induction written with
  | nil => exact written'
  | cons formed spelled _ ih =>
    rw [List.cons_append, List.append_assoc]
    exact .cons formed spelled ih

theorem Written.ne_nil {t : Term} {ts : List Term} {cs : List Char}
    (written : Written (t :: ts) cs) : cs ≠ [] := by
  cases written with
  | @cons _ _ cs cs' formed spelled rest =>
    obtain ⟨c, head, -⟩ := exists_head_spelling formed spelled cs'
    intro empty
    simp [empty] at head

theorem Written.ne_zero {ts : List Term} {cs : List Char} (written : Written ts cs) :
    cs ≠ ['0'] := by
  cases written with
  | nil => simp
  | cons formed spelled rest =>
    intro zero
    have first := splitTerm_append formed spelled rest.stop
    rw [zero] at first
    have unit : [] = _ := congrArg (fun split => split.1.unit) first
    exact ne_nil_of_mem_units formed.unit unit.symm

/-- A text is made of terms in one way only. -/
theorem Written.unique {ts ts' : List Term} {cs : List Char} (written : Written ts cs)
    (written' : Written ts' cs) : ts = ts' := by
  induction written generalizing ts' with
  | nil =>
    cases ts' with
    | nil => rfl
    | cons t ts => exact absurd rfl written'.ne_nil
  | @cons t ts text rest formed spelled written ih =>
    have first := splitTerm_append formed spelled written.stop
    -- both ways begin with the term that is split off the text
    generalize eq : text ++ rest = cs at first written'
    cases written' with
    | nil => exact absurd eq (Written.cons formed spelled written).ne_nil
    | cons formed' spelled' rest' =>
      cases first.symm.trans (splitTerm_append formed' spelled' rest'.stop)
      rw [ih rest']

/-- The terms of a text are added up as long as the sum can be held. -/
theorem sumTerms_written {ts : List Term} {cs : List Char} (written : Written ts cs) {total : Nat}
    (fits : total + (ts.map Term.value).sum < wideLimit) :
    sumTerms total cs = .ok (total + (ts.map Term.value).sum) := by
  induction written generalizing total with
  | nil =>
    rw [sumTerms]
    rfl
  | @cons t ts cs cs' formed spelled rest ih =>
    have split := splitTerm_append formed spelled rest.stop
    have nonempty := (Written.cons formed spelled rest).ne_nil
    rw [List.map_cons, List.sum_cons, ← Nat.add_assoc] at fits ⊢
    have first : t.nanos = .ok t.value :=
      nanos_eq_ok_iff.mpr ⟨formed.number, formed.unit, rfl, by omega⟩
    have so_far : narrow (total + t.value) = .ok (total + t.value) :=
      narrow_eq_ok_iff.mpr ⟨rfl, by omega⟩
    rw [sumTerms, if_neg nonempty, split, dif_neg formed.number, first]
    change (narrow (total + t.value) >>= _) = _
    rw [so_far]
    exact ih fits

theorem exists_written_of_sumTerms {total n : Nat} {cs : List Char} (h : sumTerms total cs = .ok n)
    (fits : total < wideLimit) :
    ∃ ts, Written ts cs ∧ n = total + (ts.map Term.value).sum ∧ n < wideLimit := by
  fun_induction sumTerms total cs with
  | case1 total =>
    cases h
    exact ⟨[], .nil, rfl, fits⟩
  | case2 => cases h
  | case3 total cs nonempty number ih =>
    obtain ⟨nanos, first, h⟩ := bind_eq_ok h
    obtain ⟨total', so_far, h⟩ := bind_eq_ok h
    obtain ⟨-, mem, rfl, -⟩ := nanos_eq_ok_iff.mp first
    obtain ⟨rfl, fits'⟩ := narrow_eq_ok_iff.mp so_far
    obtain ⟨ts, written, rfl, limit⟩ := ih _ h fits'
    -- what was taken off is put back in front of the terms of the rest
    obtain ⟨text, spelled, eq⟩ := exists_spelling_splitTerm cs
    obtain ⟨whole, fraction⟩ := isDigit_splitTerm cs
    refine ⟨(splitTerm cs).1 :: ts, ?_, ?_, limit⟩
    · have all := Written.cons ⟨whole, fraction, number, mem⟩ spelled written
      rwa [← eq] at all
    · rw [List.map_cons, List.sum_cons, Nat.add_assoc]

theorem sumTerms_eq_ok_iff {ts : List Term} {cs : List Char} (written : Written ts cs) {n : Nat} :
    sumTerms 0 cs = .ok n ↔ n = (ts.map Term.value).sum ∧ n < wideLimit := by
  constructor
  · intro h
    obtain ⟨ts', written', sum, limit⟩ := exists_written_of_sumTerms h (by decide)
    rw [written.unique written', sum, Nat.zero_add]
    omega
  · rintro ⟨rfl, limit⟩
    have sum := sumTerms_written written (by omega : 0 + (ts.map Term.value).sum < wideLimit)
    rwa [Nat.zero_add] at sum

end FleetHealth.Duration
