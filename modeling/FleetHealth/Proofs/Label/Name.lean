import FleetHealth.Label.Name

namespace FleetHealth.Label

open Text

def SmallLetterOrDigit (c : Char) : Prop := ('a' ≤ c ∧ c ≤ 'z') ∨ ('0' ≤ c ∧ c ≤ '9')

def LetterOrDigit (c : Char) : Prop := ('A' ≤ c ∧ c ≤ 'Z') ∨ SmallLetterOrDigit c

instance : DecidablePred SmallLetterOrDigit := fun _ => inferInstanceAs (Decidable (_ ∨ _))

instance : DecidablePred LetterOrDigit := fun _ => inferInstanceAs (Decidable (_ ∨ _))

inductive Framed (inside ends : Char → Prop) : List Char → Prop
  | single {c} (only : ends c) : Framed inside ends [c]
  | between {c d cs} (first : ends c) (middle : ∀ e ∈ cs, inside e) (last : ends d) :
      Framed inside ends (c :: (cs ++ [d]))

/-- At most 63 letters, digits, hyphens, underscores and points, with a letter or digit at both
ends. -/
def Name (cs : List Char) : Prop :=
  cs.length ≤ 63 ∧
    Framed (fun c => LetterOrDigit c ∨ c = '-' ∨ c = '_' ∨ c = '.') LetterOrDigit cs

/-- Small letters, digits and hyphens, with no hyphen at the ends. -/
def DomainLabel (cs : List Char) : Prop :=
  Framed (fun c => SmallLetterOrDigit c ∨ c = '-') SmallLetterOrDigit cs

/-- One or more labels joined by points, together at most 253 bytes. -/
def Domain (cs : List Char) : Prop :=
  (String.ofList cs).utf8ByteSize ≤ 253 ∧
    ∃ labels ≠ [], (∀ l ∈ labels, DomainLabel l) ∧ cs = ['.'].intercalate labels

/-- A name, which may come after a domain and a slash. -/
def QualifiedName (key : String) : Prop :=
  ∃ name, Name name ∧
    (key.toList = name ∨ ∃ domain, Domain domain ∧ key.toList = domain ++ '/' :: name)

def Value (value : String) : Prop := value = "" ∨ Name value.toList

variable {cs : List Char} {c : Char}

theorem isDomainEnd_iff : isDomainEnd c = true ↔ SmallLetterOrDigit c := by
  change (decide ('a' ≤ c) && decide (c ≤ 'z') || decide ('0' ≤ c) && decide (c ≤ '9')) = true ↔ _
  simp only [Bool.or_eq_true, Bool.and_eq_true, decide_eq_true_eq]
  rfl

theorem isNameEnd_iff : isNameEnd c = true ↔ LetterOrDigit c := by
  change (decide ('A' ≤ c ∧ c ≤ 'Z') || c.isLower || c.isDigit) = true ↔ _
  rw [Bool.or_assoc, Bool.or_eq_true, decide_eq_true_eq]
  exact or_congr_right isDomainEnd_iff

theorem isDomainChar_iff : isDomainChar c = true ↔ SmallLetterOrDigit c ∨ c = '-' := by
  simp [isDomainChar, isDomainEnd_iff]

theorem isNameChar_iff :
    isNameChar c = true ↔ LetterOrDigit c ∨ c = '-' ∨ c = '_' ∨ c = '.' := by
  simp [isNameChar, isNameEnd_iff, or_assoc]

theorem SmallLetterOrDigit.ascii (h : SmallLetterOrDigit c) : c.val ≤ 127 := by
  cases h with
  | inl letter => exact UInt32.le_trans letter.2 (by decide)
  | inr digit => exact UInt32.le_trans digit.2 (by decide)

theorem utf8ByteSize_of_ascii (ascii : ∀ c ∈ cs, c.val ≤ 127) :
    (String.ofList cs).utf8ByteSize = cs.length := by
  induction cs with
  | nil => rfl
  | cons c cs ih =>
    obtain ⟨first, rest⟩ := List.forall_mem_cons.mp ascii
    rw [String.ofList_cons, String.utf8ByteSize_append, String.utf8ByteSize_singleton,
      Char.utf8Size_eq_one_iff.mpr first, ih rest, List.length_cons, Nat.add_comm]

section Framed

variable {inside ends : Char → Prop}

theorem Framed.ne_nil (h : Framed inside ends cs) : cs ≠ [] := by
  cases h <;> simp

theorem Framed.forall_mem (h : Framed inside ends cs) (sub : ∀ c, ends c → inside c) :
    ∀ c ∈ cs, inside c := by
  cases h with
  | single only => simpa using sub _ only
  | between first middle last =>
    simp only [List.mem_cons, List.mem_append, List.not_mem_nil, or_false]
    rintro e (rfl | mem | rfl)
    · exact sub _ first
    · exact middle e mem
    · exact sub _ last

theorem framed_iff (sub : ∀ c, ends c → inside c) : Framed inside ends cs ↔
    (∃ c, cs.head? = some c ∧ ends c) ∧ (∃ c, cs.getLast? = some c ∧ ends c) ∧
      ∀ c ∈ cs, inside c := by
  constructor
  · intro h
    refine ⟨?_, ?_, h.forall_mem sub⟩
    · cases h with
      | single only => exact ⟨_, rfl, only⟩
      | between first _ _ => exact ⟨_, rfl, first⟩
    · cases h with
      | single only => exact ⟨_, rfl, only⟩
      | between _ _ last => exact ⟨_, by rw [← List.cons_append, List.getLast?_concat], last⟩
  · rintro ⟨⟨c, head, first⟩, ⟨d, back, last⟩, all⟩
    obtain ⟨tail, rfl⟩ := List.head?_eq_some_iff.mp head
    cases List.eq_nil_or_concat tail with
    | inl empty =>
      subst empty
      exact .single first
    | inr split =>
      obtain ⟨middle, e, rfl⟩ := split
      rw [List.concat_eq_append] at back all ⊢
      rw [← List.cons_append, List.getLast?_concat] at back
      cases back
      refine .between first (fun e mem => all e ?_) last
      simp [mem]

end Framed

theorem isFramed_iff {inside ends : Char → Bool} {inside' ends' : Char → Prop}
    (insideIff : ∀ c, inside c = true ↔ inside' c) (endsIff : ∀ c, ends c = true ↔ ends' c)
    (sub : ∀ c, ends' c → inside' c) :
    isFramed inside ends cs = true ↔ Framed inside' ends' cs := by
  rw [framed_iff sub]
  simp [isFramed, Option.any_eq_true, insideIff, endsIff, and_assoc]

theorem isName_iff : isName cs = true ↔ Name cs := by
  rw [isName, Bool.and_eq_true, decide_eq_true_eq,
    isFramed_iff (fun _ => isNameChar_iff) (fun _ => isNameEnd_iff) (fun _ => .inl)]
  rfl

theorem isDomainLabel_iff : isFramed isDomainChar isDomainEnd cs = true ↔ DomainLabel cs :=
  isFramed_iff (fun _ => isDomainChar_iff) (fun _ => isDomainEnd_iff) (fun _ => .inl)

theorem isValue_iff {value : String} : isValue value = true ↔ Value value := by
  rw [isValue, Bool.or_eq_true, String.isEmpty_iff, isName_iff]
  rfl

theorem DomainLabel.forall_mem (h : DomainLabel cs) : ∀ c ∈ cs, SmallLetterOrDigit c ∨ c = '-' :=
  Framed.forall_mem h fun _ => .inl

theorem mem_intercalate {sep : Char} {parts : List (List Char)}
    (mem : c ∈ [sep].intercalate parts) : c = sep ∨ ∃ part ∈ parts, c ∈ part := by
  induction parts with
  | nil => simp at mem
  | cons part parts ih =>
    by_cases alone : parts = []
    · subst alone
      exact .inr ⟨part, List.mem_cons_self, by simpa using mem⟩
    · rw [List.intercalate_cons_of_ne_nil alone, List.mem_append, List.mem_append,
        List.mem_singleton] at mem
      rcases mem with (first | sep) | rest
      · exact .inr ⟨part, List.mem_cons_self, first⟩
      · exact .inl sep
      · obtain sep | ⟨part', mem, rest⟩ := ih rest
        · exact .inl sep
        · exact .inr ⟨part', List.mem_cons_of_mem _ mem, rest⟩

theorem forall_mem_of_labels {labels : List (List Char)} (h : ∀ l ∈ labels, DomainLabel l) :
    ∀ c ∈ ['.'].intercalate labels, SmallLetterOrDigit c ∨ c = '-' ∨ c = '.' := by
  intro c mem
  cases mem_intercalate mem with
  | inl point => exact .inr (.inr point)
  | inr inside =>
    obtain ⟨l, among, inside⟩ := inside
    exact ((h l among).forall_mem c inside).imp_right .inl

theorem utf8ByteSize_of_labels {labels : List (List Char)} (h : ∀ l ∈ labels, DomainLabel l) :
    (String.ofList (['.'].intercalate labels)).utf8ByteSize =
      (['.'].intercalate labels).length := by
  apply utf8ByteSize_of_ascii
  intro c mem
  obtain letter | rfl | rfl := forall_mem_of_labels h c mem
  · exact letter.ascii
  · decide
  · decide

theorem point_not_mem_label (h : DomainLabel cs) : '.' ∉ cs := by
  intro mem
  exact absurd (h.forall_mem '.' mem) (by decide)

theorem isDomain_iff : isDomain cs = true ↔ Domain cs := by
  simp only [isDomain, Bool.and_eq_true, decide_eq_true_eq, List.all_eq_true, isDomainLabel_iff]
  constructor
  · rintro ⟨short, labels⟩
    have parts := intercalate_splitAll '.' cs
    have size := utf8ByteSize_of_labels labels
    rw [parts] at size
    exact ⟨size ▸ short, splitAll '.' cs, splitAll_ne_nil '.' cs, labels, parts.symm⟩
  · rintro ⟨short, labels, nonempty, formed, rfl⟩
    rw [utf8ByteSize_of_labels formed] at short
    rw [splitAll_intercalate nonempty fun l mem => point_not_mem_label (formed l mem)]
    exact ⟨short, formed⟩

theorem Name.forall_mem (h : Name cs) :
    ∀ c ∈ cs, LetterOrDigit c ∨ c = '-' ∨ c = '_' ∨ c = '.' :=
  h.2.forall_mem fun _ => .inl

theorem Domain.forall_mem (h : Domain cs) :
    ∀ c ∈ cs, SmallLetterOrDigit c ∨ c = '-' ∨ c = '.' := by
  obtain ⟨-, labels, -, formed, rfl⟩ := h
  exact forall_mem_of_labels formed

theorem slash_not_mem_name (h : Name cs) : '/' ∉ cs := by
  intro mem
  exact absurd (h.forall_mem '/' mem) (by decide)

theorem slash_not_mem_domain (h : Domain cs) : '/' ∉ cs := by
  intro mem
  exact absurd (h.forall_mem '/' mem) (by decide)

theorem keyFault?_eq_none_iff {key : String} : keyFault? key = none ↔ QualifiedName key := by
  cases cut : splitFirst? '/' key.toList with
  | none =>
    have fresh := splitFirst?_eq_none_iff.mp cut
    have checked : keyFault? key = none ↔ Name key.toList := by
      rw [← isName_iff]
      simp [keyFault?, cut]
    rw [checked]
    constructor
    · intro name
      exact ⟨_, name, .inl rfl⟩
    · rintro ⟨name, formed, rfl | ⟨domain, -, eq⟩⟩
      · exact formed
      · simp [eq] at fresh
  | some parts =>
    obtain ⟨domain, name⟩ := parts
    obtain ⟨eq, fresh⟩ := splitFirst?_eq_some_iff.mp cut
    have checked : keyFault? key = none ↔ Domain domain ∧ Name name := by
      rw [← isName_iff, ← isDomain_iff]
      cases h : isDomain domain <;> cases h' : isName name <;> simp [keyFault?, cut, h, h']
    rw [checked]
    constructor
    · rintro ⟨formed, formed'⟩
      exact ⟨name, formed', .inr ⟨domain, formed, eq⟩⟩
    · rintro ⟨name', formed', rfl | ⟨domain', formed, eq'⟩⟩
      · have slash := slash_not_mem_name formed'
        simp [eq] at slash
      · have cut' := splitFirst?_eq_some_iff.mpr ⟨eq', slash_not_mem_domain formed⟩
        cases cut.symm.trans cut'
        exact ⟨formed, formed'⟩

end FleetHealth.Label
