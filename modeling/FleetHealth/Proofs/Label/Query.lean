import FleetHealth.Proofs.Label.Selector
import FleetHealth.Text.Scan
/-!
The query form of selectors can be read back: a selector that has passed its check is determined by
its query, in which the same comma stands between requirements and between the values of one.
-/

namespace FleetHealth

open Text

namespace Requirement

def Sound : Requirement → Prop
  | equals key value => Label.QualifiedName key ∧ Label.Value value
  | isIn key values | notIn key values =>
    Label.QualifiedName key ∧ values ≠ [] ∧ ∀ v ∈ values, Label.Value v
  | present key | absent key => Label.QualifiedName key

def isKeyChar (c : Char) : Bool := Label.isNameChar c || c == '/'

def readKey (cs : List Char) : String × List Char :=
  (String.ofList (cs.takeWhile isKeyChar), cs.dropWhile isKeyChar)

def readValues (cs : List Char) : List String × List Char :=
  ((splitAll ',' (cs.takeWhile (· != ')'))).map String.ofList, (cs.dropWhile (· != ')')).tail)

def readCondition (key : String) : List Char → Requirement × List Char
  | '=' :: cs =>
    (equals key (String.ofList (cs.takeWhile Label.isNameChar)), cs.dropWhile Label.isNameChar)
  | ' ' :: 'i' :: 'n' :: ' ' :: '(' :: cs => (isIn key (readValues cs).1, (readValues cs).2)
  | ' ' :: 'n' :: 'o' :: 't' :: 'i' :: 'n' :: ' ' :: '(' :: cs =>
    (notIn key (readValues cs).1, (readValues cs).2)
  | cs => (present key, cs)

def read : List Char → Requirement × List Char
  | '!' :: cs => (absent (readKey cs).1, (readKey cs).2)
  | cs => readCondition (readKey cs).1 (readKey cs).2

variable {key value : String} {values : List String} {cs rest : List Char} {r : Requirement}

theorem isNameChar_of_name (name : Label.Name cs) : ∀ c ∈ cs, Label.isNameChar c = true := by
  intro c mem
  exact Label.isNameChar_iff.mpr (name.forall_mem c mem)

theorem isNameChar_of_value (sound : Label.Value value) :
    ∀ c ∈ value.toList, Label.isNameChar c = true := by
  cases sound with
  | inl empty => simp [empty]
  | inr name => exact isNameChar_of_name name

theorem isKeyChar_of_key (sound : Label.QualifiedName key) :
    ∀ c ∈ key.toList, isKeyChar c = true := by
  intro c mem
  rw [isKeyChar, Bool.or_eq_true, beq_iff_eq]
  obtain ⟨name, formed, eq | ⟨domain, formed', eq⟩⟩ := sound
  · exact .inl (isNameChar_of_name formed c (eq ▸ mem))
  · rw [eq, List.mem_append, List.mem_cons] at mem
    obtain inDomain | slash | inName := mem
    · left
      rw [Label.isNameChar_iff]
      obtain letter | hyphen | point := formed'.forall_mem c inDomain
      · exact .inl (.inr letter)
      · exact .inr (.inl hyphen)
      · exact .inr (.inr (.inr point))
    · exact .inr slash
    · exact .inl (isNameChar_of_name formed c inName)

theorem ne_nil_of_key (sound : Label.QualifiedName key) : key.toList ≠ [] := by
  obtain ⟨name, formed, eq | ⟨domain, -, eq⟩⟩ := sound
  · exact eq ▸ formed.2.ne_nil
  · simp [eq]

theorem head_ne_of_key (sound : Label.QualifiedName key) :
    (key.toList ++ rest).head? ≠ some '!' := by
  rw [List.head?_append_of_ne_nil _ (ne_nil_of_key sound)]
  intro head
  have sign := isKeyChar_of_key sound '!' (List.mem_of_head? head)
  cases sign

theorem not_isKeyChar_of_stop (stop : ∀ c, rest.head? = some c → c = ',') :
    ∀ c, rest.head? = some c → isKeyChar c = false := by
  intro c head
  rw [stop c head]
  rfl

theorem toList_intercalate_comma (values : List String) :
    (",".intercalate values).toList = [','].intercalate (values.map String.toList) :=
  String.toList_intercalate

theorem isNameChar_of_values (sound : ∀ v ∈ values, Label.Value v) :
    ∀ part ∈ values.map String.toList, ∀ c ∈ part, Label.isNameChar c = true := by
  simp only [List.mem_map]
  rintro _ ⟨v, mem, rfl⟩
  exact isNameChar_of_value (sound v mem)

theorem comma_not_mem (sound : ∀ v ∈ values, Label.Value v) :
    ∀ part ∈ values.map String.toList, ',' ∉ part := by
  intro part mem inside
  cases isNameChar_of_values sound part mem ',' inside

theorem ne_of_mem_values {c : Char} (sound : ∀ v ∈ values, Label.Value v)
    (mem : c ∈ (",".intercalate values).toList) : c ≠ ')' := by
  rintro rfl
  rw [toList_intercalate_comma] at mem
  cases Label.mem_intercalate mem with
  | inl comma => cases comma
  | inr found =>
    obtain ⟨part, mem, inside⟩ := found
    cases isNameChar_of_values sound part mem ')' inside

theorem readKey_append (sound : Label.QualifiedName key)
    (stop : ∀ c, rest.head? = some c → isKeyChar c = false) :
    readKey (key.toList ++ rest) = (key, rest) := by
  have inside := isKeyChar_of_key sound
  rw [readKey, takeWhile_append_stop inside stop, dropWhile_append_stop inside stop,
    String.ofList_toList]

theorem readValues_append (listed : values ≠ []) (sound : ∀ v ∈ values, Label.Value v) :
    readValues ((",".intercalate values).toList ++ ')' :: rest) = (values, rest) := by
  have inside := fun c (mem : c ∈ (",".intercalate values).toList) =>
    bne_iff_ne.mpr (ne_of_mem_values sound mem)
  have stop : ∀ c, (')' :: rest).head? = some c → (c != ')') = false := by
    rintro _ ⟨⟩
    rfl
  rw [readValues, takeWhile_append_stop inside stop, dropWhile_append_stop inside stop,
    toList_intercalate_comma, splitAll_intercalate (by simpa using listed) (comma_not_mem sound)]
  simp

theorem read_key_append (sound : Label.QualifiedName key)
    (stop : ∀ c, rest.head? = some c → isKeyChar c = false) :
    read (key.toList ++ rest) = readCondition key rest := by
  have first : (key.toList ++ rest).head? ≠ some '!' := head_ne_of_key sound
  have split := readKey_append sound stop
  generalize key.toList ++ rest = cs at first split
  unfold read
  split
  · exact absurd rfl first
  · rw [split]

/-- Reading a requirement gives it back, whichever requirements follow. -/
theorem read_query (sound : r.Sound) (stop : ∀ c, rest.head? = some c → c = ',') :
    read (r.query.toList ++ rest) = (r, rest) := by
  cases r with
  | equals key value =>
    obtain ⟨name, sound⟩ := sound
    have inside := isNameChar_of_value sound
    have stop' : ∀ c, rest.head? = some c → Label.isNameChar c = false := by
      intro c head
      rw [stop c head]
      rfl
    have text : (equals key value).query.toList ++ rest =
        key.toList ++ '=' :: (value.toList ++ rest) := by simp [query]
    rw [text, read_key_append name (by rintro _ ⟨⟩; rfl), readCondition,
      takeWhile_append_stop inside stop', dropWhile_append_stop inside stop', String.ofList_toList]
  | isIn key values =>
    obtain ⟨name, listed, sound⟩ := sound
    have text : (isIn key values).query.toList ++ rest = key.toList ++
        ' ' :: 'i' :: 'n' :: ' ' :: '(' :: ((",".intercalate values).toList ++ ')' :: rest) := by
      simp [query]
    rw [text, read_key_append name (by rintro _ ⟨⟩; rfl), readCondition,
      readValues_append listed sound]
  | notIn key values =>
    obtain ⟨name, listed, sound⟩ := sound
    have text : (notIn key values).query.toList ++ rest = key.toList ++ ' ' :: 'n' :: 'o' :: 't' ::
        'i' :: 'n' :: ' ' :: '(' :: ((",".intercalate values).toList ++ ')' :: rest) := by
      simp [query]
    rw [text, read_key_append name (by rintro _ ⟨⟩; rfl), readCondition,
      readValues_append listed sound]
  | present key =>
    rw [query, read_key_append sound (not_isKeyChar_of_stop stop)]
    cases rest with
    | nil => rfl
    | cons c rest =>
      cases stop c rfl
      rfl
  | absent key =>
    have text : (absent key).query.toList ++ rest = '!' :: (key.toList ++ rest) := by simp [query]
    rw [text, read, readKey_append sound (not_isKeyChar_of_stop stop)]

theorem query_ne_nil (sound : r.Sound) : r.query.toList ≠ [] := by
  cases r with
  | equals key value => simp [query]
  | isIn key values => simp [query]
  | notIn key values => simp [query]
  | present key => exact ne_nil_of_key sound
  | absent key => simp [query]

end Requirement

namespace Selector

open Requirement

def queryTail : List Requirement → List Char
  | [] => []
  | r :: rs => ',' :: (Selector.mk (r :: rs)).query.toList

theorem toList_query_cons (r : Requirement) (rs : List Requirement) :
    (Selector.mk (r :: rs)).query.toList = r.query.toList ++ queryTail rs := by
  cases rs with
  | nil => simp [query, queryTail]
  | cons r' rs => simp [query, queryTail, String.intercalate_cons_cons]

theorem head_queryTail (rs : List Requirement) : ∀ c, (queryTail rs).head? = some c → c = ',' := by
  cases rs with
  | nil => simp [queryTail]
  | cons r rs =>
    rintro _ ⟨⟩
    rfl

theorem query_ne_nil {r : Requirement} {rs : List Requirement} (sound : r.Sound) :
    (Selector.mk (r :: rs)).query.toList ≠ [] := by
  rw [toList_query_cons]
  exact List.append_ne_nil_of_left_ne_nil (Requirement.query_ne_nil sound) _

theorem requirements_eq_of_query {rs rs' : List Requirement} (sound : ∀ r ∈ rs, r.Sound)
    (sound' : ∀ r ∈ rs', r.Sound)
    (h : (Selector.mk rs).query.toList = (Selector.mk rs').query.toList) : rs = rs' := by
  induction rs generalizing rs' with
  | nil =>
    cases rs' with
    | nil => rfl
    | cons r' rs' => exact absurd h.symm (query_ne_nil (sound' r' List.mem_cons_self))
  | cons r rs ih =>
    cases rs' with
    | nil => exact absurd h (query_ne_nil (sound r List.mem_cons_self))
    | cons r' rs' =>
      obtain ⟨first, rest⟩ := List.forall_mem_cons.mp sound
      obtain ⟨first', rest'⟩ := List.forall_mem_cons.mp sound'
      rw [toList_query_cons, toList_query_cons] at h
      have one := read_query first (head_queryTail rs)
      rw [h, read_query first' (head_queryTail rs')] at one
      obtain ⟨rfl, tails⟩ := Prod.mk.inj one
      cases rs with
      | nil =>
        cases rs' with
        | nil => rfl
        | cons r' rs' => cases tails
      | cons r rs =>
        cases rs' with
        | nil => cases tails
        | cons r' rs' => rw [ih rest rest' (List.cons.inj tails).2.symm]

theorem Asks.sound {key operator : String} {values : List String} {r : Requirement}
    (asks : Asks key values operator r) (name : Label.QualifiedName key)
    (sound : ∀ v ∈ values, Label.Value v) : r.Sound := by
  cases asks with
  | isIn listed => exact ⟨name, listed, sound⟩
  | notIn listed => exact ⟨name, listed, sound⟩
  | present => exact name
  | absent => exact name

end Selector

namespace LabelSelector

open Selector

variable {m m' : LabelSelector} {s s' : Selector}

theorem sound_of_check (checked : m.check = .ok s) : ∀ r ∈ s.requirements, r.Sound := by
  obtain ⟨labels, expressions, first, second, rfl⟩ := check_eq_ok_iff.mp checked
  have ofLabels : ∀ r ∈ labels, r.Sound := by
    rw [← forall_mem_mapM_iff (P := fun _ => True) first]
    · simp
    · intro l r h
      obtain ⟨name, value, rfl⟩ := ofLabel_eq_ok_iff.mp h
      exact (iff_true_intro ⟨name, value⟩).symm
  have ofExpressions : ∀ r ∈ expressions, r.Sound := by
    rw [← forall_mem_mapM_iff (P := fun _ => True) second]
    · simp
    · intro e r h
      obtain ⟨name, values, asks⟩ := ofExpression_eq_ok_iff.mp h
      exact (iff_true_intro (asks.sound name values)).symm
  exact List.forall_mem_append.mpr ⟨ofLabels, ofExpressions⟩

/-- Checked selectors with one query have the same requirements and select the same label sets, and
only the one without requirements has an empty query. -/
theorem query_determines (checked : m.check = .ok s) (checked' : m'.check = .ok s') :
    (s.query = s'.query → s.requirements = s'.requirements ∧
      ∀ labels, s.selects labels = s'.selects labels) ∧
    (s.query = "" ↔ s.requirements = []) := by
  obtain ⟨requirements⟩ := s
  obtain ⟨requirements'⟩ := s'
  have sound := sound_of_check checked
  have sound' := sound_of_check checked'
  constructor
  · intro same
    cases requirements_eq_of_query sound sound' (congrArg String.toList same)
    exact ⟨rfl, fun _ => rfl⟩
  · constructor
    · intro empty
      exact requirements_eq_of_query sound (List.forall_mem_nil _) (congrArg String.toList empty)
    · rintro rfl
      rfl

/-- Values that are empty leave their commas behind. -/
example : (Requirement.isIn "zone" [""]).query = "zone in ()" ∧
    (Requirement.isIn "zone" ["", ""]).query = "zone in (,)" := by decide

/-- A selector with an empty value, from an expression whose list of values is left out and from one
where it is empty. -/
theorem zones_query_determines :
    ∃ s s', LabelSelector.check ⟨none, some [⟨"zone", "In", some ["", "a"]⟩,
        ⟨"role", "Exists", none⟩]⟩ = .ok s ∧
      LabelSelector.check ⟨some .empty, some [⟨"zone", "In", some ["", "a"]⟩,
        ⟨"role", "Exists", some []⟩]⟩ = .ok s' ∧
      s.query = "zone in (,a),role" ∧ s.requirements = s'.requirements := by
  have checked : LabelSelector.check ⟨none, some [⟨"zone", "In", some ["", "a"]⟩,
      ⟨"role", "Exists", none⟩]⟩ = .ok ⟨[.isIn "zone" ["", "a"], .present "role"]⟩ := by
    decide +kernel
  have checked' : LabelSelector.check ⟨some .empty, some [⟨"zone", "In", some ["", "a"]⟩,
      ⟨"role", "Exists", some []⟩]⟩ = .ok ⟨[.isIn "zone" ["", "a"], .present "role"]⟩ := by
    decide +kernel
  exact ⟨_, _, checked, checked', by decide +kernel,
    ((query_determines checked checked').1 rfl).1⟩

end LabelSelector

end FleetHealth
