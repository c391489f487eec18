import FleetHealth.Text.Ranges

namespace FleetHealth.Text

def blankRanges : Ranges :=
  [(0x09, 0x0D), (0x20, 0x20), (0x85, 0x85), (0xA0, 0xA0), (0x1680, 0x1680), (0x2000, 0x200A),
   (0x2028, 0x2029), (0x202F, 0x202F), (0x205F, 0x205F), (0x3000, 0x3000)]

example : blankRanges.WellFormed ∧ blankRanges.count = 25 := by decide

def isBlank (c : Char) : Bool := blankRanges.covers c.toNat

theorem isBlank_of_isWhitespace {c : Char} (h : c.isWhitespace = true) : isBlank c = true := by
  simp [Char.isWhitespace] at h
  rcases h with ((h | h) | h) | h <;> subst h <;> decide

def trimLeft (cs : List Char) : List Char := cs.dropWhile isBlank

def trimRight (cs : List Char) : List Char := (cs.reverse.dropWhile isBlank).reverse

def trim (cs : List Char) : List Char := trimRight (trimLeft cs)

theorem length_trimLeft_le (cs : List Char) : (trimLeft cs).length ≤ cs.length :=
  (List.dropWhile_sublist isBlank).length_le

theorem trim_eq_self_iff {cs : List Char} :
    trim cs = cs ↔ trimLeft cs = cs ∧ trimRight cs = cs := by
  constructor
  · intro h
    have right : (trim cs).length ≤ (trimLeft cs).length := by
      have dropped := (List.dropWhile_sublist isBlank (l := (trimLeft cs).reverse)).length_le
      simpa [trim, trimRight] using dropped
    rw [h] at right
    have left : trimLeft cs = cs := (List.dropWhile_suffix isBlank).eq_of_length
      (Nat.le_antisymm (length_trimLeft_le cs) right)
    rw [trim, left] at h
    exact ⟨left, h⟩
  · rintro ⟨left, right⟩
    rw [trim, left, right]

theorem trimLeft_append {cs ds : List Char} (h : trimLeft cs = cs) (h' : trimLeft ds = ds) :
    trimLeft (cs ++ ds) = cs ++ ds := by
  rw [trimLeft] at h h' ⊢
  rw [List.dropWhile_append, h, h']
  cases cs <;> simp

theorem trimRight_append {cs ds : List Char} (h : trimRight cs = cs) (h' : trimRight ds = ds) :
    trimRight (cs ++ ds) = cs ++ ds := by
  have left := trimLeft_append (List.reverse_eq_iff.mp h') (List.reverse_eq_iff.mp h)
  rw [← List.reverse_append, trimLeft] at left
  rw [trimRight, left, List.reverse_reverse]

theorem trim_append {cs ds : List Char} (h : trim cs = cs) (h' : trim ds = ds) :
    trim (cs ++ ds) = cs ++ ds := by
  rw [trim_eq_self_iff] at h h' ⊢
  exact ⟨trimLeft_append h.1 h'.1, trimRight_append h.2 h'.2⟩

end FleetHealth.Text
