namespace FleetHealth.Text

def wordLimit : Nat := 0x10000000000000000

def wideLimit : Nat := 0x100000000000000000000000000000000

def tenTo (n : Nat) : Nat := Nat.pow 10 n

@[simp] theorem tenTo_zero : tenTo 0 = 1 := rfl

theorem tenTo_succ (n : Nat) : tenTo (n + 1) = 10 * tenTo n := Nat.mul_comm ..

theorem tenTo_add (m n : Nat) : tenTo (m + n) = tenTo m * tenTo n := by
  induction m with
  | zero => simp
  | succ m ih => rw [Nat.succ_add, tenTo_succ, ih, tenTo_succ, Nat.mul_assoc]

theorem tenTo_pos (n : Nat) : 0 < tenTo n := by
  induction n with
  | zero => simp
  | succ n ih => rw [tenTo_succ]; omega

def digitValue (c : Char) : Nat := c.toNat - '0'.toNat

def addDigit (n : Nat) (d : Char) : Nat := 10 * n + digitValue d

/-- The value of a string of digits, most significant first. -/
def ofDigits (ds : List Char) : Nat := ds.foldl addDigit 0

@[simp] theorem ofDigits_nil : ofDigits [] = 0 := rfl

theorem foldl_addDigit (n : Nat) (ds : List Char) :
    ds.foldl addDigit n = n * tenTo ds.length + ofDigits ds := by
  induction ds generalizing n with
  | nil => simp
  | cons d ds ih =>
    rw [ofDigits, List.foldl_cons, List.foldl_cons, ih, ih (addDigit 0 d)]
    simp only [addDigit, List.length_cons, tenTo_succ, Nat.add_mul, Nat.mul_zero, Nat.zero_add]
    rw [Nat.add_assoc, ← Nat.mul_assoc, Nat.mul_comm 10 n]

theorem ofDigits_append (ds es : List Char) :
    ofDigits (ds ++ es) = ofDigits ds * tenTo es.length + ofDigits es := by
  rw [ofDigits, List.foldl_append, foldl_addDigit]
  rfl

/-- An optional plus sign and at least one digit, with a value below the bound. -/
def natBelow? (bound : Nat) (cs : List Char) : Option Nat :=
  let ds := match cs with
    | '+' :: ds => ds
    | ds => ds
  if ds.isEmpty || !ds.all Char.isDigit then none
  else if ofDigits ds < bound then some (ofDigits ds) else none

def hexValue? (c : Char) : Option Nat :=
  if c.isDigit then some (c.toNat - 48)
  else if 'a' ≤ c ∧ c ≤ 'f' then some (c.toNat - 87)
  else if 'A' ≤ c ∧ c ≤ 'F' then some (c.toNat - 55)
  else none

def ofHexDigits (ds : List Char) : Nat := ds.foldl (fun n d => 16 * n + (hexValue? d).getD 0) 0

def padded (width n : Nat) : String :=
  let ds := toString n
  String.ofList (List.replicate (width - ds.length) '0') ++ ds

end FleetHealth.Text
