namespace MockScaffold.Text

/-- The value of a decimal digit. -/
def digitValue (c : Char) : Nat := c.toNat - '0'.toNat

/-- The number that digits spell behind those of `start`. -/
def ofDigits (start : Nat) (digits : List Nat) : Nat :=
  digits.foldl (fun value digit => 10 * value + digit) start

/-- The numbers that 64 bits hold are below this one, `2 ^ 64`. -/
def wordLimit : Nat := 0x10000000000000000

end MockScaffold.Text
