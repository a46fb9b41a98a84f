/-!
# UptimeFlow.Readings

A count that was read, and what has happened to the counted things since.

Code that reads a count and acts on it later acts on an old reading.  A
`Reading` keeps beside the value how many things have come and gone since it was
read; as long as it does so for every change, it accounts for the present count
(`Reading.Accounts`), and a bound on the count is a bound on the reading
(`Reading.Accounts.fits_iff`).
-/

namespace UptimeFlow

/-- A count, and how many of the counted things have come and gone since. -/
structure Reading where
  value : Nat
  gained : Nat := 0
  lost : Nat := 0
deriving DecidableEq, Repr

namespace Reading

/-- `k` more things since. -/
def gain (r : Reading) (k : Nat) : Reading := { r with gained := r.gained + k }

/-- `k` fewer things since. -/
def lose (r : Reading) (k : Nat) : Reading := { r with lost := r.lost + k }

/-- The reading, with what happened since, is the count `n`. -/
def Accounts (r : Reading) (n : Nat) : Prop := r.value + r.gained = n + r.lost

/-- What came since the reading, less what went, leaves it below the limit. -/
def Fits (r : Reading) (limit : Int) : Prop := (r.value : Int) + r.gained < limit + r.lost

instance (r : Reading) (limit : Int) : Decidable (r.Fits limit) := by
  unfold Fits
  infer_instance

section
variable {r r' : Reading} {n n' : Nat} {limit : Int}

theorem Accounts.read (n : Nat) : Accounts { value := n } n := rfl

theorem Accounts.gain (h : r.Accounts n) (k : Nat) : (r.gain k).Accounts (n + k) := by
  unfold Accounts Reading.gain at *
  show r.value + (r.gained + k) = n + k + r.lost
  omega

theorem Accounts.lose {k : Nat} (h : r.Accounts (n + k)) : (r.lose k).Accounts n := by
  unfold Accounts Reading.lose at *
  show r.value + r.gained = n + (r.lost + k)
  omega

/-- A limit on the count is a limit on the reading. -/
theorem Accounts.fits_iff (h : r.Accounts n) : r.Fits limit ↔ (n : Int) < limit := by
  unfold Accounts Fits at *
  omega

/-- A limit on the sum of two counts is a limit on the two readings. -/
theorem Accounts.add_fits_iff (h : r.Accounts n) (h' : r'.Accounts n') :
    (r.value : Int) + r.gained + (r'.value + r'.gained) < limit + r.lost + r'.lost ↔
      ((n + n' : Nat) : Int) < limit := by
  unfold Accounts at *
  omega

end

end Reading

end UptimeFlow
