/-!
# Durations

A span of time in whole seconds and nanoseconds below one second.
-/

namespace EntityEngine

structure Duration where
  seconds : UInt64
  nanoseconds : Fin 1000000000
deriving DecidableEq

namespace Duration

def ofSeconds (n : UInt64) : Duration := ⟨n, 0⟩

def ofMilliseconds (n : UInt64) : Duration :=
  ⟨n / 1000, Fin.ofNat _ ((n % 1000).toNat * 1000000)⟩

def total (d : Duration) : Nat := d.seconds.toNat * 1000000000 + d.nanoseconds.val

def truncate (d : Duration) : Duration := ofSeconds d.seconds

/-- A number with a fraction of `width` digits, of which the trailing zeros are left
out, and a unit. -/
def decimalText (whole fraction width : Nat) (unit : String) : String :=
  let digits := Nat.toDigits 10 fraction
  let padded := List.replicate (width - digits.length) '0' ++ digits
  let kept := (padded.reverse.dropWhile (· == '0')).reverse
  toString whole ++ (if kept.isEmpty then "" else "." ++ String.ofList kept) ++ unit

/-- The span in the largest unit that leaves a whole part. -/
def shownText (d : Duration) : String :=
  let n := d.nanoseconds.val
  if d.seconds ≠ 0 then decimalText d.seconds.toNat n 9 "s"
  else if 1000000 ≤ n then decimalText (n / 1000000) (n % 1000000) 6 "ms"
  else if 1000 ≤ n then decimalText (n / 1000) (n % 1000) 3 "µs"
  else decimalText n 0 0 "ns"

end Duration

end EntityEngine
