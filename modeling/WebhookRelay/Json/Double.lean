/-!
# Double precision

The finite numbers of double precision that are not negative. All of them are multiples of
`2 ^ -1074`, so a `Double` is the number of these units. Results are rounded to 53 significant bits,
ties to even (`Double.rounded`); below `2 ^ 53` units nothing is rounded but fractions of units.

`Double.shortest` gives the digits a number is written with: of the decimals that round to it one
with the fewest digits, and of those the nearest.
-/

namespace WebhookRelay.Json

/-- A number of double precision, in units of `2 ^ -1074`. -/
structure Double where
  units : Nat
  deriving DecidableEq, Repr

namespace Double

/-- How many units one is, as a power of two. -/
def unitBits : Nat := 1074

/-! ## Arithmetic -/

/-- What the last bit of a number counts: the greatest power of two that leaves 53 bits. -/
def lastBit (n : Nat) : Nat := Nat.pow 2 (n.log2 - 52)

/-- A quotient rounded to a whole number of 53 significant bits, ties to even. -/
def rounded (num den : Nat) : Nat :=
  let bit := lastBit (num / den)
  let step := den * bit
  let m := num / step
  let r := num % step
  (if 2 * r > step ∨ (2 * r = step ∧ m % 2 = 1) then m + 1 else m) * bit

/-- The number nearest to a natural number below `2 ^ 64`. -/
def ofNat (n : Nat) : Double := ⟨rounded n 1 * Nat.pow 2 unitBits⟩

/-- Whether a number of units is beyond the greatest number there is. -/
def exceeds (units : Nat) : Bool := Nat.pow 2 (unitBits + 1024) ≤ units

/-- The number nearest to a power of ten, which is a whole number. -/
def powerOfTen (k : Nat) : Nat := rounded (Nat.pow 10 k) 1

/-- The greatest power of ten that is not out of range. -/
def greatestPower : Nat := 308

/-- A number divided by a power of ten. -/
def shiftDown (x : Double) (k : Nat) : Double := ⟨rounded x.units (powerOfTen k)⟩

/-- A number times a power of ten, unless that is out of range. -/
def shiftUp (x : Double) (k : Nat) : Option Double :=
  let units := rounded (x.units * powerOfTen k) 1
  if exceeds units then none else some ⟨units⟩

/-- The number `digits · 10 ^ scale`, unless it is out of range; the digits spell one below `2 ^ 64`.
The digits and the power are rounded each, and so is their product or quotient; what is too small
for one division is divided twice. -/
def ofDecimal? (digits : Nat) (scale : Int) : Option Double :=
  let x := ofNat digits
  let k := scale.natAbs
  if digits = 0 then some x
  else if 0 ≤ scale then if k ≤ greatestPower then x.shiftUp k else none
  else if k ≤ greatestPower then some (x.shiftDown k)
  else if k ≤ 2 * greatestPower then
    some ((x.shiftDown greatestPower).shiftDown (k - greatestPower))
  -- two divisions by the greatest power leave nothing of any number below `2 ^ 64`
  else some ⟨0⟩

/-! ## Shortest decimals -/

/-- The multiple of `10 ^ k` nearest to a number, if one rounds to the number. It is given by the
factor. -/
def onGrid (x : Double) (k : Int) : Option Nat :=
  -- numbers are compared in quarters of units, all of them times `scale`
  let scale := Nat.pow 10 (-k).toNat
  let step := 4 * Nat.pow 10 k.toNat * Nat.pow 2 unitBits
  let bit := lastBit x.units
  let exact := 4 * x.units * scale
  -- below a power of two the numbers lie closer together
  let low := if 1 < bit && x.units = Nat.pow 2 x.units.log2 then exact - bit * scale
    else exact - 2 * bit * scale
  let high := exact + 2 * bit * scale
  -- half way to a neighbour it is the even one that counts
  let even := x.units / bit % 2 = 0
  let hit (a : Nat) : Bool :=
    let v := a * step
    if even then low ≤ v && v ≤ high else low < v && v < high
  let a := exact / step
  let r := exact % step
  let near := if 2 * r > step ∨ (2 * r = step ∧ a % 2 = 1) then a + 1 else a
  let far := if near = a then a + 1 else a
  if hit near then some near else if hit far then some far else none

/-- The fewest digits that round to a number other than zero, and the power of ten to multiply them
by. -/
def shortest (x : Double) : Nat × Int :=
  -- the last power to be tried is that of the least number there is
  ((List.range 633).findSome? fun (i : Nat) =>
    let k : Int := 308 - i
    (x.onGrid k).map fun a => (a, k)).getD (0, 0)

end Double

end WebhookRelay.Json
