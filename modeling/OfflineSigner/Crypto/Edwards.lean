import OfflineSigner.Bytes.Fixed
import OfflineSigner.Bytes.LittleEndian
import OfflineSigner.Crypto.Field

/-!
# The twisted Edwards curve of Ed25519

The points with `-x² + y² = 1 + d·x²·y²`. A point is held by its extended coordinates
`(X : Y : Z : T)` with `x = X/Z`, `y = Y/Z` and `x·y = T/Z`, for which one addition formula serves
all pairs of points. In 32 bytes a point is its `y` with the parity of `x` in the top bit. Reading
takes any number below `2^255` for `y` and does not mind a set top bit when `x` is zero.
-/

namespace OfflineSigner

/-- A point by its extended coordinates. -/
structure CurvePoint where
  x : FieldElement
  y : FieldElement
  z : FieldElement
  t : FieldElement
deriving DecidableEq

namespace CurvePoint

/-- The constant of the curve, `-121665/121666`. -/
def d : FieldElement :=
  37095705934669439343138083508754565189542113879843219016388785533085940283555

/-- The neutral point. -/
def neutral : CurvePoint := ⟨0, 1, 1, 0⟩

/-- The point with the given `x` and `y`. -/
def ofAffine (x y : FieldElement) : CurvePoint := ⟨x, y, 1, x * y⟩

/-- The base point, whose `y` is `4/5` and whose `x` is even. -/
def base : CurvePoint :=
  ofAffine 15112221349535400772501151409588531511454012693041857206046113283949847762202
    46316835694926478169428394003475163141307993866256225615783033603165251855960

/-- The sum of two points. -/
def add (p q : CurvePoint) : CurvePoint :=
  let a := (p.y - p.x) * (q.y - q.x)
  let b := (p.y + p.x) * (q.y + q.x)
  let c := p.t * (2 * d) * q.t
  let e := p.z * 2 * q.z
  ⟨(b - a) * (e - c), (e + c) * (b + a), (e - c) * (e + c), (b - a) * (b + a)⟩

/-- The point on the other side of the axis. -/
def negate (p : CurvePoint) : CurvePoint := ⟨-p.x, p.y, p.z, -p.t⟩

/-- A multiple of a point. -/
def scale (n : Nat) (p : CurvePoint) : CurvePoint :=
  power add neutral p n

/-- The 32 bytes of a point. -/
def encode (p : CurvePoint) : FixedBytes 32 :=
  let inverse := p.z.inverse
  let x := p.x * inverse
  let y := p.y * inverse
  ⟨LittleEndian.encode 32 (y.val + if x.isOdd then 1 <<< 255 else 0),
    LittleEndian.length_encode _ _⟩

/-- The point of 32 bytes; none when no point has the `y`. -/
def decode? (bytes : FixedBytes 32) : Option CurvePoint :=
  let n := LittleEndian.decode bytes.toList
  let y := FieldElement.ofNat (n % (1 <<< 255))
  let square := y * y
  let ratio := (square - 1) * (d * square + 1).inverse
  ratio.sqrt?.map fun x => ofAffine (if 1 <<< 255 ≤ n then -x else x) y

end CurvePoint

end OfflineSigner
