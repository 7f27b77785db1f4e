/-! The two prime moduli of the BN254 curve. -/

namespace ProofWire

/-- The order of the curve's groups: public inputs are reduced by it. -/
def scalarModulus : Nat :=
  21888242871839275222246405745257275088548364400416034343698204186575808495617

/-- The modulus of the base field: coordinates of points are reduced by it. -/
def baseModulus : Nat :=
  21888242871839275222246405745257275088696311157297823662689037894645226208583

end ProofWire
