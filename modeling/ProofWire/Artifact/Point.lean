import ProofWire.Field.Element
import ProofWire.Trace

/-! Points in projective layout: only affine points and the point at infinity have a wire form. -/

namespace ProofWire

namespace Point

/-- A label as it shows in the labels of parts. -/
def labelText (label : Option String) : String :=
  label.getD "None"

/-- The label of a part. -/
def partLabel (label : Option String) (part : String) : String :=
  labelText label ++ "." ++ part

/-- The number in the last place of a point; its faults carry the label of that place. -/
def scale (label : Option String) (part : String) (source : Value) : Except Failure Nat :=
  located [("label", .text (partLabel label part))] source.natural

/-- The coordinate in a place of a point. -/
def coordinate (label : Option String) (part : String) (source : Value) : Except Failure Coordinate :=
  Coordinate.ofValue (partLabel label part) source

/-- The event for a point at infinity. -/
def infinityEvent (label : Option String) (step : String) : Event :=
  ⟨labelText label, step, "point at infinity"⟩

end Point

/-- The two numbers of a G1 point on the wire. -/
structure G1Words where
  x : Nat
  y : Nat
deriving DecidableEq

/-- The four numbers of a G2 point on the wire. -/
structure G2Words where
  x0 : Nat
  x1 : Nat
  y0 : Nat
  y1 : Nat
deriving DecidableEq

/-- A number as a field word. -/
abbrev fieldWord (number : Nat) : Bytes :=
  Word.bytes Word.fieldSize number

/-- The bytes of a G1 point. -/
def G1Words.bytes (words : G1Words) : Bytes :=
  fieldWord words.x ++ fieldWord words.y

/-- The bytes of a G2 point: the second part of an extension element precedes the first. -/
def G2Words.bytes (words : G2Words) : Bytes :=
  fieldWord words.x1 ++ fieldWord words.x0 ++ fieldWord words.y1 ++ fieldWord words.y0

/-- A point of the first group. -/
inductive G1 where
  | infinity
  | affine (x y : Coordinate)

/-- A point of the second group, with coordinates in the quadratic extension. -/
inductive G2 where
  | infinity
  | affine (x0 x1 y0 y1 : Coordinate)

namespace G1

/-- The wire numbers of a point; those of the point at infinity are zero. -/
def words : G1 → G1Words
  | .infinity => ⟨0, 0⟩
  | .affine x y => ⟨x.value, y.value⟩

/-- The wire form of a point. -/
def bytes (point : G1) : Bytes :=
  point.words.bytes

/-- What the encoder reports about a point. -/
def events (label : Option String) : G1 → List Event
  | .infinity => [Point.infinityEvent label "encode_g1"]
  | .affine _ _ => []

/-- Three items x, y, z are a point: z is zero at infinity, where x and y do not matter, and else one. -/
def ofValue (label : Option String) (source : Value) : Except Failure G1 :=
  match source.items? with
  | some [x, y, z] => do
    let z ← Point.scale label "z" z
    if z = 0 then return .infinity
    else if z ≠ 1 then .error (Cause.nonAffineG1 label z).raise
    else do
      let x ← Point.coordinate label "x" x
      let y ← Point.coordinate label "y" y
      return .affine x y
  | _ => .error (Cause.pointShape "G1" label source.shape).raise

/-- Reads a point and reports infinity. -/
def read (label : Option String) (source : Value) : Traced G1 :=
  match ofValue label source with
  | .ok point => ⟨point.events label, .ok point⟩
  | .error failure => ⟨[], .error failure⟩

end G1

namespace G2

/-- The wire numbers of a point; those of the point at infinity are zero. -/
def words : G2 → G2Words
  | .infinity => ⟨0, 0, 0, 0⟩
  | .affine x0 x1 y0 y1 => ⟨x0.value, x1.value, y0.value, y1.value⟩

/-- The wire form of a point. -/
def bytes (point : G2) : Bytes :=
  point.words.bytes

/-- What the encoder reports about a point. -/
def events (label : Option String) : G2 → List Event
  | .infinity => [Point.infinityEvent label "encode_g2"]
  | .affine _ _ _ _ => []

/-- Three pairs x, y, z are a point: z is zero at infinity, where x and y do not matter, and else one. The lengths
of x and y are tested after z and before any coordinate. -/
def ofValue (label : Option String) (source : Value) : Except Failure G2 :=
  match source.items? with
  | some [x, y, z] =>
    match x.items?, y.items?, z.items? with
    | some xs, some ys, some [z0, z1] => do
      let z0 ← Point.scale label "z0" z0
      let z1 ← Point.scale label "z1" z1
      if z0 = 0 ∧ z1 = 0 then return .infinity
      else if z0 ≠ 1 ∨ z1 ≠ 0 then .error (Cause.nonAffineG2 label z0 z1).raise
      else
        match xs, ys with
        | [x0, x1], [y0, y1] => do
          let x0 ← Point.coordinate label "x0" x0
          let x1 ← Point.coordinate label "x1" x1
          let y0 ← Point.coordinate label "y0" y0
          let y1 ← Point.coordinate label "y1" y1
          return .affine x0 x1 y0 y1
        | _, _ => .error (Cause.pointLengths label x.shape y.shape).raise
    | some _, some _, some _ => .error (Cause.pointZLength label z.shape).raise
    | _, _, _ => .error (Cause.pointPartShapes label x.shape y.shape z.shape).raise
  | _ => .error (Cause.pointShape "G2" label source.shape).raise

/-- Reads a point and reports infinity. -/
def read (label : Option String) (source : Value) : Traced G2 :=
  match ofValue label source with
  | .ok point => ⟨point.events label, .ok point⟩
  | .error failure => ⟨[], .error failure⟩

end G2

end ProofWire
