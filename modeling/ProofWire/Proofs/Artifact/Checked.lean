import ProofWire.Proofs.Artifact.Documented
import ProofWire.Proofs.Artifact.Encoding
import ProofWire.Proofs.Word.Checked

/-! Checked encoders: every word, every point and every proof passes a check of its width before it is written. None of
these checks ever fails, so that the encoders without them write the same. -/

namespace ProofWire

namespace Checked

/-- A computation without checks, as a part of one with checks. -/
def plain {α : Type} : Except Failure α → Except Stop α
  | .ok value => .ok value
  | .error failure => .error (.refused failure)

/-- Locates the fault of a checked computation that is refused. -/
def locatedAt {α : Type} (entries : Context) : Except Stop α → Except Stop α
  | .error (.refused failure) => .error (.refused (failure.mention entries))
  | other => other

/-- The word of a scalar. -/
def scalar (tools : WordTools) (source : Value) : Except Stop Bytes := do
  let number ← plain source.natural
  if scalarModulus ≤ number then .error (.refused (Cause.scalarOutOfRange number).raise)
  else field tools number

/-- The word of a coordinate, whose faults carry the label. -/
def coordinate (tools : WordTools) (label : String) (source : Value) : Except Stop Bytes := do
  let number ← locatedAt [("label", .text label)] (plain source.natural)
  if baseModulus ≤ number then .error (.refused (Cause.coordinateOutOfRange number label).raise)
  else field tools number

/-- The number in the last place of a point, whose faults carry the label of that place. -/
def scale (label : Option String) (part : String) (source : Value) : Except Stop Nat :=
  locatedAt [("label", .text (Point.partLabel label part))] (plain source.natural)

/-- The bytes of a G1 point; zeros at infinity are not checked. -/
def g1 (tools : WordTools) (label : Option String) (source : Value) : Except Stop Bytes :=
  match source.items? with
  | some [x, y, z] => do
    let z ← scale label "z" z
    if z = 0 then return List.replicate Decode.g1Size 0
    else if z ≠ 1 then .error (.refused (Cause.nonAffineG1 label z).raise)
    else do
      let x ← coordinate tools (Point.partLabel label "x") x
      let y ← coordinate tools (Point.partLabel label "y") y
      sized tools Decode.g1Size (x ++ y)
  | _ => .error (.refused (Cause.pointShape "G1" label source.shape).raise)

/-- The bytes of a G2 point; zeros at infinity are not checked. -/
def g2 (tools : WordTools) (label : Option String) (source : Value) : Except Stop Bytes :=
  match source.items? with
  | some [x, y, z] =>
    match x.items?, y.items?, z.items? with
    | some xs, some ys, some [z0, z1] => do
      let z0 ← scale label "z0" z0
      let z1 ← scale label "z1" z1
      if z0 = 0 ∧ z1 = 0 then return List.replicate Decode.g2Size 0
      else if z0 ≠ 1 ∨ z1 ≠ 0 then .error (.refused (Cause.nonAffineG2 label z0 z1).raise)
      else
        match xs, ys with
        | [x0, x1], [y0, y1] => do
          let x0 ← coordinate tools (Point.partLabel label "x0") x0
          let x1 ← coordinate tools (Point.partLabel label "x1") x1
          let y0 ← coordinate tools (Point.partLabel label "y0") y0
          let y1 ← coordinate tools (Point.partLabel label "y1") y1
          sized tools Decode.g2Size (x1 ++ x0 ++ y1 ++ y0)
        | _, _ => .error (.refused (Cause.pointLengths label x.shape y.shape).raise)
    | some _, some _, some _ => .error (.refused (Cause.pointZLength label z.shape).raise)
    | _, _, _ => .error (.refused (Cause.pointPartShapes label x.shape y.shape z.shape).raise)
  | _ => .error (.refused (Cause.pointShape "G2" label source.shape).raise)

/-- The bytes of the point under a key, which is its label. -/
def pointEntry (encode : Option String → Value → Except Stop Bytes) (source : Value) (key : String) :
    Except Stop Bytes := do
  let point ← plain (source.entry key)
  encode (some key) point

/-- The bytes of a proof. -/
def proofBytes (tools : WordTools) (source : Value) : Except Stop Bytes := do
  let a ← pointEntry (g1 tools) source "pi_a"
  let b ← pointEntry (g2 tools) source "pi_b"
  let c ← pointEntry (g1 tools) source "pi_c"
  sized tools Decode.proofSize (a ++ b ++ c)

/-- The words of signals in order; a fault carries the index of its signal. -/
def signals (tools : WordTools) : Nat → List Value → Except Stop (List Bytes)
  | _, [] => .ok []
  | index, source :: rest => do
    let word ← locatedAt [("label", .text "public"), ("index", .int index)] (scalar tools source)
    let words ← signals tools (index + 1) rest
    return word :: words

/-- The bytes of public inputs: the count of the items in front of their words. -/
def publicBytes (tools : WordTools) (source : Value) : Except Stop Bytes := do
  let items ← plain (source.array "public signals")
  let words ← signals tools 0 items
  let number ← count tools items.length
  return number ++ words.flatten

/-- Bytes with the points of a row behind them, in order. -/
def row (tools : WordTools) (front : Bytes) : Nat → List Value → Except Stop Bytes
  | _, [] => .ok front
  | index, source :: rest => do
    let point ← g1 tools (some (VerificationKey.icLabel index)) source
    row tools (front ++ point) (index + 1) rest

/-- The bytes of a verification key: the fixed points, the count of the row and its points. -/
def keyBytes (tools : WordTools) (source : Value) : Except Stop Bytes := do
  let alpha ← pointEntry (g1 tools) source "vk_alpha_1"
  let beta ← pointEntry (g2 tools) source "vk_beta_2"
  let gamma ← pointEntry (g2 tools) source "vk_gamma_2"
  let delta ← pointEntry (g2 tools) source "vk_delta_2"
  let ic ← plain (source.entry "IC")
  let items ← plain (ic.array "IC")
  let number ← count tools items.length
  row tools (alpha ++ beta ++ gamma ++ delta ++ number) 0 items

/--
A computation with checks does what the one without them does, seen through a view of its result.

Both end well, or both are refused by the same failure, which is none of a width; only the count of a row that
is too long stops both in words of its own. Nothing else ever stops the computation with checks.
-/
inductive Agrees {α β : Type} (rows : Option (List Value)) (view : β → α) :
    Except Stop α → Except Failure β → Prop where
  | done (value : β) : Agrees rows view (.ok (view value)) (.ok value)
  | refused {failure : Failure} (apart : ¬ failure.IsWidth) :
    Agrees rows view (.error (.refused failure)) (.error failure)
  | uncounted {items : List Value} (given : rows = some items) (many : Word.countBound ≤ items.length) :
    Agrees rows view (.error (.wideCount items.length)) (.error (Cause.countOutOfRange (.int items.length)).raise)

namespace Agrees

variable {α β γ δ : Type} {rows : Option (List Value)}

/-- Sequences agree when their first parts do, and their second parts on what the first ones return. -/
theorem bind {view : β → α} {later : δ → γ} {first : Except Stop α} {bare : Except Failure β}
    {next : α → Except Stop γ} {bareNext : β → Except Failure δ} (start : Agrees rows view first bare)
    (rest : ∀ value, bare = .ok value → Agrees rows later (next (view value)) (bareNext value)) :
    Agrees rows later (first >>= next) (bare >>= bareNext) := by
  -- Whatever stops the first parts stops the sequences, too.
  cases start with
  | done value => exact rest value rfl
  | refused apart => exact .refused apart
  | uncounted given many => exact .uncounted given many

/-- A computation without checks agrees with itself as long as it has no failure of a width. -/
theorem plain {computation : Except Failure α} (apart : ∀ failure, computation = .error failure → ¬ failure.IsWidth) :
    Agrees rows id (plain computation) computation := by
  -- There is nothing to count, so that only the failures have to be looked at.
  cases computation with
  | ok value => exact .done value
  | error failure => exact .refused (apart failure rfl)

/-- Both computations raise a cause that is none of a width. -/
theorem raised {view : β → α} {cause : Cause} (apart : cause.kind ∉ [FaultKind.fieldWidthOverflow, .invalidLength]) :
    Agrees rows view (.error (.refused cause.raise)) (.error cause.raise) :=
  .refused (Failure.not_isWidth_raise apart)

/-- Computations still agree where both are located. -/
theorem locatedAt {view : β → α} {checked : Except Stop α} {bare : Except Failure β} {entries : Context}
    (agrees : Agrees none view checked bare) : Agrees none view (locatedAt entries checked) (located entries bare) := by
  -- Locating adds to the context of a failure and leaves its kind.
  cases agrees with
  | done value => exact .done value
  | refused apart => exact .refused fun width => apart (Failure.isWidth_mention.mp width)
  | uncounted given many => cases given

/-- Computations agree for the sake of whatever rows when no row matters. -/
theorem anyRows {view : β → α} {checked : Except Stop α} {bare : Except Failure β}
    (agrees : Agrees none view checked bare) : Agrees rows view checked bare := by
  -- Without a row there is none that could be too long.
  cases agrees with
  | done value => exact .done value
  | refused apart => exact .refused apart
  | uncounted given many => cases given

/-- What is left to do without checks may be done in the view of the result already. -/
theorem mapped {view : β → α} {later : δ → α} {finish : β → δ} {checked : Except Stop α} {bare : Except Failure β}
    (agrees : Agrees rows view checked bare) (same : ∀ value, view value = later (finish value)) :
    Agrees rows later checked (bare >>= fun value => .ok (finish value)) := by
  -- The three ways to agree are kept one by one.
  cases agrees with
  | done value =>
    rw [same value]
    exact .done (finish value)
  | refused apart => exact .refused apart
  | uncounted given many => exact .uncounted given many

/-- A value that is reached without checks is reached with them. -/
theorem eq_ok {view : β → α} {checked : Except Stop α} {value : β} (agrees : Agrees rows view checked (.ok value)) :
    checked = .ok (view value) := by
  -- The other two ways to agree end in a failure.
  generalize done : Except.ok value = bare at agrees
  cases agrees with
  | done other => rw [Except.ok.inj done]
  | refused apart => cases done
  | uncounted given many => cases done

/-- A failure without checks is the same refusal with them, which is not for the sake of a width. -/
theorem failed {view : β → α} {checked : Except Stop α} {failure : Failure}
    (agrees : Agrees none view checked (.error failure)) :
    checked = .error (.refused failure) ∧ ¬ failure.IsWidth := by
  -- Without a row there is one way left to end so.
  generalize given : Except.error failure = bare at agrees
  cases agrees with
  | done value => cases given
  | refused apart =>
    cases given
    exact ⟨rfl, apart⟩
  | uncounted rowless many => cases rowless

end Agrees

variable {tools : WordTools}

/-- Reading a number agrees with itself. -/
theorem agrees_natural (source : Value) : Agrees none id (plain source.natural) source.natural :=
  .plain fun _ failed => Value.not_isWidth_natural failed

/-- A number below a modulus has its word, and the others are refused before a width is checked. -/
theorem agrees_range (lawful : tools.Lawful) {β : Type} {view : β → Bytes} {cause : Cause} {number modulus : Nat}
    (make : number < modulus → β) (word : ∀ inRange, view (make inRange) = fieldWord number)
    (below : modulus < Word.fieldBound) (apart : cause.kind ∉ [FaultKind.fieldWidthOverflow, .invalidLength]) :
    Agrees none view (if modulus ≤ number then .error (.refused cause.raise) else field tools number)
      (if inRange : number < modulus then .ok (make inRange) else .error cause.raise) := by
  by_cases inRange : number < modulus
  · -- The modulus itself is below the bound of words.
    rw [if_neg (Nat.not_le.mpr inRange), dif_pos inRange, field_of_fits lawful (Nat.lt_trans inRange below), ← word]
    exact .done (make inRange)
  · rw [if_pos (Nat.not_lt.mp inRange), dif_neg inRange]
    exact .raised apart

/-- Scalars have their words. -/
theorem agrees_scalar (lawful : tools.Lawful) (source : Value) :
    Agrees none Scalar.word (scalar tools source) (Scalar.ofValue source) :=
  (agrees_natural source).bind fun number _ =>
    agrees_range lawful (Scalar.mk number) (fun _ => rfl) Word.scalarModulus_lt_fieldBound (by simp [Cause.kind])

/-- Coordinates have their words. -/
theorem agrees_coordinate (lawful : tools.Lawful) (label : String) (source : Value) :
    Agrees none Coordinate.word (coordinate tools label source) (Coordinate.ofValue label source) :=
  (agrees_natural source).locatedAt.bind fun number _ =>
    agrees_range lawful (Coordinate.mk number) (fun _ => rfl) Word.baseModulus_lt_fieldBound (by simp [Cause.kind])

/-- The last place of a point is read alike. -/
theorem agrees_scale (label : Option String) (part : String) (source : Value) :
    Agrees none id (scale label part source) (Point.scale label part source) :=
  (agrees_natural source).locatedAt

/-- G1 points have their bytes. -/
theorem agrees_g1 (lawful : tools.Lawful) (label : Option String) (source : Value) :
    Agrees none G1.bytes (g1 tools label source) (G1.ofValue label source) := by
  unfold g1 G1.ofValue
  -- Only three items are looked into.
  rcases source.items? with _ | _ | ⟨x, _ | ⟨y, _ | ⟨z, _ | _⟩⟩⟩
  case some.cons.cons.cons.nil =>
    refine (agrees_scale label "z" z).bind fun z _ => ?_
    simp only [id_eq]
    split
    · exact .done G1.infinity
    · split
      · exact .raised (by simp [Cause.kind])
      · refine (agrees_coordinate lawful _ _).bind fun x _ => ?_
        refine (agrees_coordinate lawful _ _).bind fun y _ => ?_
        rw [sized_of_length lawful (by simp [Coordinate.word, Decode.g1Size, Word.fieldSize])]
        exact .done (G1.affine x y)
  all_goals exact .raised (by simp [Cause.kind])

/-- The coordinates of a G2 point at an affine place have their bytes. -/
theorem agrees_affine (lawful : tools.Lawful) (label : Option String) (x0 x1 y0 y1 : Value) :
    Agrees none G2.bytes
      (do
        let x0 ← coordinate tools (Point.partLabel label "x0") x0
        let x1 ← coordinate tools (Point.partLabel label "x1") x1
        let y0 ← coordinate tools (Point.partLabel label "y0") y0
        let y1 ← coordinate tools (Point.partLabel label "y1") y1
        sized tools Decode.g2Size (x1 ++ x0 ++ y1 ++ y0))
      (do
        let x0 ← Point.coordinate label "x0" x0
        let x1 ← Point.coordinate label "x1" x1
        let y0 ← Point.coordinate label "y0" y0
        let y1 ← Point.coordinate label "y1" y1
        return G2.affine x0 x1 y0 y1) := by
  -- The coordinates are checked in the order of their reading, and put together in that of the wire.
  refine (agrees_coordinate lawful _ _).bind fun x0 _ => ?_
  refine (agrees_coordinate lawful _ _).bind fun x1 _ => ?_
  refine (agrees_coordinate lawful _ _).bind fun y0 _ => ?_
  refine (agrees_coordinate lawful _ _).bind fun y1 _ => ?_
  rw [sized_of_length lawful (by simp [Coordinate.word, Decode.g2Size, Word.fieldSize])]
  exact .done (G2.affine x0 x1 y0 y1)

/-- G2 points have their bytes. -/
theorem agrees_g2 (lawful : tools.Lawful) (label : Option String) (source : Value) :
    Agrees none G2.bytes (g2 tools label source) (G2.ofValue label source) := by
  unfold g2 G2.ofValue
  -- Three items are looked into, and the last of them decides before the coordinates of the others are counted.
  rcases source.items? with _ | _ | ⟨x, _ | ⟨y, _ | ⟨z, _ | _⟩⟩⟩
  case some.cons.cons.cons.nil =>
    dsimp only
    rcases x.items? with _ | xs
    case none => exact .raised (by simp [Cause.kind])
    rcases y.items? with _ | ys
    case none => exact .raised (by simp [Cause.kind])
    rcases z.items? with _ | _ | ⟨z0, _ | ⟨z1, _ | _⟩⟩
    case some.cons.cons.nil =>
      refine (agrees_scale label "z0" z0).bind fun z0 _ => ?_
      refine (agrees_scale label "z1" z1).bind fun z1 _ => ?_
      simp only [id_eq]
      split
      · exact .done G2.infinity
      · split
        · exact .raised (by simp [Cause.kind])
        · rcases xs with _ | ⟨x0, _ | ⟨x1, _ | _⟩⟩
          case cons.cons.nil =>
            rcases ys with _ | ⟨y0, _ | ⟨y1, _ | _⟩⟩
            case cons.cons.nil => exact agrees_affine lawful label x0 x1 y0 y1
            all_goals exact .raised (by simp [Cause.kind])
          all_goals exact .raised (by simp [Cause.kind])
    all_goals exact .raised (by simp [Cause.kind])
  all_goals exact .raised (by simp [Cause.kind])

/-- A value without an entry under a key is not refused for the sake of a width. -/
theorem agrees_entry (source : Value) (key : String) : Agrees none id (plain (source.entry key)) (source.entry key) := by
  -- All that can be refused here is that an entry is missing.
  refine .plain fun failure failed => ?_
  unfold Value.entry at failed
  split at failed
  · split at failed
    · cases failed
    · cases failed
      exact Failure.not_isWidth_raise (by simp [Cause.kind])
  · cases failed
    exact Failure.not_isWidth_raise (by simp [Cause.kind])

/-- A value that is no sequence is not refused for the sake of a width. -/
theorem agrees_array (source : Value) (role : String) : Agrees none id (plain (source.array role)) (source.array role) := by
  -- All that can be refused here is what is no sequence.
  refine .plain fun failure failed => ?_
  unfold Value.array at failed
  split at failed
  · cases failed
  · cases failed
    exact Failure.not_isWidth_raise (by simp [Cause.kind])

/-- Points under a key have their bytes when points do. -/
theorem agrees_pointEntry {β : Type} {view : β → Bytes} {encode : Option String → Value → Except Stop Bytes}
    {read : Option String → Value → Except Failure β}
    (point : ∀ label source, Agrees none view (encode label source) (read label source)) (source : Value)
    (key : String) : Agrees none view (pointEntry encode source key) (source.entry key >>= read (some key)) :=
  (agrees_entry source key).bind fun held _ => point (some key) held

/-- G1 points under a key have their bytes. -/
theorem agrees_g1Entry (lawful : tools.Lawful) (source : Value) (key : String) :
    Agrees none G1.bytes (pointEntry (g1 tools) source key) (G1.readEntry source key).result := by
  rw [G1.result_readEntry]
  exact agrees_pointEntry (agrees_g1 lawful) source key

/-- G2 points under a key have their bytes. -/
theorem agrees_g2Entry (lawful : tools.Lawful) (source : Value) (key : String) :
    Agrees none G2.bytes (pointEntry (g2 tools) source key) (G2.readEntry source key).result := by
  rw [G2.result_readEntry]
  exact agrees_pointEntry (agrees_g2 lawful) source key

/-- Proofs have their bytes. -/
theorem agrees_proof (lawful : tools.Lawful) (source : Value) :
    Agrees none Proof.bytes (proofBytes tools source) (Proof.read source).result := by
  -- The three points follow each other, and together they have the length of a proof.
  simp only [Proof.read, Traced.result_bind, Traced.result_pure]
  refine (agrees_g1Entry lawful source "pi_a").bind fun a _ => ?_
  refine (agrees_g2Entry lawful source "pi_b").bind fun b _ => ?_
  refine (agrees_g1Entry lawful source "pi_c").bind fun c _ => ?_
  have whole : a.bytes ++ b.bytes ++ c.bytes = (Proof.mk a b c).bytes := rfl
  have length : (Proof.mk a b c).bytes.length = Decode.proofSize := ProofWords.length_bytes _
  rw [whole, sized_of_length lawful length]
  exact .done (Proof.mk a b c)

/-- The length of a row has its word, unless it is too long. -/
theorem agrees_count (lawful : tools.Lawful) {rows : Option (List Value)} {items : List Value} {number : Nat}
    (given : rows = some items) (length : number = items.length) :
    Agrees rows (fun _ => Word.bytes Word.countSize number) (count tools items.length) (Word.fitCount number) := by
  subst length
  unfold Word.fitCount
  split
  · rename_i few
    rw [count_of_fits lawful few]
    exact .done (PLift.up few)
  · -- The word for the count has no room for the number, and neither has the row.
    rename_i many
    have many := Nat.le_of_not_lt many
    rw [count_of_many many]
    exact .uncounted given many

/-- Signals have their words. -/
theorem agrees_signals (lawful : tools.Lawful) (items : List Value) (index : Nat) :
    Agrees none (List.map Scalar.word) (signals tools index items) (PublicInputs.readSignals index items) := by
  -- Each signal has its word, and the index only goes into the context of a failure.
  induction items generalizing index with
  | nil => exact .done []
  | cons source rest ih =>
    refine (agrees_scalar lawful source).locatedAt.bind fun signal _ => ?_
    exact (ih (index + 1)).bind fun others _ => .done (signal :: others)

/-- Public inputs have their bytes, unless there are too many of them for the count. -/
theorem agrees_publicInputs (lawful : tools.Lawful) (source : Value) :
    Agrees source.items? PublicInputs.bytes (publicBytes tools source) (PublicInputs.ofValue source) := by
  -- The items are read before they are counted, so that a bad signal is told before a row that is too long.
  refine (agrees_array source "public signals").anyRows.bind fun items arrayed => ?_
  refine (agrees_signals lawful items 0).anyRows.bind fun signals read => ?_
  have length := PublicInputs.length_of_readSignals read
  refine (agrees_count lawful (Value.array_eq_ok_iff.mp arrayed) length).bind fun few _ => ?_
  have whole : (PublicInputs.mk signals few.down).bytes
      = Word.bytes Word.countSize signals.length ++ (signals.map Scalar.word).flatten := by
    rw [PublicInputs.bytes, List.flatMap_def]
  rw [← whole]
  exact .done (PublicInputs.mk signals few.down)

/-- The points of a row have their bytes behind those in front. -/
theorem agrees_row (lawful : tools.Lawful) (items : List Value) (index : Nat) (front : Bytes) :
    Agrees none (fun points => front ++ points.flatMap G1.bytes) (row tools front index items)
      (VerificationKey.readRow index items).result := by
  -- The bytes so far are general, since each point joins them.
  induction items generalizing index front with
  | nil =>
    have bare : row tools front index [] = .ok (front ++ ([] : List G1).flatMap G1.bytes) := by
      rw [row, List.flatMap_nil, List.append_nil]
    rw [bare]
    exact .done []
  | cons source rest ih =>
    simp only [VerificationKey.readRow, Traced.result_bind, Traced.result_pure, G1.result_read]
    refine (agrees_g1 lawful _ source).bind fun point _ => ?_
    refine (ih (index + 1) (front ++ point.bytes)).mapped fun points => ?_
    rw [List.flatMap_cons, List.append_assoc]

/-- Verification keys have their bytes, unless their row is too long for the count. -/
theorem agrees_key (lawful : tools.Lawful) (source : Value) :
    Agrees source.rowItems? VerificationKey.bytes (keyBytes tools source) (VerificationKey.read source).result := by
  simp only [VerificationKey.read, Traced.result_bind, Traced.result_lift]
  refine (agrees_g1Entry lawful source "vk_alpha_1").anyRows.bind fun alpha _ => ?_
  refine (agrees_g2Entry lawful source "vk_beta_2").anyRows.bind fun beta _ => ?_
  refine (agrees_g2Entry lawful source "vk_gamma_2").anyRows.bind fun gamma _ => ?_
  refine (agrees_g2Entry lawful source "vk_delta_2").anyRows.bind fun delta _ => ?_
  refine (agrees_entry source "IC").anyRows.bind fun ic found => ?_
  refine (agrees_array ic "IC").anyRows.bind fun items arrayed => ?_
  have given : source.rowItems? = some items :=
    Option.bind_eq_some_iff.mpr ⟨ic, Value.below?_eq_some_iff.mpr found, Value.array_eq_ok_iff.mp arrayed⟩
  refine (agrees_count lawful given rfl).bind fun few _ => ?_
  simp only [id_eq]
  have points := agrees_row lawful items 0
    (alpha.bytes ++ beta.bytes ++ gamma.bytes ++ delta.bytes ++ Word.bytes Word.countSize items.length)
  -- The length of the row that is read is a part of the key.
  split
  · rename_i ic done
    have length := VerificationKey.length_readRow done
    have whole (few : ic.length < Word.countBound) : (VerificationKey.mk alpha beta gamma delta ic few).bytes
        = alpha.bytes ++ beta.bytes ++ gamma.bytes ++ delta.bytes ++ Word.bytes Word.countSize items.length
          ++ ic.flatMap G1.bytes := by
      rw [← length, VerificationKey.bytes]
    rw [done] at points
    rw [points.eq_ok, ← whole]
    exact .done (VerificationKey.mk alpha beta gamma delta ic _)
  · rename_i failure done
    rw [done] at points
    rw [points.failed.1]
    exact .refused points.failed.2

/--
No check of a width ever fails, whatever the value and the labels are.

With all checks in place, scalars, coordinates, points and artifacts have the bytes that they have without checks, and
are refused by the same failures. None of these is for the sake of a width, but for one: the length of a row that does
not fit the count, in the two artifacts that have a row.
-/
theorem width_checks_never_fire {tools : WordTools} (lawful : tools.Lawful) (source : Value) (label : Option String)
    (name : String) :
    Agrees none Scalar.word (scalar tools source) (Scalar.ofValue source)
      ∧ Agrees none Coordinate.word (coordinate tools name source) (Coordinate.ofValue name source)
      ∧ Agrees none id (g1 tools label source) (Encode.g1 label source).result
      ∧ Agrees none id (g2 tools label source) (Encode.g2 label source).result
      ∧ Agrees none id (proofBytes tools source) (Encode.proofBytes source).result
      ∧ Agrees source.items? id (publicBytes tools source) (Encode.publicBytes source).result
      ∧ Agrees source.rowItems? id (keyBytes tools source) (Encode.keyBytes source).result := by
  -- The encoders add reports to what is read, which leave the results as they are.
  simp only [Encode.g1, Encode.g2, Encode.proofBytes, Encode.publicBytes, Encode.keyBytes, Traced.result_bind,
    Traced.result_lift, Traced.result_pure, G1.result_read, G2.result_read]
  exact ⟨agrees_scalar lawful source, agrees_coordinate lawful name source,
    (agrees_g1 lawful label source).mapped fun _ => rfl, (agrees_g2 lawful label source).mapped fun _ => rfl,
    (agrees_proof lawful source).mapped fun _ => rfl, (agrees_publicInputs lawful source).mapped fun _ => rfl,
    (agrees_key lawful source).mapped fun _ => rfl⟩

/-- A signal has its word behind the count of one, and the modulus itself is refused for its size. -/
theorem width_checks_never_fire_one_signal :
    WordTools.exact.Lawful
      ∧ publicBytes .exact (.list [.int 5]) = .ok (Word.bytes Word.countSize 1 ++ fieldWord 5)
      ∧ scalar .exact (.int scalarModulus) = .error (.refused (Cause.scalarOutOfRange scalarModulus).raise) := by
  obtain ⟨_, _, _, _, _, signals, _⟩ :=
    width_checks_never_fire WordTools.exact_lawful (.list [.int 5]) none "public"
  have written : (Encode.publicBytes (.list [.int 5])).result = .ok (Word.bytes Word.countSize 1 ++ fieldWord 5) := rfl
  rw [written] at signals
  -- The modulus itself is the smallest number that is refused, though it fits the word.
  obtain ⟨modulus, _⟩ := width_checks_never_fire WordTools.exact_lawful (.int scalarModulus) none "public"
  refine ⟨WordTools.exact_lawful, signals.eq_ok, ?_⟩
  have refused : Scalar.ofValue (.int scalarModulus) = .error (Cause.scalarOutOfRange scalarModulus).raise := rfl
  rw [refused] at modulus
  exact modulus.failed.1

end Checked

end ProofWire
