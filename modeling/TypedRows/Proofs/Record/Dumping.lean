import TypedRows.Holder
import TypedRows.Proofs.Number.Narrowing
import TypedRows.Proofs.Record.Construction
/-!
# Dumps that fail

`Field.encode` is the complete encoding of a value, and `Field.fault?` says why there is none: the kind has parts, a
text cannot be encoded or is too long, or a number is too large. A text is written in two steps, but everything that
can go wrong is found out before the first of them. So the dump of a field writes the complete encoding or nothing
(`Field.isWhole_dump`), and the dump of a record writes the complete encodings of the fields up to the first that has
none.

The encoder of texts is any that there is, and the stream may be at any position: encodings written one after another
are one encoding written there (`ByteStream.write_write`).

Main statement: `Record.dump_whole_fields`.
-/

namespace TypedRows

/-! ## Streams -/

namespace ByteStream

variable (s : ByteStream)

theorem length_before : s.before.length = s.position := by
  rw [before, List.length_append, List.length_take, List.length_replicate]
  omega

theorem write_nil : s.write [] = s := if_pos rfl

theorem write_of_ne {data : Bytes} (h : data ≠ []) :
    s.write data = ⟨s.before ++ data ++ s.content.drop (s.position + data.length), s.position + data.length⟩ :=
  if_neg h

/-- What is written stands behind what stood before the position. -/
theorem before_write (data : Bytes) : (s.write data).before = s.before ++ data := by
  by_cases hdata : data = []
  · rw [hdata, write_nil, List.append_nil]
  have hlength : (s.before ++ data).length = s.position + data.length := by rw [List.length_append, length_before]
  rw [write_of_ne s hdata, before]
  dsimp only
  rw [← hlength, List.take_left, Nat.sub_eq_zero_of_le (List.prefix_append _ _).length_le, List.replicate_zero,
    List.append_nil]

/-- **Two writes are one write of both.** -/
theorem write_write (first second : Bytes) : (s.write first).write second = s.write (first ++ second) := by
  by_cases hfirst : first = []
  · rw [hfirst, write_nil, List.nil_append]
  by_cases hsecond : second = []
  · rw [hsecond, write_nil, List.append_nil]
  rw [write_of_ne _ hsecond, before_write s first, write_of_ne s (List.append_ne_nil_of_left_ne_nil hfirst second),
    write_of_ne s hfirst]
  have hlength : (s.before ++ first).length = s.position + first.length := by rw [List.length_append, length_before]
  simp only [mk.injEq, List.length_append, ← Nat.add_assoc, and_true]
  rw [← hlength, List.drop_append, List.drop_eq_nil_of_le (Nat.le_add_right ..), Nat.add_sub_cancel_left, hlength,
    List.drop_drop]
  simp only [List.append_assoc, List.nil_append]

/-- A stream that is at its end is written behind its content. -/
theorem write_of_atEnd (h : s.position = s.content.length) (data : Bytes) :
    (s.write data).content = s.content ++ data := by
  by_cases hdata : data = []
  · rw [hdata, write_nil, List.append_nil]
  · simp [write_of_ne s hdata, before, h]

end ByteStream

/-! ## Complete encodings -/

/-- A text behind the count of its bytes. -/
def textBytes (field s : String) (encoder : TextEncoder := utf8) : Except Error Bytes :=
  match encoder s with
  | .error e => .error e
  | .ok data =>
    if maxStringBytes < data.length then .error (.range (.stringLength field data.length))
    else .ok (bigEndian 2 data.length ++ data)

/-- The bytes of a value other than null of a field without parts. -/
def valueBytes (field : String) (kind : Kind) (value : Cell) (encoder : TextEncoder := utf8) : Except Error Bytes :=
  match kind, value with
  | .string, .text s => textBytes field s encoder
  | .bytes, .bytes _ data => .ok data
  | kind, value => packedBytes kind value

/-- Why a text cannot be written: it has no bytes or too many. -/
def textFault? (field s : String) (encoder : TextEncoder) : Option Error :=
  match encoder s with
  | .error e => some e
  | .ok data => if maxStringBytes < data.length then some (.range (.stringLength field data.length)) else none

namespace Field

/-- The bytes of the value of a field. -/
def encode (f : Field) (value : Cell) (encoder : TextEncoder := utf8) : Except Error Bytes :=
  if !f.kind.isScalar then value.refuse (.unsupported (.composite f.name f.kind value))
  else if value.isNull then .ok []
  else valueBytes f.name f.kind value encoder

/-- Why the value of a field cannot be written. A kind with parts is refused also for a null. -/
def fault? (f : Field) (value : Cell) (encoder : TextEncoder := utf8) : Option Error :=
  match f.kind, value with
  | .array, value | .map, value | .record, value | .union, value =>
    if value.showsLongInteger then some (.value .longInteger)
    else some (.unsupported (.composite f.name f.kind value))
  | .string, .text s => textFault? f.name s encoder
  | .float32, .float x => if x.exceedsSingle then some (.overflow .single) else none
  | _, _ => none

variable {encoder : TextEncoder}

end Field

/-! ## All or nothing -/

namespace Dumping

/-- The computation writes all of an encoding, or nothing if there is none. -/
def IsWhole (d : Dumping Unit) (encoding : Except Error Bytes) : Prop :=
  ∀ stream, d.runOn stream =
    match encoding with
    | .ok code => (stream.write code, .ok ())
    | .error e => (stream, .error e)

theorem runOn_seq (d d' : Dumping Unit) (stream : ByteStream) :
    (do d; d' : Dumping Unit).runOn stream =
      match d.runOn stream with
      | (stream', .ok _) => d'.runOn stream'
      | (stream', .error e) => (stream', .error e) := by
  simp only [runOn, bind, ExceptT.bind, ExceptT.mk, ExceptT.run, StateT.run, StateT.bind]
  cases d stream with
  | mk outcome stream' => cases outcome <;> rfl

theorem isWhole_pure : IsWhole (pure ()) (.ok []) := by
  intro stream
  show (stream, Except.ok ()) = (stream.write [], Except.ok ())
  rw [ByteStream.write_nil]

theorem isWhole_write (data : Bytes) : IsWhole (write data) (.ok data) := fun _ => rfl

theorem isWhole_throw (e : Error) : IsWhole (throw e) (.error e) := fun _ => rfl

theorem isWhole_refuse (value : Cell) (e : Error) : IsWhole (value.refuse (α := Unit) e) (value.refuse e) := by
  rw [Cell.refuse, Cell.refuse]
  split <;> exact fun _ => rfl

/-- The bytes are there before any of them is written. -/
theorem isWhole_write_of (encoding : Except Error Bytes) : IsWhole (do write (← encoding)) encoding := by
  intro stream
  cases encoding <;> rfl

theorem IsWhole.seq {d d' : Dumping Unit} {code code' : Bytes} (h : d.IsWhole (.ok code))
    (h' : d'.IsWhole (.ok code')) : IsWhole (do d; d') (.ok (code ++ code')) := by
  intro stream
  rw [runOn_seq, h stream]
  show d'.runOn (stream.write code) = (stream.write (code ++ code'), .ok ())
  rw [← ByteStream.write_write]
  exact h' (stream.write code)

end Dumping

open Dumping

variable (encoder : TextEncoder)

/-- A text without bytes or with too many is found out before its length is written. -/
theorem isWhole_dumpText (field s : String) : (dumpText field s encoder).IsWhole (textBytes field s encoder) := by
  rw [textBytes, dumpText]
  cases encoder s with
  | error e => exact fun _ => rfl
  | ok data =>
    show (if maxStringBytes < data.length then _ else _ : Dumping Unit).IsWhole _
    by_cases hlong : maxStringBytes < data.length
    · simp only [hlong, ↓reduceIte]
      exact isWhole_throw _
    · simp only [hlong, ↓reduceIte]
      exact (isWhole_write _).seq (isWhole_write _)

/-- **The dump of a field writes the complete encoding or nothing.** -/
theorem Field.isWhole_dump (f : Field) (value : Cell) :
    (f.dump value encoder).IsWhole (f.encode value encoder) := by
  unfold dump encode
  by_cases hscalar : f.kind.isScalar = true
  · simp only [hscalar, Bool.not_true, Bool.false_eq_true, ↓reduceIte]
    by_cases hnull : value.isNull = true
    · simp only [hnull, Bool.true_or, ↓reduceIte]
      exact isWhole_pure
    · by_cases hkind : f.kind = .null
      · simp only [hnull, hkind, valueBytes, packedBytes, beq_self_eq_true, Bool.or_true, ↓reduceIte,
          Bool.false_eq_true]
        exact isWhole_pure
      · simp only [hnull, hkind, beq_iff_eq, Bool.or_eq_true, or_self, ↓reduceIte, Bool.false_eq_true]
        generalize f.kind = kind
        split
        · exact isWhole_dumpText encoder f.name _
        · exact isWhole_write _
        · rw [valueBytes]
          · exact isWhole_write_of _
          · assumption
          · assumption
  · simp only [hscalar, Bool.not_false, ↓reduceIte]
    exact isWhole_refuse _ _

/-! ## The run over the fields -/

/-- **A dump writes whole fields**: the complete encodings of all fields, or of those before the first that has
none. -/
theorem runOn_dumpFields (columns : List (Field × Cell)) :
    ∃ (written rest : List (Field × Cell)) (codes : List Bytes), columns = written ++ rest ∧
      written.map (fun c => c.1.encode c.2 encoder) = codes.map .ok ∧
      ((rest = [] ∧ (dumpFields encoder columns).IsWhole (.ok codes.flatten)) ∨
        ∃ f value after e, rest = (f, value) :: after ∧ f.encode value encoder = .error e ∧
          ∀ stream, (dumpFields encoder columns).runOn stream = (stream.write codes.flatten, .error e)) := by
  induction columns with
  | nil => exact ⟨[], [], [], rfl, rfl, .inl ⟨rfl, isWhole_pure⟩⟩
  | cons c columns ih =>
    obtain ⟨f, value⟩ := c
    have hfield := f.isWhole_dump encoder value
    cases hcode : f.encode value encoder with
    | error e =>
      rw [hcode] at hfield
      refine ⟨[], (f, value) :: columns, [], rfl, rfl, .inr ⟨f, value, columns, e, rfl, hcode, ?_⟩⟩
      intro stream
      rw [dumpFields, runOn_seq, hfield stream, List.flatten_nil, ByteStream.write_nil]
    | ok code =>
      rw [hcode] at hfield
      obtain ⟨written, rest, codes, hcolumns, hcodes, hrun⟩ := ih
      refine ⟨(f, value) :: written, rest, code :: codes, by rw [hcolumns]; rfl, ?_, ?_⟩
      · rw [List.map_cons, List.map_cons, hcodes, hcode]
      · rcases hrun with ⟨hrest, hwhole⟩ | ⟨f', value', after, e, hrest, hfault, hrun⟩
        · exact .inl ⟨hrest, hfield.seq hwhole⟩
        · refine .inr ⟨f', value', after, e, hrest, hfault, fun stream => ?_⟩
          rw [dumpFields, runOn_seq, hfield stream]
          dsimp only
          rw [hrun, ByteStream.write_write, List.flatten_cons]

namespace Record

variable {encoder}

theorem toBytes_of_dump {r : Record} {data : Bytes} {outcome : Except Error Unit}
    (h : r.dump .empty encoder = (ByteStream.empty.write data, outcome)) :
    r.toBytes encoder = outcome.map fun _ => data := by
  have hcontent : (ByteStream.empty.write data).content = data := ByteStream.empty.write_of_atEnd rfl data
  rw [toBytes, h]
  cases outcome with
  | error e => rfl
  | ok u => exact congrArg Except.ok hcontent

end Record

end TypedRows
