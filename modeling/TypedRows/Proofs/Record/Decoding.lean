import TypedRows.Proofs.Number.ByteOrder
import TypedRows.Proofs.Record.Dumping
/-!
# Records read from bytes

The bytes of a record do not say where a value ends. A reader who knows the fields can tell by the kinds, except
for two things: a null leaves no trace, and a buffer does not say how long it is. `Hint` is what the reader has to
be told of a value, and `Schema.decode?` is the reader.

Each encoding is read back from the front of any bytes that follow it (`Field.read?_encode`), so the reader is
always where the next value begins, and the run over the fields (`readFields?_flatten`) is an induction on them.

Main statement: `Record.decode?_toBytes`.
-/

namespace TypedRows

/-! ## The reader -/

/-- What a reader is told of a value. -/
inductive Hint where
  /-- The value is null. -/
  | null
  /-- The value is not null. -/
  | value
  /-- The value is a buffer of so many bytes. -/
  | buffer (length : Nat)
deriving DecidableEq, Repr

/-- The first bytes, as many as are asked for, and what follows them. -/
def takeBytes? (count : Nat) (data : Bytes) : Option (Bytes × Bytes) :=
  if count ≤ data.length then some (data.take count, data.drop count) else none

/-- A value that takes a fixed count of bytes, and what follows it. -/
def readFixed? (width : Nat) (value : Bytes → Cell) (data : Bytes) : Option (Cell × Bytes) :=
  (takeBytes? width data).map fun parts => (value parts.1, parts.2)

/-- The text behind the count of its bytes, and what follows it. -/
def readText? (data : Bytes) : Option (Cell × Bytes) := do
  let (header, data) ← takeBytes? 2 data
  let (code, data) ← takeBytes? (ofBigEndian header) data
  let s ← String.fromUTF8? ⟨code.toArray⟩
  return (.text s, data)

/-- The double with the value of a four byte number. -/
def readSingle (code : Bytes) : Cell := .float ((Binary.ofBits (ofBigEndian code) : Single).round .double)

/-- A value of a kind that tells its own length, and what follows it. -/
def Kind.read? : Kind → Bytes → Option (Cell × Bytes)
  | .boolean, data => readFixed? 1 (fun code => .bool (ofBigEndian code != 0)) data
  | .int32, data => readFixed? 4 (fun code => .int (ofBigEndianInt code)) data
  | .int64, data => readFixed? 8 (fun code => .int (ofBigEndianInt code)) data
  | .float32, data => readFixed? 4 readSingle data
  | .float64, data => readFixed? 8 (fun code => .float (Binary.ofBits (ofBigEndian code))) data
  | .string, data => readText? data
  | _, _ => none

/-- The value of a field, and what follows it. -/
def Field.read? (f : Field) : Hint → Bytes → Option (Cell × Bytes)
  | .null, data => some (.null, data)
  | .value, data => f.kind.read? data
  | .buffer length, data => readFixed? length (.bytes .frozen) data

def readFields? : List (Field × Hint) → Bytes → Option (List Cell × Bytes)
  | [], data => some ([], data)
  | (f, hint) :: rest, data => do
    let (value, data) ← f.read? hint data
    let (values, data) ← readFields? rest data
    return (value :: values, data)

/-- The values that bytes hold, given the fields and a hint for each of them. No byte may be left over. -/
def Schema.decode? (schema : Schema) (hints : List Hint) (data : Bytes) : Option (List Cell) :=
  match readFields? (schema.fields.zip hints) data with
  | some (values, []) => some values
  | _ => none

/-! ## What is read back -/

/-- What the reader must be told of the value of a field. -/
def Field.hint (f : Field) (value : Cell) : Hint :=
  match f.kind, value with
  | _, .null => .null
  | .bytes, .bytes _ data => .buffer data.length
  | _, _ => .value

/-- What bytes keep of a value: four bytes hold a number of single precision, and a type code is the integer that
it stands for. -/
def Kind.kept (kind : Kind) (value : Cell) : Cell :=
  match kind, value with
  | .float32, .float x => .float x.narrow
  | .int32, .sqlType t | .int64, .sqlType t => .int t.code
  | _, value => value

def Record.hints (r : Record) : List Hint := r.fieldValues.map fun c => c.1.hint c.2

def Record.kept (r : Record) : List Cell := r.fieldValues.map fun c => c.1.kind.kept c.2

/-! ## One value -/

theorem takeBytes?_append (front rest : Bytes) : takeBytes? front.length (front ++ rest) = some (front, rest) := by
  simp [takeBytes?]

theorem readFixed?_append {width : Nat} {code : Bytes} (h : code.length = width) (value : Bytes → Cell)
    (rest : Bytes) : readFixed? width value (code ++ rest) = some (value code, rest) := by
  subst h
  rw [readFixed?, takeBytes?_append]
  rfl

/-- The bytes of an array from a position on, in order behind those that were listed before. -/
theorem ByteArray.toList_loop (data : ByteArray) (i : Nat) (listed : List UInt8) :
    ByteArray.toList.loop data i listed = listed.reverse ++ data.data.toList.drop i := by
  fun_induction ByteArray.toList.loop data i listed with
  | case1 i listed hlt ih =>
    have hlt' : i < data.data.toList.length := hlt
    have hget : data.get! i = data.data.toList[i] := by
      rw [ByteArray.get!, Array.getElem_toList]
      exact getElem!_pos data.data i hlt
    rw [ih, List.drop_eq_getElem_cons hlt', hget, List.reverse_cons, List.append_assoc, List.singleton_append]
  | case2 i listed hge =>
    have hge' : data.data.toList.length ≤ i := Nat.le_of_not_lt hge
    rw [List.drop_eq_nil_of_le hge', List.append_nil]

theorem utf8Bytes_eq (s : String) : utf8Bytes s = s.toUTF8.data.toList := by
  rw [utf8Bytes, ByteArray.toList, ByteArray.toList_loop]
  rfl

/-- **A text is read back from its bytes.** -/
theorem fromUTF8?_utf8Bytes (s : String) : String.fromUTF8? ⟨(utf8Bytes s).toArray⟩ = some s := by
  have hdata : (⟨(utf8Bytes s).toArray⟩ : ByteArray) = s.toUTF8 := by rw [utf8Bytes_eq]
  rw [hdata, String.fromUTF8?, String.toUTF8_eq_toByteArray, dif_pos s.isValidUTF8]
  rfl

theorem readText?_textBytes {field s : String} {code : Bytes} (h : textBytes field s = .ok code) (rest : Bytes) :
    readText? (code ++ rest) = some (.text s, rest) := by
  simp only [textBytes, utf8] at h
  split at h
  · cases h
  · rename_i hlength
    cases h
    have hheader : ofBigEndian (bigEndian 2 (utf8Bytes s).length) = (utf8Bytes s).length := by
      refine ofBigEndian_bigEndian_of_lt ?_
      rw [maxStringBytes] at hlength
      omega
    have htake := takeBytes?_append (bigEndian 2 (utf8Bytes s).length) (utf8Bytes s ++ rest)
    rw [length_bigEndian] at htake
    rw [readText?, List.append_assoc, htake]
    simp only [Option.bind_eq_bind, Option.bind_some, hheader, takeBytes?_append, fromUTF8?_utf8Bytes]
    rfl

theorem readFixed?_int {width : Nat} {i : Int} (hlower : -(256 ^ width : Nat) ≤ 2 * i)
    (hupper : 2 * i < (256 ^ width : Nat)) (rest : Bytes) :
    readFixed? width (fun code => .int (ofBigEndianInt code)) (bigEndianInt width i ++ rest) =
      some (.int i, rest) := by
  have hlength : (bigEndianInt width i).length = width := length_bigEndian width _
  rw [readFixed?_append hlength, ofBigEndianInt_bigEndianInt hlower hupper]

theorem readSingle_singleBytes {x : Double} {code : Bytes} (h : singleBytes x = .ok code) :
    code.length = 4 ∧ readSingle code = .float x.narrow := by
  simp only [singleBytes] at h
  split at h
  · cases h
  · cases h
    have hlt : (x.round .single).toBits < 256 ^ 4 :=
      Nat.lt_of_lt_of_le (Binary.toBits_lt (by decide) _) (by decide)
    refine ⟨length_bigEndian 4 _, ?_⟩
    rw [readSingle, ofBigEndian_bigEndian_of_lt hlt, Binary.ofBits_toBits (by decide), Double.narrow]

theorem readFixed?_double (x : Double) (rest : Bytes) :
    readFixed? 8 (fun code => .float (Binary.ofBits (ofBigEndian code))) (bigEndian 8 x.toBits ++ rest) =
      some (.float x, rest) := by
  have hlt : x.toBits < 256 ^ 8 := Nat.lt_of_lt_of_le (Binary.toBits_lt (by decide) x) (by decide)
  rw [readFixed?_append (length_bigEndian 8 _), ofBigEndian_bigEndian_of_lt hlt, Binary.ofBits_toBits (by decide)]

namespace Kind

theorem kept_null (kind : Kind) : kind.kept .null = .null := by
  cases kind <;> rfl

theorem kept_of_asInt? {kind : Kind} (hkind : kind = .int32 ∨ kind = .int64) {value : Cell} {i : Int}
    (h : value.asInt? = some i) : kind.kept value = .int i := by
  rcases Cell.asInt?_eq_some_iff.1 h with rfl | ⟨t, rfl, rfl⟩ <;> rcases hkind with rfl | rfl <;> rfl

/-- The bytes of a value that is no buffer are read back from the front of whatever follows them. -/
theorem read?_valueBytes {kind : Kind} (hkind : kind ≠ .bytes) (hscalar : kind.isScalar = true) {field : String}
    {value : Cell} (hcan : kind.isCanonical value = true) {code : Bytes}
    (h : valueBytes field kind value = .ok code) (rest : Bytes) :
    kind.read? (code ++ rest) = some (kind.kept value, rest) := by
  cases kind with
  | null => cases hcan
  | array | map | record | union => cases hscalar
  | bytes => exact absurd rfl hkind
  | boolean =>
    obtain ⟨b, rfl⟩ := isCanonical_boolean.1 hcan
    cases h
    have hlength : [if b then (1 : UInt8) else 0].length = 1 := rfl
    rw [read?, readFixed?_append hlength]
    cases b <;> rfl
  | int32 =>
    obtain ⟨i, hi, hlower, hupper⟩ := isCanonical_int32.1 hcan
    simp only [valueBytes, packedBytes, hi, Option.getD_some, Except.ok.injEq] at h
    subst h
    rw [kept_of_asInt? (.inl rfl) hi]
    simp only [int32Range] at hlower hupper
    exact readFixed?_int (by omega) (by omega) rest
  | int64 =>
    obtain ⟨i, hi, hlower, hupper⟩ := isCanonical_int64.1 hcan
    simp only [valueBytes, packedBytes, hi, Option.getD_some, Except.ok.injEq] at h
    subst h
    rw [kept_of_asInt? (.inr rfl) hi]
    simp only [int64Range] at hlower hupper
    exact readFixed?_int (by omega) (by omega) rest
  | float32 =>
    obtain ⟨x, rfl⟩ := isCanonical_float32.1 hcan
    obtain ⟨hlength, hread⟩ := readSingle_singleBytes h
    rw [read?, readFixed?_append hlength, hread]
    rfl
  | float64 =>
    obtain ⟨x, rfl⟩ := isCanonical_float64.1 hcan
    cases h
    exact readFixed?_double x rest
  | string =>
    obtain ⟨s, rfl⟩ := isCanonical_string.1 hcan
    exact readText?_textBytes h rest

end Kind

namespace Field

variable {f : Field} {value : Cell}

theorem hint_null (f : Field) : f.hint .null = .null := by
  unfold hint
  rfl

theorem hint_of_ne_bytes (hnull : value.isNull = false) (hkind : f.kind ≠ .bytes) : f.hint value = .value := by
  unfold hint
  split
  · cases hnull
  · contradiction
  · rfl

/-- **A value is read back** from the front of whatever follows its bytes. -/
theorem read?_encode {code : Bytes} (hv : f.holds value = true) (h : f.encode value = .ok code) (rest : Bytes) :
    f.read? (f.hint value) (code ++ rest) = some (f.kind.kept value, rest) := by
  have hscalar : f.kind.isScalar = true := by
    rw [← Bool.not_eq_false]
    intro hnot
    simp only [encode, hnot, Bool.not_false, ↓reduceIte, Cell.refuse] at h
    split at h <;> cases h
  simp only [encode, hscalar, Bool.not_true, Bool.false_eq_true, ↓reduceIte] at h
  cases hnull : value.isNull with
  | true =>
    obtain rfl := Cell.eq_null_of_isNull hnull
    cases h
    rw [hint_null, Kind.kept_null]
    rfl
  | false =>
    simp only [hnull, Bool.false_eq_true, ↓reduceIte] at h
    have hcan := isCanonical_of_holds hv hnull
    by_cases hkind : f.kind = .bytes
    · rw [hkind] at hcan h
      obtain ⟨data, rfl⟩ := Kind.isCanonical_bytes.1 hcan
      cases h
      have hhint : f.hint (.bytes .frozen code) = .buffer code.length := by simp only [hint, hkind]
      rw [hhint, hkind]
      exact readFixed?_append rfl _ rest
    · rw [hint_of_ne_bytes hnull hkind]
      exact Kind.read?_valueBytes hkind hscalar hcan h rest

end Field

/-! ## All values -/

/-- **The values of fields are read back** from the front of whatever follows their bytes. -/
theorem readFields?_flatten {columns : List (Field × Cell)} {codes : List Bytes}
    (hv : ∀ c ∈ columns, c.1.holds c.2 = true) (h : columns.map (fun c => c.1.encode c.2) = codes.map .ok)
    (rest : Bytes) :
    readFields? (columns.map fun c => (c.1, c.1.hint c.2)) (codes.flatten ++ rest) =
      some (columns.map fun c => c.1.kind.kept c.2, rest) := by
  induction columns generalizing codes with
  | nil =>
    obtain rfl : codes = [] := List.map_eq_nil_iff.1 h.symm
    rfl
  | cons c columns ih =>
    cases codes with
    | nil => cases h
    | cons code codes =>
      obtain ⟨hcode, hcodes⟩ := List.cons.inj h
      have hfirst := Field.read?_encode (hv c List.mem_cons_self) hcode (codes.flatten ++ rest)
      have hrest := ih (fun c' hc' => hv c' (List.mem_cons_of_mem _ hc')) hcodes
      rw [List.flatten_cons, List.append_assoc]
      simp only [List.map_cons, readFields?, hfirst, hrest, Option.bind_eq_bind, Option.bind_some, Option.pure_def]

namespace Record

variable {r : Record} {data : Bytes}

/-- The bytes of a record are the encodings of its fields, one after another. -/
theorem exists_codes_of_toBytes (h : r.toBytes = .ok data) :
    ∃ codes : List Bytes, r.fieldValues.map (fun c => c.1.encode c.2) = codes.map .ok ∧ data = codes.flatten := by
  obtain ⟨written, rest, codes, hcolumns, hcodes, hrun⟩ := runOn_dumpFields utf8 r.fieldValues
  rcases hrun with ⟨rfl, hwhole⟩ | ⟨f, value, after, e, hrest, hfault, hrun⟩
  · rw [List.append_nil] at hcolumns
    rw [toBytes_of_dump (hwhole .empty)] at h
    cases h
    exact ⟨codes, hcolumns ▸ hcodes, rfl⟩
  · rw [toBytes_of_dump (hrun .empty)] at h
    cases h

theorem zip_hints (r : Record) : r.schema.fields.zip r.hints = r.fieldValues.map fun c => (c.1, c.1.hint c.2) := by
  rw [hints, fields_eq, List.zip_map']

theorem decode?_of_toBytes (h : r.toBytes = .ok data) : r.schema.decode? r.hints data = some r.kept := by
  obtain ⟨codes, hcodes, rfl⟩ := exists_codes_of_toBytes h
  have hread := readFields?_flatten r.holds_of_mem_fieldValues hcodes []
  rw [List.append_nil] at hread
  rw [Schema.decode?, zip_hints, hread, kept]

/-- **The bytes of a record can be read** by whoever knows the schema, which values are null and how long the
buffers are: the reader finds what bytes keep of every value, and no byte is left over. So two records of one
schema of which the reader is told the same have the same bytes only if bytes keep the same of both. -/
theorem decode?_toBytes {r : Record} {data : Bytes} (h : r.toBytes = .ok data) :
    r.schema.decode? r.hints data = some r.kept ∧
      ∀ r' : Record, r'.schema = r.schema → r'.hints = r.hints → r'.toBytes = .ok data → r'.kept = r.kept := by
  refine ⟨decode?_of_toBytes h, fun r' hschema hhints h' => ?_⟩
  have hread := decode?_of_toBytes h'
  rw [hschema, hhints, decode?_of_toBytes h] at hread
  exact (Option.some.inj hread).symm

theorem toBytes_note : (note "ab").toBytes = .ok [0, 0, 0, 7, 0, 2, 97, 98] := by
  have htext : utf8Bytes "ab" = [97, 98] := by
    rw [utf8Bytes_eq]
    rfl
  have hcode : textBytes "text" "ab" = .ok [0, 2, 97, 98] := by
    simp only [textBytes, utf8, htext]
    rfl
  have hid : (Field.dump ⟨"id", .int32, false, by decide, by decide⟩ (.int 7)).IsWhole (.ok [0, 0, 0, 7]) :=
    Field.isWhole_dump utf8 _ _
  have hlast : (Field.dump ⟨"text", .string, true, by decide, by decide⟩ (.text "ab")).IsWhole
      (.ok [0, 2, 97, 98]) := by
    rw [← hcode]
    exact Field.isWhole_dump utf8 _ _
  have hwhole : (dumpFields utf8 (note "ab").fieldValues).IsWhole (.ok [0, 0, 0, 7, 0, 2, 97, 98]) :=
    hid.seq (hlast.seq Dumping.isWhole_pure)
  exact toBytes_of_dump (hwhole .empty)

theorem decode?_toBytes_note :
    (note "ab").toBytes = .ok [0, 0, 0, 7, 0, 2, 97, 98] ∧
      noteSchema.decode? [.value, .value] [0, 0, 0, 7, 0, 2, 97, 98] = some [.int 7, .text "ab"] :=
  ⟨toBytes_note, (decode?_toBytes toBytes_note).1⟩

end Record

end TypedRows
