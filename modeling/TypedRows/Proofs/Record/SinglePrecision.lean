import TypedRows.Proofs.Record.Decoding
import TypedRows.Proofs.Statement.Binding
/-!
# Single precision in bytes and in statements

A field of single precision keeps the double that it was given. Both ways out of a record narrow it: the dump writes it
in four bytes, and a statement binds the nearest number of single precision, the infinite ones included. The two agree
(`Field.NarrowsAlike`) except on a finite double that exceeds single precision, which a statement binds as infinity and
the dump refuses.

Main statement: `Field.narrowsAlike_iff`.
-/

namespace TypedRows

namespace Field

/-- The value of the field is written in four bytes at the position of any stream, and every statement that has the
position binds the number that the four bytes are. -/
def NarrowsAlike (f : Field) (value : Cell) : Prop :=
  ∃ code : Bytes, code.length = 4 ∧
    (∀ stream, (f.dump value).runOn stream = (stream.write code, .ok ())) ∧
    ∀ (s : Statement) (type : SqlType) (position : Nat), 0 < position → position ≤ s.count →
      s.bindField position f type value = .ok (s.append [⟨.float, position, ⟨readSingle code, none⟩⟩])

variable {f : Field} {x : Double}

/-- The dump of a double in single precision. -/
theorem isWhole_dump_float (hkind : f.kind = .float32) : (f.dump (.float x)).IsWhole (singleBytes x) := by
  have hwhole := f.isWhole_dump utf8 (.float x)
  rw [encode, hkind] at hwhole
  exact hwhole

/-- What a statement binds for a double in single precision. -/
theorem bindField_float (hkind : f.kind = .float32) (s : Statement) (type : SqlType) (position : Nat)
    (hpos : 0 < position) (hinside : position ≤ s.count) :
    s.bindField position f type (.float x) = .ok (s.append [⟨.float, position, ⟨.float x.narrow, none⟩⟩]) := by
  have hv : f.holds (.float x) = true := by simp [holds, hkind, Cell.isNull, Kind.isCanonical]
  have hwritable : Writable s.count position f type (.float x) :=
    ⟨by rw [hkind]; rfl, by simp [hkind], by simp [hkind], hinside⟩
  rw [s.bindField_eq hpos type hv, refusal?_eq_none_iff.2 hwritable]
  simp only [binding, hkind, Cell.isNull, Kind.setter, Setter.stored, Bool.false_eq_true, ↓reduceIte]

/-- **The dump and the statement narrow a double alike** unless it exceeds single precision. Then nothing is written and
the dump fails, while the statement binds the infinity of its sign. -/
theorem narrowsAlike_iff {f : Field} {value : Cell} (hkind : f.kind = .float32) (hv : f.holds value = true)
    (hnull : value.isNull = false) :
    ∃ x : Double, value = .float x ∧
      (f.NarrowsAlike value ↔ x.exceedsSingle = false) ∧
      (x.exceedsSingle = true →
        (∀ stream, (f.dump value).runOn stream = (stream, .error (.overflow .single))) ∧
        ∀ (s : Statement) (type : SqlType) (position : Nat), 0 < position → position ≤ s.count →
          s.bindField position f type value =
            .ok (s.append [⟨.float, position, ⟨.float (.infinite x.isNegative), none⟩⟩])) := by
  have hcan := isCanonical_of_holds hv hnull
  rw [hkind] at hcan
  obtain ⟨x, rfl⟩ := Kind.isCanonical_float32.1 hcan
  have hdump := isWhole_dump_float (x := x) hkind
  have hbind := bindField_float (x := x) hkind
  rw [singleBytes_eq] at hdump
  cases hexceeds : x.exceedsSingle with
  | false =>
    rw [hexceeds, if_neg Bool.false_ne_true] at hdump
    have hcode : singleBytes x = .ok (bigEndian 4 (x.round .single).toBits) := by
      rw [singleBytes_eq, hexceeds, if_neg Bool.false_ne_true]
    obtain ⟨hlength, hread⟩ := readSingle_singleBytes hcode
    refine ⟨x, rfl, ⟨fun _ => hexceeds, fun _ => ⟨_, hlength, hdump, ?_⟩⟩, fun h => ?_⟩
    · rw [hread]
      exact hbind
    · rw [hexceeds] at h
      cases h
  | true =>
    rw [hexceeds, if_pos rfl] at hdump
    rw [Double.narrow_of_exceedsSingle hexceeds] at hbind
    refine ⟨x, rfl, ⟨?_, fun h => ?_⟩, fun _ => ⟨hdump, hbind⟩⟩
    · rintro ⟨code, -, hwrites, -⟩
      have hboth := (hdump .empty).symm.trans (hwrites .empty)
      cases congrArg Prod.snd hboth
    · rw [hexceeds] at h
      cases h

def ratio : Field := ⟨"ratio", .float32, false, by decide, by decide⟩

theorem narrowsAlike_half : ratio.NarrowsAlike (.float (.ofRatio false 1 2)) := by
  obtain ⟨x, hx, hiff, -⟩ := narrowsAlike_iff (f := ratio) rfl
    (show ratio.holds (.float (.ofRatio false 1 2)) = true from rfl) rfl
  cases hx
  exact hiff.2 (by decide +kernel)

/-- The double nearest to `10 ^ 39` is held, but has no four bytes. -/
theorem not_narrowsAlike_of_large :
    ratio.holds (.float (.ofInt (10 ^ 39))) = true ∧ ¬ratio.NarrowsAlike (.float (.ofInt (10 ^ 39))) := by
  refine ⟨rfl, ?_⟩
  rintro ⟨code, -, hwrites, -⟩
  have hexceeds : Double.exceedsSingle (.ofInt (10 ^ 39)) = true := by decide +kernel
  have hdump := isWhole_dump_float (f := ratio) (x := .ofInt (10 ^ 39)) rfl .empty
  rw [singleBytes_eq, if_pos hexceeds, hwrites .empty] at hdump
  cases congrArg Prod.snd hdump

end Field

end TypedRows
