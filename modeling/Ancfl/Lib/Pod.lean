/-
  Plain data: objects that are written to a stream, and read back, as the bytes
  they have in memory.

  * `Pod`: a type with the bytes of its values, all of one length;
  * `writeAll` and `readAll` are the elements of an array, one behind the other
    (`readAll_writeAll`);
  * `writeSized` puts the size in bytes before an array; `readSized` reads such an
    array into a vector (`readSized_writeSized`), and succeeds if and only if all
    of it is there (`readSized_isSome_iff`).
-/
import Ancfl.Lib.Bytes

namespace Lib

/-- A type whose values are copied as bytes. -/
structure Pod (α : Type) where
  size : ℕ
  write : α → List UInt8
  read : List UInt8 → α
  size_pos : 0 < size
  length_write : ∀ x, (write x).length = size
  read_write : ∀ x, read (write x) = x

namespace Pod

variable {α : Type} (pod : Pod α)

/-- The bytes of an array. -/
def writeAll (l : List α) : List UInt8 := (l.map pod.write).flatten

/-- An array of `n` elements. -/
def readAll : ℕ → List UInt8 → List α
  | 0, _ => []
  | n + 1, bs => pod.read (bs.take pod.size) :: readAll n (bs.drop pod.size)

theorem length_writeAll (l : List α) : (pod.writeAll l).length = l.length * pod.size := by
  rw [writeAll, length_flatten_blocks, List.length_map]
  intro b hb
  obtain ⟨x, -, rfl⟩ := List.mem_map.1 hb
  exact pod.length_write x

theorem readAll_writeAll (l : List α) (r : List UInt8) :
    pod.readAll l.length (pod.writeAll l ++ r) = l := by
  induction l with
  | nil => rfl
  | cons x l ih =>
    have hcons : pod.writeAll (x :: l) ++ r = pod.write x ++ (pod.writeAll l ++ r) := by
      rw [writeAll, List.map_cons, List.flatten_cons, List.append_assoc, writeAll]
    rw [hcons, List.length_cons, readAll, ← pod.length_write x, List.take_left, List.drop_left, ih,
      pod.read_write]

/-! ## Arrays after their size -/

/-- A number of 8 bytes, and what is behind it. -/
def readSize (is : List UInt8) : Option (ℕ × List UInt8) :=
  if 8 ≤ is.length then some (leNat (is.take 8), is.drop 8) else none

theorem readSize_leBytes {n : ℕ} (hn : n < 2 ^ 64) (r : List UInt8) :
    readSize (leBytes 8 n ++ r) = some (n, r) := by
  have hlen : (leBytes 8 n).length = 8 := length_leBytes 8 n
  have htake : (leBytes 8 n ++ r).take 8 = leBytes 8 n := hlen ▸ List.take_left
  have hdrop : (leBytes 8 n ++ r).drop 8 = r := hlen ▸ List.drop_left
  rw [readSize, if_pos (by rw [List.length_append, hlen]; omega), htake, hdrop, leNat_leBytes,
    show 256 ^ 8 = 2 ^ 64 from rfl, Nat.mod_eq_of_lt hn]

/-- The size in bytes and the elements of an array. -/
def writeSized (l : List α) : List UInt8 := leBytes 8 (l.length * pod.size) ++ pod.writeAll l

/-- Reads a size and so many bytes, into a vector of as many elements as they hold. `some none`: the
    stream ends before, or there is no memory for the vector. The result is undefined where the bytes
    go beyond the vector. -/
def readSized (memory : Bool) (is : List UInt8) : Option (Option (List α × List UInt8)) :=
  match readSize is with
  | none => some none
  | some (size, is) =>
    if memory = false then some none
    else if size / pod.size * pod.size < min size is.length then none
    else if is.length < size then some none
    else some (some (pod.readAll (size / pod.size) is, is.drop size))

/-- **Arrays are read as they were written.** -/
theorem readSized_writeSized {l : List α} (hl : l.length * pod.size < 2 ^ 64) (r : List UInt8) :
    pod.readSized true (pod.writeSized l ++ r) = some (some (l, r)) := by
  have hlen := pod.length_writeAll l
  have hdiv : l.length * pod.size / pod.size = l.length := Nat.mul_div_cancel _ pod.size_pos
  have hdrop : (pod.writeAll l ++ r).drop (l.length * pod.size) = r := hlen ▸ List.drop_left
  rw [readSized, writeSized, List.append_assoc, readSize_leBytes hl]
  simp only [hdiv, hdrop, pod.readAll_writeAll, List.length_append, hlen]
  rw [if_neg (by decide), if_neg (by omega), if_neg (by omega)]

/-- The array that begins at `pos` is there, with its size. -/
def Announced (is : List UInt8) (pos : ℕ) : Prop :=
  pos + 8 ≤ is.length ∧ pos + 8 + leNat (slice is pos 8) ≤ is.length

/-- The position behind it. -/
def behind (is : List UInt8) (pos : ℕ) : ℕ := pos + 8 + leNat (slice is pos 8)

/-- **Whether an array is read** depends on the length of the stream only, where memory is there. -/
theorem readSized_drop {memory : Bool} {is : List UInt8} {pos : ℕ} {r : Option (List α × List UInt8)}
    (h : pod.readSized memory (is.drop pos) = some r) :
    (r.isSome ↔ memory = true ∧ Announced is pos) ∧
      ∀ l rest, r = some (l, rest) → rest = is.drop (behind is pos) := by
  rw [readSized] at h
  by_cases hsize : 8 ≤ (is.drop pos).length
  · have hpos : pos + 8 ≤ is.length := by
      rw [List.length_drop] at hsize
      omega
    have hread : readSize (is.drop pos) = some (leNat (slice is pos 8), is.drop (pos + 8)) := by
      rw [readSize, if_pos hsize, List.drop_drop]
      rfl
    rw [hread] at h
    simp only [List.length_drop] at h
    split_ifs at h with hmem hover hshort
    · cases h
      refine ⟨iff_of_false Bool.false_ne_true fun hr => ?_, fun l rest hr => (nomatch hr)⟩
      exact Bool.false_ne_true (hmem.symm.trans hr.1)
    · cases h
      refine ⟨iff_of_false Bool.false_ne_true fun hr => ?_, fun l rest hr => (nomatch hr)⟩
      have := hr.2.2
      omega
    · cases h
      refine ⟨iff_of_true rfl ⟨Bool.eq_true_of_not_eq_false hmem, hpos, by omega⟩, fun l rest hr => ?_⟩
      rw [← (Prod.mk.inj (Option.some.inj hr)).2, List.drop_drop]
      rfl
  · have hread : readSize (is.drop pos) = none := if_neg hsize
    rw [hread] at h
    cases h
    refine ⟨iff_of_false Bool.false_ne_true fun hr => hsize ?_, fun l rest hr => (nomatch hr)⟩
    rw [List.length_drop]
    have := hr.2.1
    omega

end Pod

end Lib
