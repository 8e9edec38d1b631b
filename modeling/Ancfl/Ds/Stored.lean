/-
  The containers that can be written to a stream, `HashMap`, `Dict` and
  `HashMultimap`, stay usable: `containers_stay_iff`.

  A `readFrom` that fails, for whatever reason, leaves no vectors and sizes of
  different states, as `HashMap::clear` leaves `m_size` 0: no key can be looked up
  then. `not_containers_stay`: a stream of three bytes.
-/
import Ancfl.Ds.Dict
import Ancfl.Ds.HashMultimap.Stored

namespace Ancfl.Ds

open Lib Table

variable {K V ι : Type} [LinearOrder K] [LinearOrder V] [DecidableEq ι]

/-- **Hash containers stay usable** in exactly the runs whose steps all meet the condition. -/
theorem containers_stay_iff [Inhabited K] (hash : K → UInt32) (pod : Pod (Node K V)) (podV : Pod V)
    (podN : Pod (RawNode K)) (sizes : ι → UInt32) (size : UInt32) :
    ((∀ i, HashMap.RoundTrip hash pod (Table.new K V (sizes i))) ∧ ∀ ls s,
      (Run (fun s l s' => (HashMap.performs hash pod s l s' ∧ ∀ i, HashMap.InMemory pod (s' i)) ∧
          HashMap.Stays hash pod s l s') (fun i => Table.new K V (sizes i)) ls s ↔
        Run (fun s l s' => (HashMap.performs hash pod s l s' ∧ ∀ i, HashMap.InMemory pod (s' i)) ∧
          HashMap.Meets l.1) (fun i => Table.new K V (sizes i)) ls s)) ∧
    (Dict.RoundTrip hash podV podN (Table.new K (List V) size) ∧ ∀ ls t,
      (Run (fun t l t' => (Dict.performs hash podV podN t l t' ∧ Dict.InMemory podV podN t') ∧
          Dict.Stays hash podV podN t l t') (Table.new K (List V) size) ls t ↔
        Run (fun t l t' => (Dict.performs hash podV podN t l t' ∧ Dict.InMemory podV podN t') ∧
          Dict.Meets l.1) (Table.new K (List V) size) ls t)) ∧
    (HashMultimap.RoundTrip hash podV podN (HashMultimap.new K V size) ∧ ∀ ls t,
      (Run (fun t l t' => (HashMultimap.performs hash podV podN t l t' ∧ HashMultimap.InMemory podV podN t') ∧
          HashMultimap.Stays hash podV podN t l t') (HashMultimap.new K V size) ls t ↔
        Run (fun t l t' => (HashMultimap.performs hash podV podN t l t' ∧
          HashMultimap.InMemory podV podN t') ∧ HashMultimap.Meets hash t l.1)
          (HashMultimap.new K V size) ls t)) := by
  refine ⟨⟨fun i => ?_, fun ls s => ?_⟩, ⟨?_, fun ls t => ?_⟩, ?_, fun ls t => ?_⟩
  · exact HashMap.roundTrip (new_ret _).1 (HashMap.inMemory_new _)
  · exact HashMap.stays_iff_meets hash pod fun i => (new_ret _).1
  · exact Dict.roundTrip (Dict.intact_new size) (Dict.inMemory_new size)
  · exact Dict.stays_iff_meets hash podV podN (Dict.intact_new size)
  · obtain ⟨hs, hc⟩ := HashMultimap.counted_new (K := K) (V := V) size
    exact (HashMultimap.roundTrip_iff_counted hs (Dict.inMemory_new size)).2 hc
  · exact HashMultimap.stays_iff_meets hash podV podN (HashMultimap.counted_new size)

/-- A node of two bytes. -/
def bytesPod : Pod (Node (Fin 256) (Fin 256)) where
  size := 2
  write n := [UInt8.ofFin n.key, UInt8.ofFin n.val]
  read
    | k :: v :: _ => ⟨k.toFin, v.toFin⟩
    | _ => ⟨0, 0⟩
  size_pos := Nat.two_pos
  length_write _ := rfl
  read_write _ := rfl

/-- The key is its hash. -/
def hash256 (k : Fin 256) : UInt32 := UInt32.ofNat k.val

/-- **Not all runs leave the maps usable**: a stream of three bytes is read. -/
theorem not_containers_stay :
    ¬∀ (ls : List (HashMap.Act Unit (Fin 256) (Fin 256) × HashMap.Answer (Fin 256))) s,
      Run (fun s l s' => HashMap.performs hash256 bytesPod s l s' ∧ ∀ i, HashMap.InMemory bytesPod (s' i))
          (fun _ => Table.new (Fin 256) (Fin 256) 0) ls s →
        Run (fun s l s' => (HashMap.performs hash256 bytesPod s l s' ∧ ∀ i, HashMap.InMemory bytesPod (s' i)) ∧
          HashMap.Stays hash256 bytesPod s l s') (fun _ => Table.new (Fin 256) (Fin 256) 0) ls s := by
  intro h
  obtain ⟨t₀, ht₀⟩ : ∃ t₀, t₀ = Table.new (Fin 256) (Fin 256) 0 := ⟨_, rfl⟩
  rw [← ht₀] at h
  have hread := HashMap.readFrom_short hash256 bytesPod t₀ .all [1, 0, 0] (by decide)
  obtain ⟨t, ht⟩ : ∃ t : HashMap (Fin 256) (Fin 256), t = ⟨readBuckets t₀.size [1, 0, 0], t₀.total, []⟩ :=
    ⟨_, rfl⟩
  rw [← ht] at hread
  have hstep : HashMap.performs hash256 bytesPod (fun _ : Unit => t₀)
      (.readFrom () .all [1, 0, 0], .bool false) (Function.update (fun _ => t₀) () t) := by
    rw [HashMap.performs, HashMap.perform, hread]
    rfl
  have hmem : ∀ i, HashMap.InMemory bytesPod (Function.update (fun _ : Unit => t₀) () t i) := by
    intro i
    rw [Function.update_self, ht]
    exact ⟨readBuckets_lt _ _, Nat.two_pow_pos 64⟩
  obtain ⟨s, ⟨hperforms, hstays⟩, -⟩ := Run.cons_iff.1 (h _ _ (.cons ⟨hstep, hmem⟩ (.nil _)))
  obtain ⟨-, rfl⟩ := Prod.mk.inj (Option.some.inj (hstep.symm.trans hperforms.1))
  refine HashMap.not_usable ?_ (hstays.usable () (.inr ⟨_, _, rfl⟩))
  rw [Function.update_self, ht]

end Ancfl.Ds
