/-
  Readers and writers of a stream, as calls on the object that holds it.

  `At s w` is a relation chosen by the user of this module: for writers that
  `w` has been written so far, for readers that `w` is still to be read.

  * `Writes At wr w`: the call `wr` appends `w`;
  * `Reads At rd w a`: the call `rd`, when the rest of the stream starts with
    `w`, consumes `w` and returns `a`;
  * both are closed under sequencing (`Writes.seq`, `Reads.bind`) and under
    lists of calls (`Writes.forM`, `Reads.mapM`).
-/
import Ancfl.Lib.Call

namespace Lib

variable {ε σ α β γ : Type}

/-- The call `wr` appends `w` to what has been written. -/
def Writes (At : σ → List γ → Prop) (wr : Call ε σ Unit) (w : List γ) : Prop :=
  ∀ s v, At s v → ∃ s', wr s = .ret () s' ∧ At s' (v ++ w)

/-- The call `rd` consumes `w` from what is still to be read and returns `a`. -/
def Reads (At : σ → List γ → Prop) (rd : Call ε σ α) (w : List γ) (a : α) : Prop :=
  ∀ s rest, At s (w ++ rest) → ∃ s', rd s = .ret a s' ∧ At s' rest

variable {At : σ → List γ → Prop}

theorem Writes.seq {f g : Call ε σ Unit} {w w' : List γ} (hf : Writes At f w) (hg : Writes At g w') :
    Writes At (f >>= fun _ => g) (w ++ w') := by
  intro s v h
  obtain ⟨s₁, h₁, hs₁⟩ := hf s v h
  obtain ⟨s₂, h₂, hs₂⟩ := hg s₁ _ hs₁
  exact ⟨s₂, by rw [Call.bind_ret h₁, h₂], by rw [← List.append_assoc]; exact hs₂⟩

/-- **A list of writers appends the concatenation.** -/
theorem Writes.forM {f : α → Call ε σ Unit} {enc : α → List γ} : ∀ (as : List α),
    (∀ a ∈ as, Writes At (f a) (enc a)) → Writes At (as.forM f) (as.flatMap enc)
  | [], _ => fun s v h => ⟨s, rfl, by rw [List.flatMap_nil, List.append_nil]; exact h⟩
  | a :: as, h => by
    rw [List.flatMap_cons]
    exact (h a (by simp)).seq (Writes.forM as fun c hc => h c (by simp [hc]))

theorem Reads.pure (a : α) : Reads At (Pure.pure a : Call ε σ α) [] a := fun s _ h => ⟨s, rfl, h⟩

theorem Reads.bind {x : Call ε σ α} {f : α → Call ε σ β} {w w' : List γ} {a : α} {b : β}
    (hx : Reads At x w a) (hf : Reads At (f a) w' b) : Reads At (x >>= f) (w ++ w') b := by
  intro s rest h
  rw [List.append_assoc] at h
  obtain ⟨s₁, h₁, hs₁⟩ := hx s _ h
  obtain ⟨s₂, h₂, hs₂⟩ := hf s₁ _ hs₁
  exact ⟨s₂, by rw [Call.bind_ret h₁, h₂], hs₂⟩

theorem Reads.map {x : Call ε σ α} {w : List γ} {a : α} (g : α → β) (hx : Reads At x w a) :
    Reads At (g <$> x) w (g a) := by
  intro s rest h
  obtain ⟨s', h', hs'⟩ := hx s rest h
  exact ⟨s', by rw [Call.map_apply, h'], hs'⟩

/-- **A list of readers reads the concatenation.** -/
theorem Reads.mapM {f : α → Call ε σ β} {enc : α → List γ} {g : α → β} : ∀ (as : List α),
    (∀ a ∈ as, Reads At (f a) (enc a) (g a)) → Reads At (as.mapM f) (as.flatMap enc) (as.map g)
  | [], _ => by rw [List.mapM_nil]; exact Reads.pure _
  | a :: as, h => by
    have htail := Reads.mapM as fun c hc => h c (by simp [hc])
    rw [List.mapM_cons, List.flatMap_cons, List.map_cons]
    refine (h a (by simp)).bind ?_
    have := htail.bind (f := fun bs => (Pure.pure (g a :: bs) : Call ε σ (List β))) (Reads.pure _)
    rwa [List.append_nil] at this

end Lib
